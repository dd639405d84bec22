import TrafficCone.StoreListing

namespace TrafficCone.IntegrityRecords

open TrafficCone.Outcomes
open TrafficCone.StoreModels
open TrafficCone.StoreListing

def components : List String := ["coned", "libcone.so", "cone"]

def list (store : Store) : Outcome StoreError (List IntegrityRecord) := do
  let database ← store.conn
  pure (orderByLabel (·.component) database.integrity)

/-- An order in which the records may be read: by component, with ties in any order. -/
structure RowOrder where
  order : List IntegrityRecord → List IntegrityRecord
  perm : ∀ records, (order records).Perm records
  sorted : ∀ records,
    (order records).Pairwise fun first second => first.component ≤ second.component

def listIn (rowOrder : RowOrder) (store : Store) : Outcome StoreError (List IntegrityRecord) := do
  let database ← store.conn
  pure (rowOrder.order database.integrity)

/-- Ties are left in the order of the rows. -/
def storedOrder : RowOrder where
  order := orderByLabel (·.component)
  perm := List.perm_insertionSort _
  sorted := List.pairwise_insertionSort _

theorem listIn_storedOrder (store : Store) : listIn storedOrder store = list store := rfl

theorem RowOrder.mem_iff (rowOrder : RowOrder) {records : List IntegrityRecord}
    {record : IntegrityRecord} : record ∈ rowOrder.order records ↔ record ∈ records :=
  (rowOrder.perm records).mem_iff

end TrafficCone.IntegrityRecords
