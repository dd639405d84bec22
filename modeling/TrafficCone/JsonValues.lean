import TrafficCone.HexadecimalText

namespace TrafficCone.JsonValues

open TrafficCone.HexadecimalText

/-- A JSON value. A number that is not an integer is kept as its text, and an object
as its members in their order, which may repeat a name. -/
inductive Json where
  | null
  | bool (value : Bool)
  | integer (value : Int)
  | decimal (text : String)
  | string (text : String)
  | array (items : List Json)
  | object (members : List (String × Json))

def escape (letter : Char) : List Char :=
  if letter = '"' then ['\\', '"']
  else if letter = '\\' then ['\\', '\\']
  else if letter = '\n' then ['\\', 'n']
  else if letter = '\r' then ['\\', 'r']
  else if letter = '\t' then ['\\', 't']
  else if letter.toNat = 8 then ['\\', 'b']
  else if letter.toNat = 12 then ['\\', 'f']
  else if letter.toNat < 32 then '\\' :: 'u' :: hexPadded 4 letter.toNat
  else [letter]

def quoted (text : String) : String :=
  String.ofList ('"' :: text.toList.flatMap escape ++ ['"'])

mutual

/-- The compact text of a value. -/
def Json.print : Json → String
  | .null => "null"
  | .bool value => if value then "true" else "false"
  | .integer value => toString value
  | .decimal text => text
  | .string text => quoted text
  | .array items => "[" ++ ",".intercalate (printItems items) ++ "]"
  | .object members => "\x7b" ++ ",".intercalate (printMembers members) ++ "\x7d"

def printItems : List Json → List String
  | [] => []
  | item :: items => item.print :: printItems items

def printMembers : List (String × Json) → List String
  | [] => []
  | (name, value) :: members => (quoted name ++ ":" ++ value.print) :: printMembers members

end

inductive JsonError where
  | missingField (name : String)
  | duplicateField (name : String)
  | unknownVariant (name : String)
  | invalidType
  | outOfRange
  deriving DecidableEq, Repr

abbrev Decoder (α : Type) : Type := Json → Except JsonError α

variable {α β : Type}

@[simp] theorem ok_bind (value : α) (next : α → Except JsonError β) :
    (Except.ok value >>= next) = next value := rfl

@[simp] theorem error_bind (error : JsonError) (next : α → Except JsonError β) :
    (Except.error error >>= next) = .error error := rfl

def decodeBool : Decoder Bool
  | .bool value => .ok value
  | _ => .error .invalidType

def decodeString : Decoder String
  | .string text => .ok text
  | _ => .error .invalidType

def decodeInteger (least greatest : Int) : Decoder Int
  | .integer value => if least ≤ value ∧ value ≤ greatest then .ok value else .error .outOfRange
  | _ => .error .invalidType

def decodeUnsigned (bound : Nat) : Decoder Nat
  | .integer value => if 0 ≤ value ∧ value < bound then .ok value.toNat else .error .outOfRange
  | _ => .error .invalidType

def decodeByte : Decoder UInt8 := fun json => UInt8.ofNat <$> decodeUnsigned UInt8.size json

def decodeArray (item : Decoder α) : Decoder (List α)
  | .array items => items.mapM item
  | _ => .error .invalidType

/-- A member of an object. Members of other names are passed over; the name itself may
occur only once. -/
def field (name : String) (decode : Decoder α) : Decoder α
  | .object members =>
      match members.filter fun entry => entry.1 = name with
      | [] => .error (.missingField name)
      | [entry] => decode entry.2
      | _ => .error (.duplicateField name)
  | _ => .error .invalidType

def encodeUnsigned (value : Nat) : Json := .integer value

def encodeBytes (bytes : List UInt8) : Json :=
  .array (bytes.map fun byte => encodeUnsigned byte.toNat)

def decodeBytes : Decoder (List UInt8) := decodeArray decodeByte

/-- A variant of an internally tagged type: its name under "type" before its fields. -/
def tagged (variant : String) (members : List (String × Json)) : Json :=
  .object (("type", .string variant) :: members)

def decodeUnit (value : α) : Decoder α := fun _ => .ok value

/-- The tag and the fields are read from an object, as they are written. The array of the tag
and the fields that would be read as well is not. -/
def decodeTagged (variants : List (String × Decoder α)) : Decoder α
  | .object members => do
      let variant ← field "type" decodeString (.object members)
      match variants.lookup variant with
      | some decode => decode (.object (members.filter fun entry => entry.1 ≠ "type"))
      | none => .error (.unknownVariant variant)
  | _ => .error .invalidType

theorem decodeInteger_integer {least greatest value : Int} (hleast : least ≤ value)
    (hgreatest : value ≤ greatest) :
    decodeInteger least greatest (.integer value) = .ok value :=
  if_pos ⟨hleast, hgreatest⟩

theorem decodeUnsigned_encodeUnsigned {bound value : Nat} (h : value < bound) :
    decodeUnsigned bound (encodeUnsigned value) = .ok value := by
  rw [encodeUnsigned, decodeUnsigned, if_pos (by omega), Int.toNat_natCast]

theorem decodeByte_encodeUnsigned (byte : UInt8) :
    decodeByte (encodeUnsigned byte.toNat) = .ok byte := by
  rw [decodeByte, decodeUnsigned_encodeUnsigned byte.toNat_lt_size]
  exact congrArg Except.ok (UInt8.ofNat_toNat)

/-- What holds of each element holds of the array. -/
theorem decodeArray_map {item : Decoder β} {encode : α → Json} {read : α → β}
    {values : List α} (h : ∀ value ∈ values, item (encode value) = .ok (read value)) :
    decodeArray item (.array (values.map encode)) = .ok (values.map read) := by
  induction values with
  | nil => rfl
  | cons value values ih =>
      have hrest := ih fun other hother => h other (List.mem_cons_of_mem value hother)
      rw [decodeArray] at hrest ⊢
      rw [List.map_cons, List.mapM_cons, h value List.mem_cons_self, ok_bind, hrest]
      rfl

theorem decodeArray_cons_error {item : Decoder α} {first : Json} {error : JsonError}
    (h : item first = .error error) (items : List Json) :
    decodeArray item (.array (first :: items)) = .error error := by
  rw [decodeArray, List.mapM_cons, h, error_bind]

theorem decodeBytes_encodeBytes (bytes : List UInt8) :
    decodeBytes (encodeBytes bytes) = .ok bytes := by
  rw [decodeBytes, encodeBytes, decodeArray_map fun byte _ => decodeByte_encodeUnsigned byte,
    List.map_id']

theorem named_eq_nil {name : String} {members : List (String × Json)}
    (h : ∀ entry ∈ members, entry.1 ≠ name) :
    (members.filter fun entry => entry.1 = name) = [] := by
  apply List.filter_eq_nil_iff.mpr
  intro entry hentry
  rw [decide_eq_true_iff]
  exact h entry hentry

theorem field_cons_self {name : String} {members : List (String × Json)}
    (h : ∀ entry ∈ members, entry.1 ≠ name) (decode : Decoder α) (value : Json) :
    field name decode (.object ((name, value) :: members)) = decode value := by
  simp [field, named_eq_nil h]

theorem field_cons_of_ne {name other : String} (h : other ≠ name) (decode : Decoder α)
    (value : Json) (members : List (String × Json)) :
    field name decode (.object ((other, value) :: members)) =
      field name decode (.object members) := by
  simp [field, h]

theorem field_missing {name : String} {members : List (String × Json)}
    (h : ∀ entry ∈ members, entry.1 ≠ name) (decode : Decoder α) :
    field name decode (.object members) = .error (.missingField name) := by
  rw [field, named_eq_nil h]

/-- A tagged value is read by the decoder of its variant, from the variant's fields. -/
theorem decodeTagged_tagged {variants : List (String × Decoder α)} {variant : String}
    {decode : Decoder α} {members : List (String × Json)}
    (hvariant : variants.lookup variant = some decode)
    (hmembers : ∀ entry ∈ members, entry.1 ≠ "type") :
    decodeTagged variants (tagged variant members) = decode (.object members) := by
  have hrest : members.filter (fun entry => entry.1 ≠ "type") = members := by
    apply List.filter_eq_self.mpr
    intro entry hentry
    exact decide_eq_true (hmembers entry hentry)
  rw [tagged, decodeTagged, field_cons_self hmembers, decodeString, ok_bind, hvariant,
    List.filter_cons_of_neg (by simp), hrest]

end TrafficCone.JsonValues
