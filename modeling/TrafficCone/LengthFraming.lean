import Mathlib.Tactic.Common

namespace TrafficCone.LengthFraming

/-- A number in four bytes, the highest first; higher bits are cut off. -/
def toBigEndian (value : Nat) : List UInt8 :=
  [UInt8.ofNat (value >>> 24), UInt8.ofNat (value >>> 16), UInt8.ofNat (value >>> 8),
    UInt8.ofNat value]

def fromBigEndian (bytes : List UInt8) : Nat :=
  bytes.foldl (fun value byte => 256 * value + byte.toNat) 0

/-- The next bytes of a stream and what follows them; nothing if it ends before. -/
def readExact (count : Nat) (stream : List UInt8) : Option (List UInt8 × List UInt8) :=
  if count ≤ stream.length then some (stream.take count, stream.drop count) else none

def frame (message : List UInt8) : List UInt8 :=
  toBigEndian message.length ++ message

theorem toBigEndian_length (value : Nat) : (toBigEndian value).length = 4 := rfl

theorem fromBigEndian_toBigEndian (value : Nat) :
    fromBigEndian (toBigEndian value) = value % UInt32.size := by
  simp only [fromBigEndian, toBigEndian, List.foldl_cons, List.foldl_nil, UInt8.toNat_ofNat',
    UInt32.size, Nat.shiftRight_eq_div_pow]
  omega

theorem toBigEndian_fromBigEndian {bytes : List UInt8} (h : bytes.length = 4) :
    toBigEndian (fromBigEndian bytes) = bytes := by
  match bytes, h with
  | [first, second, third, fourth], _ =>
      have hfirst := first.toNat_lt
      have hsecond := second.toNat_lt
      have hthird := third.toNat_lt
      have hfourth := fourth.toNat_lt
      simp only [toBigEndian, fromBigEndian, List.foldl_cons, List.foldl_nil,
        Nat.shiftRight_eq_div_pow, List.cons.injEq, and_true, ← UInt8.toNat_inj,
        UInt8.toNat_ofNat']
      omega

theorem readExact_append (first rest : List UInt8) :
    readExact first.length (first ++ rest) = some (first, rest) := by
  simp [readExact]

theorem readExact_eq_some_iff {count : Nat} {stream first rest : List UInt8} :
    readExact count stream = some (first, rest) ↔
      stream = first ++ rest ∧ first.length = count := by
  constructor
  · intro h
    unfold readExact at h
    split at h
    · rename_i hcount
      simp only [Option.some.injEq, Prod.mk.injEq] at h
      obtain ⟨rfl, rfl⟩ := h
      exact ⟨(List.take_append_drop count stream).symm, List.length_take_of_le hcount⟩
    · cases h
  · rintro ⟨rfl, rfl⟩
    exact readExact_append first rest

/-- The next message of a stream and what follows it; nothing if it is not complete. -/
def takeFrame (stream : List UInt8) : Option (List UInt8 × List UInt8) := do
  let (length, rest) ← readExact 4 stream
  readExact (fromBigEndian length) rest

theorem readExact_four_frame (message rest : List UInt8) :
    readExact 4 (frame message ++ rest) =
      some (toBigEndian message.length, message ++ rest) := by
  rw [readExact_eq_some_iff]
  exact ⟨by simp [frame], toBigEndian_length _⟩

theorem takeFrame_frame {message : List UInt8} (hlength : message.length < UInt32.size)
    (rest : List UInt8) : takeFrame (frame message ++ rest) = some (message, rest) := by
  unfold takeFrame
  rw [readExact_four_frame]
  change readExact (fromBigEndian (toBigEndian message.length)) (message ++ rest) = _
  rw [fromBigEndian_toBigEndian, Nat.mod_eq_of_lt hlength]
  exact readExact_append message rest

/-- A message of any length can be taken from its frame, but not always as it was. -/
theorem takeFrame_frame_isSome (message : List UInt8) :
    (takeFrame (frame message)).isSome = true := by
  have hhead := readExact_four_frame message []
  rw [List.append_nil, List.append_nil] at hhead
  unfold takeFrame
  rw [hhead]
  change (readExact (fromBigEndian (toBigEndian message.length)) message).isSome = true
  rw [fromBigEndian_toBigEndian, readExact, if_pos (Nat.mod_le _ _)]
  rfl

/-- The next messages of a stream, so many of them, and what follows. -/
def takeFrames : Nat → List UInt8 → Option (List (List UInt8) × List UInt8)
  | 0, stream => some ([], stream)
  | count + 1, stream => do
      let (message, rest) ← takeFrame stream
      let (messages, rest) ← takeFrames count rest
      pure (message :: messages, rest)

theorem takeFrames_flatMap_frame {messages : List (List UInt8)}
    (hlength : ∀ message ∈ messages, message.length < UInt32.size) (rest : List UInt8) :
    takeFrames messages.length (messages.flatMap frame ++ rest) = some (messages, rest) := by
  induction messages with
  | nil => rfl
  | cons message messages ih =>
      rw [List.forall_mem_cons] at hlength
      rw [List.flatMap_cons, List.append_assoc, List.length_cons, takeFrames,
        takeFrame_frame hlength.1]
      change (takeFrames messages.length (messages.flatMap frame ++ rest)).bind _ = _
      rw [ih hlength.2]
      rfl

@[simp] theorem takeFrame_nil : takeFrame [] = none := rfl

end TrafficCone.LengthFraming
