import Mathlib.Data.Nat.Digits.Lemmas
import TrafficCone.LengthFraming

namespace TrafficCone.DerEncoding

open TrafficCone.LengthFraming

section Numbers

/-- The digits of a number to the base 256, the highest first and not zero. -/
def bigEndian (value : Nat) : List UInt8 :=
  ((Nat.digits 256 value).map UInt8.ofNat).reverse

theorem fromBigEndian_append_singleton (digits : List UInt8) (last : UInt8) :
    fromBigEndian (digits ++ [last]) = 256 * fromBigEndian digits + last.toNat := by
  rw [fromBigEndian, List.foldl_append]
  rfl

theorem fromBigEndian_eq_ofDigits (digits : List UInt8) :
    fromBigEndian digits = Nat.ofDigits 256 (digits.reverse.map UInt8.toNat) := by
  induction digits using List.reverseRecOn with
  | nil => rfl
  | append_singleton digits last ih =>
      rw [fromBigEndian_append_singleton, List.reverse_concat, List.map_cons, Nat.ofDigits_cons,
        ih]
      omega

theorem fromBigEndian_lt (digits : List UInt8) : fromBigEndian digits < 256 ^ digits.length := by
  have hbound : ∀ digit ∈ digits.reverse.map UInt8.toNat, digit < 256 := by
    intro digit hdigit
    obtain ⟨octet, -, rfl⟩ := List.mem_map.mp hdigit
    exact octet.toNat_lt
  rw [fromBigEndian_eq_ofDigits]
  simpa using Nat.ofDigits_lt_base_pow_length (by decide) hbound

theorem fromBigEndian_bigEndian (value : Nat) : fromBigEndian (bigEndian value) = value := by
  have hdigits : ((Nat.digits 256 value).map UInt8.ofNat).map UInt8.toNat =
      Nat.digits 256 value := by
    rw [List.map_map]
    refine (List.map_congr_left fun digit hdigit => ?_).trans (List.map_id _)
    exact UInt8.toNat_ofNat_of_lt' (Nat.digits_lt_base (by decide) hdigit)
  rw [fromBigEndian_eq_ofDigits, bigEndian, List.reverse_reverse, hdigits, Nat.ofDigits_digits]

theorem length_bigEndian_le_iff {value count : Nat} :
    (bigEndian value).length ≤ count ↔ value < 256 ^ count := by
  rw [bigEndian, List.length_reverse, List.length_map]
  exact Nat.digits_length_le_iff (by decide) value

end Numbers

section Elements

/-- A length in one octet, or in as many as an octet in front of them says. -/
def lengthOctets (length : Nat) : List UInt8 :=
  if length < 128 then [UInt8.ofNat length]
  else UInt8.ofNat (128 + (bigEndian length).length) :: bigEndian length

/-- The shortest contents that have no length: no octet can say how many octets it takes. -/
def lengthLimit : Nat := 256 ^ 126

def element (tag : UInt8) (contents : List UInt8) : List UInt8 :=
  tag :: (lengthOctets contents.length ++ contents)

def readLength : List UInt8 → Option (Nat × List UInt8)
  | [] => none
  | first :: stream =>
      if first.toNat < 128 then some (first.toNat, stream)
      else if first.toNat = 255 then none
      else do
        let (digits, rest) ← readExact (first.toNat - 128) stream
        -- Of the forms of a length only the shortest is allowed.
        if lengthOctets (fromBigEndian digits) = first :: digits then
          some (fromBigEndian digits, rest)
        else none

def readElement (tag : UInt8) : List UInt8 → Option (List UInt8 × List UInt8)
  | [] => none
  | found :: stream =>
      if found = tag then do
        let (length, rest) ← readLength stream
        readExact length rest
      else none

theorem lengthOctets_of_lt {length : Nat} (h : length < 128) :
    lengthOctets length = [UInt8.ofNat length] :=
  if_pos h

theorem lengthOctets_of_not_lt {length : Nat} (h : ¬ length < 128) :
    lengthOctets length = UInt8.ofNat (128 + (bigEndian length).length) :: bigEndian length :=
  if_neg h

theorem readLength_lengthOctets {length : Nat} (hlength : length < lengthLimit)
    (rest : List UInt8) : readLength (lengthOctets length ++ rest) = some (length, rest) := by
  by_cases hshort : length < 128
  · have hfirst : (UInt8.ofNat length).toNat = length :=
      UInt8.toNat_ofNat_of_lt' (lt_trans hshort (by decide))
    rw [lengthOctets_of_lt hshort, List.singleton_append, readLength, hfirst, if_pos hshort]
  · have hcount : (bigEndian length).length ≤ 126 := length_bigEndian_le_iff.mpr hlength
    have hfirst : (UInt8.ofNat (128 + (bigEndian length).length)).toNat =
        128 + (bigEndian length).length := by
      apply UInt8.toNat_ofNat_of_lt'
      change _ < 256
      omega
    rw [lengthOctets_of_not_lt hshort, List.cons_append, readLength, hfirst,
      if_neg (by omega), if_neg (by omega), Nat.add_sub_cancel_left, readExact_append]
    change (if _ then _ else _) = _
    rw [fromBigEndian_bigEndian, if_pos (lengthOctets_of_not_lt hshort)]

theorem of_readLength {stream rest : List UInt8} {length : Nat}
    (h : readLength stream = some (length, rest)) :
    stream = lengthOctets length ++ rest ∧ length < lengthLimit := by
  cases stream with
  | nil => cases h
  | cons first stream =>
      rw [readLength] at h
      split at h
      · rename_i hshort
        obtain ⟨rfl, rfl⟩ := Prod.mk.inj (Option.some.inj h)
        refine ⟨?_, lt_trans hshort (by norm_num [lengthLimit])⟩
        rw [lengthOctets_of_lt hshort, UInt8.ofNat_toNat]
        rfl
      · split at h
        · cases h
        · rename_i hreserved
          obtain ⟨⟨digits, after⟩, hread, h⟩ := Option.bind_eq_some_iff.mp h
          dsimp only at h
          split at h
          · rename_i hshortest
            obtain ⟨rfl, rfl⟩ := Prod.mk.inj (Option.some.inj h)
            obtain ⟨rfl, hcount⟩ := readExact_eq_some_iff.mp hread
            refine ⟨by rw [hshortest]; rfl, lt_of_lt_of_le (fromBigEndian_lt digits) ?_⟩
            have hfirst := first.toNat_lt
            exact Nat.pow_le_pow_right (by decide) (by omega)
          · cases h

theorem readLength_eq_some_iff {stream rest : List UInt8} {length : Nat} :
    readLength stream = some (length, rest) ↔
      stream = lengthOctets length ++ rest ∧ length < lengthLimit := by
  constructor
  · exact of_readLength
  · rintro ⟨rfl, hlength⟩
    exact readLength_lengthOctets hlength rest

/-- What is read is what stands there, and only the one form of it is read. -/
theorem readElement_eq_some_iff {tag : UInt8} {stream contents rest : List UInt8} :
    readElement tag stream = some (contents, rest) ↔
      stream = element tag contents ++ rest ∧ contents.length < lengthLimit := by
  cases stream with
  | nil => simp [readElement, element]
  | cons found stream =>
      by_cases htag : found = tag
      · rw [readElement, if_pos htag]
        change (readLength stream).bind _ = _ ↔ _
        simp only [Option.bind_eq_some_iff, Prod.exists, readLength_eq_some_iff,
          readExact_eq_some_iff]
        constructor
        · rintro ⟨length, after, ⟨rfl, hlength⟩, rfl, rfl⟩
          exact ⟨by rw [htag, element, List.cons_append, List.append_assoc], hlength⟩
        · rintro ⟨hstream, hlength⟩
          rw [element, List.cons_append, List.append_assoc, List.cons.injEq] at hstream
          exact ⟨contents.length, contents ++ rest, ⟨hstream.2, hlength⟩, rfl, rfl⟩
      · rw [readElement, if_neg htag]
        simp [element, htag]

theorem readElement_element {tag : UInt8} {contents : List UInt8}
    (h : contents.length < lengthLimit) (rest : List UInt8) :
    readElement tag (element tag contents ++ rest) = some (contents, rest) :=
  readElement_eq_some_iff.mpr ⟨rfl, h⟩

theorem suffix_element (tag : UInt8) (contents : List UInt8) : contents <:+ element tag contents :=
  (List.suffix_append _ contents).trans (List.suffix_cons tag _)

theorem length_lt_length_element (tag : UInt8) (contents : List UInt8) :
    contents.length < (element tag contents).length := by
  rw [element, List.length_cons, List.length_append]
  omega

/-- Of two elements one behind the other, the first is where it is. -/
theorem element_append_inj {tag : UInt8} {first second rest more : List UInt8}
    (hfirst : first.length < lengthLimit) (hsecond : second.length < lengthLimit)
    (h : element tag first ++ rest = element tag second ++ more) :
    first = second ∧ rest = more := by
  have hread := @readElement_element tag first hfirst rest
  rw [h, readElement_element hsecond] at hread
  obtain ⟨hcontents, hrest⟩ := Prod.mk.inj (Option.some.inj hread)
  exact ⟨hcontents.symm, hrest.symm⟩

end Elements

section Fields

def integerTag : UInt8 := 0x02

def octetStringTag : UInt8 := 0x04

def objectIdentifierTag : UInt8 := 0x06

def sequenceTag : UInt8 := 0x30

def sequenceElement (contents : List UInt8) : List UInt8 := element sequenceTag contents

/-- The digits of a number that is not negative, with a zero in front where the highest one
would be taken for a sign. -/
def integerContents (value : Nat) : List UInt8 :=
  if (bigEndian value).head?.any fun first => first.toNat < 128 then bigEndian value
  else 0 :: bigEndian value

def integer (value : Nat) : List UInt8 := element integerTag (integerContents value)

def optionalElement (tag : UInt8) : Option (List UInt8) → List UInt8
  | none => []
  | some contents => element tag contents

def readOptional (tag : UInt8) (stream : List UInt8) : Option (List UInt8) × List UInt8 :=
  match readElement tag stream with
  | some (contents, rest) => (some contents, rest)
  | none => (none, stream)

variable {tag : UInt8} {stream rest contents : List UInt8} {field : Option (List UInt8)}

theorem readOptional_optionalElement (hfield : ∀ contents ∈ field, contents.length < lengthLimit)
    (hrest : readElement tag rest = none) :
    readOptional tag (optionalElement tag field ++ rest) = (field, rest) := by
  cases field with
  | none => rw [optionalElement, List.nil_append, readOptional, hrest]
  | some contents => rw [optionalElement, readOptional, readElement_element (hfield contents rfl)]

theorem of_readOptional (h : readOptional tag stream = (field, rest)) :
    stream = optionalElement tag field ++ rest := by
  rw [readOptional] at h
  cases hread : readElement tag stream with
  | none =>
      rw [hread] at h
      obtain ⟨rfl, rfl⟩ := Prod.mk.inj h
      rfl
  | some found =>
      rw [hread] at h
      obtain ⟨rfl, rfl⟩ := Prod.mk.inj h
      exact (readElement_eq_some_iff.mp hread).1

theorem length_lt_length_optionalElement (hfield : field = some contents) :
    contents.length < (optionalElement tag field).length := by
  rw [hfield]
  exact length_lt_length_element tag contents

end Fields

section ObjectIdentifiers

/-- The numbers in octets of seven bits, of which all but the last of a number are marked. -/
def arcs (value : Nat) : List UInt8 → List Nat
  | [] => []
  | octet :: rest =>
      if octet.toNat < 128 then (128 * value + octet.toNat) :: arcs 0 rest
      else arcs (128 * value + (octet.toNat - 128)) rest

/-- The first number stands for two. -/
def splitFirst : List Nat → List Nat
  | [] => []
  | first :: rest => min (first / 40) 2 :: (first - 40 * min (first / 40) 2) :: rest

def dotted (oid : List UInt8) : String :=
  ".".intercalate ((splitFirst (arcs 0 oid)).map toString)

end ObjectIdentifiers

end TrafficCone.DerEncoding
