import Mathlib.Tactic.IntervalCases
import Mathlib.Tactic.Common

namespace TrafficCone.HexadecimalText

def hexDigit (value : Nat) : Char :=
  if value < 10 then Char.ofNat (48 + value) else Char.ofNat (87 + value)

def digitValue (letter : Char) : Option Nat :=
  if '0' ≤ letter ∧ letter ≤ '9' then some (letter.toNat - 48)
  else if 'a' ≤ letter ∧ letter ≤ 'f' then some (letter.toNat - 87)
  else if 'A' ≤ letter ∧ letter ≤ 'F' then some (letter.toNat - 55)
  else none

theorem digitValue_hexDigit {value : Nat} (h : value < 16) :
    digitValue (hexDigit value) = some value := by
  interval_cases value <;> decide

theorem utf8Size_hexDigit {value : Nat} (h : value < 16) : (hexDigit value).utf8Size = 1 := by
  interval_cases value <;> decide

/-- A number in lower-case hexadecimal, with leading zeros up to a width. -/
def hexPadded : Nat → Nat → List Char
  | 0, _ => []
  | width + 1, value => hexPadded width (value / 16) ++ [hexDigit (value % 16)]

theorem length_hexPadded (width value : Nat) : (hexPadded width value).length = width := by
  induction width generalizing value with
  | zero => rfl
  | succ width ih => rw [hexPadded, List.length_append, ih, List.length_singleton]

theorem hexPadded_injective {width first second : Nat} (hfirst : first < 16 ^ width)
    (hsecond : second < 16 ^ width) (h : hexPadded width first = hexPadded width second) :
    first = second := by
  induction width generalizing first second with
  | zero =>
      rw [pow_zero] at hfirst hsecond
      omega
  | succ width ih =>
      rw [pow_succ] at hfirst hsecond
      rw [hexPadded, hexPadded] at h
      obtain ⟨hhigh, hlow⟩ := List.append_inj' h rfl
      have hquotient : first / 16 = second / 16 := ih (by omega) (by omega) hhigh
      have hdigit := congrArg digitValue (List.singleton_inj.mp hlow)
      rw [digitValue_hexDigit (Nat.mod_lt _ (by decide)),
        digitValue_hexDigit (Nat.mod_lt _ (by decide)), Option.some.injEq] at hdigit
      omega

theorem hexPadded_add (high low first second : Nat) (hsecond : second < 16 ^ low) :
    hexPadded (high + low) (16 ^ low * first + second) =
      hexPadded high first ++ hexPadded low second := by
  induction low generalizing second with
  | zero =>
      rw [pow_zero] at hsecond
      obtain rfl : second = 0 := by omega
      simp [hexPadded]
  | succ low ih =>
      rw [pow_succ] at hsecond
      have hquotient : (16 ^ (low + 1) * first + second) / 16 =
          16 ^ low * first + second / 16 := by
        rw [pow_succ, Nat.mul_right_comm]
        omega
      have hremainder : (16 ^ (low + 1) * first + second) % 16 = second % 16 := by
        rw [pow_succ, Nat.mul_right_comm]
        omega
      rw [← Nat.add_assoc, hexPadded, hquotient, hremainder, ih _ (by omega), hexPadded,
        List.append_assoc]

def upperHexDigit (value : Nat) : Char :=
  if value < 10 then Char.ofNat (48 + value) else Char.ofNat (55 + value)

theorem digitValue_upperHexDigit {value : Nat} (h : value < 16) :
    digitValue (upperHexDigit value) = some value := by
  interval_cases value <;> decide

theorem utf8Size_upperHexDigit {value : Nat} (h : value < 16) :
    (upperHexDigit value).utf8Size = 1 := by
  interval_cases value <;> decide

def upperHexPadded : Nat → Nat → List Char
  | 0, _ => []
  | width + 1, value => upperHexPadded width (value / 16) ++ [upperHexDigit (value % 16)]

theorem length_upperHexPadded (width value : Nat) :
    (upperHexPadded width value).length = width := by
  induction width generalizing value with
  | zero => rfl
  | succ width ih => rw [upperHexPadded, List.length_append, ih, List.length_singleton]

theorem exists_of_mem_upperHexPadded {width value : Nat} {letter : Char}
    (h : letter ∈ upperHexPadded width value) :
    ∃ digit, digit < 16 ∧ letter = upperHexDigit digit := by
  induction width generalizing value with
  | zero => cases h
  | succ width ih =>
      rw [upperHexPadded, List.mem_append, List.mem_singleton] at h
      rcases h with hbefore | hlast
      · exact ih hbefore
      · exact ⟨value % 16, Nat.mod_lt _ (by decide), hlast⟩

def byteDigits (byte : UInt8) : List Char :=
  [hexDigit (byte.toNat / 16), hexDigit (byte.toNat % 16)]

def hexEncode (bytes : List UInt8) : String :=
  String.ofList (bytes.flatMap byteDigits)

inductive HexError where
  | oddLength
  | invalidCharacter (letter : Char) (index : Nat)
  deriving DecidableEq, Repr

def firstByte (letter : Char) : Char :=
  match String.utf8EncodeChar letter with
  | byte :: _ => Char.ofNat byte.toNat
  | [] => letter

/-- Decode two digits at a time; `index` counts the bytes read so far. -/
def decodePairs : Nat → List Char → Except HexError (List UInt8)
  | _, [] => .ok []
  | index, [letter] => .error (.invalidCharacter (firstByte letter) index)
  | index, high :: low :: rest =>
      match digitValue high, digitValue low with
      | none, _ => .error (.invalidCharacter (firstByte high) index)
      | some _, none => .error (.invalidCharacter (firstByte low) (index + 1))
      | some highValue, some lowValue =>
          match decodePairs (index + 2) rest with
          | .error error => .error error
          | .ok bytes => .ok (UInt8.ofNat (16 * highValue + lowValue) :: bytes)

def byteLength (letters : List Char) : Nat :=
  (letters.map Char.utf8Size).sum

def hexDecode (text : String) : Except HexError (List UInt8) :=
  if byteLength text.toList % 2 = 1 then .error .oddLength else decodePairs 0 text.toList

theorem nibbles_lt (byte : UInt8) : byte.toNat / 16 < 16 ∧ byte.toNat % 16 < 16 := by
  have hbyte := byte.toNat_lt
  omega

theorem decodePairs_flatMap (index : Nat) (bytes : List UInt8) :
    decodePairs index (bytes.flatMap byteDigits) = .ok bytes := by
  induction bytes generalizing index with
  | nil => rfl
  | cons byte bytes ih =>
      obtain ⟨hhigh, hlow⟩ := nibbles_lt byte
      have hjoin : 16 * (byte.toNat / 16) + byte.toNat % 16 = byte.toNat := by omega
      simp only [List.flatMap_cons, byteDigits, List.cons_append, List.nil_append, decodePairs,
        digitValue_hexDigit hhigh, digitValue_hexDigit hlow, ih]
      simp [hjoin]

theorem byteLength_flatMap (bytes : List UInt8) :
    byteLength (bytes.flatMap byteDigits) = 2 * bytes.length := by
  induction bytes with
  | nil => rfl
  | cons byte bytes ih =>
      obtain ⟨hhigh, hlow⟩ := nibbles_lt byte
      unfold byteLength at ih ⊢
      simp only [List.flatMap_cons, List.map_append, List.sum_append, ih, byteDigits,
        List.map_cons, List.map_nil, List.sum_cons, List.sum_nil, utf8Size_hexDigit hhigh,
        utf8Size_hexDigit hlow, List.length_cons]
      omega

theorem hexDecode_hexEncode (bytes : List UInt8) : hexDecode (hexEncode bytes) = .ok bytes := by
  unfold hexDecode hexEncode
  rw [String.toList_ofList, byteLength_flatMap, if_neg (by omega), decodePairs_flatMap]

/-- Equal up to the case of the letters. -/
def SameLetters (first second : String) : Prop :=
  first.toList.map Char.toLower = second.toList.map Char.toLower

theorem digit_of_digitValue {letter : Char} {value : Nat} (h : digitValue letter = some value) :
    value < 16 ∧ (hexDigit value).toLower = letter.toLower := by
  obtain ⟨code, hcode⟩ : ∃ code, letter.toNat = code := ⟨_, rfl⟩
  obtain rfl : letter = Char.ofNat code := by rw [← hcode, Char.ofNat_toNat]
  rw [digitValue] at h
  split at h
  · rename_i hdigit
    obtain ⟨hlow, hhigh⟩ := hdigit
    have hleast : 48 ≤ (Char.ofNat code).toNat := Char.le_def.mp hlow
    have hmost : (Char.ofNat code).toNat ≤ 57 := Char.le_def.mp hhigh
    rw [hcode] at hleast hmost
    interval_cases code <;> cases h <;> decide
  · split at h
    · rename_i hletter
      obtain ⟨hlow, hhigh⟩ := hletter
      have hleast : 97 ≤ (Char.ofNat code).toNat := Char.le_def.mp hlow
      have hmost : (Char.ofNat code).toNat ≤ 102 := Char.le_def.mp hhigh
      rw [hcode] at hleast hmost
      interval_cases code <;> cases h <;> decide
    · split at h
      · rename_i hletter
        obtain ⟨hlow, hhigh⟩ := hletter
        have hleast : 65 ≤ (Char.ofNat code).toNat := Char.le_def.mp hlow
        have hmost : (Char.ofNat code).toNat ≤ 70 := Char.le_def.mp hhigh
        rw [hcode] at hleast hmost
        interval_cases code <;> cases h <;> decide
      · cases h

theorem lowered_of_decodePairs {index : Nat} {letters : List Char} {bytes : List UInt8}
    (h : decodePairs index letters = .ok bytes) :
    (bytes.flatMap byteDigits).map Char.toLower = letters.map Char.toLower := by
  fun_induction decodePairs index letters generalizing bytes with
  | case1 =>
      obtain rfl := Except.ok.inj h
      rfl
  | case2 => cases h
  | case3 => cases h
  | case4 => cases h
  | case5 => cases h
  | case6 index high low rest highValue lowValue hhigh hlow tail htail ih =>
      obtain rfl := Except.ok.inj h
      obtain ⟨hhighBound, hhighDigit⟩ := digit_of_digitValue hhigh
      obtain ⟨hlowBound, hlowDigit⟩ := digit_of_digitValue hlow
      have hbyte : (UInt8.ofNat (16 * highValue + lowValue)).toNat = 16 * highValue + lowValue := by
        rw [UInt8.toNat_ofNat', Nat.mod_eq_of_lt (by omega)]
      have hquotient : (16 * highValue + lowValue) / 16 = highValue := by omega
      have hremainder : (16 * highValue + lowValue) % 16 = lowValue := by omega
      rw [List.flatMap_cons, List.map_append, ih htail, byteDigits, hbyte, hquotient, hremainder,
        List.map_cons, List.map_cons, hhighDigit, hlowDigit]
      rfl

/-- Encoding what has been decoded gives the text again, in lower case. -/
theorem hexEncode_of_hexDecode {text : String} {bytes : List UInt8}
    (h : hexDecode text = .ok bytes) : SameLetters (hexEncode bytes) text := by
  rw [hexDecode] at h
  split at h
  · cases h
  · rw [SameLetters, hexEncode, String.toList_ofList]
    exact lowered_of_decodePairs h

def debugLetter (letter : Char) : String :=
  if letter = '\t' then "'\\t'"
  else if letter = '\n' then "'\\n'"
  else if letter = '\r' then "'\\r'"
  else if letter = '\'' then "'\\''"
  else if letter = '\\' then "'\\\\'"
  else if letter.toNat = 0 then "'\\0'"
  else if letter.toNat < 32 ∨ letter.toNat = 127 then
    "'\\u\x7b" ++ String.ofList (Nat.toDigits 16 letter.toNat) ++ "\x7d'"
  else "'" ++ String.ofList [letter] ++ "'"

def HexError.toText : HexError → String
  | .oddLength => "Odd number of digits"
  | .invalidCharacter letter index =>
      "Invalid character " ++ debugLetter letter ++ " at position " ++ toString index

end TrafficCone.HexadecimalText
