import TrafficCone.HexadecimalText

namespace TrafficCone.TextScanning

open TrafficCone.HexadecimalText

def isWhitespace (letter : Char) : Bool :=
  let code := letter.toNat
  (9 ≤ code && code ≤ 13) || code == 0x20 || code == 0x85 || code == 0xA0 || code == 0x1680 ||
    (0x2000 ≤ code && code ≤ 0x200A) || code == 0x2028 || code == 0x2029 || code == 0x202F ||
    code == 0x205F || code == 0x3000

def splitWhitespace (letters : List Char) : List (List Char) :=
  (letters.splitOnP isWhitespace).filter fun word => word ≠ []

def stripCarriageReturn (line : List Char) : List Char :=
  if line.getLast? = some '\r' then line.dropLast else line

/-- The lines of a text; a carriage return counts to a line's end only before a
line feed. -/
def lines (letters : List Char) : List (List Char) :=
  let segments := letters.splitOnP (· == '\n')
  segments.dropLast.map stripCarriageReturn ++
    match segments.getLast? with
    | none => []
    | some [] => []
    | some last => [last]

def splitOnce (mark : Char) : List Char → Option (List Char × List Char)
  | [] => none
  | letter :: letters =>
      if letter = mark then some ([], letters)
      else (splitOnce mark letters).map fun parts => (letter :: parts.1, parts.2)

def afterLast (mark : Char) : List Char → Option (List Char)
  | [] => none
  | letter :: letters =>
      match afterLast mark letters with
      | some rest => some rest
      | none => if letter = mark then some letters else none

/-- The first bytes of a text and the rest; nothing if the cut would fall behind
the end or inside a letter. -/
def takeBytes : List Char → Nat → Option (List Char × List Char)
  | letters, 0 => some ([], letters)
  | [], _ + 1 => none
  | letter :: letters, count + 1 =>
      if letter.utf8Size ≤ count + 1 then
        (takeBytes letters (count + 1 - letter.utf8Size)).map
          fun parts => (letter :: parts.1, parts.2)
      else none

def digitsValue (base : Nat) : Nat → List Char → Option Nat
  | value, [] => some value
  | value, letter :: letters =>
      match digitValue letter with
      | some digit => if digit < base then digitsValue base (base * value + digit) letters else none
      | none => none

/-- Parse an unsigned integer below a bound; one leading plus sign is allowed. -/
def parseUnsigned (base bound : Nat) (letters : List Char) : Option Nat :=
  let digits := match letters with
    | '+' :: rest => rest
    | _ => letters
  match digits with
  | [] => none
  | _ => (digitsValue base 0 digits).filter fun value => value < bound

example : parseUnsigned 16 65536 "0035".toList = some 53 := by decide

theorem digitValue_of_isDigit {letter : Char} (h : letter.isDigit = true) :
    digitValue letter = some (letter.toNat - 48) ∧ letter.toNat - 48 < 10 := by
  have hrange := Char.isDigit_iff_toNat.mp h
  constructor
  · rw [digitValue, if_pos]
    exact ⟨Char.le_def.mpr (UInt32.le_iff_toNat_le.mpr hrange.1),
      Char.le_def.mpr (UInt32.le_iff_toNat_le.mpr hrange.2)⟩
  · have hlast : letter.toNat ≤ 57 := hrange.2
    omega

theorem digitsValue_of_isDigit {letters : List Char}
    (h : ∀ letter ∈ letters, letter.isDigit = true) (value : Nat) :
    digitsValue 10 value letters = some (Nat.ofDigitChars 10 letters value) := by
  induction letters generalizing value with
  | nil => simp [digitsValue]
  | cons letter letters ih =>
      obtain ⟨hdigit, hlt⟩ := digitValue_of_isDigit (h letter List.mem_cons_self)
      rw [digitsValue, hdigit]
      dsimp only
      rw [if_pos hlt, ih fun other hother => h other (List.mem_cons_of_mem letter hother),
        Nat.ofDigitChars_cons]
      rfl

theorem parseUnsigned_of_isDigit {bound : Nat} {letters : List Char} (hletters : letters ≠ [])
    (hdigits : ∀ letter ∈ letters, letter.isDigit = true)
    (hbound : Nat.ofDigitChars 10 letters 0 < bound) :
    parseUnsigned 10 bound letters = some (Nat.ofDigitChars 10 letters 0) := by
  have hvalue := digitsValue_of_isDigit hdigits 0
  cases letters with
  | nil => exact absurd rfl hletters
  | cons letter letters =>
      have hplus : letter ≠ '+' := by
        rintro rfl
        exact absurd (hdigits '+' List.mem_cons_self) (by decide)
      rw [parseUnsigned]
      · rw [hvalue, Option.filter_some, if_pos (by simpa using hbound)]
      · intro rest hrest
        exact hplus (List.cons.inj hrest).1
      · exact hletters

/-- The decimal digits of a number parse to it. -/
theorem parseUnsigned_toDigits {bound value : Nat} (h : value < bound) :
    parseUnsigned 10 bound (Nat.toDigits 10 value) = some value := by
  have hvalue := @Nat.ofDigitChars_toDigits 10 value (show 1 < 10 by decide) (le_refl 10)
  rw [parseUnsigned_of_isDigit Nat.toDigits_ne_nil
    (fun letter => Nat.isDigit_of_mem_toDigits (by decide) (by decide)) (by rwa [hvalue]), hvalue]

theorem digitsValue_append (base value : Nat) (first second : List Char) :
    digitsValue base value (first ++ second) =
      (digitsValue base value first).bind fun middle => digitsValue base middle second := by
  induction first generalizing value with
  | nil => rfl
  | cons letter first ih =>
      rw [List.cons_append, digitsValue, digitsValue]
      cases digitValue letter with
      | none => rfl
      | some digit =>
          dsimp only
          split
          · exact ih _
          · rfl

/-- Digits that are written one by one, the lowest last, are read back. -/
theorem digitsValue_padded {digit : Nat → Char} {padded : Nat → Nat → List Char}
    (hdigit : ∀ value, value < 16 → digitValue (digit value) = some value)
    (hzero : ∀ value, padded 0 value = [])
    (hsucc : ∀ width value,
      padded (width + 1) value = padded width (value / 16) ++ [digit (value % 16)])
    {width value : Nat} (h : value < 16 ^ width) :
    digitsValue 16 0 (padded width value) = some value := by
  induction width generalizing value with
  | zero =>
      rw [pow_zero] at h
      obtain rfl : value = 0 := by omega
      rw [hzero, digitsValue]
  | succ width ih =>
      rw [pow_succ] at h
      have hlast : value % 16 < 16 := Nat.mod_lt _ (by decide)
      rw [hsucc, digitsValue_append, ih (by omega), Option.bind_some, digitsValue, hdigit _ hlast]
      dsimp only
      rw [if_pos hlast, digitsValue, Option.some.injEq]
      exact Nat.div_add_mod value 16

theorem digitsValue_upperHexPadded {width value : Nat} (h : value < 16 ^ width) :
    digitsValue 16 0 (upperHexPadded width value) = some value :=
  digitsValue_padded (fun _ => digitValue_upperHexDigit) (fun _ => rfl) (fun _ _ => rfl) h

theorem digitsValue_hexPadded {width value : Nat} (h : value < 16 ^ width) :
    digitsValue 16 0 (hexPadded width value) = some value :=
  digitsValue_padded (fun _ => digitValue_hexDigit) (fun _ => rfl) (fun _ _ => rfl) h

/-- The padded digits of a number parse to it. -/
theorem parseUnsigned_upperHexPadded {width value bound : Nat} (h : value < 16 ^ (width + 1))
    (hbound : value < bound) :
    parseUnsigned 16 bound (upperHexPadded (width + 1) value) = some value := by
  have hvalue := digitsValue_upperHexPadded h
  cases hletters : upperHexPadded (width + 1) value with
  | nil =>
      have hlength := length_upperHexPadded (width + 1) value
      rw [hletters] at hlength
      cases hlength
  | cons letter letters =>
      rw [hletters] at hvalue
      have hplus : letter ≠ '+' := by
        rintro rfl
        rw [digitsValue, show digitValue '+' = none by decide] at hvalue
        cases hvalue
      rw [parseUnsigned]
      · rw [hvalue, Option.filter_some, if_pos (by simpa using hbound)]
      · intro rest hrest
        exact hplus (List.cons.inj hrest).1
      · exact List.cons_ne_nil _ _

theorem takeBytes_append {first : List Char} (h : ∀ letter ∈ first, letter.utf8Size = 1)
    (rest : List Char) : takeBytes (first ++ rest) first.length = some (first, rest) := by
  induction first with
  | nil => cases rest <;> rfl
  | cons letter first ih =>
      rw [List.forall_mem_cons] at h
      rw [List.cons_append, List.length_cons, takeBytes, h.1, if_pos (by omega),
        Nat.add_sub_cancel, ih h.2]
      rfl

theorem splitOnce_append {mark : Char} {first : List Char} (h : mark ∉ first)
    (rest : List Char) : splitOnce mark (first ++ mark :: rest) = some (first, rest) := by
  induction first with
  | nil => rw [List.nil_append, splitOnce, if_pos rfl]
  | cons letter first ih =>
      rw [List.mem_cons, not_or] at h
      rw [List.cons_append, splitOnce, if_neg (Ne.symm h.1), ih h.2]
      rfl

theorem isWhitespace_of_isDigit {letter : Char} (h : letter.isDigit = true) :
    isWhitespace letter = false := by
  have hrange := Char.isDigit_iff_toNat.mp h
  have hfirst : 48 ≤ letter.toNat := hrange.1
  have hlast : letter.toNat ≤ 57 := hrange.2
  simp only [isWhitespace, Bool.or_eq_false_iff, Bool.and_eq_false_iff, decide_eq_false_iff_not,
    beq_eq_false_iff_ne]
  omega

theorem splitWhitespace_gap {gap : Char} (hgap : isWhitespace gap = true) (letters : List Char) :
    splitWhitespace (gap :: letters) = splitWhitespace letters := by
  rw [splitWhitespace, List.splitOnP_cons_eq_if_modifyHead, if_pos hgap,
    List.filter_cons_of_neg (by simp)]
  rfl

theorem splitWhitespace_append_gap {gap : Char} (hgap : isWhitespace gap = true)
    (letters : List Char) : splitWhitespace (letters ++ [gap]) = splitWhitespace letters := by
  rw [splitWhitespace, List.splitOnP_append_cons letters [] hgap, List.filter_append,
    splitWhitespace]
  simp

theorem splitWhitespace_word {word : List Char} (hword : word ≠ [])
    (hletters : ∀ letter ∈ word, isWhitespace letter = false) {gap : Char}
    (hgap : isWhitespace gap = true) (letters : List Char) :
    splitWhitespace (word ++ gap :: letters) = word :: splitWhitespace letters := by
  rw [splitWhitespace, List.splitOnP_append_cons_of_forall_mem hletters gap hgap,
    List.filter_cons_of_pos (by simpa using hword)]
  rfl

theorem afterLast_append {mark : Char} {rest : List Char} (h : mark ∉ rest) (letters : List Char) :
    afterLast mark (letters ++ mark :: rest) = some rest := by
  have hrest : afterLast mark rest = none := by
    induction rest with
    | nil => rfl
    | cons letter rest ih =>
        rw [List.mem_cons, not_or] at h
        rw [afterLast, ih h.2]
        dsimp only
        rw [if_neg (Ne.symm h.1)]
  induction letters with
  | nil =>
      rw [List.nil_append, afterLast, hrest]
      dsimp only
      rw [if_pos rfl]
  | cons letter letters ih => rw [List.cons_append, afterLast, ih]

theorem stripCarriageReturn_of_not_mem {line : List Char} (h : '\r' ∉ line) :
    stripCarriageReturn line = line := by
  rw [stripCarriageReturn, if_neg]
  intro hlast
  exact h (List.mem_of_getLast? hlast)

theorem lines_cons {line : List Char} (h : '\n' ∉ line) (letters : List Char) :
    lines (line ++ '\n' :: letters) = stripCarriageReturn line :: lines letters := by
  have hline : ∀ letter ∈ line, (letter == '\n') = false := by
    intro letter hletter
    rw [beq_eq_false_iff_ne]
    rintro rfl
    exact h hletter
  have hsegments : letters.splitOnP (· == '\n') ≠ [] := List.splitOnP_ne_nil _ _
  rw [lines, List.splitOnP_append_cons_of_forall_mem hline '\n' (by decide), lines,
    List.dropLast_cons_of_ne_nil hsegments, List.map_cons, List.cons_append,
    List.getLast?_cons_of_ne_nil hsegments]

section Scanning

variable {mark : Char} {letters first rest : List Char} {count : Nat}

theorem byteLength_cons (letter : Char) (letters : List Char) :
    byteLength (letter :: letters) = letter.utf8Size + byteLength letters := by
  rw [byteLength, List.map_cons, List.sum_cons]
  rfl

theorem byteLength_eq_zero_iff : byteLength letters = 0 ↔ letters = [] := by
  cases letters with
  | nil => exact iff_of_true rfl rfl
  | cons letter letters =>
      have hpositive := letter.utf8Size_pos
      rw [byteLength_cons]
      refine iff_of_false (by omega) (List.cons_ne_nil _ _)

theorem takeBytes_zero (letters : List Char) : takeBytes letters 0 = some ([], letters) := by
  cases letters <;> rfl

theorem takeBytes_zero_eq_some_iff :
    takeBytes letters 0 = some (first, rest) ↔ letters = first ++ rest ∧ byteLength first = 0 := by
  rw [takeBytes_zero, Option.some.injEq, Prod.mk.injEq, byteLength_eq_zero_iff]
  constructor
  · rintro ⟨rfl, rfl⟩
    exact ⟨rfl, rfl⟩
  · rintro ⟨hletters, rfl⟩
    exact ⟨rfl, hletters⟩

/-- A cut has so many bytes in front of it, and parts the text. -/
theorem takeBytes_eq_some_iff :
    takeBytes letters count = some (first, rest) ↔
      letters = first ++ rest ∧ byteLength first = count := by
  induction letters generalizing count first with
  | nil =>
      cases count with
      | zero => exact takeBytes_zero_eq_some_iff
      | succ count =>
          rw [takeBytes]
          refine iff_of_false (fun h => by cases h) ?_
          rintro ⟨hletters, hcount⟩
          obtain ⟨rfl, -⟩ := List.append_eq_nil_iff.mp hletters.symm
          cases hcount
  | cons letter letters ih =>
      cases count with
      | zero => exact takeBytes_zero_eq_some_iff
      | succ count =>
          have hpositive := letter.utf8Size_pos
          rw [takeBytes]
          cases first with
          | nil =>
              refine iff_of_false ?_ ?_
              · split
                · simp
                · simp
              · rintro ⟨-, hcount⟩
                cases hcount
          | cons other first =>
              rw [List.cons_append, List.cons.injEq, byteLength_cons]
              split
              · constructor
                · intro h
                  obtain ⟨⟨before, after⟩, hparts, hcons⟩ := Option.map_eq_some_iff.mp h
                  dsimp only at hcons
                  obtain ⟨hfirst, rfl⟩ := Prod.mk.inj hcons
                  obtain ⟨rfl, rfl⟩ := List.cons.inj hfirst
                  obtain ⟨rfl, hcount⟩ := ih.mp hparts
                  exact ⟨⟨rfl, rfl⟩, by omega⟩
                · rintro ⟨⟨rfl, rfl⟩, hcount⟩
                  have hfirst : byteLength first = count + 1 - letter.utf8Size := by omega
                  rw [ih.mpr ⟨rfl, hfirst⟩]
                  rfl
              · refine iff_of_false (fun h => by cases h) ?_
                rintro ⟨⟨rfl, rfl⟩, hcount⟩
                omega

theorem takeBytes_eq_none_iff :
    takeBytes letters count = none ↔ ∀ first, first <+: letters → byteLength first ≠ count := by
  constructor
  · rintro hnone first ⟨rest, rfl⟩ hcount
    rw [takeBytes_eq_some_iff.mpr ⟨rfl, hcount⟩] at hnone
    cases hnone
  · intro hcut
    rw [Option.eq_none_iff_forall_ne_some]
    rintro ⟨first, rest⟩ hsome
    obtain ⟨rfl, hcount⟩ := takeBytes_eq_some_iff.mp hsome
    exact hcut first (List.prefix_append _ _) hcount

theorem splitOnce_eq_some_iff :
    splitOnce mark letters = some (first, rest) ↔
      mark ∉ first ∧ letters = first ++ mark :: rest := by
  constructor
  · intro h
    induction letters generalizing first with
    | nil => cases h
    | cons letter letters ih =>
        rw [splitOnce] at h
        split at h
        · rename_i hmark
          obtain ⟨rfl, rfl⟩ := Prod.mk.inj (Option.some.inj h)
          exact ⟨List.not_mem_nil, by rw [hmark, List.nil_append]⟩
        · rename_i hmark
          obtain ⟨⟨before, after⟩, hparts, hcons⟩ := Option.map_eq_some_iff.mp h
          obtain ⟨rfl, rfl⟩ := Prod.mk.inj hcons
          obtain ⟨hbefore, rfl⟩ := ih hparts
          refine ⟨?_, rfl⟩
          rw [List.mem_cons, not_or]
          exact ⟨Ne.symm hmark, hbefore⟩
  · rintro ⟨hfirst, rfl⟩
    exact splitOnce_append hfirst rest

theorem not_mem_of_afterLast (h : afterLast mark letters = none) : mark ∉ letters := by
  induction letters with
  | nil => exact List.not_mem_nil
  | cons letter letters ih =>
      rw [afterLast] at h
      cases hlast : afterLast mark letters with
      | some found =>
          rw [hlast] at h
          cases h
      | none =>
          rw [hlast] at h
          dsimp only at h
          split at h
          · cases h
          · rename_i hmark
            rw [List.mem_cons, not_or]
            exact ⟨Ne.symm hmark, ih hlast⟩

theorem afterLast_eq_some_iff :
    afterLast mark letters = some rest ↔
      mark ∉ rest ∧ ∃ before, letters = before ++ mark :: rest := by
  constructor
  · intro h
    induction letters with
    | nil => cases h
    | cons letter letters ih =>
        rw [afterLast] at h
        cases hlast : afterLast mark letters with
        | some found =>
            rw [hlast] at h
            obtain rfl := Option.some.inj h
            obtain ⟨hrest, before, rfl⟩ := ih hlast
            exact ⟨hrest, letter :: before, rfl⟩
        | none =>
            rw [hlast] at h
            dsimp only at h
            split at h
            · rename_i hmark
              obtain rfl := Option.some.inj h
              exact ⟨not_mem_of_afterLast hlast, [], by rw [hmark, List.nil_append]⟩
            · cases h
  · rintro ⟨hrest, before, rfl⟩
    exact afterLast_append hrest before

end Scanning

end TrafficCone.TextScanning
