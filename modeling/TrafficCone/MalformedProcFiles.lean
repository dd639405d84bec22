import Mathlib.Data.List.Basic
import TrafficCone.ProcReaders

namespace TrafficCone.MalformedProcFiles

open TrafficCone.Outcomes
open TrafficCone.HexadecimalText
open TrafficCone.TextScanning
open TrafficCone.ProcReaders

section Stat

/-- The last closing parenthesis ends the text, or a letter of several bytes follows it. -/
def CutInComm (text : String) : Prop :=
  ∃ before after, text.toList = before ++ ')' :: after ∧ ')' ∉ after ∧
    ∀ letter ∈ after.head?, 1 < letter.utf8Size

theorem takeBytes_one_eq_none_iff {letters : List Char} :
    takeBytes letters 1 = none ↔ ∀ letter ∈ letters.head?, 1 < letter.utf8Size := by
  cases letters with
  | nil => simp [takeBytes]
  | cons letter letters =>
      rw [takeBytes, List.head?_cons]
      by_cases hone : letter.utf8Size ≤ 1
      · have hsize : 0 + 1 - letter.utf8Size = 0 := by
          have hpositive := letter.utf8Size_pos
          omega
        rw [if_pos hone, hsize, takeBytes_zero]
        simp [hone]
      · rw [if_neg hone]
        simpa using not_le.mp hone

theorem readProcessStartTime_eq_panicked_iff {system : System} {pid : Nat} :
    readProcessStartTime system pid = .panicked ↔
      ∃ text, system.stat pid = some text ∧ CutInComm text := by
  rw [readProcessStartTime]
  cases system.stat pid with
  | none => simp
  | some text =>
      simp only [Option.some.injEq, exists_eq_left']
      constructor
      · intro hpanicked
        cases hlast : afterLast ')' text.toList with
        | none =>
            rw [hlast] at hpanicked
            cases hpanicked
        | some after =>
            obtain ⟨hafter, before, htext⟩ := afterLast_eq_some_iff.mp hlast
            refine ⟨before, after, htext, hafter, takeBytes_one_eq_none_iff.mp ?_⟩
            rw [hlast] at hpanicked
            dsimp only at hpanicked
            cases hskip : takeBytes after 1 with
            | none => rfl
            | some parts =>
                rw [hskip] at hpanicked
                exact absurd hpanicked (Outcome.ofOption_ne_panicked _ _)
      · rintro ⟨before, after, htext, hafter, hcut⟩
        rw [afterLast_eq_some_iff.mpr ⟨hafter, before, htext⟩]
        dsimp only
        rw [takeBytes_one_eq_none_iff.mpr hcut]

end Stat

section Addresses

/-- Eight bytes that are a number of 32 bits. -/
def IsWord (letters : List Char) : Prop :=
  byteLength letters = 8 ∧ ∃ value, parseUnsigned 16 (2 ^ 32) letters = some value

/-- Behind fewer than so many words, no letter ends after eight more bytes. -/
def CutInWords (count : Nat) (letters : List Char) : Prop :=
  ∃ (words : List (List Char)) (rest : List Char),
    letters = words.flatten ++ rest ∧ words.length < count ∧ (∀ word ∈ words, IsWord word) ∧
      ∀ first, first <+: rest → byteLength first ≠ 8

/-- An address of 32 bytes with a port, in which a word cannot be cut off. -/
def CutInAddress (letters : List Char) : Prop :=
  ∃ address port, letters = address ++ ':' :: port ∧ ':' ∉ address ∧
    (∃ value, parseUnsigned 16 (2 ^ 16) port = some value) ∧ byteLength address = 32 ∧
      CutInWords 4 address

/-- The line of an established connection with such an address. -/
def CutInLine (line : List Char) : Prop :=
  ∃ slot localAddress remoteAddress rest,
    splitWhitespace line = slot :: localAddress :: remoteAddress :: ['0', '1'] :: rest ∧
      CutInAddress remoteAddress

def CutInTable (text : String) : Prop :=
  ∃ line ∈ (lines text.toList).drop 1, CutInLine line

theorem cutInWords_succ_iff {count : Nat} {word rest : List Char} (hword : IsWord word) :
    CutInWords (count + 1) (word ++ rest) ↔ CutInWords count rest := by
  constructor
  · rintro ⟨words, cut, hletters, hlength, hwords, hcut⟩
    cases words with
    | nil =>
        rw [List.flatten_nil, List.nil_append] at hletters
        exact absurd hword.1 (hcut word ⟨rest, hletters⟩)
    | cons first words =>
        rw [List.forall_mem_cons] at hwords
        rw [List.flatten_cons, List.append_assoc] at hletters
        have htaken := takeBytes_eq_some_iff.mpr ⟨hletters, hwords.1.1⟩
        rw [takeBytes_eq_some_iff.mpr ⟨rfl, hword.1⟩] at htaken
        obtain ⟨rfl, rfl⟩ := Prod.mk.inj (Option.some.inj htaken)
        exact ⟨words, cut, rfl, Nat.lt_of_succ_lt_succ hlength, hwords.2, hcut⟩
  · rintro ⟨words, cut, rfl, hlength, hwords, hcut⟩
    refine ⟨word :: words, cut, ?_, Nat.succ_lt_succ hlength, ?_, hcut⟩
    · rw [List.flatten_cons, List.append_assoc]
    · exact List.forall_mem_cons.mpr ⟨hword, hwords⟩

theorem readAddressWords_ne_err (count : Nat) (letters : List Char) (error : String) :
    readAddressWords count letters ≠ .err error := by
  induction count generalizing letters error with
  | zero => simp [readAddressWords]
  | succ count ih =>
      rw [readAddressWords]
      cases takeBytes letters 8 with
      | none => simp
      | some parts =>
          dsimp only
          cases parseUnsigned 16 (2 ^ 32) parts.1 with
          | none => simp
          | some word =>
              cases hrest : readAddressWords count parts.2 with
              | ok words => simp
              | err other => exact absurd hrest (ih parts.2 other)
              | panicked => simp

theorem readAddressWords_eq_panicked_iff {count : Nat} {letters : List Char} :
    readAddressWords count letters = .panicked ↔ CutInWords count letters := by
  induction count generalizing letters with
  | zero =>
      refine iff_of_false (fun h => by cases h) ?_
      rintro ⟨words, rest, -, hlength, -⟩
      exact Nat.not_lt_zero _ hlength
  | succ count ih =>
      rw [readAddressWords]
      cases htaken : takeBytes letters 8 with
      | none =>
          refine iff_of_true rfl ⟨[], letters, rfl, Nat.succ_pos _, ?_, ?_⟩
          · exact fun _ hword => absurd hword List.not_mem_nil
          · exact takeBytes_eq_none_iff.mp htaken
      | some parts =>
          obtain ⟨digits, rest⟩ := parts
          obtain ⟨rfl, hdigits⟩ := takeBytes_eq_some_iff.mp htaken
          dsimp only
          cases hword : parseUnsigned 16 (2 ^ 32) digits with
          | none =>
              refine iff_of_false (fun h => by cases h) ?_
              rintro ⟨words, cut, hletters, -, hwords, hcut⟩
              cases words with
              | nil =>
                  rw [List.flatten_nil, List.nil_append] at hletters
                  exact hcut digits ⟨rest, hletters⟩ hdigits
              | cons first words =>
                  rw [List.forall_mem_cons] at hwords
                  rw [List.flatten_cons, List.append_assoc] at hletters
                  rw [takeBytes_eq_some_iff.mpr ⟨hletters, hwords.1.1⟩, Option.some.injEq,
                    Prod.mk.injEq] at htaken
                  obtain ⟨value, hvalue⟩ := hwords.1.2
                  rw [htaken.1, hword] at hvalue
                  cases hvalue
          | some word =>
              rw [cutInWords_succ_iff ⟨hdigits, word, hword⟩, ← ih]
              cases readAddressWords count rest <;> simp

theorem parseHexAddr_eq_panicked_iff {letters : List Char} {ipv6 : Bool} :
    parseHexAddr letters ipv6 = .panicked ↔ ipv6 = true ∧ CutInAddress letters := by
  rw [parseHexAddr]
  cases hsplit : splitOnce ':' letters with
  | none =>
      refine iff_of_false (fun h => by cases h) ?_
      rintro ⟨-, address, port, hletters, hmark, -⟩
      rw [splitOnce_eq_some_iff.mpr ⟨hmark, hletters⟩] at hsplit
      cases hsplit
  | some parts =>
      obtain ⟨address, port⟩ := parts
      have hparts := splitOnce_eq_some_iff.mp hsplit
      have hcut : CutInAddress letters ↔
          (∃ value, parseUnsigned 16 (2 ^ 16) port = some value) ∧ byteLength address = 32 ∧
            CutInWords 4 address := by
        constructor
        · rintro ⟨other, otherPort, hletters, hmark, hrest⟩
          rw [splitOnce_eq_some_iff.mpr ⟨hmark, hletters⟩] at hsplit
          obtain ⟨rfl, rfl⟩ := Prod.mk.inj (Option.some.inj hsplit)
          exact hrest
        · intro hrest
          exact ⟨address, port, hparts.2, hparts.1, hrest⟩
      rw [hcut]
      dsimp only
      cases parseUnsigned 16 (2 ^ 16) port with
      | none => simp
      | some value =>
          cases ipv6 with
          | false =>
              simp only [Bool.false_eq_true, if_false, false_and, iff_false]
              split <;> simp
          | true =>
              rw [← readAddressWords_eq_panicked_iff]
              by_cases hlength : byteLength address = 32
              · simp only [if_true, hlength, ne_eq, not_true_eq_false, if_false, true_and,
                  Option.some.injEq, exists_eq']
                cases readAddressWords 4 address <;> simp
              · simp [hlength]

theorem parseHexAddr_ne_err (letters : List Char) (ipv6 : Bool) (error : String) :
    parseHexAddr letters ipv6 ≠ .err error := by
  rw [parseHexAddr]
  cases splitOnce ':' letters with
  | none => simp
  | some parts =>
      dsimp only
      cases parseUnsigned 16 (2 ^ 16) parts.2 with
      | none => simp
      | some port =>
          dsimp only
          cases ipv6 with
          | false =>
              rw [if_neg Bool.false_ne_true]
              split <;> simp
          | true =>
              rw [if_pos rfl]
              split
              · simp
              · cases hwords : readAddressWords 4 parts.1 with
                | ok words => simp
                | err other => exact absurd hwords (readAddressWords_ne_err 4 parts.1 other)
                | panicked => simp

end Addresses

section Tables

theorem readTcpLines_eq_panicked_iff {ipv6 : Bool} {table : List (List Char)} :
    readTcpLines ipv6 table = .panicked ↔ ipv6 = true ∧ ∃ line ∈ table, CutInLine line := by
  induction table with
  | nil => simp [readTcpLines]
  | cons line table ih =>
      rw [List.exists_mem_cons_iff, readTcpLines]
      split
      · rename_i slot localAddress remoteAddress state fields hsplit
        have hline : CutInLine line ↔ state = ['0', '1'] ∧ CutInAddress remoteAddress := by
          rw [CutInLine, hsplit]
          constructor
          · rintro ⟨_, _, _, _, hfields, hcut⟩
            simp only [List.cons.injEq] at hfields
            obtain ⟨-, -, rfl, rfl, -⟩ := hfields
            exact ⟨rfl, hcut⟩
          · rintro ⟨rfl, hcut⟩
            exact ⟨_, _, _, _, rfl, hcut⟩
        rw [hline]
        by_cases hstate : state = ['0', '1']
        · rw [if_pos hstate]
          simp only [hstate, true_and]
          cases haddress : parseHexAddr remoteAddress ipv6 with
          | panicked =>
              obtain ⟨hipv6, hcut⟩ := parseHexAddr_eq_panicked_iff.mp haddress
              exact iff_of_true rfl ⟨hipv6, .inl hcut⟩
          | err error => exact absurd haddress (parseHexAddr_ne_err remoteAddress ipv6 error)
          | ok found =>
              have hsound : ¬ (ipv6 = true ∧ CutInAddress remoteAddress) := by
                rw [← parseHexAddr_eq_panicked_iff, haddress]
                exact fun h => by cases h
              have hrest : readTcpLines ipv6 table = .panicked ↔
                  ipv6 = true ∧ (CutInAddress remoteAddress ∨
                    ∃ line ∈ table, CutInLine line) := by
                rw [ih, and_or_left, or_iff_right hsound]
              rw [← hrest]
              cases found with
              | none => rfl
              | some destination => cases readTcpLines ipv6 table <;> simp
        · rw [if_neg hstate, ih]
          simp [hstate]
      · rename_i hshort
        have hline : ¬ CutInLine line := by
          rintro ⟨slot, localAddress, remoteAddress, rest, hsplit, -⟩
          exact hshort slot localAddress remoteAddress ['0', '1'] rest hsplit
        rw [ih, or_iff_right hline]

theorem readProcNetTcp_eq_panicked_iff {system : System} {pid : Nat} {ipv6 : Bool} :
    readProcNetTcp system pid ipv6 = .panicked ↔
      ipv6 = true ∧ ∃ text, system.netTcp6 pid = some text ∧ CutInTable text := by
  rw [readProcNetTcp]
  cases ipv6 with
  | false =>
      rw [if_neg Bool.false_ne_true]
      cases system.netTcp pid with
      | none => simp
      | some text => simp [readTcpLines_eq_panicked_iff]
  | true =>
      rw [if_pos rfl]
      cases system.netTcp6 pid with
      | none => simp
      | some text => simp [readTcpLines_eq_panicked_iff, CutInTable]

/-- Whatever the files of a process hold, reading them ends with a value or an error. -/
structure NeverPanics (system : System) (pid : Nat) : Prop where
  stat : readProcessStartTime system pid ≠ .panicked
  tables : ∀ ipv6, readProcNetTcp system pid ipv6 ≠ .panicked

/-- The table of IPv4 is read whatever it holds; the other two files can be cut where no
letter begins. -/
theorem never_panics_iff (system : System) (pid : Nat) :
    NeverPanics system pid ↔
      (∀ text, system.stat pid = some text → ¬ CutInComm text) ∧
        ∀ text, system.netTcp6 pid = some text → ¬ CutInTable text := by
  constructor
  · rintro ⟨hstat, htables⟩
    constructor
    · intro text htext hcut
      exact hstat (readProcessStartTime_eq_panicked_iff.mpr ⟨text, htext, hcut⟩)
    · intro text htext hcut
      exact htables true (readProcNetTcp_eq_panicked_iff.mpr ⟨rfl, text, htext, hcut⟩)
  · rintro ⟨hstat, htable⟩
    constructor
    · intro hpanicked
      obtain ⟨text, htext, hcut⟩ := readProcessStartTime_eq_panicked_iff.mp hpanicked
      exact hstat text htext hcut
    · intro ipv6 hpanicked
      obtain ⟨-, text, htext, hcut⟩ := readProcNetTcp_eq_panicked_iff.mp hpanicked
      exact htable text htext hcut

/-- A stat line that ends with the name, and an address with a letter of two bytes. -/
def malformed : System :=
  { quietSystem [] [] with
    stat := fun _ => some "7 (app)"
    netTcp6 := fun _ => some
      ("  sl  local_address remote_address st\n" ++
        "   0: 0:0 0000000é00000000000000000000000:01BB 01\n") }

theorem malformed_files_panic :
    readProcessStartTime malformed 7 = .panicked ∧
      readProcNetTcp malformed 7 true = .panicked ∧ ¬ NeverPanics malformed 7 := by
  have hstat : readProcessStartTime malformed 7 = .panicked := by decide +kernel
  exact ⟨hstat, by decide +kernel, fun hnever => hnever.stat hstat⟩

end Tables

end TrafficCone.MalformedProcFiles
