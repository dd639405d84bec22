import TrafficCone.SshAgentAnswers
import TrafficCone.SshIdentities

namespace TrafficCone.SshStrings

open TrafficCone.Outcomes
open TrafficCone.StoreModels
open TrafficCone.LengthFraming
open TrafficCone.SshAgentServing
open TrafficCone.SshAgentAnswers
open TrafficCone.SshIdentities

/-- Strings read one after the other, so many of them, and what follows. -/
def readStrings : Nat → Bytes → Outcome String (List Bytes × Bytes)
  | 0, cursor => .ok ([], cursor)
  | count + 1, cursor => do
      let (text, rest) ← readString cursor
      let (texts, rest) ← readStrings count rest
      pure (text :: texts, rest)

section Reading

variable {cursor rest text : Bytes} {value : Nat}

theorem readU32_eq_ok_iff :
    readU32 cursor = .ok (value, rest) ↔
      cursor = toBigEndian value ++ rest ∧ value < UInt32.size := by
  constructor
  · intro h
    obtain ⟨⟨buf, after⟩, hread, hvalue⟩ := Outcome.bind_eq_ok_iff.mp h
    obtain ⟨rfl, rfl⟩ := Prod.mk.inj (Outcome.ok.inj hvalue)
    rw [Outcome.ofOption_eq_ok_iff] at hread
    obtain ⟨rfl, hlength⟩ := readExact_eq_some_iff.mp hread
    have hbuf := toBigEndian_fromBigEndian hlength
    refine ⟨by rw [hbuf], ?_⟩
    rw [← hbuf, fromBigEndian_toBigEndian]
    exact Nat.mod_lt _ (by decide)
  · rintro ⟨rfl, hvalue⟩
    exact readU32_toBigEndian hvalue rest

theorem readString_eq_ok_iff :
    readString cursor = .ok (text, rest) ↔
      cursor = writeString text ++ rest ∧ text.length ≤ 256 * 1024 := by
  constructor
  · intro h
    obtain ⟨⟨len, after⟩, hlen, htext⟩ := Outcome.bind_eq_ok_iff.mp h
    obtain ⟨rfl, -⟩ := readU32_eq_ok_iff.mp hlen
    dsimp only at htext
    split at htext
    · cases htext
    · rename_i hsize
      rw [Outcome.ofOption_eq_ok_iff] at htext
      obtain ⟨rfl, rfl⟩ := readExact_eq_some_iff.mp htext
      exact ⟨by rw [writeString, frame, List.append_assoc], not_lt.mp hsize⟩
  · rintro ⟨rfl, hsize⟩
    exact readString_writeString hsize rest

theorem exists_readString_eq_err_iff :
    (∃ error, readString cursor = .err error) ↔
      ∀ text rest, text.length ≤ 256 * 1024 → cursor ≠ writeString text ++ rest := by
  constructor
  · rintro ⟨error, herror⟩ text rest hsize hcursor
    rw [readString_eq_ok_iff.mpr ⟨hcursor, hsize⟩] at herror
    cases herror
  · intro hnone
    cases hread : readString cursor with
    | ok found =>
        obtain ⟨hcursor, hsize⟩ := readString_eq_ok_iff.mp hread
        exact absurd hcursor (hnone found.1 found.2 hsize)
    | err error => exact ⟨error, rfl⟩
    | panicked => exact absurd hread (readString_ne_panicked cursor)

end Reading

section Encodings

theorem readStrings_flatMap_writeString {texts : List Bytes}
    (hsizes : ∀ text ∈ texts, text.length ≤ 256 * 1024) (tail : Bytes) :
    readStrings texts.length (texts.flatMap writeString ++ tail) = .ok (texts, tail) := by
  induction texts with
  | nil => rfl
  | cons text texts ih =>
      rw [List.forall_mem_cons] at hsizes
      rw [List.flatMap_cons, List.append_assoc, List.length_cons, readStrings,
        readString_writeString hsizes.1, Outcome.ok_bind]
      dsimp only
      rw [ih hsizes.2]
      rfl

/-- What stands behind the length of a string tells where the string ends. -/
theorem writeString_append_inj {first second rest more : Bytes}
    (hfirst : first.length < UInt32.size) (hsecond : second.length < UInt32.size)
    (h : writeString first ++ rest = writeString second ++ more) :
    first = second ∧ rest = more := by
  have htaken := takeFrame_frame hfirst rest
  rw [← writeString, h, writeString, takeFrame_frame hsecond more] at htaken
  obtain ⟨htexts, htails⟩ := Prod.mk.inj (Option.some.inj htaken)
  exact ⟨htexts.symm, htails.symm⟩

theorem readString_truncated {text cursor : Bytes} (hsize : text.length < UInt32.size)
    (hleading : cursor <+: writeString text) (hproper : cursor ≠ writeString text) :
    ∃ error, readString cursor = .err error := by
  rw [exists_readString_eq_err_iff]
  rintro found rest hfound rfl
  obtain ⟨more, hmore⟩ := hleading
  rw [List.append_assoc, ← List.append_nil (writeString text)] at hmore
  have hfoundSize : found.length < UInt32.size := lt_of_le_of_lt hfound (by decide)
  obtain ⟨rfl, hrest⟩ := writeString_append_inj hfoundSize hsize hmore
  obtain ⟨rfl, -⟩ := List.append_eq_nil_iff.mp hrest
  exact hproper (List.append_nil _)

theorem readString_oversized {text : Bytes} (hlarge : 256 * 1024 < text.length)
    (hsize : text.length < UInt32.size) (tail : Bytes) :
    ∃ error, readString (writeString text ++ tail) = .err error := by
  rw [exists_readString_eq_err_iff]
  intro found rest hfound hsame
  have hfoundSize : found.length < UInt32.size := lt_of_le_of_lt hfound (by decide)
  obtain ⟨rfl, -⟩ := writeString_append_inj hsize hfoundSize hsame
  exact absurd hlarge (not_lt.mpr hfound)

/-- A text may be too long for four bytes to say how long it is. Its encoding is then also
that of its first bytes, with the others behind them. -/
theorem writeString_eq_append (text : Bytes) :
    writeString text =
      writeString (text.take (text.length % UInt32.size)) ++
        text.drop (text.length % UInt32.size) := by
  have hlength : (text.take (text.length % UInt32.size)).length = text.length % UInt32.size :=
    List.length_take_of_le (Nat.mod_le _ _)
  have hlengths : toBigEndian (text.length % UInt32.size) = toBigEndian text.length := by
    rw [← fromBigEndian_toBigEndian, toBigEndian_fromBigEndian (toBigEndian_length _)]
  rw [writeString, writeString, frame, frame, hlength, hlengths, List.append_assoc,
    List.take_append_drop]

/-- The bytes end before the text does, or the text is said to be longer than is read. -/
def Rejected (cursor : Bytes) : Prop :=
  cursor.length < 4 ∨ 256 * 1024 < LengthFraming.fromBigEndian (cursor.take 4) ∨
    cursor.length < 4 + LengthFraming.fromBigEndian (cursor.take 4)

theorem exists_readString_eq_err_iff_rejected {cursor : Bytes} :
    (∃ error, readString cursor = .err error) ↔ Rejected cursor := by
  rw [exists_readString_eq_err_iff, Rejected]
  constructor
  · intro hnone
    by_contra haccepted
    rw [not_or, not_or, not_lt, not_lt, not_lt] at haccepted
    obtain ⟨hfour, hsize, hlength⟩ := haccepted
    have hcount : ((cursor.drop 4).take (LengthFraming.fromBigEndian (cursor.take 4))).length =
        LengthFraming.fromBigEndian (cursor.take 4) := by
      rw [List.length_take, List.length_drop]
      omega
    refine hnone ((cursor.drop 4).take (LengthFraming.fromBigEndian (cursor.take 4)))
      ((cursor.drop 4).drop (LengthFraming.fromBigEndian (cursor.take 4)))
      (by rw [hcount]; exact hsize) ?_
    rw [writeString, frame, hcount, toBigEndian_fromBigEndian (List.length_take_of_le hfour),
      List.append_assoc, List.take_append_drop, List.take_append_drop]
  · rintro hrejected text rest hsize rfl
    have hbytes : (writeString text ++ rest).take 4 = toBigEndian text.length := by
      rw [writeString, frame, List.append_assoc, List.take_left' (toBigEndian_length _)]
    have hlength : (writeString text ++ rest).length = 4 + text.length + rest.length := by
      rw [List.length_append, writeString, frame, List.length_append, toBigEndian_length]
    have hfits : text.length < UInt32.size := lt_of_le_of_lt hsize (by decide)
    rw [hbytes, fromBigEndian_toBigEndian, Nat.mod_eq_of_lt hfits, hlength] at hrejected
    omega

end Encodings

/-- Reading undoes writing and takes only what has been written; what is cut off or too
long is an error, and nothing else is. -/
theorem ssh_string_codec :
    (∀ texts : List Bytes, (∀ text ∈ texts, text.length ≤ 256 * 1024) → ∀ tail,
      readStrings texts.length (texts.flatMap writeString ++ tail) = .ok (texts, tail)) ∧
    (∀ cursor text rest, readString cursor = .ok (text, rest) →
      cursor = writeString text ++ rest ∧ text.length ≤ 256 * 1024) ∧
    (∀ text : Bytes, text.length < UInt32.size → ∀ cursor, cursor <+: writeString text →
      cursor ≠ writeString text → ∃ error, readString cursor = .err error) ∧
    (∀ text : Bytes, 256 * 1024 < text.length → text.length < UInt32.size → ∀ tail,
      ∃ error, readString (writeString text ++ tail) = .err error) ∧
    ∀ cursor, (∃ error, readString cursor = .err error) ↔ Rejected cursor :=
  ⟨fun _ hsizes tail => readStrings_flatMap_writeString hsizes tail,
    fun _ _ _ hread => readString_eq_ok_iff.mp hread,
    fun _ hsize _ hleading hproper => readString_truncated hsize hleading hproper,
    fun _ hlarge hsize tail => readString_oversized hlarge hsize tail,
    fun _ => exists_readString_eq_err_iff_rejected⟩

example : readStrings 2 (writeString [1, 2] ++ writeString [] ++ [7]) =
    .ok ([[1, 2], []], [7]) := by
  decide

end TrafficCone.SshStrings
