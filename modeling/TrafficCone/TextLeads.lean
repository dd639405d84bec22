import Mathlib.Data.List.Infix

namespace TrafficCone.TextLeads

def LedBy (words : List String) (text : String) : Prop :=
  ∃ word ∈ words, word.toList <+: text.toList

/-- No word of one list starts a word of the other, in either direction. -/
def Apart (first second : List String) : Prop :=
  ∀ word ∈ first, ∀ other ∈ second,
    ¬ word.toList <+: other.toList ∧ ¬ other.toList <+: word.toList

instance (first second : List String) : Decidable (Apart first second) :=
  inferInstanceAs (Decidable (∀ word ∈ first, ∀ other ∈ second, _))

theorem ledBy_append {words : List String} {word : String} (h : word ∈ words) (rest : String) :
    LedBy words (word ++ rest) :=
  ⟨word, h, by rw [String.toList_append]; exact List.prefix_append _ _⟩

theorem LedBy.not_of_apart {first second : List String} {text : String}
    (hfirst : LedBy first text) (hapart : Apart first second) : ¬ LedBy second text := by
  rintro ⟨other, hother, hotherLeads⟩
  obtain ⟨word, hword, hwordLeads⟩ := hfirst
  have hnot := hapart word hword other hother
  rcases List.prefix_or_prefix_of_prefix hwordLeads hotherLeads with hlead | hlead
  · exact hnot.1 hlead
  · exact hnot.2 hlead

theorem isDigit_of_mem_toString {number : Nat} {letter : Char}
    (h : letter ∈ (toString number).toList) : letter.isDigit = true := by
  rw [Nat.toString_eq_repr, Nat.toList_repr] at h
  exact Nat.isDigit_of_mem_toDigits (by decide) (by decide) h

theorem toString_toList_injective {number other : Nat}
    (h : (toString number).toList = (toString other).toList) : number = other := by
  simp only [Nat.toString_eq_repr, Nat.toList_repr] at h
  have hvalue := congrArg (fun digits => Nat.ofDigitChars 10 digits 0) h
  simpa only [Nat.ofDigitChars_toDigits (show 1 < 10 by decide) (le_refl 10)] using hvalue

theorem takeWhile_digits (number : Nat) {mark : Char} (hmark : mark.isDigit = false)
    (rest : List Char) :
    ((toString number).toList ++ mark :: rest).takeWhile Char.isDigit =
      (toString number).toList := by
  rw [List.takeWhile_append_of_pos fun letter h => isDigit_of_mem_toString h,
    List.takeWhile_cons_of_neg (by simp [hmark]), List.append_nil]

/-- A number is determined by the text that starts with it, if no digit follows. -/
theorem number_eq_of_leading {number other : Nat} {mark : Char}
    (hmark : mark.isDigit = false) {rest rest' : List Char}
    (h : (toString number).toList ++ mark :: rest = (toString other).toList ++ mark :: rest') :
    number = other := by
  have hdigits := congrArg (List.takeWhile Char.isDigit) h
  rw [takeWhile_digits number hmark, takeWhile_digits other hmark] at hdigits
  exact toString_toList_injective hdigits

/-- A number is determined by the text that ends with it, if no digit precedes. -/
theorem number_eq_of_trailing {number other : Nat} {mark : Char}
    (hmark : mark.isDigit = false) {rest rest' : List Char}
    (h : rest ++ mark :: (toString number).toList = rest' ++ mark :: (toString other).toList) :
    number = other := by
  have hdigits := congrArg (fun letters => letters.reverse.takeWhile Char.isDigit) h
  have hreversed : ∀ n : Nat, ∀ letter ∈ (toString n).toList.reverse, letter.isDigit = true :=
    fun n letter hletter => isDigit_of_mem_toString (List.mem_reverse.mp hletter)
  simp only [List.reverse_append, List.reverse_cons, List.append_assoc, List.singleton_append,
    List.takeWhile_append_of_pos (hreversed _),
    List.takeWhile_cons_of_neg (show ¬ mark.isDigit = true by simp [hmark]), List.append_nil,
    List.reverse_inj] at hdigits
  exact toString_toList_injective hdigits

/-- A text without the mark starts another exactly if it starts what is before the mark. -/
theorem prefix_append_mark_iff {mark : Char} {first second : List Char} (h : mark ∉ first)
    (rest : List Char) : first <+: second ++ mark :: rest ↔ first <+: second := by
  constructor
  · intro hlead
    rcases List.prefix_or_prefix_of_prefix hlead (List.prefix_append second (mark :: rest)) with
      hshort | hlong
    · exact hshort
    · obtain ⟨more, rfl⟩ := hlong
      cases more with
      | nil => exact List.prefix_rfl.trans (by rw [List.append_nil])
      | cons letter more =>
          rw [List.prefix_append_right_inj, List.cons_prefix_cons] at hlead
          exact absurd (by simp [hlead.1]) h
  · exact fun hlead => hlead.trans (List.prefix_append _ _)

theorem marked_prefix_iff {mark : Char} {first second rest others : List Char}
    (hfirst : mark ∉ first) (hsecond : mark ∉ second) :
    first ++ mark :: rest <+: second ++ mark :: others ↔ first = second ∧ rest <+: others := by
  constructor
  · intro hlead
    have hshort : first <+: second :=
      (prefix_append_mark_iff hfirst others).mp ((List.prefix_append _ _).trans hlead)
    obtain ⟨more, rfl⟩ := hshort
    rw [List.append_assoc, List.prefix_append_right_inj] at hlead
    cases more with
    | nil =>
        rw [List.nil_append, List.cons_prefix_cons] at hlead
        exact ⟨(List.append_nil first).symm, hlead.2⟩
    | cons letter more =>
        rw [List.cons_append, List.cons_prefix_cons] at hlead
        exact absurd (by simp [hlead.1]) hsecond
  · rintro ⟨rfl, hlead⟩
    rw [List.prefix_append_right_inj, List.cons_prefix_cons]
    exact ⟨rfl, hlead⟩

end TrafficCone.TextLeads
