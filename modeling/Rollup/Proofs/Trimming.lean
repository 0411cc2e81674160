/-
  What is left of a text when characters are dropped at its ends.

  Dropping stops at the first character of another class, so what is left begins with none of the
  class, and what was dropped has nothing else (`Sheds`).  Trimming does this from both ends.

  The crux is that both say what the result is and not how it comes about: a text has one part only
  that begins and ends as it should with nothing but white space around it (`trimChars_eq_iff`).
  So white space put around a text is gone when it is trimmed.
-/
import Mathlib.Data.List.TakeWhile
import Rollup.Text.Blank

namespace Rollup.Text

/-! ## Dropping a class of characters -/

/-- `rest` is the text without the characters of the class that it begins with, all of them. -/
structure Sheds (p : Char → Bool) (cs rest : List Char) : Prop where
  dropped : ∃ run, (∀ c ∈ run, p c = true) ∧ cs = run ++ rest
  begins : ∀ c ∈ rest.head?, p c = false

theorem Sheds.dropWhile_eq {p : Char → Bool} {cs rest : List Char} (sheds : Sheds p cs rest) :
    cs.dropWhile p = rest := by
  obtain ⟨⟨run, inside, rfl⟩, begins⟩ := sheds
  rw [List.dropWhile_append_of_pos inside]
  cases rest with
  | nil => rfl
  | cons c rest => rw [List.dropWhile_cons, begins c rfl, if_neg Bool.false_ne_true]

theorem sheds_dropWhile (p : Char → Bool) (cs : List Char) : Sheds p cs (cs.dropWhile p) := by
  refine ⟨⟨cs.takeWhile p, fun c => List.mem_takeWhile_imp, ?_⟩, fun c first => ?_⟩
  · exact List.takeWhile_append_dropWhile.symm
  · have stopped := List.head?_dropWhile_not p cs
    rw [Option.mem_def.mp first] at stopped
    exact stopped

/-- **Dropping** is told by what is left. -/
theorem dropWhile_eq_iff {p : Char → Bool} {cs rest : List Char} :
    cs.dropWhile p = rest ↔ Sheds p cs rest := by
  constructor
  · rintro rfl
    exact sheds_dropWhile p cs
  · exact Sheds.dropWhile_eq

/-! ## Trimming -/

/-- A text of white space, or of nothing. -/
def Blanks (cs : List Char) : Prop := ∀ c ∈ cs, isBlank c = true

theorem Blanks.append {before after : List Char} (hb : Blanks before) (ha : Blanks after) :
    Blanks (before ++ after) := by
  intro c among
  rcases List.mem_append.mp among with early | late
  · exact hb c early
  · exact ha c late

/-- `core` is the text without the white space around it. -/
structure Trims (cs core : List Char) : Prop where
  around : ∃ before after, Blanks before ∧ Blanks after ∧ cs = before ++ core ++ after
  begins : ∀ c ∈ core.head?, isBlank c = false
  ends : ∀ c ∈ core.getLast?, isBlank c = false

theorem trims_trimChars (cs : List Char) : Trims cs (trimChars cs) := by
  -- what is left at the left end, and what is left of that at the other
  obtain ⟨⟨before, opening, whole⟩, begins⟩ := sheds_dropWhile isBlank cs
  obtain ⟨⟨after, closing, turned⟩, ends⟩ :=
    sheds_dropWhile isBlank (cs.dropWhile isBlank).reverse
  have inner : cs.dropWhile isBlank = trimChars cs ++ after.reverse :=
    (List.reverse_eq_iff.mp turned).trans List.reverse_append
  refine ⟨⟨before, after.reverse, opening, fun c among => closing c (List.mem_reverse.mp among),
    ?_⟩, fun c first => begins c ?_, fun c last => ends c ?_⟩
  · rw [List.append_assoc, ← inner]
    exact whole
  · rw [inner, List.head?_append, Option.mem_def.mp first]
    rfl
  · rw [← List.getLast?_reverse]
    exact last

/-- There is one such part only. -/
theorem Trims.trimChars_eq {cs core : List Char} (trims : Trims cs core) : trimChars cs = core := by
  obtain ⟨⟨before, after, opening, closing, rfl⟩, begins, ends⟩ := trims
  have turned : Sheds isBlank (core ++ after).reverse core.reverse := by
    refine ⟨⟨after.reverse, fun c among => closing c (List.mem_reverse.mp among), ?_⟩, ?_⟩
    · exact List.reverse_append
    · rwa [List.head?_reverse]
  unfold trimChars
  rw [List.append_assoc, List.dropWhile_append_of_pos opening]
  rcases core with _ | ⟨c, core⟩
  · -- nothing but white space, all of it dropped from the left
    rw [List.nil_append, List.dropWhile_eq_nil_iff.mpr closing]
    rfl
  · have inner : Sheds isBlank (c :: core ++ after) (c :: core ++ after) :=
      ⟨⟨[], List.forall_mem_nil _, rfl⟩, begins⟩
    rw [inner.dropWhile_eq, turned.dropWhile_eq, List.reverse_reverse]

/-- **Trimming** is told by what is left. -/
theorem trimChars_eq_iff {cs core : List Char} : trimChars cs = core ↔ Trims cs core := by
  constructor
  · rintro rfl
    exact trims_trimChars cs
  · exact Trims.trimChars_eq

/-- A text without white space is as good as trimmed, whatever white space is put around it. -/
theorem trims_of_dense {before core after : List Char} (opening : Blanks before)
    (dense : ∀ c ∈ core, isBlank c = false) (closing : Blanks after) :
    Trims (before ++ core ++ after) core :=
  ⟨⟨before, after, opening, closing, rfl⟩, fun c first => dense c (List.mem_of_mem_head? first),
    fun c last => dense c (List.mem_of_mem_getLast? last)⟩

/-- **White space around a text** is gone when it is trimmed. -/
theorem trimChars_padded {before after : List Char} (opening : Blanks before)
    (closing : Blanks after) (cs : List Char) :
    trimChars (before ++ cs ++ after) = trimChars cs := by
  obtain ⟨⟨b, a, hb, ha, whole⟩, begins, ends⟩ := trims_trimChars cs
  have split : before ++ cs ++ after = before ++ b ++ trimChars cs ++ (a ++ after) :=
    calc before ++ cs ++ after
        = before ++ (b ++ trimChars cs ++ a) ++ after := by rw [← whole]
      _ = before ++ b ++ trimChars cs ++ (a ++ after) := by simp only [List.append_assoc]
  exact trimChars_eq_iff.mpr
    ⟨⟨before ++ b, a ++ after, opening.append hb, ha.append closing, split⟩, begins, ends⟩

end Rollup.Text
