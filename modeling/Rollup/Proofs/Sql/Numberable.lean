/-
  Texts whose placeholders can be numbered.

  A numbered placeholder is a `$` with digits behind it.  It can be told from everything around it if
  the text had no `$` of its own, and no digit directly behind a placeholder (`Numberable`).

  The crux is what may stand directly behind a placeholder.  A text that begins with no digit may
  stand behind any other (`Detached`), and two such texts make one; so nothing need be known of the
  end of a text.  Every word of a condition is of that kind.  Numbers and the names of a caller are
  not, but they have neither `$` nor placeholder (`Plain`), and there is a word before them.
-/
import Mathlib.Data.List.Chain
import Rollup.Proofs.Sql.Composition
import Rollup.Proofs.Sql.Plain

namespace Rollup.Sql

/-! ## Numberable texts -/

/-- The text has no `$`, and no digit stands directly behind a placeholder. -/
structure Numberable (text : List Char) : Prop where
  unmarked : '$' ∉ text
  apart : text.IsChain fun c d => c = placeholder → d.isDigit = false

/-- The text begins with no digit. -/
def Opens (text : List Char) : Prop := ∀ c ∈ text.head?, c.isDigit = false

instance (text : List Char) : Decidable (Numberable text) :=
  decidable_of_iff ('$' ∉ text ∧ text.IsChain fun c d => c = placeholder → d.isDigit = false)
    ⟨fun h => ⟨h.1, h.2⟩, fun h => ⟨h.unmarked, h.apart⟩⟩

instance (text : List Char) : Decidable (Opens text) := Option.decidableForallMem text.head?

theorem numberable_cons {c : Char} {rest : List Char} (numberable : Numberable (c :: rest)) :
    c ≠ '$' ∧ Numberable rest ∧ (c = placeholder → Opens rest) := by
  obtain ⟨unmarked, apart⟩ := numberable
  rw [List.mem_cons, not_or] at unmarked
  rw [List.isChain_cons] at apart
  refine ⟨Ne.symm unmarked.1, ⟨unmarked.2, apart.2⟩, ?_⟩
  intro waits d first
  exact apart.1 d first waits

/-- What begins with no digit may stand behind any text. -/
theorem Numberable.append {s t : List Char} (hs : Numberable s) (ht : Numberable t)
    (opens : Opens t) : Numberable (s ++ t) := by
  constructor
  · rw [List.mem_append, not_or]
    exact ⟨hs.unmarked, ht.unmarked⟩
  · refine List.isChain_append.mpr ⟨hs.apart, ht.apart, ?_⟩
    intro _ _ d first _
    exact opens d first

/-- Where nothing waits no digit is in the way. -/
theorem Plain.numberable {text : String} (plain : Plain text) : Numberable text.toList := by
  refine ⟨plain.unmarked, List.isChain_iff_getElem.mpr fun i within waits => ?_⟩
  exact absurd (waits ▸ List.getElem_mem _) plain.silent

/-! ## Texts that may stand behind a placeholder -/

/-- A numberable text that may stand directly behind a placeholder. -/
structure Detached (text : String) : Prop where
  numberable : Numberable text.toList
  opens : Opens text.toList

instance (text : String) : Decidable (Detached text) :=
  decidable_of_iff (Numberable text.toList ∧ Opens text.toList)
    ⟨fun h => ⟨h.1, h.2⟩, fun h => ⟨h.numberable, h.opens⟩⟩

namespace Detached

variable {s t : String}

/-- **Texts side by side.**  However the first one ends, the second may follow. -/
theorem append (hs : Detached s) (ht : Detached t) : Detached (s ++ t) := by
  constructor
  · rw [String.toList_append]
    exact hs.numberable.append ht.numberable ht.opens
  · intro c first
    rw [String.toList_append, List.head?_append] at first
    cases head : s.toList.head? with
    | none =>
      rw [head] at first
      exact ht.opens c first
    | some d =>
      rw [head] at first
      exact hs.opens c (head.trans first)

/-- A plain text with a word before it. -/
theorem led {word : String} (opens : Opens word.toList) (some_word : word ≠ "")
    (plain : Plain (word ++ t)) : Detached (word ++ t) := by
  refine ⟨plain.numberable, fun c first => ?_⟩
  obtain ⟨d, rest, chars⟩ := List.exists_cons_of_ne_nil
    (mt String.toList_eq_nil_iff.mp some_word)
  rw [String.toList_append, chars] at first
  exact opens c (by rw [chars]; exact first)

theorem compositional : Compositional Detached where
  words := by decide +kernel
  append := append
  enclosed inside := by
    have opened : Detached "(" := by decide +kernel
    have closed : Detached ")" := by decide +kernel
    exact (opened.append inside).append closed

end Detached

/-! ## Statements -/

theorem Clause.whereText_detached {c : Clause} (hc : Detached c.text) : Detached c.whereText := by
  have word : Detached " WHERE " := by decide +kernel
  unfold Clause.whereText
  split
  · decide +kernel
  · exact word.append hc

theorem RankedFilter.detached (f : RankedFilter) : Detached f.clause.text := by
  have opening : Detached f.opening := .led (by decide +kernel) (by decide +kernel) f.opening_plain
  have closing : Detached f.closing := .led (by decide +kernel) (by decide +kernel) f.closing_plain
  have candidates := Clause.whereText_detached (Detached.compositional.filter f.candidates)
  have membership : Detached f.membership.text := by
    rw [f.text_membership_around]
    exact (opening.append candidates).append closing
  exact Detached.compositional.and membership (Detached.compositional.filter f.window)

theorem orderText_detached {terms : List OrderTerm} (plain : ∀ t ∈ terms, Plain t.column) :
    Detached (orderText terms) := by
  have term : ∀ t ∈ terms, Plain t.text := by
    intro t among
    have word : Plain " DESC" := .ofList (by decide)
    unfold OrderTerm.text
    split
    · exact (plain t among).append word
    · exact plain t among
  have columns : Plain (String.intercalate ", " (terms.map OrderTerm.text)) := by
    refine intercalate_of_append (.ofList (by decide)) .append (.ofList (by decide)) _ ?_
    intro text among
    obtain ⟨t, ordered, rfl⟩ := List.mem_map.mp among
    exact term t ordered
  unfold orderText
  split
  · decide +kernel
  · have word : Plain " ORDER BY " := .ofList (by decide)
    exact .led (by decide +kernel) (by decide +kernel) (word.append columns)

theorem capText_detached (cap : Option Int) : Detached (capText cap) := by
  cases cap with
  | none => decide +kernel
  | some rows =>
    exact .led (by decide +kernel) (by decide +kernel) (.cap (some rows))

/-- **Whatever decides** whether a row is read can be numbered, behind any other text. -/
theorem Predicate.detached (p : Predicate) : Detached p.clause.text := by
  cases p with
  | plain f => exact Detached.compositional.filter f
  | ranked f => exact f.detached

end Rollup.Sql
