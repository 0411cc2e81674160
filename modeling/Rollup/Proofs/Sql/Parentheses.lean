/-
  Parentheses in conditions.

  The parentheses of a text come in pairs if each that opens is closed later, and none is closed
  that was not opened (`Paired`).  A text like that can be put inside parentheses: whoever looks for
  the one that closes them passes over the whole text and finds it right behind (`splitClosing`).

  Every condition that a filter writes has its parentheses in pairs, whatever its tests are, and no
  `G` in it, so that no `GROUP` can begin there (`Filter.contained`).  The crux is that a condition
  is made of words that are put side by side or enclosed, and both leave the pairs alone; so there
  is one lemma for each way of putting texts together, and the conditions follow from them.
-/
import Rollup.Proofs.Sql.Composition

namespace Rollup.Sql

/-! ## Pairs -/

/-- The parentheses come in pairs, one pair inside another or one after another. -/
inductive Paired : List Char → Prop
  | nil : Paired []
  | letter {c : Char} {text : List Char} (opens : c ≠ '(') (closes : c ≠ ')') (rest : Paired text) :
    Paired (c :: text)
  | pair {inside after : List Char} (inner : Paired inside) (rest : Paired after) :
    Paired ('(' :: inside ++ ')' :: after)

namespace Paired

variable {s t : List Char}

/-- A text without parentheses. -/
theorem ofLetters (letters : (t.all fun c => c ≠ '(' && c ≠ ')') = true) : Paired t := by
  induction t with
  | nil => exact .nil
  | cons c t ih =>
    rw [List.all_cons, Bool.and_eq_true, Bool.and_eq_true, decide_eq_true_eq,
      decide_eq_true_eq] at letters
    exact .letter letters.1.1 letters.1.2 (ih letters.2)

/-- A word of a statement, without parentheses. -/
theorem ofList {cs : List Char} (letters : (cs.all fun c => c ≠ '(' && c ≠ ')') = true) :
    Paired (String.ofList cs).toList := by
  rw [String.toList_ofList]
  exact ofLetters letters

/-- **Texts side by side.** -/
theorem append (hs : Paired s) (ht : Paired t) : Paired (s ++ t) := by
  induction hs with
  | nil => exact ht
  | letter opens closes _ ih => exact .letter opens closes ih
  | pair inner _ _ ih =>
    rw [List.append_assoc, List.cons_append]
    exact .pair inner ih

/-- A text in parentheses. -/
theorem enclosed (ht : Paired t) : Paired ('(' :: t ++ [')']) := .pair ht .nil

/-- A function applied to an argument. -/
theorem call {name argument : String} (named : Paired name.toList)
    (inside : Paired argument.toList) : Paired (name ++ "(" ++ argument ++ ")").toList := by
  have opened : "(".toList = ['('] := String.toList_ofList
  have closed : ")".toList = [')'] := String.toList_ofList
  simp only [String.toList_append, opened, closed, List.append_assoc]
  exact named.append inside.enclosed

end Paired

/-! ## The parenthesis that closes -/

/-- Splits a text at the parenthesis that closes one opened before it, of which `depth` more were
    opened since. -/
def splitClosing (depth : Nat) : List Char → Option (List Char × List Char)
  | [] => none
  | c :: text =>
    if c = ')' ∧ depth = 0 then some ([], text)
    else
      (splitClosing (if c = '(' then depth + 1 else if c = ')' then depth - 1 else depth) text).map
        fun (inside, after) => (c :: inside, after)

theorem splitClosing_letter {c : Char} (opens : c ≠ '(') (closes : c ≠ ')') (depth : Nat)
    (text : List Char) :
    splitClosing depth (c :: text)
      = (splitClosing depth text).map fun (inside, after) => (c :: inside, after) := by
  simp [splitClosing, opens, closes]

theorem splitClosing_opening (depth : Nat) (text : List Char) :
    splitClosing depth ('(' :: text)
      = (splitClosing (depth + 1) text).map fun (inside, after) => ('(' :: inside, after) := by
  simp [splitClosing]

theorem splitClosing_closing (depth : Nat) (text : List Char) :
    splitClosing (depth + 1) (')' :: text)
      = (splitClosing depth text).map fun (inside, after) => (')' :: inside, after) := by
  simp [splitClosing]

/-- A text whose parentheses come in pairs is passed over as a whole. -/
theorem Paired.splitClosing_append {t : List Char} (paired : Paired t) (depth : Nat)
    (rest : List Char) :
    splitClosing depth (t ++ rest)
      = (splitClosing depth rest).map fun (inside, after) => (t ++ inside, after) := by
  induction paired generalizing depth rest with
  | nil => simp
  | letter opens closes _ ih =>
    rw [List.cons_append, splitClosing_letter opens closes, ih, Option.map_map]
    rfl
  | @pair inside after _ _ ih_inner ih_rest =>
    have around : '(' :: inside ++ ')' :: after ++ rest
        = '(' :: (inside ++ ')' :: (after ++ rest)) := by simp
    rw [around, splitClosing_opening, ih_inner, splitClosing_closing, ih_rest]
    simp only [Option.map_map, Function.comp_def, List.cons_append, List.append_assoc]

/-- **What was enclosed is found** up to the parenthesis that closes it. -/
theorem Paired.splitClosing_eq {t : List Char} (paired : Paired t) (after : List Char) :
    splitClosing 0 (t ++ ')' :: after) = some (t, after) := by
  rw [paired.splitClosing_append]
  show some (t ++ [], after) = some (t, after)
  rw [List.append_nil]

example : splitClosing 0 "A IN (?, ?) OR B) AND C".toList
    = some ("A IN (?, ?) OR B".toList, " AND C".toList) := by decide +kernel

/-! ## Texts that stay where they are put -/

/-- The text leaves parentheses around it alone, and no `GROUP` begins in it. -/
structure Contained (text : String) : Prop where
  paired : Paired text.toList
  ungrouped : 'G' ∉ text.toList

namespace Contained

variable {s t : String}

theorem ofLetters {cs : List Char} (letters : (cs.all fun c => c ≠ '(' && c ≠ ')') = true)
    (ungrouped : 'G' ∉ cs) : Contained (String.ofList cs) := by
  refine ⟨.ofList letters, ?_⟩
  rw [String.toList_ofList]
  exact ungrouped

theorem append (hs : Contained s) (ht : Contained t) : Contained (s ++ t) := by
  constructor
  · rw [String.toList_append]
    exact hs.paired.append ht.paired
  · rw [String.toList_append, List.mem_append]
    rintro (first | second)
    · exact hs.ungrouped first
    · exact ht.ungrouped second

theorem enclosed (ht : Contained t) : Contained ("(" ++ t ++ ")") := by
  have opened : "(".toList = ['('] := String.toList_ofList
  have closed : ")".toList = [')'] := String.toList_ofList
  have ungrouped := ht.ungrouped
  constructor
  · rw [String.toList_append, String.toList_append, opened, closed]
    exact ht.paired.enclosed
  · rw [String.toList_append, String.toList_append, opened, closed]
    simpa using ungrouped

theorem compositional : Compositional Contained where
  words := by
    have letters : ∀ w ∈ vocabulary,
        (w.toList.all fun c => c ≠ '(' && c ≠ ')') = true ∧ 'G' ∉ w.toList := by decide +kernel
    intro w among
    obtain ⟨plain, ungrouped⟩ := letters w among
    exact ⟨.ofLetters plain, ungrouped⟩
  append := append
  enclosed := enclosed

end Contained

/-- **Whatever a filter asks**, its condition stays where it is put. -/
theorem Filter.contained (f : Filter) : Contained (Filter.clause f).text :=
  Contained.compositional.filter f

end Rollup.Sql
