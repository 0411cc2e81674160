/-
  What conditions are put together from.

  A condition is written from a few words (`vocabulary`), set side by side and now and then put in
  parentheses.  So a property of texts that all of these words have, and that is passed on to texts
  side by side and in parentheses, belongs to every condition, whatever is filtered
  (`Compositional.filter`).

  The induction is over the filter and is done here once.  Parentheses are a case of their own: they
  come in pairs only, and neither of the two is a word.
-/
import Rollup.Sql.Filter

namespace Rollup.Sql

/-! ## Texts with a separator -/

/-- What is passed on to texts side by side is passed on to texts with a separator. -/
theorem intercalate_of_append {P : String → Prop} (empty : P "")
    (append : ∀ {s t}, P s → P t → P (s ++ t)) {sep : String} (between : P sep) :
    ∀ ts : List String, (∀ t ∈ ts, P t) → P (String.intercalate sep ts)
  | [], _ => by
    rw [String.intercalate_nil]
    exact empty
  | [t], each => by
    rw [String.intercalate_singleton]
    exact each t List.mem_cons_self
  | t :: u :: ts, each => by
    have rest := intercalate_of_append empty append between (u :: ts) fun v among =>
      each v (List.mem_cons_of_mem _ among)
    rw [String.intercalate_cons_cons]
    exact append (append (each t List.mem_cons_self) between) rest

/-! ## Properties of conditions -/

/-- The words of conditions: names of columns, operators, and what stands between them. -/
def vocabulary : List String :=
  ["", " ", ", ", " ?", "?", " IN ", " NOT IN ", " AND ", " OR ", "=", "<>", "LIKE", "NOT LIKE",
    ">=", "<", "UUID", "METRIC_NAME", "HOSTNAME", "APP_ID", "INSTANCE_ID", "SERVER_TIME"]

/-- A property of all words that is passed on to texts side by side and to a text in parentheses. -/
structure Compositional (P : String → Prop) : Prop where
  words : ∀ w ∈ vocabulary, P w
  append : ∀ {s t}, P s → P t → P (s ++ t)
  enclosed : ∀ {s}, P s → P ("(" ++ s ++ ")")

namespace Compositional

variable {P : String → Prop} (hP : Compositional P)

include hP

theorem intercalate {sep : String} (between : P sep) (ts : List String) (each : ∀ t ∈ ts, P t) :
    P (String.intercalate sep ts) :=
  intercalate_of_append (hP.words "" (by decide +kernel)) hP.append between ts each

theorem column (c : Column) : P c.text := by
  cases c <;> exact hP.words _ (by decide +kernel)

theorem relation (r : Relation) : P r.text := by
  cases r <;> exact hP.words _ (by decide +kernel)

theorem placeholderList (n : Nat) : P (Test.placeholderList n) := by
  have comma : P ", " := hP.words _ (by decide +kernel)
  have mark : P "?" := hP.words _ (by decide +kernel)
  refine hP.intercalate comma _ fun t among => ?_
  rw [List.eq_of_mem_replicate among]
  exact mark

theorem test (t : Test) : P t.clause.text := by
  cases t with
  | compare c r v =>
    have blank : P " " := hP.words _ (by decide +kernel)
    have mark : P " ?" := hP.words _ (by decide +kernel)
    exact hP.append (hP.append (hP.append (hP.column c) blank) (hP.relation r)) mark
  | member c negated vs =>
    have word : P (if negated then " NOT IN " else " IN ") := by
      cases negated <;> exact hP.words _ (by decide +kernel)
    have whole := hP.append (hP.append (hP.column c) word)
      (hP.enclosed (hP.placeholderList vs.length))
    have text : c.text ++ (if negated then " NOT IN " else " IN ")
          ++ ("(" ++ Test.placeholderList vs.length ++ ")")
        = c.text ++ (if negated then " NOT IN (" else " IN (") ++ Test.placeholderList vs.length
          ++ ")" := by
      cases negated
      · rw [show " IN (" = " IN " ++ "(" from rfl]
        simp only [String.append_assoc, Bool.false_eq_true, if_false]
      · rw [show " NOT IN (" = " NOT IN " ++ "(" from rfl]
        simp only [String.append_assoc, if_true]
    rw [text] at whole
    exact whole

theorem factor (x : Factor) : P x.clause.text := by
  have group : ∀ (word : String) (ts : List Test), P word → P (Factor.enclosed word ts).text := by
    intro word ts between
    refine hP.enclosed (hP.intercalate between _ fun t among => ?_)
    obtain ⟨test, -, rfl⟩ := List.mem_map.mp among
    exact hP.test test
  cases x with
  | one t => exact hP.test t
  | anyOf ts => exact group " OR " ts (hP.words _ (by decide +kernel))
  | allOf ts => exact group " AND " ts (hP.words _ (by decide +kernel))

theorem and {c d : Clause} (hc : P c.text) (hd : P d.text) : P (c.and d).text := by
  have word : P " AND " := hP.words _ (by decide +kernel)
  unfold Clause.and
  split
  · exact hc
  · show P (if c.isEmpty then d.text else c.text ++ " AND " ++ d.text)
    split
    · exact hd
    · exact hP.append (hP.append hc word) hd

/-- **Whatever is filtered**, its condition has the property. -/
theorem filter (f : Filter) : P (Filter.clause f).text := by
  have joined : ∀ c : Clause, P c.text → P ((f.map Factor.clause).foldl Clause.and c).text := by
    induction f with
    | nil => exact fun c hc => hc
    | cons x f ih =>
      intro c hc
      exact ih (c.and x.clause) (hP.and hc (hP.factor x))
  exact joined .empty (hP.words "" (by decide +kernel))

end Compositional

end Rollup.Sql
