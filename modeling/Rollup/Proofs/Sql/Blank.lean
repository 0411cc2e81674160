/-
  Blank filters.

  To blank a filter is to put an empty value of the same kind in place of each of its values.  The
  crux is that blanking passes through writing a filter out (`Predicate.clause_blank`): the blank
  filter has the text of the filter itself, and the blanks of its values.  So whatever two filters
  with the same blank are written as, their texts are one.
-/
import Rollup.Proofs.Sql.Condition

namespace Rollup

/-! ## Blank values -/

/-- The empty value of the same kind. -/
def Value.blank : Value → Value
  | bytes _ => .bytes []
  | text _ => .text ""
  | integer _ => .integer 0

theorem Value.kind_blank (v : Value) : v.blank.kind = v.kind := by cases v <;> rfl

namespace Sql

/-- The test with blank values. -/
def Test.blank : Test → Test
  | compare c r v => compare c r v.blank
  | member c negated vs => member c negated (vs.map Value.blank)

/-- The factor with blank values. -/
def Factor.blank : Factor → Factor
  | one t => one t.blank
  | anyOf ts => anyOf (ts.map Test.blank)
  | allOf ts => allOf (ts.map Test.blank)

/-- The filter with blank values. -/
def Filter.blank (f : Filter) : Filter := f.map Factor.blank

/-- The filter by rank with blank values. -/
def RankedFilter.blank (f : RankedFilter) : RankedFilter :=
  { f with candidates := Filter.blank f.candidates, window := Filter.blank f.window }

/-- The predicate with blank values. -/
def Predicate.blank : Predicate → Predicate
  | plain f => plain (Filter.blank f)
  | ranked f => ranked f.blank

/-- The clause with blank values, its text as it is. -/
def Clause.blank (c : Clause) : Clause := { c with values := c.values.map Value.blank }

theorem Filter.blank_append (f g : Filter) : blank (f ++ g) = blank f ++ blank g :=
  List.map_append

theorem Factor.blank_group (negated : Bool) (ts : List Test) :
    (group negated ts).blank = group negated (ts.map Test.blank) := by
  cases negated <;> rfl

/-! ## Blanking passes through writing out -/

theorem Clause.and_blank (c d : Clause) : (c.and d).blank = c.blank.and d.blank := by
  have silent : d.blank.isEmpty = d.isEmpty := rfl
  unfold Clause.and
  rw [silent]
  split
  · rfl
  · simp only [blank, List.map_append]
    rfl

theorem Test.clause_blank (t : Test) : t.blank.clause = t.clause.blank := by
  cases t with
  | compare c r v => rfl
  | member c negated vs =>
    simp only [Test.blank, Test.clause, Clause.blank, List.length_map]

theorem Factor.enclosed_blank (word : String) (ts : List Test) :
    enclosed word (ts.map Test.blank) = (enclosed word ts).blank := by
  have each : ∀ t : Test, t.blank.clause = t.clause.blank := Test.clause_blank
  simp only [enclosed, Clause.blank, List.map_map, List.flatMap_map, List.map_flatMap,
    Function.comp_def, each]

theorem Factor.clause_blank (x : Factor) : x.blank.clause = x.clause.blank := by
  cases x with
  | one t => exact t.clause_blank
  | anyOf ts => exact enclosed_blank " OR " ts
  | allOf ts => exact enclosed_blank " AND " ts

theorem Filter.clause_blank (f : Filter) :
    Filter.clause (Filter.blank f) = (Filter.clause f).blank := by
  have joined : ∀ c : Clause, ((Filter.blank f).map Factor.clause).foldl Clause.and c.blank
      = ((f.map Factor.clause).foldl Clause.and c).blank := by
    unfold Filter.blank
    induction f with
    | nil => exact fun _ => rfl
    | cons x f ih =>
      intro c
      simp only [List.map_cons, List.foldl_cons, Factor.clause_blank, ← Clause.and_blank]
      exact ih _
  exact joined .empty

theorem RankedFilter.clause_blank (f : RankedFilter) : f.blank.clause = f.clause.blank := by
  have condition : (Filter.clause (Filter.blank f.candidates)).whereText
      = (Filter.clause f.candidates).whereText := by
    rw [Filter.clause_blank]
    rfl
  have values : (Filter.clause (Filter.blank f.candidates)).values
      = (Filter.clause f.candidates).values.map Value.blank := by
    rw [Filter.clause_blank]
    rfl
  have membership : f.blank.membership = f.membership.blank := by
    unfold RankedFilter.membership RankedFilter.blank Clause.blank
    simp only [condition, values]
  unfold RankedFilter.clause
  rw [Clause.and_blank, membership, ← Filter.clause_blank]
  rfl

/-- **Blanking passes through writing out.** -/
theorem Predicate.clause_blank (p : Predicate) : p.blank.clause = p.clause.blank := by
  cases p with
  | plain f => exact Filter.clause_blank f
  | ranked f => exact f.clause_blank

/-- A clause has as many values, and of the same kinds, as its blank. -/
theorem Clause.kinds_blank (c : Clause) :
    c.blank.values.map Value.kind = c.values.map Value.kind := by
  unfold Clause.blank
  rw [List.map_map]
  exact List.map_congr_left fun v _ => v.kind_blank

end Sql

end Rollup
