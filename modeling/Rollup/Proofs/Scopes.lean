/-
  Two scopes in step.

  Series are read by two methods, one for the rows of hosts and one for those of the cluster.  Asked
  the same, they refuse for the same reason, or plan at the same granularity, with the same values,
  and keep the same request.  Their statements differ in the columns and the table that they begin
  with; all that follows is one text (`Plan.seriesTail`), in which no scope is mentioned.

  The crux is that the scope of the method comes in at three places: the columns, the table, and the
  word by which a refusal calls the rows.  What else depends on a scope, which is the estimate, the
  retention and the table that candidates are ranked in, goes by the request's own scope
  (`Request.scope`), whichever method is asked.
-/
import Rollup.Proofs.Form

namespace Rollup.Plan

open Sql (capText orderText)

/-! ## What no scope is mentioned in -/

/-- All that follows the head of a statement for series: condition, order and cap. -/
def seriesTail (s : Settings) (r : Request) (granularity : Granularity) : String :=
  (r.clause (r.wholeView (some granularity))).whereText
    ++ orderText (orderOf r ["UUID", "SERVER_TIME"])
    ++ capText (r.limit s.defaultLimit)

variable (s : Settings) (now : Int) (r : Request)

/-- A series form filled in is a head of its scope, and what follows. -/
theorem plan_seriesForm (scope : Scope) (granularity : Granularity) :
    (seriesForm scope s r granularity).plan s (some granularity) r.resolved
      = { text := headOf r (seriesColumns scope granularity) (.series scope granularity)
            ++ seriesTail s r granularity
          values := (r.clause (r.wholeView (some granularity))).values
          fetchSize := r.fetchSize.or s.defaultFetchSize
          granularity := some granularity
          table := .series scope granularity
          request := r.resolved.viewed (r.wholeView (some granularity)) } := by
  have fetchSize : r.resolved.fetchSize = r.fetchSize := by
    unfold Request.resolved
    split <;> rfl
  unfold Form.plan Form.text seriesForm seriesTail
  rw [clause_resolved, fetchSize]
  simp only [Option.getD_none, String.append_assoc]

/-! ## The checks -/

/-- The kind of a request is refused to both scopes or to none, with an error that mentions the
    scope only where the request is not for series at all. -/
theorem checkSeries_cases :
    (∃ checked, ∀ scope, checkSeries scope r = checked)
      ∨ ∀ scope, checkSeries scope r = .error (.invalid (.notASeries scope)) := by
  unfold checkSeries
  cases r.kind with
  | plain | ranked _ => exact .inl ⟨_, fun _ => rfl⟩
  | transient _ | metadata _ => exact .inr fun _ => rfl

/-- So are all the checks together, up to the granularity that they end with. -/
theorem check_series_cases :
    (∃ checked, ∀ scope, (Method.series scope).check s now r = checked)
      ∨ ∀ scope, (Method.series scope).check s now r = .error (.invalid (.notASeries scope)) := by
  simp only [Method.check]
  cases checkNonempty r with
  | error e => exact .inl ⟨.error e, fun _ => rfl⟩
  | ok _ =>
    rcases checkSeries_cases r with ⟨checked, same⟩ | refused
    · exact .inl ⟨checked >>= fun _ => s.resolve r now, fun scope => by rw [same scope]; rfl⟩
    · exact .inr fun scope => by rw [refused scope]; rfl

/-! ## The plans -/

/-- **The two scopes are in step.**  Either both refuse with one error, or both say that the request
    is not for series, each by the name of its own rows; or both plan, and their plans differ in the
    table and in the head of the statement, which is one for both if the caller brings it. -/
theorem series_in_step :
    (∃ e, ∀ scope, series scope s now r = .error e)
      ∨ (∀ scope, series scope s now r = .error (.invalid (.notASeries scope))
        ∧ (PlanError.invalid (.notASeries scope)).message
          = "invalid request: " ++ (scope.noun ++ " queries take a plain or top-n condition"))
      ∨ ∃ granularity, ∀ scope, series scope s now r = .ok
        { text := r.statement.getD ("SELECT " ++ seriesColumns scope granularity ++ " FROM "
              ++ (Table.series scope granularity).name) ++ seriesTail s r granularity
          values := (r.clause (r.wholeView (some granularity))).values
          fetchSize := r.fetchSize.or s.defaultFetchSize
          granularity := some granularity
          table := .series scope granularity
          request := r.resolved.viewed (r.wholeView (some granularity)) } := by
  rcases check_series_cases s now r with ⟨checked, same⟩ | refused
  · cases checked with
    | error e =>
      refine .inl ⟨e, fun scope => ?_⟩
      rw [series_eq, same scope]
      rfl
    | ok granularity =>
      refine .inr (.inr ⟨granularity, fun scope => ?_⟩)
      rw [series_eq, same scope]
      exact congrArg Except.ok (plan_seriesForm s r scope granularity)
  · refine .inr (.inl fun scope => ⟨?_, rfl⟩)
    rw [series_eq, refused scope]
    rfl

end Rollup.Plan
