/-
  Pinning the granularity that was found.

  A request for series that pins no granularity is read at the one that the planner finds.  Its
  caller may pin that one and ask again, and then takes another path: nothing is searched, no
  retention is looked at, the estimate must be within the limit whatever the granularity, and every
  row is asked for.  Both paths end with the same statement, but for the cap on its rows.

  The crux is that a pinned granularity reaches the budget and the cap, and nothing else
  (`clause_pinning`, `text_pinning`).  What the search found is within the limit already, unless it
  is days, to which the search falls back without looking at the estimate; so days are the one
  granularity that can be found and not be pinned.
-/
import Rollup.Proofs.Budget
import Rollup.Proofs.Refusals

namespace Rollup

open Sql (capText)

/-! ## A request that pins a granularity -/

namespace Request

/-- The request with a granularity pinned. -/
def pinning (r : Request) (granularity : Granularity) : Request :=
  { r with granularity := some granularity }

variable (r : Request) (granularity : Granularity)

/-- No view shows the granularity that is pinned. -/
theorem clause_pinning (view : View) : (r.pinning granularity).clause view = r.clause view := by
  cases view <;> rfl

/-- Pinning lifts the cap. -/
theorem limit_pinning (default : Int) : (r.pinning granularity).limit default = none := by
  simp [limit, pinning]

/-- A request that pins nothing is planned as it came. -/
theorem resolved_unpinned {r : Request} (unpinned : r.granularity = none) : r.resolved = r := by
  simp [resolved, unpinned]

/-- Without a granularity only the caller can lift the cap. -/
theorem capText_unpinned {r : Request} (unpinned : r.granularity = none) (default : Int) :
    capText (r.limit default)
      = if r.unlimited then "" else " LIMIT " ++ toString (r.givenLimit.getD default) := by
  rw [limit, unpinned, Option.isSome_none, Bool.or_false]
  cases r.unlimited <;> rfl

end Request

/-! ## The budget on either path -/

namespace Settings

variable {s : Settings} {r : Request} {now : Int} {granularity : Granularity}

/-- A granularity that is not pinned is searched for, and one is always found. -/
theorem resolve_unpinned (unpinned : r.granularity = none) :
    s.resolve r now = .ok granularity ↔ s.finest r now = granularity := by
  rw [resolve, unpinned]
  show Except.ok _ = Except.ok _ ↔ _
  rw [Except.ok.injEq]

/-- A granularity that is pinned is taken, at any time, if the estimate allows it. -/
theorem resolve_pinning (s : Settings) (r : Request) (granularity : Granularity) (now : Int) :
    s.resolve (r.pinning granularity) now
      = if r.names = [] ∨ s.estimate r granularity ≤ s.resultLimit then .ok granularity
        else .error (r.excess s granularity) := by
  show (s.checkBudget (r.pinning granularity) granularity).map (fun _ => granularity) = _
  rw [Plan.checkBudget_eq]
  -- The budget of the request does not depend on what it pins.
  show Except.map _ (if r.names = [] ∨ s.estimate r granularity ≤ s.resultLimit then _ else _) = _
  split <;> rfl

end Settings

/-! ## One statement on either path -/

namespace Plan

variable {scope : Scope} {s : Settings} {now : Int} {r : Request} {p : Plan}

/-- Looking for a granularity changes no text. -/
theorem text_resolved (f : Form) (r : Request) : f.text r.resolved = f.text r := by
  rw [Form.text, clause_resolved]
  rfl

/-- The statement that reads at a granularity is that of the request which pins it, with the cap
    that pinning lifts. -/
theorem text_pinning (scope : Scope) (s : Settings) (r : Request) (granularity : Granularity) :
    (seriesForm scope s r granularity).text r
      = (seriesForm scope s (r.pinning granularity) granularity).text (r.pinning granularity)
        ++ capText (r.limit s.defaultLimit) := by
  have condition := r.clause_pinning granularity (r.wholeView (some granularity))
  have uncapped : (seriesForm scope s (r.pinning granularity) granularity).after
      = Sql.orderText (orderOf r ["UUID", "SERVER_TIME"]) := by
    show Sql.orderText (orderOf r _) ++ capText ((r.pinning granularity).limit _) = _
    rw [Request.limit_pinning]
    exact String.append_empty
  show headOf r _ _ ++ (r.clause _).whereText ++ (_ ++ _)
    = headOf r _ _ ++ ((r.pinning granularity).clause (r.wholeView _)).whereText
      ++ (seriesForm scope s (r.pinning granularity) granularity).after ++ _
  rw [condition, uncapped]
  simp only [String.append_assoc]
  rfl

/-- A request that passed the checks of its kind still does so once it pins a granularity; what is
    left is its budget. -/
theorem series_pinning (nonempty : r.isEmpty = false) (fits : checkSeries scope r = .ok ())
    (granularity : Granularity) (now : Int) :
    series scope s now (r.pinning granularity)
      = if r.names = [] ∨ s.estimate r granularity ≤ s.resultLimit then
          .ok ((seriesForm scope s (r.pinning granularity) granularity).plan s (some granularity)
            (r.pinning granularity).resolved)
        else .error (r.excess s granularity) := by
  have asks : checkNonempty (r.pinning granularity) = .ok () := checkNonempty_eq_ok.mpr nonempty
  have kind : checkSeries scope (r.pinning granularity) = .ok () := fits
  rw [series_eq]
  simp only [Method.check]
  rw [asks, kind]
  show Except.map _ (s.resolve (r.pinning granularity) now) = _
  rw [Settings.resolve_pinning]
  split <;> rfl

/-- **Found and pinned granularities agree.**  A request for series that pins no granularity, and is
    planned at one that was found, can pin that one just if it names nothing or its estimate is
    within the limit, which is always so but for days, and is otherwise refused for its budget.  The
    plan then has the table, the granularity, the values and the fetch size that it had before, and
    its statement is the one from before without the cap. -/
theorem series_pinned (unpinned : r.granularity = none)
    (planned : series scope s now r = .ok p) :
    ∃ granularity q, p.granularity = some granularity
      ∧ (granularity ≠ .days → s.estimate r granularity ≤ s.resultLimit)
      ∧ (∀ later, series scope s later (r.pinning granularity)
          = if r.names = [] ∨ s.estimate r granularity ≤ s.resultLimit then .ok q
            else .error (r.excess s granularity))
      ∧ q.table = p.table ∧ q.granularity = p.granularity ∧ q.values = p.values
      ∧ q.fetchSize = p.fetchSize
      ∧ p.text = q.text
        ++ (if r.unlimited then "" else " LIMIT " ++ toString (r.givenLimit.getD s.defaultLimit)) := by
  obtain ⟨nonempty, fits, granularity, found, rfl⟩ := series_eq_ok.mp planned
  have searched : s.finest r now = granularity := (Settings.resolve_unpinned unpinned).mp found
  have as_it_came : r.resolved = r := Request.resolved_unpinned unpinned
  refine ⟨granularity, _, rfl, ?within,
    fun later => series_pinning nonempty fits granularity later, rfl, rfl, ?values, ?fetchSize,
    ?text⟩
  case within =>
    intro not_days
    rw [← searched] at not_days ⊢
    exact (Settings.finest_admitted not_days).1
  case values =>
    show ((r.pinning granularity).resolved.clause (r.wholeView _)).values
      = (r.resolved.clause (r.wholeView _)).values
    rw [clause_resolved, clause_resolved, Request.clause_pinning]
  case fetchSize =>
    rw [as_it_came]
    rfl
  case text =>
    show (seriesForm scope s r granularity).text r.resolved
      = (seriesForm scope s (r.pinning granularity) granularity).text
          (r.pinning granularity).resolved ++ _
    rw [text_resolved, text_resolved, text_pinning, Request.capText_unpinned unpinned]

/-- Two metrics of a host are ranked at seconds.  Pinned, these give the same ranking uncapped. -/
theorem series_pinned_ranking :
    ∃ p q, series .perHost .standard 2000000
        { kind := .ranked ⟨2, false, none⟩, sharedNames := ["load%", "cpu_user"],
          hosts := some ["web1"], givenStart := some 1000, givenFinish := some 2000 } = .ok p
      ∧ p.granularity = some .seconds
      ∧ series .perHost .standard 0
        { kind := .ranked ⟨2, false, none⟩, sharedNames := ["load%", "cpu_user"],
          hosts := some ["web1"], givenStart := some 1000, givenFinish := some 2000,
          granularity := some .seconds } = .ok q
      ∧ q.values = p.values ∧ p.text = q.text ++ " LIMIT 5760" := by
  obtain ⟨p, planned, found⟩ : ∃ p, series .perHost .standard 2000000
        { kind := .ranked ⟨2, false, none⟩, sharedNames := ["load%", "cpu_user"],
          hosts := some ["web1"], givenStart := some 1000, givenFinish := some 2000 } = .ok p
      ∧ p.granularity = some .seconds := ⟨_, rfl, rfl⟩
  obtain ⟨granularity, q, at_it, -, pinned, -, -, values, -, text⟩ := series_pinned rfl planned
  obtain rfl : Granularity.seconds = granularity := Option.some.inj (found.symm.trans at_it)
  exact ⟨p, q, planned, found, (pinned 0).trans (if_pos (.inr (by decide))), values, text⟩

end Plan

end Rollup
