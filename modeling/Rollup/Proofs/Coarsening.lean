/-
  Coarser rows never cost more.

  A coarser granularity has its rows further apart, if the intervals are what they are for: the rows
  of seconds at most as far apart as those of minutes, and the rows of minutes at most an hour
  (`Settings.Graded`, which the standard settings are).  Nothing else is asked of the settings, and
  nothing of the window.

  The crux is that the rows of a window are one quotient, by the time from row to row
  (`Settings.rows_eq_ediv`).  However the planner divides on the way, a longer step has no more rows,
  and the estimate is these rows times a number of series, cut off once.  So from the finest
  granularity that is affordable on, all are; and where the search still passes one over, it is for
  the start of the window alone.
-/
import Rollup.Proofs.Monotonicity

namespace Rollup

namespace Settings

/-! ## Steps -/

/-- The rows of a scope lie further apart the coarser they are: those of seconds at most as far as
    those of minutes, and those of minutes at most an hour.  An interval counts as the planner
    counts it, as one second at least, and in whole minutes and as one of them at least. -/
structure Graded (s : Settings) (scope : Scope) : Prop where
  seconds : max 1 (s.intervals scope).second ≤ 60 * max 1 ((s.intervals scope).minute.tdiv 60)
  minutes : max 1 ((s.intervals scope).minute.tdiv 60) ≤ 60

theorem graded_standard (scope : Scope) : standard.Graded scope := by
  cases scope <;> constructor <;> decide

variable {s : Settings} {scope : Scope} {r : Request} {g g' : Granularity}

theorem Graded.step_mono (graded : s.Graded scope) (coarser : g ≤ g') :
    s.step scope g ≤ s.step scope g' := by
  have minute : s.step scope .seconds ≤ s.step scope .minutes := by
    have seconds := graded.seconds
    simp only [step]
    omega
  have hour : s.step scope .minutes ≤ s.step scope .hours := by
    have minutes := graded.minutes
    simp only [step]
    omega
  have day : s.step scope .hours ≤ s.step scope .days := by
    simp only [step]
    omega
  cases g <;> cases g' <;>
    first
      | exact absurd coarser (by decide)
      | omega

/-! ## Rows -/

/-- What is shared out in larger parts makes no more of them. -/
theorem ediv_le_ediv_of_le {n a b : Int} (nonneg : 0 ≤ n) (pos : 0 < a) (larger : a ≤ b) :
    n / b ≤ n / a := by
  have quotient : 0 ≤ n / b := Int.ediv_nonneg nonneg (by omega)
  refine Int.le_ediv_of_mul_le pos ?_
  calc n / b * a ≤ n / b * b := Int.mul_le_mul_of_nonneg_left larger quotient
    _ ≤ n := Int.ediv_mul_le n (by omega)

theorem Graded.rows_antitone (graded : s.Graded scope) (coarser : g ≤ g') (window : Int) :
    s.rows scope g' window ≤ s.rows scope g window := by
  have nonneg : 0 ≤ max window 0 := by omega
  rw [rows_eq_ediv, rows_eq_ediv]
  exact ediv_le_ediv_of_le nonneg (s.step_pos scope g) (graded.step_mono coarser)

theorem Graded.rowsOver_antitone (graded : s.Graded r.scope) (coarser : g ≤ g') {span : Int}
    (nonneg : 0 ≤ span) : s.rowsOver r g' span ≤ s.rowsOver r g span := by
  have rows : span / s.step r.scope g' ≤ span / s.step r.scope g :=
    ediv_le_ediv_of_le nonneg (s.step_pos r.scope g) (graded.step_mono coarser)
  exact Int.mul_le_mul_of_nonneg_right rows (Int.natCast_nonneg _)

theorem Graded.estimate_antitone (graded : s.Graded r.scope) (coarser : g ≤ g') :
    s.estimate r g' ≤ s.estimate r g := by
  have top : (0 : Int) ≤ Saturated.greatest := by decide
  have nonneg := r.span_nonneg
  have measured : 0 ≤ min Saturated.greatest r.span := by omega
  have fewer := graded.rowsOver_antitone coarser measured
  rw [estimate_eq_min, estimate_eq_min]
  omega

/-! ## The search -/

/-- A table that does not keep a window: it has no start, or one that is past. -/
theorem retains_eq_false_iff {now : Int} :
    s.retains r g now = false
      ↔ r.start = none ∨ ∃ t, r.start = some t
        ∧ t < Saturated.sub now (Saturated.mul (s.retention r.scope g) millisPerSecond) := by
  unfold retains
  cases r.start with
  | none => simp
  | some t => simp

/-- What is affordable and yet passed over is no longer kept. -/
theorem retains_of_passed {now : Int} (affordable : s.estimate r g ≤ s.resultLimit)
    (passed : g < s.finest r now) : s.retains r g now = false := by
  have refused := admits_finer passed
  cases kept : s.retains r g now with
  | false => rfl
  | true =>
    rw [admits_iff.mpr ⟨affordable, kept⟩] at refused
    exact absurd refused (by decide)

/-- Whatever passes the check of the budget passes it coarser. -/
theorem Graded.checkBudget_coarser (graded : s.Graded r.scope) (coarser : g ≤ g')
    (passed : s.checkBudget r g = .ok ()) : s.checkBudget r g' = .ok () := by
  by_cases nameless : r.names = []
  · -- Without names there is nothing to check.
    unfold checkBudget
    rw [if_pos (by simpa using nameless)]
  · have fewer := graded.estimate_antitone coarser
    rw [checkBudget_eq_ok nameless] at passed ⊢
    omega

/-- **Coarser never costs more.**  Under graded intervals, as the standard ones are, a window has no
    more rows at a coarser granularity, and no larger an estimate whatever is asked for.  So what is
    coarser than something affordable is affordable, and passes the check that a pinned granularity
    has to pass; and if the search passes it over, then only because the window has no start or its
    table no longer keeps it. -/
theorem coarser_costs_no_more :
    (∀ scope, standard.Graded scope)
      ∧ ∀ (s : Settings) (scope : Scope), s.Graded scope → ∀ g g' : Granularity, g ≤ g' →
        (∀ window, s.rows scope g' window ≤ s.rows scope g window)
        ∧ ∀ r : Request, r.scope = scope →
          s.estimate r g' ≤ s.estimate r g
          ∧ (s.checkBudget r g = .ok () → s.checkBudget r g' = .ok ())
          ∧ (s.estimate r g ≤ s.resultLimit →
            s.estimate r g' ≤ s.resultLimit
            ∧ ∀ now, g' < s.finest r now →
              r.start = none ∨ ∃ start, r.start = some start
                ∧ start < Saturated.sub now
                  (Saturated.mul (s.retention scope g') millisPerSecond)) := by
  refine ⟨graded_standard, fun s scope graded g g' coarser => ⟨graded.rows_antitone coarser, ?_⟩⟩
  rintro r rfl
  have fewer := graded.estimate_antitone coarser
  refine ⟨fewer, graded.checkBudget_coarser coarser, fun affordable => ?_⟩
  have still : s.estimate r g' ≤ s.resultLimit := by omega
  exact ⟨still, fun now passed => retains_eq_false_iff.mp (retains_of_passed still passed)⟩

/-- One metric of one host over ten minutes, two days back. -/
def twoDaysBack : Request where
  kind := .plain
  sharedNames := ["cpu_user"]
  hosts := some ["h1"]
  givenStart := some 1699827200000
  givenFinish := some 1699827800000

/-- Seconds are affordable and hence minutes are; seconds are passed over because they are kept for a
    day. -/
theorem coarser_costs_no_more_two_days_back :
    standard.Graded twoDaysBack.scope
      ∧ standard.estimate twoDaysBack .seconds ≤ standard.resultLimit
      ∧ standard.finest twoDaysBack 1700000000000 = .minutes
      ∧ standard.estimate twoDaysBack .minutes ≤ standard.resultLimit
      ∧ ∃ start, twoDaysBack.start = some start
        ∧ start < Saturated.sub 1700000000000 (Saturated.mul day millisPerSecond) := by
  obtain ⟨graded, costs⟩ := coarser_costs_no_more
  have affordable : standard.estimate twoDaysBack .seconds ≤ standard.resultLimit := by decide
  have found : standard.finest twoDaysBack 1700000000000 = .minutes := by decide
  have to_minutes := (costs standard _ (graded _) .seconds .minutes (by decide)).2 twoDaysBack rfl
  have to_seconds := (costs standard _ (graded _) .seconds .seconds (by decide)).2 twoDaysBack rfl
  have passed := (to_seconds.2.2 affordable).2 1700000000000 (by rw [found]; decide)
  refine ⟨graded _, affordable, found, (to_minutes.2.2 affordable).1, ?_⟩
  exact passed.resolve_left nofun

end Settings

end Rollup
