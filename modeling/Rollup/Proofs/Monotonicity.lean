/-
  Asking for less never reads coarser.

  Two requests, two settings and two times are compared at once.  The first request lies within the
  second if it has no more series, of the same scope, over a window that starts no earlier and ends
  no later (`Request.Within`).  The first settings are at least the second if their limit is no
  lower and no table of theirs forgets sooner, with the same intervals (`Settings.AtLeast`).  If the
  first request is asked no later besides, then whatever granularity admits the second request
  admits the first (`Settings.admits_mono`), and so the search ends no coarser for it
  (`Settings.finest_mono`).

  The crux is that nothing is lost where words of 64 bits are cut off.  Cutting off keeps the order
  of numbers (`Saturated.clamp_mono`), and the estimate is the exact product of two factors that
  grow together, cut off once.  The search itself brings in no arithmetic: were its answer to the
  first request coarser, it would have passed over a granularity that the first request admits.
-/
import Rollup.Proofs.Search

namespace Rollup

open Saturated (greatest)

/-! ## Cutting off keeps the order -/

namespace Saturated

theorem clamp_mono {m n : Int} (le : m ≤ n) : clamp m ≤ clamp n := by
  unfold clamp least greatest
  omega

/-- A difference grows with what is taken from, and falls with what is taken. -/
theorem sub_mono {a a' b b' : Int} (more : a ≤ a') (less : b' ≤ b) : sub a b ≤ sub a' b' := by
  apply clamp_mono
  omega

end Saturated

/-! ## Finer or as fine -/

namespace Granularity

/-- A granularity is at most another if it is as fine or finer. -/
instance : LE Granularity := ⟨fun g g' => g.coarseness ≤ g'.coarseness⟩

instance (g g' : Granularity) : Decidable (g ≤ g') :=
  inferInstanceAs (Decidable (g.coarseness ≤ g'.coarseness))

theorem le_of_not_lt {g g' : Granularity} (not_finer : ¬ g' < g) : g ≤ g' :=
  Nat.le_of_not_lt not_finer

end Granularity

/-! ## Asking for less -/

/-- A request lies within another.  A window without a start reaches back further than any other,
    and one without an end is not measured at all. -/
structure Request.Within (r r' : Request) : Prop where
  scope : r.hasHosts = r'.hasHosts
  names : r.names.length ≤ r'.names.length
  hosts : r.hostCount ≤ r'.hostCount
  start : ∀ t', r'.start = some t' → ∃ t, r.start = some t ∧ t' ≤ t
  finish : ∀ t, r.finish = some t → ∃ t', r'.finish = some t' ∧ t ≤ t'

/-- Settings allow at least what others allow, and space their rows in the same way. -/
structure Settings.AtLeast (s s' : Settings) : Prop where
  intervals : ∀ scope, s.intervals scope = s'.intervals scope
  limit : s'.resultLimit ≤ s.resultLimit
  retention : ∀ scope granularity, s'.retention scope granularity ≤ s.retention scope granularity

namespace Request.Within

variable {r r' : Request}

theorem scope_eq (within : r.Within r') : r.scope = r'.scope := by
  unfold Request.scope
  rw [within.scope]

theorem seriesCount_le (within : r.Within r') : r.seriesCount ≤ r'.seriesCount := by
  have hosts := within.hosts
  have counted : max 1 r.hostCount ≤ max 1 r'.hostCount := by omega
  exact Nat.mul_le_mul within.names counted

/-- The window is no longer, once the other has a start. -/
theorem span_le (within : r.Within r') (started : r'.start ≠ none) : r.span ≤ r'.span := by
  obtain ⟨t', start'⟩ := Option.ne_none_iff_exists'.mp started
  obtain ⟨t, start, later⟩ := within.start t' start'
  unfold Request.span
  rw [start, start']
  cases finish : r.finish with
  | none =>
    -- A window that is not measured counts as empty.
    cases r'.finish with
    | none => exact Int.le_refl 0
    | some u' =>
      show (0 : Int) ≤ max 0 (u' - t')
      omega
  | some u =>
    obtain ⟨u', finish', earlier⟩ := within.finish u finish
    rw [finish']
    show max 0 (u - t) ≤ max 0 (u' - t')
    omega

end Request.Within

/-! ## What is admitted stays admitted -/

namespace Settings

variable {s s' : Settings} {r r' : Request} {now now' : Int} {granularity : Granularity}

theorem AtLeast.step_eq (more : s.AtLeast s') (scope : Scope) (granularity : Granularity) :
    s.step scope granularity = s'.step scope granularity := by
  cases granularity <;> simp only [step, more.intervals]

/-- The rows to expect grow with the window and with the series. -/
theorem rowsOver_mono (more : s.AtLeast s') (within : r.Within r') {span span' : Int}
    (nonneg : 0 ≤ span) (longer : span ≤ span') :
    s.rowsOver r granularity span ≤ s'.rowsOver r' granularity span' := by
  have step : s.step r.scope granularity = s'.step r'.scope granularity := by
    rw [within.scope_eq, more.step_eq]
  have some_step : 0 < s'.step r'.scope granularity := s'.step_pos ..
  have rows : span / s'.step r'.scope granularity ≤ span' / s'.step r'.scope granularity :=
    Int.ediv_le_ediv some_step longer
  have rows_nonneg : 0 ≤ span' / s'.step r'.scope granularity :=
    Int.ediv_nonneg (by omega) (by omega)
  have series : (r.seriesCount : Int) ≤ r'.seriesCount := by
    exact_mod_cast within.seriesCount_le
  unfold rowsOver
  rw [step]
  exact Int.mul_le_mul rows series (Int.natCast_nonneg _) rows_nonneg

theorem estimate_mono (more : s.AtLeast s') (within : r.Within r') (started : r'.start ≠ none) :
    s.estimate r granularity ≤ s'.estimate r' granularity := by
  have top : (0 : Int) ≤ greatest := by decide
  have nonneg := r.span_nonneg
  have longer := within.span_le started
  have rows : s.rowsOver r granularity (min greatest r.span)
      ≤ s'.rowsOver r' granularity (min greatest r'.span) :=
    rowsOver_mono more within (by omega) (by omega)
  rw [estimate_eq_min, estimate_eq_min]
  omega

/-- A table keeps the start of a window if there is one, and it is not past. -/
theorem retains_iff :
    s.retains r granularity now = true
      ↔ ∃ t, r.start = some t
        ∧ Saturated.sub now (Saturated.mul (s.retention r.scope granularity) millisPerSecond)
          ≤ t := by
  unfold retains
  cases r.start with
  | none => simp
  | some t => simp

theorem retains_mono (more : s.AtLeast s') (within : r.Within r') (earlier : now ≤ now')
    (kept : s'.retains r' granularity now' = true) : s.retains r granularity now = true := by
  obtain ⟨t', start', held⟩ := retains_iff.mp kept
  obtain ⟨t, start, later⟩ := within.start t' start'
  refine retains_iff.mpr ⟨t, start, ?_⟩
  have longer : Saturated.mul (s'.retention r'.scope granularity) millisPerSecond
      ≤ Saturated.mul (s.retention r.scope granularity) millisPerSecond := by
    have keeps := more.retention r.scope granularity
    rw [← within.scope_eq]
    apply Saturated.clamp_mono
    unfold millisPerSecond
    omega
  calc Saturated.sub now (Saturated.mul (s.retention r.scope granularity) millisPerSecond)
      ≤ Saturated.sub now' (Saturated.mul (s'.retention r'.scope granularity) millisPerSecond) :=
        Saturated.sub_mono earlier longer
    _ ≤ t' := held
    _ ≤ t := later

/-- **What is admitted stays admitted** when less is asked for, of settings that allow more, and no
    later. -/
theorem admits_mono (more : s.AtLeast s') (within : r.Within r') (earlier : now ≤ now')
    (admitted : s'.admits r' now' granularity = true) : s.admits r now granularity = true := by
  obtain ⟨affordable, kept⟩ := admits_iff.mp admitted
  have started : r'.start ≠ none := by
    obtain ⟨t', start', -⟩ := retains_iff.mp kept
    rw [start']
    exact Option.some_ne_none t'
  have less : s.estimate r granularity ≤ s'.estimate r' granularity :=
    estimate_mono more within started
  have limit := more.limit
  exact admits_iff.mpr ⟨by omega, retains_mono more within earlier kept⟩

/-! ## The search -/

/-- **The search is monotone.**  A request within another, asked no later and of settings that allow
    at least as much, is never read coarser. -/
theorem finest_mono (more : s.AtLeast s') (within : r.Within r') (earlier : now ≤ now') :
    s.finest r now ≤ s'.finest r' now' := by
  apply Granularity.le_of_not_lt
  intro finer
  -- What was found for the harder request would be admitted for the easier one, and passed over.
  have not_days : s'.finest r' now' ≠ .days := Granularity.ne_days_of_lt finer
  have admitted := (s'.finest_eq_days_or_admits r' now').resolve_left not_days
  have passed_over := admits_finer finer
  rw [admits_mono more within earlier admitted] at passed_over
  exact absurd passed_over (by decide)

/-- One metric of one host over an hour is read in seconds.  An hour later eight metrics of ten hosts
    over six hours, with half the limit, can only be read in hours. -/
theorem finest_mono_six_hours :
    standard.finest
        { kind := .plain, sharedNames := ["cpu_user"], hosts := some ["h1"],
          givenStart := some 1699992800, givenFinish := some 1699996400 } 1699996400000 = .seconds
      ∧ (embedded 2880).finest
        { kind := .plain, sharedNames := List.replicate 8 "cpu_user",
          hosts := some (List.replicate 10 "h1"),
          givenStart := some 1699978400000, givenFinish := some 1700000000000 } 1700000000000 = .hours
      ∧ standard.finest
        { kind := .plain, sharedNames := ["cpu_user"], hosts := some ["h1"],
          givenStart := some 1699992800, givenFinish := some 1699996400 } 1699996400000
        ≤ (embedded 2880).finest
        { kind := .plain, sharedNames := List.replicate 8 "cpu_user",
          hosts := some (List.replicate 10 "h1"),
          givenStart := some 1699978400000, givenFinish := some 1700000000000 } 1700000000000 := by
  refine ⟨by decide, by decide, finest_mono ?more ?within (by decide)⟩
  case more =>
    exact
      { intervals := fun _ => rfl
        limit := by decide
        retention := fun _ _ => Int.le_refl _ }
  case within =>
    exact
      { scope := rfl
        names := by decide
        hosts := by decide
        start := by
          rintro _ ⟨⟩
          exact ⟨_, rfl, by decide⟩
        finish := by
          rintro _ ⟨⟩
          exact ⟨_, rfl, by decide⟩ }

end Settings

end Rollup
