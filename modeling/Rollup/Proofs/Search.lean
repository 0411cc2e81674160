/-
  The search for a granularity is exact.

  Whoever asks for rows wants the finest granularity that qualifies: there is a start, the table
  still keeps it, and the rows of the answer are within the limit (`Settings.Qualifies`).  All of
  this is meant in exact numbers; the planner has words of 64 bits that saturate, and a loop that
  looks at one granularity after the other.

  Two things are shown apart.  The loop ends with the first granularity that is admitted, or with
  days (`Settings.finest_eq_iff`); the crux there is that at most one granularity can be first, so
  it is enough that the answer of the loop is.  And where no difference leaves the range and the
  limit is not its very top, to be admitted is to qualify (`Settings.admits_iff_qualifies`): the
  estimate may still be cut off, but then it is over the limit, and so are the rows.
-/
import Rollup.Proofs.Rows

namespace Rollup

open Saturated (InRange greatest)

/-! ## Finer and coarser -/

namespace Granularity

/-- How coarse a granularity is: the number of finer ones. -/
def coarseness : Granularity → Nat
  | seconds => 0
  | minutes => 1
  | hours => 2
  | days => 3

/-- A finer granularity is less than a coarser one. -/
instance : LT Granularity := ⟨fun g g' => g.coarseness < g'.coarseness⟩

instance (g g' : Granularity) : Decidable (g < g') :=
  inferInstanceAs (Decidable (g.coarseness < g'.coarseness))

/-- Nothing is coarser than days. -/
theorem lt_days_iff {g : Granularity} : g < .days ↔ g ≠ .days := by cases g <;> decide

theorem ne_days_of_lt {g g' : Granularity} (finer : g < g') : g ≠ .days := by
  rintro rfl
  cases g' <;> exact absurd finer (by decide)

theorem lt_trichotomy (g g' : Granularity) : g < g' ∨ g = g' ∨ g' < g := by
  cases g <;> cases g' <;> decide

theorem sorted_all : all.Pairwise (· < ·) := by decide

/-- What is found in a list from fine to coarse is finer than all else that could be found. -/
theorem eq_false_of_find? {p : Granularity → Bool} {l : List Granularity} {g g' : Granularity}
    (sorted : l.Pairwise (· < ·)) (found : l.find? p = some g) (among : g' ∈ l) (finer : g' < g) :
    p g' = false := by
  obtain ⟨-, before, after, rfl, refused⟩ := List.find?_eq_some_iff_append.mp found
  rcases List.mem_append.mp among with earlier | later
  · exact Bool.not_eq_true' _ ▸ refused g' earlier
  · -- What comes after in the list is coarser.
    exfalso
    have ordered := (List.pairwise_append.mp sorted).2.1
    rcases List.mem_cons.mp later with rfl | later
    · exact Nat.lt_irrefl _ finer
    · exact Nat.lt_asymm finer (List.rel_of_pairwise_cons ordered later)

end Granularity

/-! ## The loop -/

namespace Settings

variable {s : Settings} {r : Request} {now : Int} {granularity : Granularity}

/-- Whatever is finer than what is found is not admitted. -/
theorem admits_finer {g : Granularity} (finer : g < s.finest r now) :
    s.admits r now g = false := by
  unfold finest at finer
  cases found : Granularity.all.find? (s.admits r now) with
  | none =>
    exact Bool.not_eq_true _ ▸ List.find?_eq_none.mp found g (Granularity.mem_all g)
  | some first =>
    rw [found] at finer
    exact Granularity.eq_false_of_find? Granularity.sorted_all found (Granularity.mem_all g) finer

/-- **The loop.**  It ends with the first granularity that is admitted, and with days if no finer one
    is. -/
theorem finest_eq_iff :
    s.finest r now = granularity
      ↔ (granularity ≠ .days → s.admits r now granularity = true)
        ∧ ∀ g < granularity, s.admits r now g = false := by
  constructor
  · rintro rfl
    exact ⟨(s.finest_eq_days_or_admits r now).resolve_left, fun g => admits_finer⟩
  · rintro ⟨admitted, first⟩
    rcases Granularity.lt_trichotomy (s.finest r now) granularity with finer | same | coarser
    · have found := (s.finest_eq_days_or_admits r now).resolve_left (Granularity.ne_days_of_lt finer)
      exact absurd found (Bool.eq_false_iff.mp (first _ finer))
    · exact same
    · have refused := admits_finer coarser
      exact absurd (admitted (Granularity.ne_days_of_lt coarser)) (Bool.eq_false_iff.mp refused)

/-! ## Exact numbers -/

/-- In exact numbers the answer at a granularity is within the limit, and the table keeps the start
    of the window, which there is. -/
structure Qualifies (s : Settings) (r : Request) (now : Int) (granularity : Granularity) : Prop where
  affordable : s.rowsOver r granularity r.span ≤ s.resultLimit
  kept : s.Keeps r.scope r now granularity

/-- Words of 64 bits hold the length of the window, the times for which tables keep their rows and
    the moments since when, and the limit is below their top. -/
structure Fits (s : Settings) (r : Request) (now : Int) : Prop where
  limit : s.resultLimit < greatest
  window : ∀ start finish, r.start = some start → r.finish = some finish → InRange (finish - start)
  kept : ∀ g, g ≠ .days → InRange (s.retention r.scope g * millisPerSecond)
  since : ∀ g, g ≠ .days → InRange (now - s.retention r.scope g * millisPerSecond)

/-- Where the differences are words, what is kept is kept in exact numbers. -/
theorem retains_iff_keeps (kept : InRange (s.retention r.scope granularity * millisPerSecond))
    (since : InRange (now - s.retention r.scope granularity * millisPerSecond)) :
    s.retains r granularity now = true ↔ s.Keeps r.scope r now granularity := by
  have exact_kept : Saturated.mul (s.retention r.scope granularity) millisPerSecond
      = s.retention r.scope granularity * millisPerSecond := kept.clamp_eq
  have exact_since : Saturated.sub now (s.retention r.scope granularity * millisPerSecond)
      = now - s.retention r.scope granularity * millisPerSecond := since.clamp_eq
  rw [retains, Keeps]
  cases r.start with
  | none =>
    constructor
    · intro held
      exact absurd held Bool.false_ne_true
    · rintro ⟨_, ⟨⟩, -⟩
  | some start =>
    show decide (Saturated.sub now (Saturated.mul _ _) ≤ start) = true ↔ _
    rw [exact_kept, exact_since, decide_eq_true_eq]
    constructor
    · intro held
      exact ⟨start, rfl, held⟩
    · rintro ⟨_, ⟨⟩, held⟩
      exact held

theorem span_le_greatest (fits : s.Fits r now) : r.span ≤ greatest := by
  have top : (0 : Int) ≤ greatest := by decide
  unfold Request.span
  split
  · next start finish some_start some_finish =>
    have held := (fits.window start finish some_start some_finish).2
    omega
  · exact top

/-- **To be admitted is to qualify.** -/
theorem admits_iff_qualifies (fits : s.Fits r now) (not_days : granularity ≠ .days) :
    s.admits r now granularity = true ↔ s.Qualifies r now granularity := by
  have within : s.estimate r granularity ≤ s.resultLimit
      ↔ s.rowsOver r granularity r.span ≤ s.resultLimit := by
    have measured : min greatest r.span = r.span := Int.min_eq_right (span_le_greatest fits)
    have passed := s.lt_estimate_iff r granularity fits.limit
    rw [measured] at passed
    omega
  have held := retains_iff_keeps (fits.kept _ not_days) (fits.since _ not_days)
  rw [admits_iff, within, held]
  constructor
  · rintro ⟨affordable, kept⟩
    exact ⟨affordable, kept⟩
  · rintro ⟨affordable, kept⟩
    exact ⟨affordable, kept⟩

/-- **The search is exact.**  Where words hold what is compared, seconds, minutes or hours are found
    exactly if they qualify and nothing finer does, and days exactly if none of the three does. -/
theorem finest_exact (fits : s.Fits r now) :
    (∀ g < .days, (s.finest r now = g
        ↔ s.Qualifies r now g ∧ ∀ finer < g, ¬ s.Qualifies r now finer))
      ∧ (s.finest r now = .days ↔ ∀ g < .days, ¬ s.Qualifies r now g) := by
  have none_finer : ∀ g, (∀ finer < g, s.admits r now finer = false)
      ↔ ∀ finer < g, ¬ s.Qualifies r now finer := by
    intro g
    refine forall_congr' fun finer => imp_congr_right fun before => ?_
    rw [← admits_iff_qualifies fits (Granularity.ne_days_of_lt before), Bool.not_eq_true]
  constructor
  · intro g before
    have not_days := Granularity.lt_days_iff.mp before
    rw [finest_eq_iff, none_finer, admits_iff_qualifies fits not_days, imp_iff_right not_days]
  · rw [finest_eq_iff, none_finer]
    exact and_iff_right fun not_days => absurd rfl not_days

/-- Eight metrics on ten hosts over six hours. -/
def sixHours : Request where
  kind := .plain
  sharedNames := List.replicate 8 "cpu_user"
  hosts := some (List.replicate 10 "h1")
  givenStart := some 1699978400000
  givenFinish := some 1700000000000

/-- Seconds come to 28800 rows, over the limit of 5760, and minutes to exactly that limit. -/
theorem finest_exact_six_hours :
    standard.Fits sixHours 1700000000000
      ∧ standard.rowsOver sixHours .minutes sixHours.span = standard.resultLimit
      ∧ standard.finest sixHours 1700000000000 = .minutes := by
  have fits : standard.Fits sixHours 1700000000000 :=
    { limit := by decide
      window := by
        rintro start finish ⟨⟩ ⟨⟩
        constructor <;> decide
      kept := fun g _ => by cases g <;> constructor <;> decide
      since := fun g _ => by cases g <;> constructor <;> decide }
  refine ⟨fits, by decide, ((finest_exact fits).1 .minutes (by decide)).mpr ⟨?_, ?_⟩⟩
  · exact ⟨by decide, 1699978400000, by decide, by decide⟩
  · intro finer before qualifies
    cases finer with
    | seconds => exact absurd qualifies.affordable (by decide)
    | minutes | hours | days => exact absurd before (by decide)

end Settings

end Rollup
