/-
  Rows in exact numbers.

  The planner counts the rows of a window by dividing twice, into seconds or minutes and then into
  the intervals between rows, and it multiplies in words of 64 bits that stop at the top of their
  range.  In exact numbers there is one division, by the time from one row to the next
  (`Settings.step`), and one product, with the number of series (`Request.seriesCount`).

  The two agree (`Settings.estimate_eq_min`): the estimate is the exact product, or the top of the
  range if that is less.  The crux is in the order of the two products.  Cutting off the first could
  lose something that the second would bring back, if a factor were zero or negative; but none is
  negative, and the hosts count as one at least.
-/
import Rollup.Proofs.Budget

namespace Rollup

/-! ## What there is to count -/

namespace Request

/-- The length of the window in milliseconds, however long.  There is none if an end is missing, or
    if it ends before it starts. -/
def span (r : Request) : Int :=
  match r.start, r.finish with
  | some start, some finish => max 0 (finish - start)
  | _, _ => 0

/-- The number of series: one for each name and each host, or for each name if there is no host. -/
def seriesCount (r : Request) : Nat := r.names.length * max 1 r.hostCount

theorem span_nonneg (r : Request) : 0 ≤ r.span := by
  unfold span
  split <;> omega

/-- The window as the planner measures it stops at the top of the range. -/
theorem max_rangeMillis (r : Request) :
    max (r.rangeMillis.getD 0) 0 = min Saturated.greatest r.span := by
  have top : (0 : Int) ≤ Saturated.greatest := by decide
  unfold rangeMillis span
  cases r.start with
  | none => exact (Int.min_eq_right top).symm
  | some start =>
    cases r.finish with
    | none => exact (Int.min_eq_right top).symm
    | some finish =>
      show max (Saturated.clamp (finish - start)) 0
        = min Saturated.greatest (max 0 (finish - start))
      unfold Saturated.clamp Saturated.least Saturated.greatest
      omega

end Request

/-! ## Rows of one series -/

namespace Settings

/-- Milliseconds from one row of a table to the next.  An interval below the unit of the table
    counts as that unit, and minutes count in whole ones. -/
def step (s : Settings) (scope : Scope) : Granularity → Int
  | .seconds => 1000 * max 1 (s.intervals scope).second
  | .minutes => 60000 * max 1 ((s.intervals scope).minute.tdiv 60)
  | .hours => 3600000
  | .days => 86400000

variable (s : Settings) (scope : Scope) (r : Request) (granularity : Granularity)

theorem step_pos : 0 < s.step scope granularity := by
  cases granularity <;> simp only [step] <;> omega

/-- **Dividing twice is dividing once**, by the time from row to row. -/
theorem rows_eq_ediv (range : Int) :
    s.rows scope granularity range = max range 0 / s.step scope granularity := by
  have range_nonneg : 0 ≤ max range 0 := Int.le_max_right _ _
  have once : ∀ unit : Int, (max range 0).tdiv unit = max range 0 / unit := fun _ =>
    Int.tdiv_eq_ediv_of_nonneg range_nonneg
  have twice : ∀ unit interval : Int, 0 ≤ unit →
      ((max range 0).tdiv unit).tdiv (max interval 1)
        = max range 0 / (unit * max 1 interval) := by
    intro unit interval positive
    rw [once, Int.tdiv_eq_ediv_of_nonneg (Int.ediv_nonneg range_nonneg positive),
      Int.ediv_ediv_of_nonneg positive, Int.max_comm interval 1]
  cases granularity with
  | seconds => exact twice millisPerSecond _ (by decide)
  | minutes => exact twice (60 * millisPerSecond) _ (by decide)
  | hours => exact once _
  | days => exact once _

/-! ## Rows of the answer -/

/-- The rows of the answer to a request over a window of some length, in exact numbers. -/
def rowsOver (span : Int) : Int := span / s.step r.scope granularity * r.seriesCount

/-- **The estimate in closed form.**  It is the exact number of rows over the window, as far as that
    is measured, or the top of the range if that is less. -/
theorem estimate_eq_min :
    s.estimate r granularity
      = min Saturated.greatest (s.rowsOver r granularity (min Saturated.greatest r.span)) := by
  have series : ((max r.hostCount 1 : Nat) : Int) * (r.names.length : Int) = r.seriesCount := by
    rw [Request.seriesCount, Nat.max_comm, Int.natCast_mul, Int.mul_comm]
  have some_host : (1 : Int) ≤ (max r.hostCount 1 : Nat) := by omega
  unfold estimate
  rw [Saturated.mul_mul_eq_min (s.rows_nonneg ..) (Int.natCast_nonneg _) some_host, rows_eq_ediv,
    r.max_rangeMillis, rowsOver, Int.mul_assoc, Int.mul_comm (r.names.length : Int), series]

theorem rowsOver_nonneg {span : Int} (nonneg : 0 ≤ span) : 0 ≤ s.rowsOver r granularity span :=
  Int.mul_nonneg (Int.ediv_nonneg nonneg (Int.le_of_lt (s.step_pos ..))) (Int.natCast_nonneg _)

/-- The estimate lies in the range, and is not negative. -/
theorem estimate_ranged :
    0 ≤ s.estimate r granularity ∧ s.estimate r granularity ≤ Saturated.greatest := by
  have span := r.span_nonneg
  have top : (0 : Int) ≤ Saturated.greatest := by decide
  have measured : 0 ≤ min Saturated.greatest r.span := by omega
  have rows := s.rowsOver_nonneg r granularity measured
  rw [estimate_eq_min]
  omega

/-- Below the top of the range a limit is passed by the estimate exactly if it is by the rows. -/
theorem lt_estimate_iff {limit : Int} (below : limit < Saturated.greatest) :
    limit < s.estimate r granularity
      ↔ limit < s.rowsOver r granularity (min Saturated.greatest r.span) := by
  rw [estimate_eq_min]
  omega

end Settings

end Rollup
