/-
  Nothing overflows.

  Times, limits, intervals and retentions are words of 64 bits.  The definitions reckon with them in
  exact integers, which says nothing about whether the words would have held every result on the
  way.  Here the row arithmetic is written out once more over operations that do say it: `Guarded`
  ones, which end with a fault as soon as a result leaves the range or a divisor is zero.  Saturating
  operations never do, so what is at stake is the divisions, the counts of names and hosts that are
  taken for words, and what is read from the settings and the request.

  The crux is that each guarded function ends without a fault, and with the value of its plain one
  (`Guarded.estimate_eq` and its siblings): every divisor is a positive constant, or an interval
  that was raised to one at least, so quotients are never larger than what is divided.
-/
import Rollup.Proofs.Rows

namespace Rollup

open Saturated (greatest least)

/-! ## Words -/

/-- A quotient by a positive number is not farther from zero than what is divided. -/
theorem Saturated.InRange.tdiv {a b : Int} (range : InRange a) (positive : 0 < b) :
    InRange (a.tdiv b) := by
  obtain ⟨low, high⟩ := range
  have closer := Int.natAbs_tdiv_le_natAbs a b
  rcases Int.le_total 0 a with nonneg | neg
  · have sign := Int.tdiv_nonneg nonneg (Int.le_of_lt positive)
    constructor <;> unfold least greatest at * <;> omega
  · have sign : a.tdiv b ≤ 0 := by
      have mirrored := Int.tdiv_nonneg (Int.neg_nonneg_of_nonpos neg) (Int.le_of_lt positive)
      rw [Int.neg_tdiv] at mirrored
      omega
    constructor <;> unfold least greatest at * <;> omega

open Saturated (InRange)

/-- The settings are words. -/
structure Settings.Words (s : Settings) : Prop where
  limit : InRange s.resultLimit
  second : ∀ scope, InRange (s.intervals scope).second
  minute : ∀ scope, InRange (s.intervals scope).minute
  retention : ∀ scope granularity, InRange (s.retention scope granularity)

/-- The times of a request are words, and so are the numbers of its names and its hosts. -/
structure Request.Words (r : Request) : Prop where
  times : r.Ranged
  names : (r.names.length : Int) ≤ greatest
  hosts : (r.hostCount : Int) ≤ greatest

/-! ## Guarded operations -/

/-- What can go wrong with an operation on words. -/
inductive Fault
  | overflow
  | divisionByZero
  deriving DecidableEq

namespace Guarded

/-- The number as a word. -/
def word (n : Int) : Except Fault Int :=
  if least ≤ n ∧ n ≤ greatest then .ok n else .error .overflow

/-- The quotient of two words, toward zero. -/
def quotient (a b : Int) : Except Fault Int :=
  if b = 0 then .error .divisionByZero else word (a.tdiv b)

/-- A time in milliseconds. -/
def toMillis (time : Int) : Except Fault Int := do
  let time ← word time
  if time < Request.secondsBelow then word (Saturated.mul time 1000) else return time

/-- The length of the window in milliseconds, if it has both ends. -/
def rangeMillis (r : Request) : Except Fault (Option Int) := do
  let start ← r.givenStart.mapM toMillis
  let finish ← r.givenFinish.mapM toMillis
  match start, finish with
  | some start, some finish => return some (← word (Saturated.sub finish start))
  | _, _ => return none

/-- Rows of one series. -/
def rows (s : Settings) (scope : Scope) (granularity : Granularity) (rangeMillis : Int) :
    Except Fault Int := do
  let range ← word (max rangeMillis 0)
  match granularity with
  | .seconds =>
    let interval ← word (s.intervals scope).second
    quotient (← quotient range Settings.millisPerSecond) (max interval 1)
  | .minutes =>
    let interval ← quotient (← word (s.intervals scope).minute) 60
    quotient (← quotient range (60 * Settings.millisPerSecond)) (max interval 1)
  | .hours => quotient range (3600 * Settings.millisPerSecond)
  | .days => quotient range (86400 * Settings.millisPerSecond)

/-- Rows of the answer. -/
def estimate (s : Settings) (r : Request) (granularity : Granularity) : Except Fault Int := do
  let range ← rangeMillis r
  let perSeries ← rows s r.scope granularity (range.getD 0)
  let hosts ← word (max r.hostCount 1 : Nat)
  let names ← word r.names.length
  let ofNames ← word (Saturated.mul perSeries names)
  word (Saturated.mul ofNames hosts)

/-- The check of the budget. -/
def checkBudget (s : Settings) (r : Request) (granularity : Granularity) :
    Except Fault (Except PlanError Unit) := do
  if r.names.isEmpty then return .ok ()
  let rows ← estimate s r granularity
  let limit ← word s.resultLimit
  if limit < rows then
    let range ← rangeMillis r
    let seconds ← quotient (range.getD 0) Settings.millisPerSecond
    return .error (.overBudget r.names.length (max r.hostCount 1) granularity seconds rows limit)
  return .ok ()

/-- Whether the start of the window is still kept. -/
def retains (s : Settings) (r : Request) (granularity : Granularity) (now : Int) :
    Except Fault Bool := do
  match ← r.givenStart.mapM toMillis with
  | none => return false
  | some start =>
    let retention ← word (s.retention r.scope granularity)
    let kept ← word (Saturated.mul retention Settings.millisPerSecond)
    let since ← word (Saturated.sub (← word now) kept)
    return decide (since ≤ start)

/-! ## Guarded operations without a fault -/

theorem ok_bind {α β : Type} (a : α) (f : α → Except Fault β) : (Except.ok a >>= f) = f a := rfl

theorem word_eq {n : Int} (range : InRange n) : word n = .ok n := if_pos range

/-- Saturating operations have no fault. -/
theorem word_mul (a b : Int) : word (Saturated.mul a b) = .ok (Saturated.mul a b) :=
  word_eq (Saturated.inRange_clamp _)

theorem word_sub (a b : Int) : word (Saturated.sub a b) = .ok (Saturated.sub a b) :=
  word_eq (Saturated.inRange_clamp _)

theorem quotient_eq {a b : Int} (range : InRange a) (positive : 0 < b) :
    quotient a b = .ok (a.tdiv b) := by
  rw [quotient, if_neg (by omega), word_eq (range.tdiv positive)]

theorem toMillis_eq {time : Int} (range : InRange time) :
    toMillis time = .ok (Request.toMillis time) := by
  rw [toMillis, word_eq range, ok_bind, Request.toMillis]
  split
  · exact word_mul time 1000
  · rfl

theorem mapM_toMillis {time : Option Int} (range : ∀ t, time = some t → InRange t) :
    time.mapM toMillis = .ok (time.map Request.toMillis) := by
  cases time with
  | none => rfl
  | some t =>
    show toMillis t >>= (fun t => Except.ok (some t)) = _
    rw [toMillis_eq (range t rfl)]
    rfl

section Requests

variable {s : Settings} {r : Request} {now : Int} {granularity : Granularity}

theorem start_eq (times : r.Ranged) : r.givenStart.mapM toMillis = .ok r.start :=
  mapM_toMillis fun t given => times t (.inl given)

theorem finish_eq (times : r.Ranged) : r.givenFinish.mapM toMillis = .ok r.finish :=
  mapM_toMillis fun t given => times t (.inr given)

theorem rangeMillis_eq (times : r.Ranged) : rangeMillis r = .ok r.rangeMillis := by
  rw [rangeMillis, start_eq times, ok_bind, finish_eq times, ok_bind, Request.rangeMillis]
  cases r.start with
  | none => rfl
  | some start =>
    cases r.finish with
    | none => rfl
    | some finish =>
      show word (Saturated.sub finish start) >>= _ = _
      rw [word_sub]
      rfl

/-- The length of a window is a word, saturated as it is. -/
theorem inRange_rangeMillis (r : Request) : InRange (r.rangeMillis.getD 0) := by
  have zero : InRange 0 := by constructor <;> decide
  unfold Request.rangeMillis
  split
  · exact Saturated.inRange_clamp _
  · exact zero

/-- The divisors are constants, or intervals raised to one at least. -/
theorem rows_eq (words : s.Words) (scope : Scope) {range : Int} (held : InRange range) :
    rows s scope granularity range = .ok (s.rows scope granularity range) := by
  have window : InRange (max range 0) := by
    rcases held with ⟨low, high⟩
    constructor <;> unfold least greatest at * <;> omega
  have second := words.second scope
  have minute := words.minute scope
  rw [rows, word_eq window, ok_bind]
  cases granularity with
  | seconds =>
    have seconds : InRange ((max range 0).tdiv Settings.millisPerSecond) := window.tdiv (by decide)
    show word _ >>= _ = _
    rw [word_eq second, ok_bind, quotient_eq window (by decide), ok_bind]
    exact quotient_eq seconds (by omega)
  | minutes =>
    have minutes : InRange ((max range 0).tdiv (60 * Settings.millisPerSecond)) :=
      window.tdiv (by decide)
    show word _ >>= _ = _
    rw [word_eq minute, ok_bind, quotient_eq minute (by decide), ok_bind,
      quotient_eq window (by decide), ok_bind]
    exact quotient_eq minutes (by omega)
  | hours => exact quotient_eq window (by decide)
  | days => exact quotient_eq window (by decide)

theorem estimate_eq (settings : s.Words) (request : r.Words) :
    estimate s r granularity = .ok (s.estimate r granularity) := by
  have names : InRange r.names.length := ⟨by unfold least; omega, request.names⟩
  have hosts : InRange (max r.hostCount 1 : Nat) := by
    have counted := request.hosts
    constructor <;> unfold least greatest at * <;> omega
  rw [estimate, rangeMillis_eq request.times, ok_bind,
    rows_eq settings r.scope (inRange_rangeMillis r), ok_bind, word_eq hosts, ok_bind,
    word_eq names, ok_bind, word_mul, ok_bind, word_mul]
  rfl

theorem checkBudget_eq (settings : s.Words) (request : r.Words) :
    checkBudget s r granularity = .ok (s.checkBudget r granularity) := by
  rw [checkBudget, Settings.checkBudget]
  by_cases named : r.names.isEmpty
  · rw [if_pos named, if_pos named]
    rfl
  · rw [if_neg named, if_neg named, estimate_eq settings request, ok_bind,
      word_eq settings.limit, ok_bind]
    by_cases excessive : s.resultLimit < s.estimate r granularity
    · rw [if_pos excessive, if_pos excessive, rangeMillis_eq request.times, ok_bind,
        quotient_eq (inRange_rangeMillis r) (by decide), ok_bind]
      rfl
    · rw [if_neg excessive, if_neg excessive]
      rfl

theorem retains_eq (settings : s.Words) (request : r.Words) (time : InRange now) :
    retains s r granularity now = .ok (s.retains r granularity now) := by
  have retention := settings.retention r.scope granularity
  rw [retains, start_eq request.times, ok_bind, Settings.retains]
  cases r.start with
  | none => rfl
  | some start =>
    show word _ >>= _ = _
    rw [word_eq retention, ok_bind, word_mul, ok_bind, word_eq time, ok_bind, word_sub, ok_bind]
    rfl

end Requests

end Guarded

/-! ## Estimates -/

namespace Settings

/-- The row arithmetic on words: nothing overflows and no divisor is zero, and every function has
    the value that it has in exact integers. -/
structure Faultless (s : Settings) (r : Request) (granularity : Granularity) (now : Int) : Prop where
  toMillis : ∀ time, InRange time → Guarded.toMillis time = .ok (Request.toMillis time)
  rangeMillis : Guarded.rangeMillis r = .ok r.rangeMillis
  rows : ∀ scope range, InRange range →
    Guarded.rows s scope granularity range = .ok (s.rows scope granularity range)
  estimate : Guarded.estimate s r granularity = .ok (s.estimate r granularity)
  budget : Guarded.checkBudget s r granularity = .ok (s.checkBudget r granularity)
  retains : Guarded.retains s r granularity now = .ok (s.retains r granularity now)

/-- **Estimates.**  For settings, requests and times that are words the row arithmetic has no fault.
    The estimate is the number of rows over the window, as far as a word measures it, or the top of
    the range if that is less.  So it is a word and not negative, and a limit below the top is passed
    by it exactly if it is passed by the rows. -/
theorem estimate_faultless {s : Settings} {r : Request} {now : Int} (settings : s.Words)
    (request : r.Words) (time : InRange now) (granularity : Granularity) :
    s.Faultless r granularity now
      ∧ s.estimate r granularity
        = min greatest (s.rowsOver r granularity (min greatest r.span))
      ∧ 0 ≤ s.estimate r granularity ∧ s.estimate r granularity ≤ greatest
      ∧ (s.resultLimit < greatest →
        (s.resultLimit < s.estimate r granularity
          ↔ s.resultLimit < s.rowsOver r granularity (min greatest r.span))) := by
  have faultless : s.Faultless r granularity now :=
    { toMillis := fun _ held => Guarded.toMillis_eq held
      rangeMillis := Guarded.rangeMillis_eq request.times
      rows := fun scope _ held => Guarded.rows_eq settings scope held
      estimate := Guarded.estimate_eq settings request
      budget := Guarded.checkBudget_eq settings request
      retains := Guarded.retains_eq settings request time }
  obtain ⟨nonneg, held⟩ := s.estimate_ranged r granularity
  refine ⟨faultless, s.estimate_eq_min r granularity, nonneg, held, fun below => ?_⟩
  exact s.lt_estimate_iff r granularity below

/-- Settings as adverse as words can be: no interval is positive, and the limit and the retentions
    are at the ends of the range. -/
def adverse : Settings :=
  { standard with
    resultLimit := least
    hostIntervals := { second := 0, minute := least }
    clusterIntervals := { second := least, minute := -90 }
    hostRetention := { seconds := least, minutes := greatest, hours := -1, days := 0 }
    clusterRetention := { seconds := greatest, minutes := least, hours := -1, days := 0 } }

/-- A thousand series over a window from one end of the range to the other. -/
def widest : Request where
  kind := .plain
  sharedNames := List.replicate 32 "cpu_user"
  hosts := some (List.replicate 32 "h1")
  givenStart := some least
  givenFinish := some greatest

/-- Even so there is no fault, and the estimate is the top of the range. -/
theorem estimate_faultless_widest :
    adverse.Words ∧ widest.Words ∧ InRange least ∧ adverse.Faultless widest .seconds least
      ∧ adverse.estimate widest .seconds = greatest := by
  have settings : adverse.Words :=
    { limit := by constructor <;> decide
      second := fun scope => by cases scope <;> constructor <;> decide
      minute := fun scope => by cases scope <;> constructor <;> decide
      retention := fun scope granularity => by
        cases scope <;> cases granularity <;> constructor <;> decide }
  have request : widest.Words :=
    { times := by rintro t (⟨⟨⟩⟩ | ⟨⟨⟩⟩) <;> constructor <;> decide
      names := by decide
      hosts := by decide }
  have time : InRange least := by constructor <;> decide
  obtain ⟨faultless, closed, -⟩ := estimate_faultless settings request time .seconds
  refine ⟨settings, request, time, faultless, ?_⟩
  rw [closed]
  decide

end Settings

end Rollup
