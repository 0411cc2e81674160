/-
  The row budget, and whose rows it counts.

  A granularity suits a request if the table that is read keeps the start of the window, and if the
  rows to expect are within the limit.  Both depend on the scope: hosts and the cluster have
  intervals and retentions of their own.  The planner reckons with the scope of the request, which
  is that of hosts if it names any, while a method reads the table of its own scope.

  So what is found always suits the scope of the request (`resolve_suits`).  Whether it suits the
  scope that is read is another matter.  The crux is `opposing`, settings under which the two scopes
  have nothing in common: to the scope of the request an answer costs nothing and its rows are kept,
  to the other scope it costs what it can and they are not.  Only requests whose granularity does
  not depend on the scope at all come away unharmed.
-/
import Rollup.Proofs.Form

namespace Rollup

/-! ## Bounds on saturated results -/

namespace Saturated

/-- A word of 64 bits holds the number. -/
def InRange (n : Int) : Prop := least ≤ n ∧ n ≤ greatest

theorem inRange_clamp (n : Int) : InRange (clamp n) := ⟨least_le_clamp n, clamp_le_greatest n⟩

theorem InRange.clamp_eq {n : Int} (range : InRange n) : clamp n = n :=
  clamp_eq_self range.1 range.2

/-- **A product held in the range twice is cut off once.**  The product of three, none of them
    negative, is the exact one or the top of the range. -/
theorem mul_mul_eq_min {a b c : Int} (ha : 0 ≤ a) (hb : 0 ≤ b) (hc : 1 ≤ c) :
    mul (mul a b) c = min greatest (a * b * c) := by
  have inner : 0 ≤ a * b := Int.mul_nonneg ha hb
  have grows : a * b ≤ a * b * c := by
    have times := Int.mul_le_mul_of_nonneg_left hc inner
    omega
  rcases Int.le_total (a * b) greatest with small | big
  · have exact_inner : mul a b = a * b := clamp_eq_self (by unfold least; omega) small
    rw [exact_inner]
    unfold mul clamp least greatest at *
    omega
  · -- Once at the top the product stays there: the exact one is over it as well.
    have cut : mul a b = greatest := by
      unfold mul clamp least greatest at *
      omega
    have top : greatest ≤ greatest * c := by
      unfold greatest
      omega
    rw [cut]
    unfold mul clamp least greatest at *
    omega

/-- Below the top of the range it is exact. -/
theorem le_of_mul_mul_le {a b c n : Int} (ha : 0 ≤ a) (hb : 0 ≤ b) (hc : 1 ≤ c)
    (below : n < greatest) (h : mul (mul a b) c ≤ n) : a * b * c ≤ n := by
  rw [mul_mul_eq_min ha hb hc] at h
  omega

end Saturated

/-! ## What suits a request -/

namespace Settings

/-- The rows to expect of a scope are within the limit, in exact numbers. -/
def Affords (s : Settings) (scope : Scope) (r : Request) (granularity : Granularity) : Prop :=
  s.rows scope granularity (r.rangeMillis.getD 0) * r.names.length * (max r.hostCount 1 : Nat)
    ≤ s.resultLimit

/-- The table of a scope keeps the start of the window, in exact numbers. -/
def Keeps (s : Settings) (scope : Scope) (r : Request) (now : Int) (granularity : Granularity) :
    Prop :=
  ∃ start, r.start = some start ∧ now - s.retention scope granularity * millisPerSecond ≤ start

/-- A granularity suits a request whose rows are read from the tables of a scope.  One that was
    pinned need only be within the limit, and the days need nothing if they were not. -/
def Suits (s : Settings) (scope : Scope) (r : Request) (now : Int) (granularity : Granularity) :
    Prop :=
  match r.granularity with
  | some _ => s.Affords scope r granularity
  | none => granularity ≠ .days → s.Keeps scope r now granularity ∧ s.Affords scope r granularity

/-- The settings and the time are such that no bound is lost by saturating: the limit is not the very
    top of the range, and no table keeps its rows for less than no time. -/
structure Regular (s : Settings) (now : Int) : Prop where
  limit : s.resultLimit < Saturated.greatest
  retention : ∀ scope granularity, 0 ≤ s.retention scope granularity
  time : now ≤ Saturated.greatest

/-! ## What is found suits the scope of the request -/

section Found

variable {s : Settings} {r : Request} {now : Int} {granularity : Granularity}

theorem rows_nonneg (s : Settings) (scope : Scope) (granularity : Granularity) (range : Int) :
    0 ≤ s.rows scope granularity range := by
  have range_nonneg : 0 ≤ max range 0 := Int.le_max_right _ _
  have units : ∀ n : Int, 0 ≤ n → 0 ≤ (max range 0).tdiv n := fun n hn =>
    Int.tdiv_nonneg range_nonneg hn
  cases granularity with
  | seconds => exact Int.tdiv_nonneg (units _ (by decide)) (by omega)
  | minutes => exact Int.tdiv_nonneg (units _ (by decide)) (by omega)
  | hours => exact units _ (by decide)
  | days => exact units _ (by decide)

theorem affords_of_estimate (limit : s.resultLimit < Saturated.greatest)
    (h : s.estimate r granularity ≤ s.resultLimit) : s.Affords r.scope r granularity :=
  Saturated.le_of_mul_mul_le (s.rows_nonneg ..) (Int.natCast_nonneg _) (by omega) limit h

theorem keeps_of_retains (regular : s.Regular now) (h : s.retains r granularity now = true) :
    s.Keeps r.scope r now granularity := by
  have retention := regular.retention r.scope granularity
  have time := regular.time
  unfold retains at h
  cases start : r.start with
  | none =>
    rw [start] at h
    exact absurd h Bool.false_ne_true
  | some t =>
    rw [start] at h
    have within := of_decide_eq_true h
    refine ⟨t, start, ?_⟩
    -- Saturating can only have shortened what is kept and brought its start forward.
    unfold millisPerSecond Saturated.mul Saturated.sub Saturated.clamp Saturated.least
      Saturated.greatest at *
    omega

/-- The search ends with a granularity that admits the request, or with days. -/
theorem finest_eq_days_or_admits (s : Settings) (r : Request) (now : Int) :
    s.finest r now = .days ∨ s.admits r now (s.finest r now) = true := by
  unfold finest
  cases found : Granularity.all.find? (s.admits r now) with
  | none => exact .inl rfl
  | some granularity => exact .inr (List.find?_some found)

/-- To be admitted is to be within the limit and still kept. -/
theorem admits_iff :
    s.admits r now granularity = true
      ↔ s.estimate r granularity ≤ s.resultLimit ∧ s.retains r granularity now = true := by
  rw [admits, Bool.and_eq_true, decide_eq_true_eq]

/-- What the search finds is within the limit and still kept, or it is days. -/
theorem finest_admitted (not_days : s.finest r now ≠ .days) :
    s.estimate r (s.finest r now) ≤ s.resultLimit
      ∧ s.retains r (s.finest r now) now = true :=
  admits_iff.mp ((s.finest_eq_days_or_admits r now).resolve_left not_days)

/-- A request with names passes the check of the budget where its estimate is within the limit. -/
theorem checkBudget_eq_ok (named : r.names ≠ []) :
    s.checkBudget r granularity = .ok () ↔ s.estimate r granularity ≤ s.resultLimit := by
  unfold checkBudget
  rw [if_neg (by simpa using named)]
  by_cases exceeds : s.resultLimit < s.estimate r granularity
  · rw [if_pos exceeds]
    exact ⟨nofun, fun within => absurd within (Int.not_le.mpr exceeds)⟩
  · rw [if_neg exceeds]
    exact ⟨fun _ => Int.not_lt.mp exceeds, fun _ => rfl⟩

/-- A pinned granularity is found if it passes the check. -/
theorem resolve_pinned {g : Granularity} (pinned : r.granularity = some g) :
    s.resolve r now = .ok granularity ↔ g = granularity ∧ s.checkBudget r g = .ok () := by
  unfold resolve
  rw [pinned]
  show (s.checkBudget r g).map (fun _ => g) = .ok granularity ↔ _
  cases s.checkBudget r g with
  | error e => simp [Except.map]
  | ok u => simp [Except.map]

/-- **What is found suits the scope of the request.** -/
theorem resolve_suits (named : r.names ≠ []) (regular : s.Regular now)
    (found : s.resolve r now = .ok granularity) : s.Suits r.scope r now granularity := by
  unfold Suits
  cases pinned : r.granularity with
  | none =>
    unfold resolve at found
    rw [pinned] at found
    obtain rfl : s.finest r now = granularity := Except.ok.inj found
    intro not_days
    obtain ⟨affordable, kept⟩ := finest_admitted not_days
    exact ⟨keeps_of_retains regular kept, affords_of_estimate regular.limit affordable⟩
  | some g =>
    obtain ⟨rfl, within⟩ := (resolve_pinned pinned).mp found
    exact affords_of_estimate regular.limit ((checkBudget_eq_ok named).mp within)

end Found

end Settings

/-! ## Requests that do not care whose rows are counted -/

namespace Request

/-- The times given are 64-bit integers. -/
def Ranged (r : Request) : Prop :=
  ∀ t, r.givenStart = some t ∨ r.givenFinish = some t →
    Saturated.least ≤ t ∧ t ≤ Saturated.greatest

/-- The choice of a granularity for the request does not depend on the scope: there is no start that
    a time could be past, or a granularity was pinned at which the window is too short for a row, or
    at which all scopes have the same interval. -/
def ScopeFree (r : Request) : Prop :=
  match r.granularity with
  | none => ∀ t, r.start = some t → Saturated.greatest ≤ t
  | some .seconds => r.rangeMillis.getD 0 < Settings.millisPerSecond
  | some .minutes => r.rangeMillis.getD 0 < 60 * Settings.millisPerSecond
  | some .hours | some .days => True

end Request

namespace Settings

/-! ### Ranges -/

section Ranged

variable {r : Request}

/-- A 64-bit time is one still in milliseconds. -/
theorem toMillis_ranged {t : Int} (h : Saturated.least ≤ t ∧ t ≤ Saturated.greatest) :
    Saturated.least ≤ Request.toMillis t ∧ Request.toMillis t ≤ Saturated.greatest := by
  unfold Request.toMillis
  split
  · exact Saturated.inRange_clamp _
  · exact h

theorem start_ranged (ranged : r.Ranged) {t : Int} (start : r.start = some t) :
    Saturated.least ≤ t ∧ t ≤ Saturated.greatest := by
  obtain ⟨given, some_given, rfl⟩ := Option.map_eq_some_iff.mp start
  exact toMillis_ranged (ranged given (.inl some_given))

theorem finish_ranged (ranged : r.Ranged) {t : Int} (finish : r.finish = some t) :
    Saturated.least ≤ t ∧ t ≤ Saturated.greatest := by
  obtain ⟨given, some_given, rfl⟩ := Option.map_eq_some_iff.mp finish
  exact toMillis_ranged (ranged given (.inr some_given))

/-- A window is never longer than the range. -/
theorem rangeMillis_le_greatest (r : Request) : r.rangeMillis.getD 0 ≤ Saturated.greatest := by
  have zero : (0 : Int) ≤ Saturated.greatest := by decide
  unfold Request.rangeMillis
  cases r.start with
  | none => exact zero
  | some start =>
    cases r.finish with
    | none => exact zero
    | some finish => exact Saturated.clamp_le_greatest _

/-- A window that starts at the end of the range has no length. -/
theorem rangeMillis_of_last (ranged : r.Ranged) (start : r.start = some Saturated.greatest) :
    r.rangeMillis.getD 0 ≤ 0 := by
  unfold Request.rangeMillis
  rw [start]
  cases finish : r.finish with
  | none => exact Int.le_refl 0
  | some t =>
    have within := (finish_ranged ranged finish).2
    show Saturated.clamp (t - Saturated.greatest) ≤ 0
    unfold Saturated.clamp Saturated.least Saturated.greatest at *
    omega

end Ranged

/-! ### What suits one scope suits the other -/

section Free

variable {s : Settings} {r : Request} {now : Int} {granularity : Granularity}

/-- Short windows have no rows, whatever the interval. -/
theorem tdiv_eq_zero_of_short {range unit : Int} (some_unit : 0 < unit) (short : range < unit)
    (interval : Int) : ((max range 0).tdiv unit).tdiv interval = 0 := by
  have none_yet : (max range 0).tdiv unit = 0 :=
    Int.tdiv_eq_zero_of_lt (Int.le_max_right _ _) (by omega)
  rw [none_yet, Int.zero_tdiv]

/-- Windows without length have none at any granularity. -/
theorem rows_eq_zero {scope : Scope} {range : Int} (no_length : range ≤ 0) :
    s.rows scope granularity range = 0 := by
  have none_left : max range 0 = 0 := by omega
  unfold rows
  rw [none_left]
  cases granularity <;> simp

/-- Where the choice does not depend on the scope, neither do the rows. -/
theorem rows_of_scopeFree (free : r.ScopeFree) (pinned : r.granularity = some granularity)
    (scope scope' : Scope) :
    s.rows scope granularity (r.rangeMillis.getD 0)
      = s.rows scope' granularity (r.rangeMillis.getD 0) := by
  unfold Request.ScopeFree at free
  rw [pinned] at free
  cases granularity with
  | seconds =>
    have none_yet := tdiv_eq_zero_of_short (by decide : 0 < millisPerSecond) free
    exact (none_yet _).trans (none_yet _).symm
  | minutes =>
    have none_yet := tdiv_eq_zero_of_short (by decide : 0 < 60 * millisPerSecond) free
    exact (none_yet _).trans (none_yet _).symm
  | hours => rfl
  | days => rfl

/-- **What suits one scope** then suits every other. -/
theorem Suits.of_scopeFree (free : r.ScopeFree) (ranged : r.Ranged) (regular : s.Regular now)
    {scope : Scope} (found : s.resolve r now = .ok granularity)
    (suits : s.Suits scope r now granularity) (scope' : Scope) :
    s.Suits scope' r now granularity := by
  unfold Suits at *
  cases pinned : r.granularity with
  | none =>
    rw [pinned] at suits
    intro not_days
    obtain ⟨⟨start, some_start, -⟩, affords⟩ := suits not_days
    unfold Request.ScopeFree at free
    rw [pinned] at free
    obtain rfl : start = Saturated.greatest :=
      Int.le_antisymm (start_ranged ranged some_start).2 (free start some_start)
    have no_length := rangeMillis_of_last ranged some_start
    refine ⟨⟨_, some_start, ?_⟩, ?_⟩
    -- No time is past such a start, and no window can follow it.
    · have time := regular.time
      have retention := regular.retention scope' granularity
      unfold millisPerSecond
      omega
    · unfold Affords at *
      rw [rows_eq_zero no_length] at affords ⊢
      exact affords
  | some g =>
    rw [pinned] at suits
    obtain ⟨rfl, -⟩ := (resolve_pinned pinned).mp found
    show s.Affords scope' r g
    unfold Affords
    rw [rows_of_scopeFree free pinned scope' scope]
    exact suits

end Free

/-! ## Settings that set the scopes apart -/

/-- The intervals of a scope under the opposing settings: longer than any window for the one, as
    short as can be for the other. -/
def opposingIntervals (own scope : Scope) : Intervals :=
  if scope = own then { second := Saturated.greatest, minute := Saturated.greatest }
  else { second := 1, minute := 1 }

/-- Its retention: a second for the one, and no time at all for the other. -/
def opposingRetention (own scope : Scope) : Retention :=
  if scope = own then { seconds := 1, minutes := 1, hours := 1, days := 1 }
  else { seconds := 0, minutes := 0, hours := 0, days := 0 }

/-- Settings under which all is well for one scope and nothing for the other. -/
def opposing (own : Scope) : Settings :=
  { standard with
    resultLimit := 0
    hostIntervals := opposingIntervals own .perHost
    clusterIntervals := opposingIntervals own .cluster
    hostRetention := opposingRetention own .perHost
    clusterRetention := opposingRetention own .cluster }

section Opposing

variable {own other : Scope} {r : Request} {now : Int} {granularity : Granularity}

theorem intervals_opposing (own scope : Scope) :
    (opposing own).intervals scope = opposingIntervals own scope := by
  cases scope <;> rfl

theorem retention_opposing (own scope : Scope) (granularity : Granularity) :
    (opposing own).retention scope granularity = if scope = own then 1 else 0 := by
  cases own <;> cases scope <;> cases granularity <;> rfl

/-- To the one scope an answer of the finer granularities costs nothing. -/
theorem rows_opposing_own (own : Scope) {range : Int} (within : range ≤ Saturated.greatest) :
    (opposing own).rows own .seconds range = 0 ∧ (opposing own).rows own .minutes range = 0 := by
  have range_nonneg : 0 ≤ max range 0 := Int.le_max_right _ _
  have below : max range 0 ≤ Saturated.greatest := by
    unfold Saturated.greatest at *
    omega
  have small : ∀ unit interval : Int, 0 < unit → Saturated.greatest < interval * unit →
      ((max range 0).tdiv unit).tdiv interval = 0 := by
    intro unit interval some_unit long
    rw [Int.tdiv_eq_ediv_of_nonneg range_nonneg]
    refine Int.tdiv_eq_zero_of_lt (Int.ediv_nonneg range_nonneg (Int.le_of_lt some_unit)) ?_
    exact Int.ediv_lt_of_lt_mul some_unit (by omega)
  unfold rows
  rw [intervals_opposing, opposingIntervals, if_pos rfl]
  exact ⟨small _ _ (by decide) (by decide), small _ _ (by decide) (by decide)⟩

/-- To the other it costs a row for each second or minute. -/
theorem rows_opposing_other (apart : other ≠ own) (range : Int) :
    (opposing own).rows other .seconds range = (max range 0).tdiv millisPerSecond
      ∧ (opposing own).rows other .minutes range
          = (max range 0).tdiv (60 * millisPerSecond) := by
  unfold rows
  rw [intervals_opposing, opposingIntervals, if_neg apart]
  exact ⟨Int.tdiv_one _, Int.tdiv_one _⟩

theorem regular_opposing (time : now ≤ Saturated.greatest) : (opposing own).Regular now := by
  have limit : (0 : Int) < Saturated.greatest := by decide
  refine ⟨limit, fun scope granularity => ?_, time⟩
  rw [retention_opposing]
  split <;> decide

/-- Without rows nothing is expected. -/
theorem estimate_eq_zero {s : Settings}
    (none_yet : s.rows r.scope granularity (r.rangeMillis.getD 0) = 0) :
    s.estimate r granularity = 0 := by
  have nothing : ∀ n : Int, Saturated.mul 0 n = 0 := by
    intro n
    unfold Saturated.mul
    rw [Int.zero_mul]
    rfl
  unfold estimate
  rw [none_yet, nothing, nothing]

/-- Where a row is expected, a limit of none is passed. -/
theorem not_affords {s : Settings} {scope : Scope} (limit : s.resultLimit = 0)
    (named : r.names ≠ []) (some_row : 1 ≤ s.rows scope granularity (r.rangeMillis.getD 0)) :
    ¬ s.Affords scope r granularity := by
  have some_name : (0 : Int) < r.names.length := by
    exact_mod_cast List.length_pos_iff.mpr named
  have some_host : (0 : Int) < (max r.hostCount 1 : Nat) := by omega
  have exceeds := Int.mul_pos (Int.mul_pos (Int.lt_of_lt_of_le Int.zero_lt_one some_row) some_name)
    some_host
  unfold Affords
  rw [limit]
  exact Int.not_le.mpr exceeds

/-- **Unpinned.**  A moment after the start, seconds are found for a request of the one scope, and
    the other scope has not kept them. -/
theorem opposing_unpinned {t : Int} (apart : other ≠ r.scope) (unpinned : r.granularity = none)
    (start : r.start = some t) (least : Saturated.least ≤ t) :
    (opposing r.scope).resolve r (t + 1) = .ok .seconds
      ∧ ¬ (opposing r.scope).Suits other r (t + 1) .seconds := by
  constructor
  · have cheap : (opposing r.scope).estimate r .seconds = 0 :=
      estimate_eq_zero (rows_opposing_own r.scope (rangeMillis_le_greatest r)).1
    have kept : (opposing r.scope).retains r .seconds (t + 1) = true := by
      unfold retains
      rw [start, retention_opposing, if_pos rfl]
      refine decide_eq_true ?_
      show Saturated.clamp (t + 1 - 1000) ≤ t
      unfold Saturated.clamp Saturated.least Saturated.greatest at *
      omega
    have admitted : (opposing r.scope).admits r (t + 1) .seconds = true := by
      unfold Settings.admits
      rw [cheap, kept]
      rfl
    unfold resolve finest Granularity.all
    rw [unpinned, List.find?_cons_of_pos admitted]
    rfl
  · -- The other scope keeps rows for no time at all, and the start is past.
    intro suits
    unfold Suits at suits
    rw [unpinned] at suits
    obtain ⟨⟨t', start', kept⟩, -⟩ := suits nofun
    rw [start] at start'
    rw [retention_opposing, if_neg apart, ← Option.some.inj start'] at kept
    unfold millisPerSecond at kept
    omega

/-- **Pinned.**  A request of the one scope passes the check of its budget, and the rows of the
    other are over it. -/
theorem opposing_pinned (now : Int) (apart : other ≠ r.scope) (named : r.names ≠ [])
    (pinned : r.granularity = some granularity) (bound : ¬ r.ScopeFree) :
    (opposing r.scope).resolve r now = .ok granularity
      ∧ ¬ (opposing r.scope).Suits other r now granularity := by
  have passes : (opposing r.scope).rows r.scope granularity (r.rangeMillis.getD 0) = 0 →
      (opposing r.scope).resolve r now = .ok granularity := by
    intro none_yet
    refine (resolve_pinned pinned).mpr ⟨rfl, (checkBudget_eq_ok named).mpr ?_⟩
    rw [estimate_eq_zero none_yet]
    exact Int.le_refl 0
  have exceeds : 1 ≤ (opposing r.scope).rows other granularity (r.rangeMillis.getD 0) →
      ¬ (opposing r.scope).Suits other r now granularity := by
    intro some_row suits
    unfold Suits at suits
    rw [pinned] at suits
    exact not_affords rfl named some_row suits
  have some_unit : ∀ unit : Int, 0 < unit → unit ≤ r.rangeMillis.getD 0 →
      1 ≤ (max (r.rangeMillis.getD 0) 0).tdiv unit := by
    intro unit positive long
    rw [Int.tdiv_eq_ediv_of_nonneg (Int.le_max_right _ _)]
    exact Int.le_ediv_of_mul_le positive (by omega)
  have own := rows_opposing_own r.scope (rangeMillis_le_greatest r)
  have others := rows_opposing_other apart (r.rangeMillis.getD 0)
  unfold Request.ScopeFree at bound
  rw [pinned] at bound
  cases granularity with
  | seconds =>
    refine ⟨passes own.1, exceeds ?_⟩
    rw [others.1]
    exact some_unit _ (by decide) (Int.not_lt.mp bound)
  | minutes =>
    refine ⟨passes own.2, exceeds ?_⟩
    rw [others.2]
    exact some_unit _ (by decide) (Int.not_lt.mp bound)
  | hours => exact absurd trivial bound
  | days => exact absurd trivial bound

/-- **Some settings part the scopes** for every request that cares. -/
theorem exists_unsuited (apart : other ≠ r.scope) (named : r.names ≠ []) (ranged : r.Ranged)
    (bound : ¬ r.ScopeFree) :
    ∃ now granularity, (opposing r.scope).Regular now
      ∧ (opposing r.scope).resolve r now = .ok granularity
      ∧ ¬ (opposing r.scope).Suits other r now granularity := by
  cases pinned : r.granularity with
  | some granularity =>
    exact ⟨0, granularity, regular_opposing (by decide),
      opposing_pinned 0 apart named pinned bound⟩
  | none =>
    unfold Request.ScopeFree at bound
    rw [pinned] at bound
    obtain ⟨t, past⟩ := Classical.not_forall.mp bound
    obtain ⟨start, early⟩ := Classical.not_imp.mp past
    have time : t + 1 ≤ Saturated.greatest := Int.not_le.mp early
    exact ⟨t + 1, .seconds, regular_opposing time,
      opposing_unpinned apart pinned start (start_ranged ranged start).1⟩

end Opposing

end Settings

/-! ## Plans for series -/

namespace Plan

/-- **Whose rows are counted.**  A plan for series reads at a granularity that suits the scope of the
    request.  It suits the scope that is read, whatever the settings and the time, exactly for
    requests of that scope and for those that do not care. -/
theorem series_suits_iff {scope : Scope} {r : Request} (named : r.names ≠ [])
    (plannable : checkSeries scope r = .ok ()) (ranged : r.Ranged) :
    (∀ s now p, s.Regular now → series scope s now r = .ok p →
        ∃ granularity, p.granularity = some granularity ∧ s.Suits r.scope r now granularity)
      ∧ ((∀ s now p, s.Regular now → series scope s now r = .ok p →
            ∃ granularity, p.granularity = some granularity ∧ s.Suits scope r now granularity)
          ↔ r.scope = scope ∨ r.ScopeFree) := by
  have nonempty : r.isEmpty = false := by
    unfold Request.isEmpty
    simp [named]
  have own : ∀ s now p, s.Regular now → series scope s now r = .ok p →
      ∃ granularity, s.resolve r now = .ok granularity ∧ p.granularity = some granularity
        ∧ s.Suits r.scope r now granularity := by
    intro s now p regular planned
    obtain ⟨-, -, granularity, found, rfl⟩ := series_eq_ok.mp planned
    exact ⟨granularity, found, rfl, Settings.resolve_suits named regular found⟩
  refine ⟨fun s now p regular planned => ?_, ?_, ?_⟩
  · obtain ⟨granularity, -, read, suits⟩ := own s now p regular planned
    exact ⟨granularity, read, suits⟩
  · intro always
    -- Were neither so, the opposing settings would belie what is always claimed.
    by_cases same : r.scope = scope
    · exact .inl same
    · by_cases free : r.ScopeFree
      · exact .inr free
      · exfalso
        obtain ⟨now, granularity, regular, found, unsuited⟩ :=
          Settings.exists_unsuited (Ne.symm same) named ranged free
        obtain ⟨granularity', read, suits⟩ := always _ now _ regular
          (series_eq_ok.mpr ⟨nonempty, plannable, granularity, found, rfl⟩)
        obtain rfl : granularity = granularity' := Option.some.inj read
        exact unsuited suits
  · rintro (same | free) s now p regular planned
    · obtain ⟨granularity, -, read, suits⟩ := own s now p regular planned
      rw [same] at suits
      exact ⟨granularity, read, suits⟩
    · obtain ⟨granularity, found, read, suits⟩ := own s now p regular planned
      exact ⟨granularity, read, suits.of_scopeFree free ranged regular found scope⟩

/-- A request for one metric over ten minutes, without hosts.  Whatever is found suits the cluster's
    tables, and there are settings under which it does not suit those of hosts. -/
theorem series_suits_without_hosts :
    (∀ s now p, s.Regular now →
        series .cluster s now
          { kind := .plain, sharedNames := ["cpu_user"],
            givenStart := some 1000, givenFinish := some 1600 } = .ok p →
        ∃ granularity, p.granularity = some granularity
          ∧ s.Suits .cluster
            { kind := .plain, sharedNames := ["cpu_user"],
              givenStart := some 1000, givenFinish := some 1600 } now granularity)
      ∧ ¬ ∀ s now p, s.Regular now →
        series .perHost s now
          { kind := .plain, sharedNames := ["cpu_user"],
            givenStart := some 1000, givenFinish := some 1600 } = .ok p →
        ∃ granularity, p.granularity = some granularity
          ∧ s.Suits .perHost
            { kind := .plain, sharedNames := ["cpu_user"],
              givenStart := some 1000, givenFinish := some 1600 } now granularity := by
  have ranged : Request.Ranged
      { kind := .plain, sharedNames := ["cpu_user"],
        givenStart := some 1000, givenFinish := some 1600 } := by
    rintro t (⟨⟨⟩⟩ | ⟨⟨⟩⟩) <;> decide
  have suits := fun scope => @series_suits_iff scope
    { kind := .plain, sharedNames := ["cpu_user"],
      givenStart := some 1000, givenFinish := some 1600 }
    (List.cons_ne_nil _ _) rfl ranged
  refine ⟨(suits .cluster).2.mpr (.inl rfl), fun always => ?_⟩
  rcases (suits .perHost).2.mp always with same | free
  · exact nomatch same
  · exact absurd (free 1000000 rfl) (by decide)

/-- A request without hosts, three days back, is read in seconds from the table of hosts, which keeps
    them for one day. -/
theorem series_reads_expired :
    ∃ p, series .perHost .standard 1700000000000
        { kind := .plain, sharedNames := ["cpu_user"],
          givenStart := some 1699740800000, givenFinish := some 1699741400000 } = .ok p
      ∧ p.table = .series .perHost .seconds
      ∧ p.granularity = some .seconds
      ∧ ¬ Settings.standard.Suits .perHost
          { kind := .plain, sharedNames := ["cpu_user"],
            givenStart := some 1699740800000, givenFinish := some 1699741400000 }
          1700000000000 .seconds := by
  refine ⟨_, rfl, by decide +kernel, by decide +kernel, fun suits => ?_⟩
  obtain ⟨⟨start, some_start, kept⟩, -⟩ := suits nofun
  obtain rfl : (1699740800000 : Int) = start := Option.some.inj some_start
  exact absurd kept (by decide)

end Plan

end Rollup
