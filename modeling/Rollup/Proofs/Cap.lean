/-
  Statements without a cap.

  A statement ends with a cap on its rows, unless the request asks for every row or pins a
  granularity.  A request that pins one pays for it: what its answer may come to must be within the
  limit on estimates (`uncapped_within_budget`).

  What is weighed is one series for each name and each host.  The crux is where that is not what is
  read: a request by identity is weighed by its names all the same, and without any it is not
  weighed at all; a window with an end missing counts as one of no length; and an estimate is cut
  off at the top of the range, where the limit may stand too (`uncapped_over_budget`).
-/
import Rollup.Proofs.Budget
import Rollup.Proofs.Sql.Slot

namespace Rollup

open Sql (capText orderText)

/-! ## Caps, seen from the text -/

namespace Plan

/-- The text ends with a cap on the rows. -/
def Capped (p : Plan) : Prop := ∃ before rows, p.text = before ++ capText (some rows)

/-- A text that ends with a number ends with a digit. -/
theorem isDigit_getLast?_nat (before : String) (n : Nat) :
    ∃ c, (before ++ toString n).toList.getLast? = some c ∧ c.isDigit = true := by
  have some_digit : (toString n).toList ≠ [] := by
    rw [Sql.toList_toString]
    exact Nat.toDigits_ne_nil
  refine ⟨(toString n).toList.getLast some_digit, ?_, ?_⟩
  · rw [String.toList_append, List.getLast?_append, List.getLast?_eq_some_getLast some_digit]
    rfl
  · exact Sql.isDigit_of_mem_toString (List.getLast_mem some_digit)

theorem isDigit_getLast?_int (before : String) (n : Int) :
    ∃ c, (before ++ toString n).toList.getLast? = some c ∧ c.isDigit = true := by
  cases n with
  | ofNat n => exact isDigit_getLast?_nat before n
  | negSucc n =>
    show ∃ c, (before ++ ("-" ++ toString (n + 1))).toList.getLast? = some c ∧ _
    rw [← String.append_assoc]
    exact isDigit_getLast?_nat _ _

/-- A capped text ends with a digit. -/
theorem Capped.isDigit_getLast? {p : Plan} (capped : p.Capped) :
    ∃ c, p.text.toList.getLast? = some c ∧ c.isDigit = true := by
  obtain ⟨before, rows, text⟩ := capped
  have apart : before ++ capText (some rows) = before ++ " LIMIT " ++ toString rows :=
    (String.append_assoc ..).symm
  rw [text, apart]
  exact isDigit_getLast?_int _ rows

/-- A text that ends with the name of a column has no cap. -/
theorem not_capped_of_ends {p : Plan} {before last : String} (text : p.text = before ++ last)
    (ends : last.toList.getLast? = some 'E') : ¬ p.Capped := by
  intro capped
  obtain ⟨c, found, digit⟩ := capped.isDigit_getLast?
  rw [text, String.toList_append, List.getLast?_append, ends] at found
  obtain rfl : 'E' = c := Option.some.inj found
  exact absurd digit (by decide)

end Plan

/-! ## The methods that weigh a request -/

namespace Request

/-- The cap of a request that neither pins a granularity nor asks for every row. -/
theorem limit_eq (r : Request) (default : Int) :
    r.limit default
      = if r.granularity = none ∧ r.unlimited = false then some (r.givenLimit.getD default)
        else none := by
  unfold limit
  cases r.unlimited <;> cases r.granularity <;> simp

/-- There is a cap unless the request asks for every row or pins a granularity. -/
theorem limit_eq_none {r : Request} {default : Int} :
    r.limit default = none ↔ ¬ (r.unlimited = false ∧ r.granularity = none) := by
  rw [limit_eq, ite_eq_right_iff, and_comm]
  simp

end Request

namespace Method

/-- The methods that hold a request against the limit on estimates: those whose statements may end
    with a cap of the caller's choosing. -/
def Weighs : Method → Prop
  | series _ | transient => True
  | latest | metadata | latestAggregates => False

/-- The columns that a method orders its rows by, if the caller has none. -/
def defaultOrder : Method → List String
  | series _ => ["UUID", "SERVER_TIME"]
  | transient => ["METRIC_NAME", "SERVER_TIME"]
  | latest | metadata | latestAggregates => []

variable {m : Method} {s : Settings} {now : Int} {r : Request} {ps : List Plan} {p : Plan}

/-- A plan of theirs ends with an order and the cap of its request. -/
theorem exists_text (weighs : m.Weighs) (planned : m.plans s now r = .ok ps) (hp : p ∈ ps) :
    ∃ before, p.text = before ++ orderText (Plan.orderOf r m.defaultOrder)
      ++ capText (r.limit s.defaultLimit) := by
  obtain ⟨granularity, -, rfl⟩ := plans_eq_ok.mp planned
  cases m with
  | series scope =>
    obtain ⟨f, hf, rfl⟩ := List.mem_map.mp hp
    obtain rfl := List.mem_singleton.mp hf
    exact ⟨_, (text_asked (series scope) r (Plan.seriesForm scope s r granularity)).trans
      (String.append_assoc ..).symm⟩
  | transient =>
    obtain ⟨f, hf, rfl⟩ := List.mem_map.mp hp
    obtain rfl := List.mem_singleton.mp hf
    exact ⟨_, (String.append_assoc ..).symm⟩
  | latest | metadata | latestAggregates => exact weighs.elim

theorem capped_of_limit {rows : Int} (weighs : m.Weighs) (planned : m.plans s now r = .ok ps)
    (hp : p ∈ ps) (limit : r.limit s.defaultLimit = some rows) : p.Capped := by
  obtain ⟨before, text⟩ := exists_text weighs planned hp
  rw [limit] at text
  exact ⟨_, rows, text⟩

/-- Without a cap the text ends with the order, so with the name of a column if the caller has no
    order. -/
theorem not_capped_of_limit (weighs : m.Weighs) (planned : m.plans s now r = .ok ps) (hp : p ∈ ps)
    (limit : r.limit s.defaultLimit = none) (order : r.orderBy = []) : ¬ p.Capped := by
  obtain ⟨before, text⟩ := exists_text weighs planned hp
  have ordered : orderText (Plan.orderOf r m.defaultOrder)
      = orderText (Plan.ascending m.defaultOrder) := by
    unfold Plan.orderOf
    rw [order]
    rfl
  rw [limit, ordered] at text
  refine Plan.not_capped_of_ends (text.trans String.append_empty) ?_
  cases m with
  | series _ =>
    show (orderText (Plan.ascending ["UUID", "SERVER_TIME"])).toList.getLast? = some 'E'
    rfl
  | transient => rfl
  | latest | metadata | latestAggregates => exact weighs.elim

/-- **When there is a cap.**  In the order that is the default a plan is capped exactly if the
    request neither asks for every row nor pins a granularity. -/
theorem capped_iff (weighs : m.Weighs) (planned : m.plans s now r = .ok ps) (hp : p ∈ ps)
    (order : r.orderBy = []) : p.Capped ↔ r.unlimited = false ∧ r.granularity = none := by
  cases limit : r.limit s.defaultLimit with
  | none =>
    have lifted := Request.limit_eq_none.mp limit
    exact iff_of_false (not_capped_of_limit weighs planned hp limit order) lifted
  | some rows =>
    have bound : r.limit s.defaultLimit ≠ none := by
      rw [limit]
      exact Option.some_ne_none rows
    exact iff_of_true (capped_of_limit weighs planned hp limit)
      (Classical.not_not.mp (mt Request.limit_eq_none.mpr bound))

/-- A request that pins the granularity found has one plan, and in the default order no cap. -/
theorem exists_uncapped {granularity : Granularity} (weighs : m.Weighs)
    (passed : m.check s now r = .ok granularity) (pinned : r.granularity = some granularity)
    (order : r.orderBy = []) : ∃ p, m.plans s now r = .ok [p] ∧ ¬ p.Capped := by
  have planned := plans_eq_ok.mpr ⟨granularity, passed, rfl⟩
  cases m with
  | series _ | transient =>
    refine ⟨_, planned, fun capped => ?_⟩
    have unpinned := ((capped_iff weighs planned (List.mem_singleton_self _) order).mp capped).2
    exact nomatch pinned.symm.trans unpinned
  | latest | metadata | latestAggregates => exact weighs.elim

/-- What is pinned has been weighed, and is what is read. -/
theorem checkBudget_of_check (weighs : m.Weighs) {found granularity : Granularity}
    (passed : m.check s now r = .ok found) (pinned : r.granularity = some granularity) :
    s.checkBudget r granularity = .ok () ∧ m.reads found = m.reads granularity := by
  cases m with
  | series scope =>
    obtain ⟨_, -, passed⟩ := Plan.bind_eq_ok.mp passed
    obtain ⟨_, -, resolved⟩ := Plan.bind_eq_ok.mp passed
    obtain ⟨rfl, within⟩ := (Settings.resolve_pinned pinned).mp resolved
    exact ⟨within, rfl⟩
  | transient =>
    obtain ⟨_, -, passed⟩ := Plan.bind_eq_ok.mp passed
    obtain ⟨_, -, passed⟩ := Plan.bind_eq_ok.mp passed
    obtain ⟨_, weighed, -⟩ := Plan.bind_eq_ok.mp passed
    unfold Settings.checkPinned at weighed
    rw [pinned] at weighed
    exact ⟨weighed, rfl⟩
  | latest | metadata | latestAggregates => exact weighs.elim

/-- **Without a cap, pinned.** -/
theorem exists_pinned (weighs : m.Weighs) (limited : r.unlimited = false)
    (planned : m.plans s now r = .ok ps) (hp : p ∈ ps) (uncapped : ¬ p.Capped) :
    ∃ granularity, r.granularity = some granularity := by
  refine Option.ne_none_iff_exists'.mp fun unpinned => ?_
  have limit : r.limit s.defaultLimit = some (r.givenLimit.getD s.defaultLimit) := by
    unfold Request.limit
    rw [limited, unpinned]
    rfl
  exact uncapped (capped_of_limit weighs planned hp limit)

/-- **Pinned, within the limit.**  A plan of a request that pins a granularity reads at it, and a
    series for each name and each host comes to no more rows than the limit allows. -/
theorem within_of_pinned {granularity : Granularity} {range : Int} (weighs : m.Weighs)
    (window : r.rangeMillis = some range) (positive : 1 ≤ s.resultLimit)
    (below : s.resultLimit < Saturated.greatest) (planned : m.plans s now r = .ok ps) (hp : p ∈ ps)
    (pinned : r.granularity = some granularity) :
    p.granularity = m.reads granularity
      ∧ s.rows r.scope granularity range * (r.names.length * max 1 r.hostCount : Nat)
          ≤ s.resultLimit := by
  obtain ⟨found, passed, rfl⟩ := plans_eq_ok.mp planned
  obtain ⟨f, -, rfl⟩ := List.mem_map.mp hp
  obtain ⟨weighed, read⟩ := checkBudget_of_check weighs passed pinned
  refine ⟨read, ?_⟩
  by_cases named : r.names = []
  -- Without names nothing was weighed, but there is no series to count either.
  · rw [named, List.length_nil, Nat.zero_mul, Int.natCast_zero, Int.mul_zero]
    omega
  · have within := (Settings.checkBudget_eq_ok named).mp weighed
    have affords := Settings.affords_of_estimate below within
    unfold Settings.Affords at affords
    rw [window, Option.getD_some, Int.mul_assoc, ← Int.natCast_mul, Nat.max_comm] at affords
    exact affords

/-- Two metrics on a host over an hour, pinned to minutes. -/
def hourOfMinutes : Request where
  kind := .plain
  sharedNames := ["cpu_user", "cpu_idle"]
  hosts := some ["h1"]
  givenStart := some 0
  givenFinish := some 3600
  granularity := some .minutes

/-- **Uncapped plans are within the limit.**  If a request with a window does not ask for every row,
    and a plan of it has no cap, then it pins a granularity, which is the one read; and a series for
    each of its names and each of its hosts comes to no more rows than the limit allows. -/
theorem uncapped_within_budget {range : Int} (weighs : m.Weighs) (limited : r.unlimited = false)
    (window : r.rangeMillis = some range) (positive : 1 ≤ s.resultLimit)
    (below : s.resultLimit < Saturated.greatest) (planned : m.plans s now r = .ok ps) (hp : p ∈ ps)
    (uncapped : ¬ p.Capped) :
    ∃ granularity, r.granularity = some granularity ∧ p.granularity = m.reads granularity
      ∧ s.rows r.scope granularity range * (r.names.length * max 1 r.hostCount : Nat)
          ≤ s.resultLimit := by
  obtain ⟨granularity, pinned⟩ := exists_pinned weighs limited planned hp uncapped
  exact ⟨granularity, pinned,
    within_of_pinned weighs window positive below planned hp pinned⟩

/-- Two metrics on a host over an hour, pinned to minutes, come to 24 rows. -/
theorem uncapped_hour_of_minutes :
    ∃ p, (series .perHost).plans .standard 0 hourOfMinutes = .ok [p] ∧ ¬ p.Capped
      ∧ hourOfMinutes.unlimited = false ∧ hourOfMinutes.rangeMillis = some 3600000
      ∧ Settings.standard.rows .perHost .minutes 3600000 * 2 ≤ Settings.standard.resultLimit := by
  obtain ⟨p, planned, uncapped⟩ :=
    exists_uncapped (m := series .perHost) (s := .standard) (r := hourOfMinutes) trivial rfl rfl rfl
  obtain ⟨granularity, pinned, -, within⟩ :=
    uncapped_within_budget (m := series .perHost) trivial rfl rfl (by decide) (by decide) planned
      (List.mem_singleton_self p) uncapped
  obtain rfl : Granularity.minutes = granularity := Option.some.inj pinned
  exact ⟨p, planned, uncapped, rfl, rfl, within⟩

/-! ## Rows that are not weighed -/

/-- Three series by identity over a day, pinned to seconds. -/
def dayOfSeconds (names : List String) : Request where
  kind := .plain
  sharedNames := names
  identities := [[1], [2], [3]]
  givenStart := some 0
  givenFinish := some 86400
  granularity := some .seconds

/-- A metric of a host for all time, pinned to seconds. -/
def allSeconds : Request where
  kind := .plain
  sharedNames := ["cpu_user"]
  hosts := some ["h1"]
  granularity := some .seconds

/-- The most series and the longest window of all. -/
def mostSeconds : Request where
  kind := .plain
  sharedNames := List.replicate 32 "cpu_user"
  hosts := some (List.replicate 32 "h1")
  givenStart := some 0
  givenFinish := some Saturated.greatest
  granularity := some .seconds

/-- Settings with the greatest limit there is, and a row for each second. -/
def boundless : Settings :=
  { Settings.standard with
    resultLimit := Saturated.greatest
    hostIntervals := { second := 1, minute := 60 } }

/-- **Over the limit, and without a cap.**  Three series by identity are weighed as none or as one,
    by their names.  A metric of a host is read for all time.  And where the limit is the greatest
    there is, no estimate is over it, but the rows are. -/
theorem uncapped_over_budget :
    (∀ names ∈ [[], ["cpu_user"]],
        ∃ p, (series .cluster).plans .standard 0 (dayOfSeconds names) = .ok [p] ∧ ¬ p.Capped
          ∧ (dayOfSeconds names).rangeMillis = some 86400000
          ∧ Settings.standard.resultLimit < Settings.standard.rows .cluster .seconds 86400000
              * (dayOfSeconds names).identities.length)
      ∧ (∃ p, (series .perHost).plans .standard 0 allSeconds = .ok [p] ∧ ¬ p.Capped
          ∧ allSeconds.start = none ∧ allSeconds.finish = none)
      ∧ ∃ p, (series .perHost).plans boundless 0 mostSeconds = .ok [p] ∧ ¬ p.Capped
          ∧ mostSeconds.rangeMillis = some Saturated.greatest
          ∧ boundless.resultLimit < boundless.rows .perHost .seconds Saturated.greatest
              * (mostSeconds.names.length * mostSeconds.hostCount : Nat) := by
  have passed : ∀ names ∈ [[], ["cpu_user"]],
      (series .cluster).check .standard 0 (dayOfSeconds names) = .ok .seconds := by decide
  refine ⟨fun names among => ?_, ?_, ?_⟩
  · obtain ⟨p, planned, uncapped⟩ :=
      exists_uncapped (m := series .cluster) trivial (passed names among) rfl rfl
    have excessive : Settings.standard.resultLimit
        < Settings.standard.rows .cluster .seconds 86400000 * 3 := by decide
    exact ⟨p, planned, uncapped, rfl, excessive⟩
  · obtain ⟨p, planned, uncapped⟩ :=
      exists_uncapped (m := series .perHost) (s := .standard) (r := allSeconds) trivial rfl rfl rfl
    exact ⟨p, planned, uncapped, rfl, rfl⟩
  · obtain ⟨p, planned, uncapped⟩ :=
      exists_uncapped (m := series .perHost) (s := boundless) (r := mostSeconds) trivial rfl rfl rfl
    exact ⟨p, planned, uncapped, rfl, by decide⟩

end Method
end Rollup
