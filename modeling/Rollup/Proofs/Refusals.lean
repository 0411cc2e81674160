/-
  Who is refused, and why.

  Every method goes through its checks in an order of its own.  Here the order is gone:
  `Method.Refuses` is a table of the errors, and each of its rows states in full what a request must
  be like to end with that error, that nothing earlier was wrong included.  The rows exclude each
  other, so their order does not matter.

  The crux is `Method.check_eq_error`: the checks of a method end with an error exactly where the
  table has it.  Neither the table nor the request knows the time, so no refusal depends on the
  clock; it only ever decides between granularities that are all allowed.
-/
import Rollup.Proofs.Form

namespace Rollup

/-! ## What is looked at -/

namespace Request

/-- It says nothing of names, hosts, application, instance or window.  Identities do not count. -/
structure AsksNothing (r : Request) : Prop where
  names : r.names = []
  hosts : r.hostList = []
  app : r.app = none
  instanceId : r.instanceId = none
  start : r.givenStart = none
  finish : r.givenFinish = none

/-- Hosts can be ranked: there are some, and by one name only, which is not a pattern. -/
def HostsRankable (r : Request) : Prop :=
  r.hostList ≠ [] ∧ ∃ name, r.names = [name] ∧ Token.isPattern name = false

/-- Metrics can be ranked: there are some, and on one host at most, which is not a pattern. -/
def MetricsRankable (r : Request) : Prop :=
  r.names ≠ []
    ∧ (r.hostList = [] ∨ ∃ host, r.hostList = [host] ∧ Token.isPattern host = false)

/-- It is for series, and if they are to be ranked, then those of hosts or those of metrics. -/
def FitsSeries (r : Request) : Prop :=
  r.kind = .plain
    ∨ (∃ ranking, r.kind = .ranked ranking) ∧ (r.HostsRankable ∨ r.MetricsRankable)

/-- It has names and pins a granularity at which more rows are expected than the limit allows. -/
structure Exceeds (r : Request) (s : Settings) (granularity : Granularity) : Prop where
  pinned : r.granularity = some granularity
  named : r.names ≠ []
  excessive : s.resultLimit < s.estimate r granularity

/-- What is said then: how many names and hosts, one host at least; the granularity; the seconds of
    the window, none if an end is missing; the rows expected and the limit. -/
def excess (r : Request) (s : Settings) (granularity : Granularity) : PlanError :=
  .overBudget r.names.length (max r.hostCount 1) granularity
    ((r.rangeMillis.getD 0).tdiv Settings.millisPerSecond) (s.estimate r granularity) s.resultLimit

end Request

namespace Method

/-- The requests that a method is for. -/
def Takes (r : Request) : Method → Prop
  | series _ => r.kind = .plain ∨ ∃ ranking, r.kind = .ranked ranking
  | latest => r.kind = .plain
  | transient => ∃ names, r.kind = .transient names
  | metadata => ∃ target, r.kind = .metadata target
  | latestAggregates => r.identities ≠ []

/-- What it says of any other. -/
def misfit : Method → Refusal
  | series scope => .notASeries scope
  | latest => .latestOfSpecial
  | transient => .notTransient
  | metadata => .notMetadata
  | latestAggregates => .noIdentities

/-! ## The table -/

/-- A method refuses a request with an error. -/
inductive Refuses (s : Settings) (r : Request) : Method → PlanError → Prop
  /-- Nothing is asked for.  Only metadata may be listed without a filter. -/
  | nothing {m : Method} (filtered : m ≠ metadata) (asks : r.AsksNothing) : Refuses s r m .empty
  | misfit {m : Method} (asks : m = metadata ∨ ¬ r.AsksNothing) (other : ¬ m.Takes r) :
    Refuses s r m (.invalid m.misfit)
  | shape {scope : Scope} {ranking : Ranking} (asks : ¬ r.AsksNothing)
    (ranked : r.kind = .ranked ranking) (hosts : ¬ r.HostsRankable)
    (metrics : ¬ r.MetricsRankable) :
    Refuses s r (series scope) (.rankingShape r.names.length r.hostCount)
  | nameless (asks : ¬ r.AsksNothing) (plain : r.kind = .plain) (names : r.names = []) :
    Refuses s r latest (.invalid .latestWithoutNames)
  | overSeries {scope : Scope} {granularity : Granularity} (asks : ¬ r.AsksNothing)
    (fits : r.FitsSeries) (exceeds : r.Exceeds s granularity) :
    Refuses s r (series scope) (r.excess s granularity)
  | overTransient {names : List String} {granularity : Granularity} (asks : ¬ r.AsksNothing)
    (kind : r.kind = .transient names) (exceeds : r.Exceeds s granularity) :
    Refuses s r transient (r.excess s granularity)

end Method

/-! ## One check at a time -/

namespace Request

variable {r : Request}

theorem isEmpty_iff_asksNothing : r.isEmpty = true ↔ r.AsksNothing := by
  unfold isEmpty hasHosts
  simp only [Bool.and_eq_true, Bool.not_not, List.isEmpty_iff, Option.isNone_iff_eq_none]
  constructor
  · rintro ⟨⟨⟨⟨⟨names, hosts⟩, app⟩, instanceId⟩, start⟩, finish⟩
    exact ⟨names, hosts, app, instanceId, start, finish⟩
  · rintro ⟨names, hosts, app, instanceId, start, finish⟩
    exact ⟨⟨⟨⟨⟨names, hosts⟩, app⟩, instanceId⟩, start⟩, finish⟩

theorem ranksHosts_iff : r.ranksHosts = true ↔ r.HostsRankable := by
  unfold ranksHosts Ranking.overHosts HostsRankable hostList
  simp only [Bool.and_eq_true, Bool.not_eq_true', beq_iff_eq, List.isEmpty_eq_false_iff,
    List.length_eq_one_iff, and_assoc]
  refine and_congr_right fun _ => ⟨?_, ?_⟩
  · rintro ⟨⟨name, names⟩, exact_name⟩
    exact ⟨name, names, by simpa [names, Token.anyPattern] using exact_name⟩
  · rintro ⟨name, names, exact_name⟩
    exact ⟨⟨name, names⟩, by simpa [names, Token.anyPattern] using exact_name⟩

theorem ranksMetrics_iff : r.ranksMetrics = true ↔ r.MetricsRankable := by
  unfold ranksMetrics Ranking.overMetrics MetricsRankable
  show (!r.names.isEmpty && decide (r.hostList.length ≤ 1) && !Token.anyPattern r.hostList)
    = true ↔ _
  simp only [Bool.and_eq_true, Bool.not_eq_true', decide_eq_true_eq, List.isEmpty_eq_false_iff,
    and_assoc]
  refine and_congr_right fun _ => ?_
  match r.hostList with
  | [] => simp [Token.anyPattern]
  | [host] => simp [Token.anyPattern]
  | _ :: _ :: _ => simp

end Request

namespace Plan

variable {s : Settings} {now : Int} {r : Request} {e : PlanError}

theorem bind_eq_error {ε α β : Type} {x : Except ε α} {f : α → Except ε β} {e : ε} :
    (x >>= f) = .error e ↔ x = .error e ∨ ∃ a, x = .ok a ∧ f a = .error e := by
  cases x with
  | error e' => simp [bind, Except.bind]
  | ok a => simp [bind, Except.bind]

theorem require_eq_error {holds : Bool} {e' : PlanError} :
    require holds e' = .error e ↔ holds = false ∧ e = e' := by
  cases holds <;> simp [require, eq_comm]

theorem require_eq_ok {holds : Bool} {e' : PlanError} :
    require holds e' = .ok () ↔ holds = true := by
  cases holds <;> simp [require]

theorem checkNonempty_eq_error : checkNonempty r = .error e ↔ r.AsksNothing ∧ e = .empty := by
  unfold checkNonempty
  rw [require_eq_error, Bool.not_eq_false', Request.isEmpty_iff_asksNothing]

theorem checkNonempty_eq_ok_iff : checkNonempty r = .ok () ↔ ¬ r.AsksNothing := by
  rw [checkNonempty_eq_ok, ← Request.isEmpty_iff_asksNothing, Bool.not_eq_true]

theorem checkSeries_eq_ok {scope : Scope} : checkSeries scope r = .ok () ↔ r.FitsSeries := by
  unfold checkSeries Request.FitsSeries
  cases kind : r.kind with
  | plain => simp
  | ranked ranking =>
    simp only [require_eq_ok, Bool.or_eq_true, Request.ranksHosts_iff, Request.ranksMetrics_iff]
    simp
  | transient _ | metadata _ => simp

theorem checkSeries_eq_error {scope : Scope} :
    checkSeries scope r = .error e ↔
      (¬ (Method.series scope).Takes r ∧ e = .invalid (.notASeries scope))
      ∨ ((∃ ranking, r.kind = .ranked ranking) ∧ ¬ r.HostsRankable ∧ ¬ r.MetricsRankable
          ∧ e = .rankingShape r.names.length r.hostCount) := by
  unfold checkSeries Method.Takes
  cases kind : r.kind with
  | plain => simp
  | ranked ranking =>
    rw [require_eq_error, Bool.or_eq_false_iff, ← Bool.not_eq_true r.ranksHosts,
      ← Bool.not_eq_true r.ranksMetrics, Request.ranksHosts_iff, Request.ranksMetrics_iff]
    simp [and_assoc]
  | transient _ | metadata _ => simp [eq_comm]

/-- The check of the budget in full. -/
theorem checkBudget_eq (s : Settings) (r : Request) (granularity : Granularity) :
    s.checkBudget r granularity
      = if r.names = [] ∨ s.estimate r granularity ≤ s.resultLimit then .ok ()
        else .error (r.excess s granularity) := by
  unfold Settings.checkBudget
  by_cases named : r.names = []
  · rw [if_pos (by simpa using named), if_pos (.inl named)]
  · rw [if_neg (by simpa using named)]
    by_cases within : s.estimate r granularity ≤ s.resultLimit
    · rw [if_neg (Int.not_lt.mpr within), if_pos (.inr within)]
    · rw [if_pos (Int.not_le.mp within), if_neg (not_or.mpr ⟨named, within⟩)]
      rfl

theorem checkBudget_eq_error {granularity : Granularity}
    (pinned : r.granularity = some granularity) :
    s.checkBudget r granularity = .error e ↔
      ∃ g, r.Exceeds s g ∧ e = r.excess s g := by
  have same : (∃ g, r.Exceeds s g ∧ e = r.excess s g) ↔
      r.Exceeds s granularity ∧ e = r.excess s granularity := by
    constructor
    · rintro ⟨g, exceeds, rfl⟩
      obtain rfl : granularity = g := Option.some.inj (pinned.symm.trans exceeds.pinned)
      exact ⟨exceeds, rfl⟩
    · rintro ⟨exceeds, rfl⟩
      exact ⟨granularity, exceeds, rfl⟩
  rw [same, checkBudget_eq]
  by_cases within : r.names = [] ∨ s.estimate r granularity ≤ s.resultLimit
  · rw [if_pos within]
    exact ⟨nofun, fun h => absurd within
      (not_or.mpr ⟨h.1.named, Int.not_le.mpr h.1.excessive⟩)⟩
  · rw [if_neg within]
    obtain ⟨named, excessive⟩ := not_or.mp within
    constructor
    · intro refused
      exact ⟨⟨pinned, named, Int.not_le.mp excessive⟩, (Except.error.inj refused).symm⟩
    · rintro ⟨-, rfl⟩
      rfl

/-- Looking for a granularity fails for pinned ones only. -/
theorem resolve_eq_error :
    s.resolve r now = .error e ↔ ∃ g, r.Exceeds s g ∧ e = r.excess s g := by
  unfold Settings.resolve
  cases pinned : r.granularity with
  | none => exact ⟨nofun, fun ⟨g, exceeds, _⟩ => nomatch pinned.symm.trans exceeds.pinned⟩
  | some granularity =>
    rw [← checkBudget_eq_error pinned]
    show (s.checkBudget r granularity).map _ = .error e ↔ _
    cases s.checkBudget r granularity <;> simp [Except.map]

theorem checkPinned_eq_error :
    s.checkPinned r = .error e ↔ ∃ g, r.Exceeds s g ∧ e = r.excess s g := by
  unfold Settings.checkPinned
  cases pinned : r.granularity with
  | none => exact ⟨nofun, fun ⟨g, exceeds, _⟩ => nomatch pinned.symm.trans exceeds.pinned⟩
  | some granularity => exact checkBudget_eq_error pinned

end Plan

/-! ## The checks in their order -/

namespace Method

variable {s : Settings} {now : Int} {r : Request} {e : PlanError}

/-- After the first check, which all but the metadata scans begin with. -/
theorem nonempty_bind_eq_error {α : Type} {rest : Except PlanError α} :
    (Plan.checkNonempty r >>= fun _ => rest) = .error e ↔
      (r.AsksNothing ∧ e = .empty) ∨ (¬ r.AsksNothing ∧ rest = .error e) := by
  rw [Plan.bind_eq_error, Plan.checkNonempty_eq_error]
  refine or_congr_right ⟨?_, ?_⟩
  · rintro ⟨_, passed, failed⟩
    exact ⟨Plan.checkNonempty_eq_ok_iff.mp passed, failed⟩
  · rintro ⟨asks, failed⟩
    exact ⟨(), Plan.checkNonempty_eq_ok_iff.mpr asks, failed⟩

/-- After a condition. -/
theorem require_bind_eq_error {α : Type} {holds : Bool} {e' : PlanError}
    {rest : Except PlanError α} :
    (Plan.require holds e' >>= fun _ => rest) = .error e ↔
      (holds = false ∧ e = e') ∨ (holds = true ∧ rest = .error e) := by
  cases holds <;> simp [Plan.require, bind, Except.bind, eq_comm]

theorem series_check_eq_error {scope : Scope} :
    (series scope).check s now r = .error e ↔ (series scope).Refuses s r e := by
  unfold check
  rw [nonempty_bind_eq_error, Plan.bind_eq_error, Plan.checkSeries_eq_error]
  constructor
  · rintro (⟨asks, rfl⟩ | ⟨asks, (⟨other, rfl⟩ | ⟨⟨ranking, ranked⟩, hosts, metrics, rfl⟩) | h⟩)
    · exact .nothing nofun asks
    · exact .misfit (.inr asks) other
    · exact .shape asks ranked hosts metrics
    · obtain ⟨_, fits, failed⟩ := h
      obtain ⟨granularity, exceeds, rfl⟩ := Plan.resolve_eq_error.mp failed
      exact .overSeries asks (Plan.checkSeries_eq_ok.mp fits) exceeds
  · intro refused
    cases refused with
    | nothing _ asks => exact .inl ⟨asks, rfl⟩
    | misfit asks other => exact .inr ⟨asks.resolve_left nofun, .inl (.inl ⟨other, rfl⟩)⟩
    | shape asks ranked hosts metrics =>
      exact .inr ⟨asks, .inl (.inr ⟨⟨_, ranked⟩, hosts, metrics, rfl⟩)⟩
    | overSeries asks fits exceeds =>
      exact .inr ⟨asks, .inr ⟨(), Plan.checkSeries_eq_ok.mpr fits,
        Plan.resolve_eq_error.mpr ⟨_, exceeds, rfl⟩⟩⟩

theorem latest_check_eq_error :
    latest.check s now r = .error e ↔ latest.Refuses s r e := by
  have plain : r.isPlain = true ↔ r.kind = .plain := by
    unfold Request.isPlain
    cases r.kind <;> simp
  unfold check
  rw [nonempty_bind_eq_error, require_bind_eq_error, require_bind_eq_error, ← Bool.not_eq_true,
    plain]
  constructor
  · rintro (⟨asks, rfl⟩ | ⟨asks, ⟨other, rfl⟩ | ⟨kind, ⟨names, rfl⟩ | ⟨-, failed⟩⟩⟩)
    · exact .nothing nofun asks
    · exact .misfit (.inr asks) other
    · exact .nameless asks kind (by simpa using names)
    · exact nomatch failed
  · intro refused
    cases refused with
    | nothing _ asks => exact .inl ⟨asks, rfl⟩
    | misfit asks other => exact .inr ⟨asks.resolve_left nofun, .inl ⟨other, rfl⟩⟩
    | nameless asks kind names => exact .inr ⟨asks, .inr ⟨kind, .inl ⟨by simp [names], rfl⟩⟩⟩

theorem transient_check_eq_error :
    transient.check s now r = .error e ↔ transient.Refuses s r e := by
  have kind : r.isTransient = true ↔ ∃ names, r.kind = .transient names := by
    unfold Request.isTransient
    cases r.kind <;> simp
  unfold check
  rw [nonempty_bind_eq_error, require_bind_eq_error, Plan.bind_eq_error,
    Plan.checkPinned_eq_error, ← Bool.not_eq_true, kind]
  constructor
  · rintro (⟨asks, rfl⟩ | ⟨asks, ⟨other, rfl⟩ |
      ⟨⟨names, kind⟩, ⟨granularity, exceeds, rfl⟩ | ⟨_, -, failed⟩⟩⟩)
    · exact .nothing nofun asks
    · exact .misfit (.inr asks) other
    · exact .overTransient asks kind exceeds
    · exact nomatch failed
  · intro refused
    cases refused with
    | nothing _ asks => exact .inl ⟨asks, rfl⟩
    | misfit asks other => exact .inr ⟨asks.resolve_left nofun, .inl ⟨other, rfl⟩⟩
    | overTransient asks kind exceeds =>
      exact .inr ⟨asks, .inr ⟨⟨_, kind⟩, .inl ⟨_, exceeds, rfl⟩⟩⟩

/-- Metadata is never refused for asking nothing. -/
theorem metadata_check_eq_error :
    metadata.check s now r = .error e ↔ metadata.Refuses s r e := by
  have kind : r.metadataTarget?.isSome = true ↔ ∃ target, r.kind = .metadata target := by
    unfold Request.metadataTarget?
    cases r.kind <;> simp
  unfold check
  rw [require_bind_eq_error, ← Bool.not_eq_true, kind]
  constructor
  · rintro (⟨other, rfl⟩ | ⟨-, failed⟩)
    · exact .misfit (.inl rfl) other
    · exact nomatch failed
  · intro refused
    cases refused with
    | nothing filtered _ => exact absurd rfl filtered
    | misfit _ other => exact .inl ⟨other, rfl⟩

theorem latestAggregates_check_eq_error :
    latestAggregates.check s now r = .error e ↔ latestAggregates.Refuses s r e := by
  have identified : (!r.identities.isEmpty) = true ↔ r.identities ≠ [] := by simp
  unfold check
  rw [nonempty_bind_eq_error, require_bind_eq_error, ← Bool.not_eq_true, identified]
  constructor
  · rintro (⟨asks, rfl⟩ | ⟨asks, ⟨other, rfl⟩ | ⟨-, failed⟩⟩)
    · exact .nothing nofun asks
    · exact .misfit (.inr asks) other
    · exact nomatch failed
  · intro refused
    cases refused with
    | nothing _ asks => exact .inl ⟨asks, rfl⟩
    | misfit asks other => exact .inr ⟨asks.resolve_left nofun, .inl ⟨other, rfl⟩⟩

/-- **The checks are the table**, whatever the time. -/
theorem check_eq_error (m : Method) (now : Int) :
    m.check s now r = .error e ↔ m.Refuses s r e := by
  cases m with
  | series scope => exact series_check_eq_error
  | latest => exact latest_check_eq_error
  | transient => exact transient_check_eq_error
  | metadata => exact metadata_check_eq_error
  | latestAggregates => exact latestAggregates_check_eq_error

/-- A request that passed the checks asks for something, and is one that the method is for. -/
theorem asks_of_check {m : Method} {granularity : Granularity} (not_scan : m ≠ metadata)
    (passed : m.check s now r = .ok granularity) : ¬ r.AsksNothing ∧ m.Takes r := by
  have free : ∀ e, ¬ m.Refuses s r e := by
    intro e refused
    exact nomatch passed.symm.trans ((m.check_eq_error now).mpr refused)
  have asks : ¬ r.AsksNothing := fun nothing => free _ (.nothing not_scan nothing)
  exact ⟨asks, Classical.byContradiction fun other => free _ (.misfit (.inr asks) other)⟩

/-- **Who is refused.**  At any time a method ends with an error exactly where the table has that
    error for the request, and answers every other request. -/
theorem plans_refused_iff (m : Method) (s : Settings) (now : Int) (r : Request) :
    (∀ e, m.plans s now r = .error e ↔ m.Refuses s r e)
      ∧ ((∃ ps, m.plans s now r = .ok ps) ↔ ∀ e, ¬ m.Refuses s r e) := by
  have refused : ∀ e, m.plans s now r = .error e ↔ m.Refuses s r e := by
    intro e
    rw [← m.check_eq_error now, plans_eq]
    cases m.check s now r <;> simp [Except.map]
  refine ⟨refused, ?_⟩
  cases answer : m.plans s now r with
  | error e =>
    exact ⟨nofun, fun free => absurd ((refused e).mp answer) (free e)⟩
  | ok ps =>
    refine ⟨fun _ e table => ?_, fun _ => ⟨ps, rfl⟩⟩
    exact nomatch answer.symm.trans ((refused e).mpr table)

end Method

end Rollup
