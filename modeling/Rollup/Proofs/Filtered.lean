/-
  Which statements are filtered.

  A request that asks for nothing is refused, lest a statement read a whole table.  Here the
  statements are looked at themselves: is there a WHERE in the text, with a condition after it that
  can be read, and is there a value for it?

  The crux is that a view is silent exactly if it has no factor (`Predicate.factors`), and that each
  dimension has a factor exactly if the request says something of it.  All but one: the bare
  wildcard as an instance counts as something asked, but every instance matches it and it leaves no
  factor.  So a request with that and nothing else is answered by the whole table
  (`Method.plans_filtered_iff`).
-/
import Rollup.Proofs.RankingSource
import Rollup.Proofs.Refusals
import Rollup.Proofs.Selection

namespace Rollup

open Sql

/-! ## Texts that restrict -/

namespace Sql

/-- A text that begins with a predicate, with all of its values: a condition that can be read as a
    whole, or membership in a query that is restricted itself. -/
inductive Restricts : String → List Value → Prop
  | condition {c : Clause} {e : Expr} (read : c.Reads e) : Restricts c.text c.values
  | membership {text : String} {values : List Value} (source : Table)
    (inside : Restricts text values) (after : String) (more : List Value) :
    Restricts ("UUID IN (SELECT UUID FROM " ++ source.name ++ " WHERE " ++ text ++ after)
      (values ++ more)

/-- What must hold of the rows that a predicate starts from; of a ranking, of its candidates. -/
def Predicate.factors : Predicate → Filter
  | plain f => f
  | ranked f => f.candidates

theorem Test.fields_ne_nil {t : Test} (proper : t.Proper) : t.fields ≠ [] := by
  cases t with
  | compare c r v => exact List.cons_ne_nil _ _
  | member c negated vs => exact mt List.map_eq_nil_iff.mp proper

theorem Factor.fields_ne_nil {x : Factor} (proper : x.Proper) : x.fields ≠ [] := by
  have some_field : ∀ {ts : List Test}, ts ≠ [] → (∀ t ∈ ts, t.Proper) →
      ts.flatMap Test.fields ≠ [] := by
    intro ts some_test each silent
    obtain ⟨t, ts, rfl⟩ := List.exists_cons_of_ne_nil some_test
    exact Test.fields_ne_nil (each t List.mem_cons_self) (List.append_eq_nil_iff.mp silent).1
  cases x with
  | one t => exact Test.fields_ne_nil proper
  | anyOf ts | allOf ts => exact some_field proper.1 proper.2

section Filters

variable {f : Filter} (some_factor : f ≠ []) (proper : ∀ x ∈ f, x.Proper)

include some_factor proper

theorem Filter.values_ne_nil : (Filter.clause f).values ≠ [] := by
  obtain ⟨x, xs, rfl⟩ := List.exists_cons_of_ne_nil some_factor
  rw [(Filter.binds (x :: xs)).2]
  intro silent
  have fields := List.map_eq_nil_iff.mp silent
  exact Factor.fields_ne_nil (proper x List.mem_cons_self) (List.append_eq_nil_iff.mp fields).1

/-- **A filter with a factor restricts**, and it has a text. -/
theorem Filter.restricts :
    Restricts (Filter.clause f).text (Filter.clause f).values ∧ (Filter.clause f).text ≠ "" := by
  -- The verdicts do not matter here, so any LIKE will do.
  have means : (Filter.clause f).Means (fun _ _ => true) .conjunction
      fun row => Filter.verdict (fun _ _ => true) f row :=
    Filter.means some_factor proper
  obtain ⟨text, ls, e, yields, written, -⟩ := means
  exact ⟨.condition ⟨ls, yields.words_eq, .conjunction written⟩, text⟩

end Filters

/-- So does a filter by rank whose candidates are filtered. -/
theorem RankedFilter.restricts {f : RankedFilter} (some_factor : f.candidates ≠ [])
    (proper : ∀ x ∈ f.candidates, x.Proper) :
    Restricts f.clause.text f.clause.values ∧ f.clause.text ≠ "" := by
  obtain ⟨inside, text⟩ := Filter.restricts some_factor proper
  have closes : f.membership.text = "UUID IN (SELECT UUID FROM " ++ f.source.name ++ " WHERE "
      ++ (Filter.clause f.candidates).text
      ++ (" GROUP BY UUID ORDER BY " ++ f.ranking.expression ++ " " ++ f.ranking.direction
        ++ " LIMIT " ++ toString f.ranking.count ++ ")") := by
    unfold membership
    rw [Clause.whereText_eq text]
    simp only [String.append_assoc]
  have nonempty : f.membership.text ≠ "" := by
    rw [closes]
    simp
  obtain ⟨after, more, whole⟩ := Clause.and_eq nonempty (Filter.clause f.window)
  have clause : f.clause = { text := f.membership.text ++ after
                             values := (Filter.clause f.candidates).values ++ more } := whole
  rw [clause, closes, String.append_assoc]
  exact ⟨.membership f.source inside _ more, by simp⟩

/-- **A predicate with a factor restricts**, and it has a text and a value. -/
theorem Predicate.restricts {p : Predicate} (some_factor : p.factors ≠ [])
    (proper : ∀ x ∈ p.factors, x.Proper) :
    Restricts p.clause.text p.clause.values ∧ p.clause.text ≠ "" ∧ p.clause.values ≠ [] := by
  cases p with
  | plain f =>
    obtain ⟨restricts, text⟩ := Filter.restricts some_factor proper
    exact ⟨restricts, text, Filter.values_ne_nil some_factor proper⟩
  | ranked f =>
    obtain ⟨restricts, text⟩ := RankedFilter.restricts some_factor proper
    refine ⟨restricts, text, ?_⟩
    intro silent
    have fields := List.map_eq_nil_iff.mp (f.binds.2.symm.trans silent)
    have candidates := (List.append_eq_nil_iff.mp fields).1
    have values := (Filter.binds f.candidates).2
    rw [candidates] at values
    exact Filter.values_ne_nil some_factor proper values

end Sql

/-! ## Requests that leave no factor -/

namespace Request

/-- It says of the instance that it may be any, and nothing else. -/
structure AsksEveryInstance (r : Request) : Prop where
  names : r.names = []
  hosts : r.hostList = []
  app : r.app = none
  instanceId : r.instanceId = some Token.wildcard.toString
  start : r.givenStart = none
  finish : r.givenFinish = none

section Factors

variable {r : Request}

theorem nameFilter_eq_nil : r.nameFilter = [] ↔ r.names = [] := by
  unfold nameFilter
  cases r.names <;> simp

theorem hostFilter_eq_nil : r.hostFilter = [] ↔ r.hostList = [] := by
  unfold hostFilter
  rcases r.hostList with _ | ⟨h, hs⟩
  · simp
  · by_cases pattern : Token.anyPattern (h :: hs)
    · simp [pattern]
    · cases hs <;> simp [pattern]

theorem appFilter_eq_nil : r.appFilter = [] ↔ r.app = none := by
  unfold appFilter
  cases r.app <;> simp

/-- Of the instance there is nothing to filter if it is absent or may be any. -/
theorem instanceFilter_eq_nil :
    r.instanceFilter = []
      ↔ r.instanceId = none ∨ r.instanceId = some Token.wildcard.toString := by
  unfold instanceFilter
  cases r.instanceId with
  | none => simp
  | some i => by_cases bare : i = Token.wildcard.toString <;> simp [bare]

theorem windowFilter_eq_nil :
    r.windowFilter = [] ↔ r.givenStart = none ∧ r.givenFinish = none := by
  unfold windowFilter start finish
  cases r.givenStart <;> cases r.givenFinish <;> simp

/-- **Who asks for something, but for nothing that filters.** -/
theorem attributes_eq_nil (asks : ¬ r.AsksNothing) :
    r.attributeFilter ++ r.windowFilter = [] ↔ r.AsksEveryInstance := by
  unfold attributeFilter
  simp only [List.append_eq_nil_iff, nameFilter_eq_nil, hostFilter_eq_nil, appFilter_eq_nil,
    instanceFilter_eq_nil, windowFilter_eq_nil]
  constructor
  · rintro ⟨⟨⟨⟨names, hosts⟩, app⟩, absent | every⟩, start, finish⟩
    · exact absurd ⟨names, hosts, app, absent, start, finish⟩ asks
    · exact ⟨names, hosts, app, every, start, finish⟩
  · intro every
    exact ⟨⟨⟨⟨every.names, every.hosts⟩, every.app⟩, .inr every.instanceId⟩, every.start,
      every.finish⟩

theorem seriesFilter_eq_nil (asks : ¬ r.AsksNothing) :
    r.seriesFilter = [] ↔ r.AsksEveryInstance ∧ r.identities = [] := by
  unfold seriesFilter
  by_cases no_id : r.identities = []
  · rw [if_pos (by simpa using no_id), attributes_eq_nil asks]
    exact (and_iff_left no_id).symm
  · have some_id : r.identityFilter ≠ [] := by
      unfold identityFilter
      rw [if_neg (by simpa using no_id)]
      exact List.cons_ne_nil _ _
    rw [if_neg (by simpa using no_id)]
    constructor
    · intro silent
      exact absurd (List.append_eq_nil_iff.mp silent).1 some_id
    · rintro ⟨-, identities⟩
      exact absurd identities no_id

end Factors

/-- Whatever a view shows, its factors have something to test. -/
theorem proper_factors (r : Request) (view : View) :
    ∀ x ∈ (r.predicate view).factors, x.Proper := by
  -- What selects rows can be written out; again any LIKE will do.
  have proper : ∀ {f : Filter} {wanted : Row → Prop},
      Filter.Selects (fun _ _ => true) f wanted → ∀ x ∈ f, x.Proper := fun h => h.proper
  cases view with
  | series | ranked _ _ => exact proper r.selects_series
  | transient => exact proper (r.selects_attributes.append r.selects_window)
  | metadata target => exact proper (r.selects_metadata target)
  | lookup identity => exact proper (r.selects_lookup identity)
  | identities =>
    by_cases no_id : r.identities = []
    · intro x hx
      simp [predicate, Predicate.factors, identityFilter, no_id] at hx
    · exact proper (r.selects_identity no_id)
  | names => exact proper r.selects_name
  | hosts => exact proper r.selects_host
  | app => exact proper r.selects_app
  | instanceId => exact proper r.selects_instance
  | window => exact proper r.selects_window

/-- The clause of a view with a factor restricts, and it has a text and a value. -/
theorem clause_restricts {r : Request} {view : View}
    (some_factor : (r.predicate view).factors ≠ []) :
    Restricts (r.clause view).text (r.clause view).values ∧ (r.clause view).text ≠ ""
      ∧ (r.clause view).values ≠ [] :=
  Predicate.restricts some_factor (r.proper_factors view)

/-- A view without factors has no value: a window inside a ranking stands outside as well. -/
theorem values_eq_nil {r : Request} {view : View} (silent : (r.predicate view).factors = []) :
    (r.clause view).values = [] := by
  have fields : (r.predicate view).fields = [] := by
    cases view with
    | ranked ranking granularity =>
      have candidates : r.seriesFilter = [] := silent
      have window : r.windowFilter = [] := (List.append_eq_nil_iff.mp candidates).2
      show Filter.fields r.seriesFilter ++ Filter.fields r.windowFilter = []
      rw [candidates, window]
      rfl
    | series | transient | metadata _ | lookup _ | identities | names | hosts | app | instanceId
    | window => exact congrArg Filter.fields silent
  unfold clause
  rw [(Predicate.binds _).2, fields]
  rfl

end Request

/-! ## Filtered statements -/

/-- The statement has a WHERE with a predicate after it, and values for its placeholders. -/
structure Plan.Filtered (p : Plan) : Prop where
  restricted : ∃ before condition after,
    p.text = before ++ " WHERE " ++ condition ++ after ∧ Restricts condition p.values
  bound : p.values ≠ []

/-- **A form is filtered exactly if its view leaves a factor.** -/
theorem Form.filtered_iff {f : Form} {r asked : Request} (own : f.own = none)
    (same : asked.clause f.view = r.clause f.view) (s : Settings)
    (granularity : Option Granularity) :
    (f.plan s granularity asked).Filtered ↔ (r.predicate f.view).factors ≠ [] := by
  have values : (f.plan s granularity asked).values = (r.clause f.view).values :=
    congrArg Clause.values same
  constructor
  · intro filtered silent
    exact filtered.bound (values.trans (Request.values_eq_nil silent))
  · intro some_factor
    obtain ⟨restricts, text, bound⟩ := Request.clause_restricts some_factor
    have opens : (f.plan s granularity asked).text
        = f.before ++ " WHERE " ++ (r.clause f.view).text ++ f.after := by
      show f.text asked = _
      unfold Form.text
      rw [own, same, Clause.whereText_eq text]
      simp only [Option.getD_none, String.append_assoc]
    refine ⟨⟨f.before, (r.clause f.view).text, f.after, opens, ?_⟩, ?_⟩
    · rw [values]
      exact restricts
    · rw [values]
      exact bound

namespace Method

/-- **Which views leave no factor**, among those of the forms of a method. -/
theorem factors_eq_nil {m : Method} {s : Settings} {r : Request} {granularity : Granularity}
    (not_scan : m ≠ metadata) (asks : ¬ r.AsksNothing) (takes : m.Takes r) {f : Form}
    (hf : f ∈ m.forms s r granularity) :
    (r.predicate f.view).factors = []
      ↔ r.AsksEveryInstance ∧ (r.identities = [] ∨ m = transient) := by
  cases m with
  | series scope =>
    obtain rfl := List.mem_singleton.mp hf
    have shown : (r.predicate (r.wholeView (some granularity))).factors = r.seriesFilter := by
      unfold Request.wholeView
      rcases takes with plain | ⟨ranking, ranked⟩
      · rw [plain]
        rfl
      · rw [ranked]
        rfl
    show (r.predicate (r.wholeView (some granularity))).factors = [] ↔ _
    rw [shown, Request.seriesFilter_eq_nil asks]
    simp
  | latest =>
    obtain rfl := List.mem_singleton.mp hf
    show r.seriesFilter = [] ↔ _
    rw [Request.seriesFilter_eq_nil asks]
    simp
  | transient =>
    obtain rfl := List.mem_singleton.mp hf
    show r.attributeFilter ++ r.windowFilter = [] ↔ _
    rw [Request.attributes_eq_nil asks]
    simp
  | metadata => exact absurd rfl not_scan
  | latestAggregates =>
    obtain ⟨identity, -, rfl⟩ := List.mem_map.mp hf
    have identities : r.identities ≠ [] := takes
    show r.lookupFilter identity = [] ↔ _
    simp [Request.lookupFilter, identities]

/-- **Which statements are filtered.**  All but those for metadata, unless the request says of the
    instance that it may be any and nothing else; and identities do filter such a request, except
    for transient metrics, where they are not looked at. -/
theorem plans_filtered_iff {m : Method} {s : Settings} {now : Int} {r : Request} {ps : List Plan}
    {p : Plan} (not_scan : m ≠ metadata) (own : r.statement = none)
    (planned : m.plans s now r = .ok ps) (hp : p ∈ ps) :
    p.Filtered ↔ ¬ (r.AsksEveryInstance ∧ (r.identities = [] ∨ m = transient)) := by
  obtain ⟨granularity, passed, rfl⟩ := plans_eq_ok.mp planned
  obtain ⟨f, hf, rfl⟩ := List.mem_map.mp hp
  obtain ⟨asks, takes⟩ := asks_of_check not_scan passed
  rw [Form.filtered_iff (own_of_mem hf fun _ => own) (m.clause_asked r f.view), Ne,
    factors_eq_nil not_scan asks takes hf]

/-- An instance by its name: the statement is filtered by it. -/
theorem plans_filtered_instance :
    ∃ p, (series .perHost).plans .standard 0 { kind := .plain, givenInstance := some "i1" }
        = .ok [p]
      ∧ p.Filtered := by
  obtain ⟨p, planned⟩ : ∃ p, (series .perHost).plans .standard 0
      { kind := .plain, givenInstance := some "i1" } = .ok [p] := ⟨_, rfl⟩
  refine ⟨p, planned, ?_⟩
  refine (plans_filtered_iff (by decide) rfl planned List.mem_cons_self).mpr ?_
  rintro ⟨every, -⟩
  exact absurd every.instanceId (by decide)

/-- Any instance, and nothing else: every row of the table is read. -/
theorem plans_unfiltered :
    ∃ p, (series .perHost).plans .standard 0 { kind := .plain, givenInstance := some "%" }
        = .ok [p]
      ∧ p.text = "SELECT UUID, SERVER_TIME, METRIC_SUM, METRIC_MAX, METRIC_MIN, METRIC_COUNT "
        ++ "FROM METRIC_RECORD_DAILY_UUID ORDER BY UUID, SERVER_TIME LIMIT 5760"
      ∧ p.values = [] ∧ ¬ p.Filtered := by
  refine ⟨_, rfl, ?_, ?_, ?_⟩
  · decide +kernel
  · decide +kernel
  · intro filtered
    exact filtered.bound (by decide +kernel)

end Method

end Rollup
