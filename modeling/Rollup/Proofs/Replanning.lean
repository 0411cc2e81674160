/-
  Planning what was planned.

  A plan keeps its request as it was planned, and a caller may hand that request in again, to the
  same method or to another.  Nothing comes of it: every method says of it what it says of the
  request that came in, be that an answer or an error.

  The crux is that a plan keeps the request with a trace, as a session does
  (`Method.request_of_mem`), and that no method can tell a trace (`Method.plans_traced`).  The names
  it keeps are those of the trace, and where a view shows them they are the first values of the plan.
-/
import Rollup.Proofs.Session
import Rollup.Proofs.Refusals
import Rollup.Proofs.Binding

namespace Rollup

open Sql (Column Filter)

/-- All that is sent of a plan: everything but the request that it keeps. -/
structure Plan.Content where
  text : String
  values : List Value
  fetchSize : Option Int
  granularity : Option Granularity
  table : Table
  deriving DecidableEq

/-- The content of a plan. -/
def Plan.content (p : Plan) : Plan.Content where
  text := p.text
  values := p.values
  fetchSize := p.fetchSize
  granularity := p.granularity
  table := p.table

/-- **What plans hold** is settled by the checks, the forms, the predicates and the fetch size. -/
theorem Method.plans_content {m : Method} {s : Settings} {now : Int} {r r' : Request}
    (check : m.check s now r' = m.check s now r)
    (forms : ∀ granularity, m.forms s r' granularity = m.forms s r granularity)
    (predicate : ∀ view, r'.predicate view = r.predicate view)
    (fetchSize : r'.fetchSize = r.fetchSize) :
    (m.plans s now r').map (List.map Plan.content)
      = (m.plans s now r).map (List.map Plan.content) := by
  have clause (view : View) : (m.asked r').clause view = (m.asked r).clause view := by
    rw [clause_asked, clause_asked]
    exact congrArg Sql.Predicate.clause (predicate view)
  rw [plans_eq, plans_eq, check]
  cases m.check s now r with
  | error e => rfl
  | ok granularity =>
    refine congrArg Except.ok ?_
    show List.map Plan.content (List.map _ _) = List.map Plan.content (List.map _ _)
    rw [forms, List.map_map, List.map_map]
    refine List.map_congr_left fun f _ => ?_
    simp only [Function.comp_apply, Form.plan, Form.text, Plan.content]
    rw [clause, fetchSize_asked, fetchSize_asked, fetchSize]

/-! ## What methods leave -/

namespace Method

/-- A method filters by name and so sorts the names of a request.  Identities take the place of
    names in series. -/
def sorts (r : Request) : Method → Bool
  | series _ | latest => r.identities.isEmpty
  | transient => true
  | metadata => decide (r.kind = .metadata .metric)
  | latestAggregates => false

/-- A method looks for a granularity and so lifts the limit of a request that pins one. -/
def lifts : Method → Bool
  | series _ => true
  | latest | transient | metadata | latestAggregates => false

section Traced

variable (m : Method) (s : Settings) (now : Int) (r : Request) (sorted lifted : Bool)

/-! ## No method tells a trace -/

/-- The checks count names and look for patterns among them, in whatever order, and know nothing of
    the limit. -/
theorem check_traced : m.check s now (r.traced sorted lifted) = m.check s now r := by
  have named := Request.check_withNames (r.perm_traced sorted) m s now
  rw [← named]
  cases m <;> rfl

/-- The forms are those of the request as it came. -/
theorem forms_traced (granularity : Granularity) :
    m.forms s (r.traced sorted lifted) granularity = m.forms s r granularity := by
  have view := r.wholeView_traced sorted lifted (some granularity)
  have limit := r.limit_traced sorted lifted s.defaultLimit
  have count : (r.traced sorted lifted).names.length = r.names.length :=
    Request.length_withNames (r.perm_traced sorted)
  have target : (r.traced sorted lifted).metadataTarget? = r.metadataTarget? := by
    unfold Request.metadataTarget? Request.traced Request.withNames
    cases r.kind <;> rfl
  obtain ⟨kind, shared, unlimited, other⟩ := r.traced_frame sorted lifted
  cases m with
  | series scope =>
    simp only [forms, Plan.seriesForm]
    rw [view, limit, other]
    rfl
  | latest =>
    rw [other]
    rfl
  | transient =>
    simp only [forms, Plan.transientForm]
    rw [limit, other]
    rfl
  | metadata =>
    simp only [forms]
    rw [target, other]
    rfl
  | latestAggregates =>
    have one : Plan.lookupForm (r.traced sorted lifted) = Plan.lookupForm r := by
      funext identity
      unfold Plan.lookupForm
      rw [count]
    simp only [forms]
    rw [one, other]

/-- Planning adds the trace of its method. -/
theorem asked_traced :
    m.asked (r.traced sorted lifted) = r.traced sorted (lifted || m.lifts) := by
  cases m with
  | series scope =>
    show (r.traced sorted lifted).resolved = _
    rw [Request.resolved_traced, lifts, Bool.or_true]
  | latest | transient | metadata | latestAggregates =>
    rw [lifts, Bool.or_false]
    rfl

/-- Planning a request as it came leaves the trace of its method alone. -/
theorem asked_eq_traced : m.asked r = r.traced false m.lifts := by
  have first := m.asked_traced r false false
  rw [r.traced_none, Bool.false_or] at first
  exact first

/-- **No method tells a trace.** -/
theorem plans_traced :
    (m.plans s now (r.traced sorted lifted)).map (List.map Plan.content)
      = (m.plans s now r).map (List.map Plan.content) := by
  have fetchSize : (r.traced sorted lifted).fetchSize = r.fetchSize := by
    obtain ⟨kind, shared, unlimited, other⟩ := r.traced_frame sorted lifted
    rw [other]
  exact plans_content (m.check_traced s now r sorted lifted) (m.forms_traced s r sorted lifted)
    (r.predicate_traced sorted lifted) fetchSize

end Traced

end Method

/-! ## What plans keep -/

namespace Request

variable {r : Request} {view : View}

/-- Where names are shown they come first. -/
theorem names_first (shows : r.showsNames view = true) :
    Column.name.holding (r.bound .name) <+: (r.predicate view).fields := by
  have attributes : Column.name.holding (r.bound .name) <+: Filter.fields r.attributeFilter := by
    rw [fields_attributes, List.append_assoc, List.append_assoc]
    exact List.prefix_append _ _
  have series (free : r.identities.isEmpty = true) :
      Column.name.holding (r.bound .name) <+: Filter.fields r.seriesFilter := by
    unfold seriesFilter
    rw [if_pos free, Filter.fields_append]
    exact attributes.trans (List.prefix_append _ _)
  cases view with
  | series => exact series shows
  | ranked ranking granularity => exact (series shows).trans (List.prefix_append _ _)
  | transient =>
    show _ <+: Filter.fields (r.attributeFilter ++ r.windowFilter)
    rw [Filter.fields_append]
    exact attributes.trans (List.prefix_append _ _)
  | metadata target =>
    cases target with
    | metric =>
      show _ <+: Filter.fields (r.nameFilter ++ r.appFilter ++ r.instanceFilter)
      rw [Filter.fields_append, Filter.fields_append, fields_name, List.append_assoc]
      exact List.prefix_append _ _
    | host => exact absurd shows Bool.false_ne_true
  | names => exact (fields_name r) ▸ List.prefix_rfl
  | lookup _ | identities | hosts | app | instanceId | window =>
    exact absurd shows Bool.false_ne_true

/-- As values they are the names in their sorted order. -/
theorem sorted_names_first (shows : r.showsNames view = true) :
    (Token.exactFirst r.names).map Value.text <+: (r.clause view).values := by
  have fields := (names_first shows).map Prod.snd
  rw [Column.values_holding] at fields
  rw [(r.clause_binds view).2]
  exact fields

end Request

namespace Method

variable {m : Method} {s : Settings} {now : Int} {r : Request} {ps : List Plan} {p : Plan}

/-- The view of a plan shows the names just if its method sorts them. -/
theorem showsNames_of_mem {granularity : Granularity} {f : Form}
    (passed : m.check s now r = .ok granularity) (h : f ∈ m.forms s r granularity) :
    r.showsNames f.view = m.sorts r := by
  cases m with
  | series scope =>
    obtain rfl := List.mem_singleton.mp h
    have series_only : series scope ≠ metadata := by simp
    obtain ⟨-, takes⟩ := asks_of_check series_only passed
    show r.showsNames (r.wholeView _) = r.identities.isEmpty
    unfold Request.wholeView
    rcases takes with kind | ⟨ranking, kind⟩ <;> rw [kind] <;> rfl
  | latest | transient =>
    obtain rfl := List.mem_singleton.mp h
    rfl
  | metadata =>
    obtain ⟨target, kind, rfl⟩ := mem_forms_metadata.mp h
    have kind : r.kind = .metadata target := by
      unfold Request.metadataTarget? at kind
      split at kind <;> simp_all
    show r.showsNames (.metadata target) = decide (r.kind = .metadata .metric)
    rw [kind]
    cases target <;> rfl
  | latestAggregates =>
    obtain ⟨identity, -, rfl⟩ := List.mem_map.mp h
    rfl

/-- A plan is a form of its method, filled in. -/
theorem form_of_mem (planned : m.plans s now r = .ok ps) (among : p ∈ ps) :
    ∃ granularity f, m.check s now r = .ok granularity ∧ f ∈ m.forms s r granularity
      ∧ f.plan s (m.reads granularity) (m.asked r) = p := by
  obtain ⟨granularity, passed, rfl⟩ := plans_eq_ok.mp planned
  obtain ⟨f, form, filled⟩ := List.mem_map.mp among
  exact ⟨granularity, f, passed, form, filled⟩

/-- **A plan keeps the request with the trace of its method.** -/
theorem request_of_mem (planned : m.plans s now r = .ok ps) (among : p ∈ ps) :
    p.request = r.traced (m.sorts r) m.lifts := by
  obtain ⟨granularity, f, passed, form, rfl⟩ := form_of_mem planned among
  show (m.asked r).viewed f.view = _
  rw [asked_eq_traced, Request.viewed_traced, showsNames_of_mem passed form, Bool.false_or]

/-- Its first values are the names it keeps, where its method sorts them. -/
theorem names_of_mem (planned : m.plans s now r = .ok ps) (among : p ∈ ps)
    (sorted : m.sorts r = true) : p.request.names.map .text <+: p.values := by
  have request := request_of_mem planned among
  obtain ⟨granularity, f, passed, form, rfl⟩ := form_of_mem planned among
  rw [request, Request.names_traced, if_pos sorted]
  show _ <+: ((m.asked r).clause f.view).values
  rw [clause_asked]
  exact Request.sorted_names_first ((showsNames_of_mem passed form).trans sorted)

/-- **Planning again changes nothing.**  The request that a plan keeps is the one that came in, with
    its names sorted if the method filters by name, and with its limit lifted if it pins a
    granularity and the method looks for one.  Every method, with any settings and at any time,
    answers it as it answers the one that came in, or refuses it with the same error.  And names
    that were filtered by are the first values of the plan, in the order in which it keeps them. -/
theorem plans_again (planned : m.plans s now r = .ok ps) (among : p ∈ ps) :
    p.request = r.traced (m.sorts r) m.lifts
      ∧ (∀ (m' : Method) (s' : Settings) (now' : Int),
        (m'.plans s' now' p.request).map (List.map Plan.content)
          = (m'.plans s' now' r).map (List.map Plan.content))
      ∧ (m.sorts r = true → p.request.names.map .text <+: p.values) := by
  have request := request_of_mem planned among
  refine ⟨request, fun m' s' now' => ?_, names_of_mem planned among⟩
  rw [request]
  exact m'.plans_traced s' now' r _ _

/-- A request that pins hours, planned for the cluster and then handed in for the latest rows. -/
theorem plans_again_latest :
    ∃ p q, (series .cluster).plans .standard 0
        { kind := .plain, sharedNames := ["disk_%", "cpu_user"], granularity := some .hours }
      = .ok [p]
      ∧ p.request =
        { kind := .plain, sharedNames := ["cpu_user", "disk_%"], granularity := some .hours,
          unlimited := true }
      ∧ [.text "cpu_user", .text "disk_%"] <+: p.values
      ∧ latest.plans .standard 0
        { kind := .plain, sharedNames := ["disk_%", "cpu_user"], granularity := some .hours }
      = .ok [q]
      ∧ (latest.plans .standard 0 p.request).map (List.map Plan.content) = .ok [q.content] := by
  obtain ⟨p, planned⟩ : ∃ p, (series .cluster).plans .standard 0
      { kind := .plain, sharedNames := ["disk_%", "cpu_user"], granularity := some .hours }
    = .ok [p] := ⟨_, rfl⟩
  obtain ⟨request, again, names⟩ := plans_again planned List.mem_cons_self
  refine ⟨p, _, planned, request.trans (by decide), ?names, rfl, again latest .standard 0⟩
  case names =>
    have first := names rfl
    rw [request] at first
    exact first

end Method

end Rollup
