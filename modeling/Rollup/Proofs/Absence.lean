/-
  What is blank is absent.

  A caller may say that there are no hosts, or that an application or an instance has no name, where
  another would say nothing of them.  No method can tell the two apart: it plans the same
  statements, or refuses for the same reason.  Only transient metrics must be asked of some host, so
  they are asked of every host then, in either case.

  The crux is that a request is read through three functions (`hostList`, `app` and `instanceId`),
  for which a blank is already nothing.  `Request.trimmed` leaves the blanks out, and whatever a
  method looks at is the same of the trimmed request; so two requests that are one when trimmed are
  answered alike.
-/
import Rollup.Proofs.Drafting
import Rollup.Proofs.Filtered
import Rollup.Proofs.Replanning
import Rollup.Proofs.Sql.Conjunction

namespace Rollup

open Setting (said last)

/-! ## Requests without their blanks -/

namespace Request

/-- The request with its blanks left out. -/
def trimmed (r : Request) : Request :=
  { r with
    hosts := r.hosts.filter fun hosts => hosts ≠ []
    givenApp := nonempty? r.givenApp
    givenInstance := nonempty? r.givenInstance }

section Trimmed

variable (r : Request)

theorem hostList_trimmed : r.trimmed.hostList = r.hostList := by
  show (r.hosts.filter fun hosts => hosts ≠ []).getD [] = r.hosts.getD []
  rcases r.hosts with _ | _ | _ <;> rfl

theorem nonempty?_nonempty? (id : Option String) : nonempty? (nonempty? id) = nonempty? id := by
  unfold nonempty?
  rw [Option.filter_filter]
  simp

theorem app_trimmed : r.trimmed.app = r.app := by
  show (nonempty? (nonempty? r.givenApp)).map _ = _
  rw [nonempty?_nonempty?]
  rfl

theorem instanceId_trimmed : r.trimmed.instanceId = r.instanceId := nonempty?_nonempty? _

theorem scope_trimmed : r.trimmed.scope = r.scope := by
  unfold scope hasHosts
  rw [hostList_trimmed]

theorem hostCount_trimmed : r.trimmed.hostCount = r.hostCount := by
  unfold hostCount
  rw [hostList_trimmed]

/-- No view shows a blank. -/
theorem predicate_trimmed (view : View) : r.trimmed.predicate view = r.predicate view := by
  have hosts : r.trimmed.hostFilter = r.hostFilter := by
    unfold hostFilter
    rw [hostList_trimmed]
    rfl
  have app : r.trimmed.appFilter = r.appFilter := by
    unfold appFilter
    rw [app_trimmed]
  have inst : r.trimmed.instanceFilter = r.instanceFilter := by
    unfold instanceFilter
    rw [instanceId_trimmed]
  have attributes : r.trimmed.attributeFilter = r.attributeFilter := by
    unfold attributeFilter
    rw [hosts, app, inst]
    rfl
  have series : r.trimmed.seriesFilter = r.seriesFilter := by
    unfold seriesFilter
    rw [attributes]
    rfl
  cases view with
  | series => exact congrArg Sql.Predicate.plain series
  | ranked ranking granularity =>
    simp only [predicate, rankedFilter]
    rw [series, scope_trimmed]
    rfl
  | transient =>
    simp only [predicate, transientFilter]
    rw [attributes]
    rfl
  | metadata target =>
    cases target with
    | metric =>
      simp only [predicate, metadataFilter]
      rw [app, inst]
      rfl
    | host => exact congrArg Sql.Predicate.plain hosts
  | hosts => exact congrArg Sql.Predicate.plain hosts
  | app => exact congrArg Sql.Predicate.plain app
  | instanceId => exact congrArg Sql.Predicate.plain inst
  | lookup _ | identities | names | window => rfl

/-! ### Checks -/

theorem isEmpty_trimmed : r.trimmed.isEmpty = r.isEmpty := by
  unfold isEmpty hasHosts
  rw [hostList_trimmed, app_trimmed, instanceId_trimmed]
  rfl

theorem checkSeries_trimmed (scope : Scope) :
    Plan.checkSeries scope r.trimmed = Plan.checkSeries scope r := by
  have hosts : r.trimmed.ranksHosts = r.ranksHosts := by
    show (!r.trimmed.hostList.isEmpty && _ && _) = (!r.hostList.isEmpty && _ && _)
    rw [hostList_trimmed]
    rfl
  have metrics : r.trimmed.ranksMetrics = r.ranksMetrics := by
    show (_ && decide (r.trimmed.hostList.length ≤ 1) && !Token.anyPattern r.trimmed.hostList)
      = (_ && decide (r.hostList.length ≤ 1) && !Token.anyPattern r.hostList)
    rw [hostList_trimmed]
    rfl
  unfold Plan.checkSeries
  rw [hosts, metrics, hostCount_trimmed]
  rfl

theorem estimate_trimmed (s : Settings) (granularity : Granularity) :
    s.estimate r.trimmed granularity = s.estimate r granularity := by
  unfold Settings.estimate
  rw [scope_trimmed, hostCount_trimmed]
  rfl

theorem checkBudget_trimmed (s : Settings) (granularity : Granularity) :
    s.checkBudget r.trimmed granularity = s.checkBudget r granularity := by
  unfold Settings.checkBudget
  rw [estimate_trimmed, hostCount_trimmed]
  rfl

theorem finest_trimmed (s : Settings) (now : Int) : s.finest r.trimmed now = s.finest r now := by
  have admits : s.admits r.trimmed now = s.admits r now := by
    funext granularity
    unfold Settings.admits Settings.retains
    rw [estimate_trimmed, scope_trimmed]
    rfl
  unfold Settings.finest
  rw [admits]

theorem resolve_trimmed (s : Settings) (now : Int) : s.resolve r.trimmed now = s.resolve r now := by
  unfold Settings.resolve
  simp only [checkBudget_trimmed, finest_trimmed]
  rfl

end Trimmed

end Request

namespace Method

/-- No check sees a blank. -/
theorem check_trimmed (m : Method) (s : Settings) (now : Int) (r : Request) :
    m.check s now r.trimmed = m.check s now r := by
  have nonempty : Plan.checkNonempty r.trimmed = Plan.checkNonempty r := by
    unfold Plan.checkNonempty
    rw [r.isEmpty_trimmed]
  have pinned : s.checkPinned r.trimmed = s.checkPinned r := by
    unfold Settings.checkPinned
    simp only [r.checkBudget_trimmed]
    rfl
  cases m with
  | series scope =>
    simp only [check]
    rw [nonempty, r.checkSeries_trimmed, r.resolve_trimmed]
  | latest | latestAggregates =>
    simp only [check]
    rw [nonempty]
    rfl
  | transient =>
    simp only [check]
    rw [nonempty, pinned]
    rfl
  | metadata => rfl

/-- **No method sees a blank.** -/
theorem content_trimmed (m : Method) (s : Settings) (now : Int) (r : Request) :
    (m.plans s now r.trimmed).map (List.map Plan.content)
      = (m.plans s now r).map (List.map Plan.content) := by
  have forms (granularity : Granularity) :
      m.forms s r.trimmed granularity = m.forms s r granularity := by
    cases m <;> rfl
  exact plans_content (m.check_trimmed s now r) forms r.predicate_trimmed rfl

end Method

/-! ## Where requests come from -/

namespace Request

/-- How a request is written: in settings, or as one for metadata. -/
inductive Origin
  | settings (settings : List Setting)
  | metricMetadata (names : List String) (app instanceId : Option String)
  | hostMetadata (hosts : List String)

/-- The request that is written so. -/
def Origin.request : Origin → Request
  | settings xs => ofSettings xs
  | metricMetadata names app instanceId => Request.metricMetadata names app instanceId
  | hostMetadata hosts => Request.hostMetadata hosts

/-- The last word on a field is a blank. -/
def EndsBlank (settings : List Setting) : Setting.Field → Prop
  | .hosts => last .hosts settings = some []
  | .app => last .app settings = some ""
  | .instanceId => last .instanceId settings = some ""
  | _ => False

/-- Only these can. -/
theorem EndsBlank.mem {settings : List Setting} {f : Setting.Field} (blank : EndsBlank settings f) :
    f ∈ [.hosts, .app, .instanceId] := by
  cases f with
  | hosts | app | instanceId => decide
  | _ => exact blank.elim

/-- An id is kept, or it is blank and left out. -/
def KeepsOrOmits (id id' : Option String) : Prop := id' = id ∨ id = some "" ∧ id' = none

/-- The other way of writing says nothing of some fields, on which the last word was a blank. -/
inductive Origin.Omits : Origin → Origin → Prop
  | settings {xs : List Setting} {fields : List Setting.Field}
    (blank : ∀ f ∈ fields, EndsBlank xs f) :
    Omits (.settings xs) (.settings (xs.filter fun x => x.field ∉ fields))
  | metricMetadata {names : List String} {app app' instanceId instanceId' : Option String}
    (apps : KeepsOrOmits app app') (instances : KeepsOrOmits instanceId instanceId') :
    Omits (.metricMetadata names app instanceId) (.metricMetadata names app' instanceId')
  | hostMetadata {hosts : List String} : Omits (.hostMetadata hosts) (.hostMetadata hosts)

/-- Nothing is left of the fields that are left out, and all of the others. -/
theorem said_omitted (f : Setting.Field) (fields : List Setting.Field) (settings : List Setting) :
    said f (settings.filter fun x => x.field ∉ fields)
      = if f ∈ fields then [] else said f settings := by
  unfold said
  rw [List.filterMap_filter]
  by_cases out : f ∈ fields
  · rw [if_pos out, List.filterMap_eq_nil_iff]
    intro x _
    by_cases on_f : x.field = f
    · simp [on_f, out]
    · rw [Setting.on?_of_ne on_f, ite_self]
  · rw [if_neg out]
    refine List.filterMap_congr fun x _ => ?_
    by_cases on_f : x.field = f
    · simp [on_f, out]
    · rw [Setting.on?_of_ne on_f, ite_self]

theorem last_omitted (f : Setting.Field) (fields : List Setting.Field) (settings : List Setting) :
    last f (settings.filter fun x => x.field ∉ fields)
      = if f ∈ fields then none else last f settings := by
  unfold last
  rw [said_omitted]
  split <;> rfl

theorem nonempty?_of_keepsOrOmits {id id' : Option String} (omits : KeepsOrOmits id id') :
    nonempty? id' = nonempty? id := by
  obtain rfl | ⟨rfl, rfl⟩ := omits
  · rfl
  · rfl

/-- **Settings without the blanks** tell of one request with those with them, up to its blanks. -/
theorem trimmed_told {xs : List Setting} {fields : List Setting.Field}
    (blank : ∀ f ∈ fields, EndsBlank xs f) :
    (told (xs.filter fun x => x.field ∉ fields)).trimmed = (told xs).trimmed := by
  let kept := xs.filter fun x => x.field ∉ fields
  have same (f : Setting.Field) (full : f ∉ [.hosts, .app, .instanceId]) :
      said f kept = said f xs :=
    (said_omitted f fields xs).trans (if_neg fun out => full (blank f out).mem)
  have last_same (f : Setting.Field) (full : f ∉ [.hosts, .app, .instanceId]) :
      last f kept = last f xs :=
    congrArg List.getLast? (same f full)
  have kind : toldKind kept = toldKind xs := by
    unfold toldKind
    simp (disch := decide) only [last_same]
  have hosts : (toldHosts (toldKind xs) (last .hosts kept)).filter (fun hosts => hosts ≠ [])
      = (toldHosts (toldKind xs) (last .hosts xs)).filter fun hosts => hosts ≠ [] := by
    by_cases out : .hosts ∈ fields
    · have none_left : last .hosts kept = none := (last_omitted _ _ _).trans (if_pos out)
      have none_given : last .hosts xs = some [] := blank .hosts out
      rw [none_left, none_given]
      cases toldKind xs <;> rfl
    · have unchanged : last .hosts kept = last .hosts xs := (last_omitted _ _ _).trans (if_neg out)
      rw [unchanged]
  have app : nonempty? (last .app kept) = nonempty? (last .app xs) := by
    refine nonempty?_of_keepsOrOmits ?_
    by_cases out : .app ∈ fields
    · exact .inr ⟨blank .app out, (last_omitted _ _ _).trans (if_pos out)⟩
    · exact .inl ((last_omitted _ _ _).trans (if_neg out))
  have inst : nonempty? (last .instanceId kept) = nonempty? (last .instanceId xs) := by
    refine nonempty?_of_keepsOrOmits ?_
    by_cases out : .instanceId ∈ fields
    · exact .inr ⟨blank .instanceId out, (last_omitted _ _ _).trans (if_pos out)⟩
    · exact .inl ((last_omitted _ _ _).trans (if_neg out))
  show (told kept).trimmed = (told xs).trimmed
  unfold told Request.trimmed
  rw [kind]
  simp (disch := decide) only [hosts, app, inst, same, last_same]

/-- **Leaving blanks out leaves one request**, up to its blanks. -/
theorem Origin.Omits.trimmed {o o' : Origin} (omits : o.Omits o') :
    o'.request.trimmed = o.request.trimmed := by
  cases omits with
  | settings blank =>
    simp only [Origin.request, ofSettings_eq]
    exact trimmed_told blank
  | metricMetadata apps instances =>
    have app := nonempty?_of_keepsOrOmits apps
    have inst := nonempty?_of_keepsOrOmits instances
    simp only [Origin.request, Request.metricMetadata, Request.trimmed, app, inst]
  | hostMetadata => rfl

end Request

/-! ## Transient metrics are asked of hosts -/

namespace Sql

/-- Two clauses with a text, joined. -/
theorem Clause.and_of_ne {c d : Clause} (some_text : c.text ≠ "") (more_text : d.text ≠ "") :
    c.and d = { text := c.text ++ " AND " ++ d.text, values := c.values ++ d.values } := by
  unfold Clause.and
  rw [if_neg (Clause.not_isEmpty more_text), if_neg (Clause.not_isEmpty some_text)]

/-- A test begins with its column. -/
theorem Test.text_compare (column : Column) (relation : Relation) (value : Value) :
    ∃ test, (Test.compare column relation value).clause.text = column.text ++ " " ++ test := by
  refine ⟨relation.text ++ " ?", ?_⟩
  show column.text ++ " " ++ relation.text ++ " ?" = _
  rw [String.append_assoc]

theorem Test.text_member (column : Column) (negated : Bool) (values : List Value) :
    ∃ test, (Test.member column negated values).clause.text = column.text ++ " " ++ test := by
  refine ⟨(if negated then "NOT IN (" else "IN (") ++ placeholderList values.length ++ ")", ?_⟩
  show column.text ++ (if negated then " NOT IN (" else " IN (") ++ _ ++ ")" = _
  cases negated
  · rw [if_neg Bool.false_ne_true, if_neg Bool.false_ne_true,
      show " IN (" = " " ++ "IN (" from rfl]
    simp only [String.append_assoc]
  · rw [if_pos rfl, if_pos rfl, show " NOT IN (" = " " ++ "NOT IN (" from rfl]
    simp only [String.append_assoc]

/-- Several tests begin with the first of them. -/
theorem Factor.text_enclosed (word : String) (t : Test) (ts : List Test) :
    ∃ more, (Factor.enclosed word (t :: ts)).text = "(" ++ t.clause.text ++ more := by
  show ∃ more, "(" ++ String.intercalate word ((t :: ts).map fun t => t.clause.text) ++ ")" = _
  cases ts with
  | nil =>
    refine ⟨")", ?_⟩
    rw [List.map_singleton, String.intercalate_singleton]
  | cons u us =>
    refine ⟨word ++ String.intercalate word (u.clause.text :: us.map fun t => t.clause.text) ++ ")",
      ?_⟩
    rw [List.map_cons, List.map_cons, String.intercalate_cons_cons]
    simp only [String.append_assoc]

theorem Factor.text_group (negated : Bool) (t : Test) (ts : List Test) :
    ∃ more, (Factor.group negated (t :: ts)).clause.text = "(" ++ t.clause.text ++ more := by
  cases negated
  · exact text_enclosed " OR " t ts
  · exact text_enclosed " AND " t ts

/-- A filter of one factor is written as that factor. -/
theorem Filter.text_one (x : Factor) : (Filter.clause [x]).text = x.clause.text := by
  show (Clause.empty.and x.clause).text = _
  unfold Clause.and
  by_cases silent : x.clause.isEmpty
  · rw [if_pos silent]
    exact (beq_iff_eq.mp silent).symm
  · rw [if_neg silent]
    rfl

end Sql

namespace Request

open Sql (Clause Column Factor Filter Test)

variable {r : Request}

/-- The filter by host is one factor. -/
theorem hostFilter_eq (some_host : r.hostList ≠ []) :
    (∃ host hosts, r.hostFilter
        = [.group r.negateHosts
          ((host :: hosts).map fun h => .likes r.negateHosts .host (.text h))])
      ∨ (∃ host, r.hostFilter = [.one (.equals r.negateHosts .host (.text host))])
      ∨ ∃ hosts, r.hostFilter = [.one (.member .host r.negateHosts hosts)] := by
  unfold hostFilter
  rcases hosts : r.hostList with _ | ⟨host, more⟩
  · exact absurd hosts some_host
  · by_cases pattern : Token.anyPattern (host :: more) = true
    · simp only [pattern, if_true]
      exact .inl ⟨host, more, rfl⟩
    · simp only [pattern, Bool.false_eq_true, if_false]
      cases more with
      | nil => exact .inr (.inl ⟨host, rfl⟩)
      | cons other more => exact .inr (.inr ⟨_, rfl⟩)

/-- Hosts are tested by their column, in parentheses if one of them is a pattern. -/
theorem text_hosts (some_host : r.hostList ≠ []) :
    ∃ test, (r.clause .hosts).text = "HOSTNAME " ++ test
      ∨ (r.clause .hosts).text = "(HOSTNAME " ++ test := by
  show ∃ test, (Filter.clause r.hostFilter).text = _ ∨ (Filter.clause r.hostFilter).text = _
  obtain ⟨host, more, filter⟩ | ⟨host, filter⟩ | ⟨hosts, filter⟩ := hostFilter_eq some_host
  · obtain ⟨test, first⟩ := Test.text_compare .host
      (if r.negateHosts then .unlike else .like) (.text host)
    obtain ⟨after, text⟩ := Factor.text_group r.negateHosts
      (.likes r.negateHosts .host (.text host))
      (more.map fun h => .likes r.negateHosts .host (.text h))
    refine ⟨test ++ after, .inr ?_⟩
    rw [filter, Filter.text_one, List.map_cons, text, Test.likes, first,
      show "(HOSTNAME " = "(" ++ (Column.host.text ++ " ") from rfl]
    simp only [String.append_assoc]
  · obtain ⟨test, text⟩ := Test.text_compare .host
      (if r.negateHosts then .unequal else .equal) (.text host)
    refine ⟨test, .inl ?_⟩
    rw [filter, Filter.text_one]
    exact text
  · obtain ⟨test, text⟩ := Test.text_member .host r.negateHosts hosts
    refine ⟨test, .inl ?_⟩
    rw [filter, Filter.text_one]
    exact text

/-- The values of the hosts are the hosts. -/
theorem values_hosts : (r.clause .hosts).values = r.hostList.map .text := by
  rw [(r.clause_binds .hosts).2]
  show (Filter.fields r.hostFilter).map Prod.snd = _
  rw [fields_host, Column.values_holding]
  rfl

theorem text_of_factors (view : View) (some_factor : (r.predicate view).factors ≠ []) :
    (r.clause view).text ≠ "" :=
  (clause_restricts some_factor).2.1

/-- The condition on transient metrics begins with the names and the hosts. -/
theorem clause_transient (named : r.names ≠ []) (some_host : r.hostList ≠ []) :
    ∃ after more, r.clause .transient
      = { text := (r.clause .names).text ++ " AND " ++ (r.clause .hosts).text ++ after
          values := (r.clause .names).values ++ (r.clause .hosts).values ++ more } := by
  have names : (r.clause .names).text ≠ "" :=
    text_of_factors .names (mt nameFilter_eq_nil.mp named)
  have hosts : (r.clause .hosts).text ≠ "" :=
    text_of_factors .hosts (mt hostFilter_eq_nil.mp some_host)
  have parts : r.transientFilter
      = r.nameFilter ++ r.hostFilter ++ (r.appFilter ++ r.instanceFilter ++ r.windowFilter) := by
    simp only [transientFilter, attributeFilter, List.append_assoc]
  have both := Clause.and_of_ne names hosts
  have some_text : ((r.clause .names).and (r.clause .hosts)).text ≠ "" := by
    rw [both]
    simp [names]
  obtain ⟨after, more, whole⟩ := Clause.and_eq some_text
    (Filter.clause (r.appFilter ++ r.instanceFilter ++ r.windowFilter))
  refine ⟨after, more, ?_⟩
  show Filter.clause r.transientFilter = _
  rw [parts, Filter.clause_append, Filter.clause_append]
  exact whole.trans (by rw [both])

end Request

/-- The statement of a plan tests the hosts of a request for transient metrics, after their names,
    and binds the hosts there. -/
def Plan.TestsHosts (p : Plan) (r : Request) : Prop :=
  ∃ test after more,
    p.text = headOf r transientColumns .transient ++ " WHERE " ++ (r.clause .names).text ++ " AND "
        ++ test ++ after
      ∧ (∃ rest, test = "HOSTNAME " ++ rest ∨ test = "(HOSTNAME " ++ rest)
      ∧ p.values = (r.clause .names).values ++ r.hostList.map .text ++ more

namespace Method

/-- Nothing that is planned for transient metrics goes without hosts. -/
theorem testsHosts_of_mem {s : Settings} {now : Int} {r : Request} {ps : List Plan} {p : Plan}
    (named : r.names ≠ []) (some_host : r.hostList ≠ [])
    (planned : transient.plans s now r = .ok ps) (among : p ∈ ps) : p.TestsHosts r := by
  obtain ⟨granularity, f, -, form, rfl⟩ := form_of_mem planned among
  obtain rfl := List.mem_singleton.mp form
  obtain ⟨after, more, clause⟩ := r.clause_transient named some_host
  obtain ⟨rest, hosts⟩ := r.text_hosts some_host
  refine ⟨(r.clause .hosts).text, after ++ (Plan.transientForm s r).after, more, ?text,
    ⟨rest, hosts⟩, ?values⟩
  case text =>
    show Plan.headOf r Plan.transientColumns .transient ++ (r.clause .transient).whereText ++ _ = _
    have some_text : (r.clause .transient).text ≠ "" := by
      refine Request.text_of_factors .transient fun none_left => named ?_
      simp only [Request.predicate, Request.transientFilter, Request.attributeFilter,
        Sql.Predicate.factors, List.append_eq_nil_iff] at none_left
      exact Request.nameFilter_eq_nil.mp none_left.1.1.1.1
    rw [Sql.Clause.whereText_eq some_text, clause]
    simp only [String.append_assoc]
  case values =>
    show (r.clause .transient).values = _
    rw [clause, r.values_hosts]

/-- Only a request for nothing is refused as one. -/
theorem asksNothing_of_plans {m : Method} {s : Settings} {now : Int} {r : Request}
    (refused : m.plans s now r = .error .empty) : r.AsksNothing := by
  rw [plans_eq] at refused
  cases check : m.check s now r with
  | ok granularity =>
    rw [check] at refused
    exact nomatch refused
  | error e =>
    rw [check] at refused
    obtain rfl : e = .empty := Except.error.inj refused
    cases (m.check_eq_error now).mp check with
    | nothing _ asks => exact asks

/-- **What is blank is absent.**  Without the blanks, settings and arguments tell of a request of
    one kind with those with them, and every method, with any settings of its own and at any time,
    answers it alike: with the same statements, or with the same error.  Transient metrics are asked
    of every host if no host is given, in either way; so a request for them is never refused as one
    for nothing, and its statement tests its hosts. -/
theorem plans_without_blanks :
    (∀ o o' : Request.Origin, o.Omits o' →
      o'.request.kind = o.request.kind
        ∧ ∀ (m : Method) (s : Settings) (now : Int),
          (m.plans s now o'.request).map (List.map Plan.content)
            = (m.plans s now o.request).map (List.map Plan.content))
      ∧ ∀ (settings : List Setting) (names : List String),
        (Request.ofSettings settings).kind = .transient names →
          ((last .hosts settings).getD [] = [] → (Request.ofSettings settings).hosts = some ["%"])
            ∧ ∀ (s : Settings) (now : Int),
              (∀ m : Method, m.plans s now (Request.ofSettings settings) ≠ .error .empty)
                ∧ ∀ ps p, transient.plans s now (Request.ofSettings settings) = .ok ps → p ∈ ps →
                  p.TestsHosts (Request.ofSettings settings) := by
  refine ⟨fun o o' omits => ⟨?kind, fun m s now => ?alike⟩, fun settings names kind => ?hosts⟩
  case kind =>
    show o'.request.trimmed.kind = o.request.trimmed.kind
    rw [omits.trimmed]
  case alike =>
    rw [← m.content_trimmed s now o'.request, omits.trimmed, m.content_trimmed]
  case hosts =>
    rw [Request.ofSettings_eq] at kind ⊢
    obtain ⟨some_name, some_host⟩ := Request.transient_told kind
    have named : (Request.told settings).names ≠ [] := by
      unfold Request.names
      rw [kind]
      exact some_name
    refine ⟨fun none_given => ?_, fun s now => ⟨fun m refused => ?_, fun ps p planned among => ?_⟩⟩
    · have kind : Request.toldKind settings = .transient names := kind
      show Request.toldHosts (Request.toldKind settings) (last .hosts settings) = _
      rw [kind]
      exact (Request.toldHosts_transient _).2 none_given
    · exact named (asksNothing_of_plans refused).names
    · exact testsHosts_of_mem named some_host planned among

/-- Transient metrics of no hosts, for an application without a name. -/
def ofNoHost : List Setting := [.transientNames ["topology.%"], .hosts [], .app ""]

/-- Every host is asked for them, as if nothing had been said of hosts and applications. -/
theorem plans_without_blanks_transient :
    ∃ p, transient.plans .standard 0 (Request.ofSettings ofNoHost) = .ok [p]
      ∧ (transient.plans .standard 0
          (Request.ofSettings [.transientNames ["topology.%"]])).map (List.map Plan.content)
        = .ok [p.content]
      ∧ (Request.ofSettings ofNoHost).hosts = some ["%"]
      ∧ p.TestsHosts (Request.ofSettings ofNoHost) := by
  obtain ⟨p, planned⟩ : ∃ p, transient.plans .standard 0 (Request.ofSettings ofNoHost) = .ok [p] :=
    ⟨_, rfl⟩
  have blank : ∀ f ∈ [Setting.Field.hosts, .app], Request.EndsBlank ofNoHost f :=
    List.forall_mem_cons.mpr ⟨rfl, List.forall_mem_singleton.mpr rfl⟩
  obtain ⟨alike, asked⟩ := plans_without_blanks
  obtain ⟨-, same⟩ := alike (.settings ofNoHost) _ (.settings blank)
  obtain ⟨every, tested⟩ := asked ofNoHost ["topology.%"] rfl
  refine ⟨p, planned, ?_, every rfl, (tested .standard 0).2 _ p planned List.mem_cons_self⟩
  exact (same transient .standard 0).trans (congrArg (Except.map (List.map Plan.content)) planned)

end Method

end Rollup
