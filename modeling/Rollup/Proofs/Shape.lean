/-
  Shapes: what of a request its statements depend on.

  The shape of a request keeps how many names, hosts and identities it has and which of them are
  patterns, which fields are present, and everything that the caller wrote for the text itself.  It
  forgets every token, every byte of an identity and every time.  Requests of one shape are answered
  by the same texts, and by values of the same kinds in the same order: no value reaches a text.

  The crux is that the blank filter of a request can be told from its shape, dimension by dimension
  (`Request.blank_predicate`).  Writing it out gives the text of the real one, so the text can be
  told from the shape as well.
-/
import Rollup.Proofs.Form
import Rollup.Proofs.Sql.Blank

namespace Rollup

open Sql

/-! ## Shapes -/

/-- What is kept of an id. -/
inductive TokenClass
  | absent
  | bare
  | pattern
  | exact
  deriving DecidableEq

/-- The class of an id; the bare wildcard is a pattern like any other. -/
def TokenClass.of : Option String → TokenClass
  | none => absent
  | some token => if Token.isPattern token then pattern else exact

/-- The class of an instance id, for which the bare wildcard is apart. -/
def TokenClass.ofInstance (id : Option String) : TokenClass :=
  if id = some Token.wildcard.toString then bare else of id

/-- What the statements that answer a request depend on. -/
structure Shape where
  /-- The kind of the request; of one for transient metrics the names are left out. -/
  kind : Request.Kind
  negateNames : Bool
  negateHosts : Bool
  negateIdentities : Bool
  statement : Option String
  orderBy : List String
  givenLimit : Option Int
  unlimited : Bool
  granularity : Option Granularity
  hasStart : Bool
  hasFinish : Bool
  identities : Nat
  exactNames : Nat
  patternNames : Nat
  hosts : Nat
  anyHostPattern : Bool
  app : TokenClass
  instanceId : TokenClass
  deriving DecidableEq

namespace Request

/-- A kind without names of its own. -/
def Kind.nameless : Kind → Kind
  | .transient _ => .transient []
  | kind => kind

/-- What leaves those names unread is the same for two kinds that differ in nothing else. -/
theorem Kind.eq_of_nameless {α : Type} {k k' : Kind} (f : Kind → α)
    (unread : ∀ k, f k = f k.nameless) (same : k.nameless = k'.nameless) : f k = f k' := by
  rw [unread k, same, ← unread k']

/-- The shape of a request. -/
def shape (r : Request) : Shape where
  kind := r.kind.nameless
  negateNames := r.negateNames
  negateHosts := r.negateHosts
  negateIdentities := r.negateIdentities
  statement := r.statement
  orderBy := r.orderBy
  givenLimit := r.givenLimit
  unlimited := r.unlimited
  granularity := r.granularity
  hasStart := r.givenStart.isSome
  hasFinish := r.givenFinish.isSome
  identities := r.identities.length
  exactNames := (Token.exact r.names).length
  patternNames := (Token.patterns r.names).length
  hosts := r.hostList.length
  anyHostPattern := Token.anyPattern r.hostList
  app := .of r.app
  instanceId := .ofInstance r.instanceId

end Request

/-! ## Blank filters by their shape -/

namespace Shape

/-- The blank filter by identity. -/
def identityFilter (h : Shape) : Filter :=
  if h.identities = 0 then []
  else
    [.group h.negateIdentities
      [.member .identity h.negateIdentities (List.replicate h.identities (.bytes []))]]

/-- The blank filter by name. -/
def nameFilter (h : Shape) : Filter :=
  if h.exactNames + h.patternNames = 0 then []
  else
    [.group h.negateNames
      ((if h.exactNames = 0 then []
        else [.member .name h.negateNames (List.replicate h.exactNames (.text ""))])
        ++ List.replicate h.patternNames (.likes h.negateNames .name (.text "")))]

/-- The blank filter by host. -/
def hostFilter (h : Shape) : Filter :=
  if h.hosts = 0 then []
  else if h.anyHostPattern then
    [.group h.negateHosts (List.replicate h.hosts (.likes h.negateHosts .host (.text "")))]
  else if h.hosts = 1 then [.one (.equals h.negateHosts .host (.text ""))]
  else [.one (.member .host h.negateHosts (List.replicate h.hosts (.text "")))]

/-- The blank filter of a token class. -/
def tokenFilter (c : Column) : TokenClass → Filter
  | .absent | .bare => []
  | .pattern => [.one (.likes false c (.text ""))]
  | .exact => [.one (.equals false c (.text ""))]

/-- The blank filter by time. -/
def windowFilter (h : Shape) : Filter :=
  (if h.hasStart then [.one (.compare .time .atLeast (.integer 0))] else [])
    ++ if h.hasFinish then [.one (.compare .time .below (.integer 0))] else []

/-- The blank filter by application. -/
def appFilter (h : Shape) : Filter := tokenFilter .app h.app

/-- The blank filter by instance. -/
def instanceFilter (h : Shape) : Filter := tokenFilter .instanceId h.instanceId

/-- The blank filter by all but identity and time. -/
def attributeFilter (h : Shape) : Filter :=
  h.nameFilter ++ h.hostFilter ++ h.appFilter ++ h.instanceFilter

/-- The blank filter of a series. -/
def seriesFilter (h : Shape) : Filter :=
  (if h.identities = 0 then h.attributeFilter else h.identityFilter) ++ h.windowFilter

/-- Whose rows a request of the shape concerns. -/
def scope (h : Shape) : Scope := if h.hosts = 0 then .cluster else .perHost

/-- What a view shows of any request of the shape, with blank values. -/
def predicate (h : Shape) : View → Predicate
  | .series => .plain h.seriesFilter
  | .ranked ranking granularity => .ranked
    { ranking := ranking
      source := .ofScope h.scope granularity
      candidates := h.seriesFilter
      window := h.windowFilter }
  | .transient => .plain (h.attributeFilter ++ h.windowFilter)
  | .metadata .metric => .plain (h.nameFilter ++ h.appFilter ++ h.instanceFilter)
  | .metadata .host => .plain h.hostFilter
  | .lookup _ => .plain (.one (.equals false .identity (.bytes [])) :: h.windowFilter)
  | .identities => .plain h.identityFilter
  | .names => .plain h.nameFilter
  | .hosts => .plain h.hostFilter
  | .app => .plain h.appFilter
  | .instanceId => .plain h.instanceFilter
  | .window => .plain h.windowFilter

end Shape

namespace Request

variable (r : Request)

theorem blank_identityFilter : Filter.blank r.identityFilter = r.shape.identityFilter := by
  unfold identityFilter Shape.identityFilter shape
  cases r.identities with
  | nil => rfl
  | cons i is =>
    simp [Filter.blank, Factor.blank_group, Test.blank, Value.blank, Function.comp_def,
      List.replicate_succ]

/-- Every name is exact or a pattern. -/
theorem length_names :
    (Token.exact r.names).length + (Token.patterns r.names).length = r.names.length := by
  unfold Token.exact Token.patterns
  rw [Nat.add_comm, ← List.length_eq_length_filter_add]

theorem blank_nameTests :
    r.nameTests.map Test.blank
      = (if (Token.exact r.names).length = 0 then []
          else [.member .name r.negateNames
            (List.replicate (Token.exact r.names).length (.text ""))])
        ++ List.replicate (Token.patterns r.names).length
            (.likes r.negateNames .name (.text "")) := by
  unfold nameTests
  rw [List.map_append, List.map_map]
  congr 1
  · cases Token.exact r.names with
    | nil => rfl
    | cons t ts => simp [Test.blank, Value.blank, Function.comp_def, List.replicate_succ]
  · show (Token.patterns r.names).map (fun _ => Test.likes r.negateNames .name (.text "")) = _
    exact List.map_const' ..

theorem blank_nameFilter : Filter.blank r.nameFilter = r.shape.nameFilter := by
  have count := r.length_names
  unfold nameFilter Shape.nameFilter shape
  by_cases h : r.names = []
  · simp [h, Filter.blank, Token.exact, Token.patterns]
  · have some_name : ¬ (Token.exact r.names).length + (Token.patterns r.names).length = 0 := by
      rw [count]
      exact fun empty => h (List.eq_nil_of_length_eq_zero empty)
    rw [if_neg (by simpa using h), if_neg some_name]
    simp only [Filter.blank, List.map_singleton, Factor.blank_group, blank_nameTests]

theorem blank_hostFilter : Filter.blank r.hostFilter = r.shape.hostFilter := by
  unfold hostFilter Shape.hostFilter shape
  rcases hosts : r.hostList with _ | ⟨h, hs⟩
  · rfl
  · have some_host : ¬ (h :: hs).length = 0 := by simp
    simp only [some_host, if_false]
    by_cases pattern : Token.anyPattern (h :: hs)
    · simp only [pattern, if_true, Filter.blank, List.map_singleton, Factor.blank_group,
        List.map_map]
      congr 2
      show (h :: hs).map (fun _ => Test.likes r.negateHosts .host (.text "")) = _
      exact List.map_const' ..
    · simp only [pattern, Bool.false_eq_true, if_false]
      cases hs with
      | nil => cases r.negateHosts <;> rfl
      | cons h' hs =>
        simp [Filter.blank, Factor.blank, Test.blank, Value.blank, Function.comp_def,
          List.replicate_succ]

theorem blank_token (c : Column) (token : String) :
    Filter.blank [.one (tokenTest c token)] = Shape.tokenFilter c (.of (some token)) := by
  simp only [tokenTest, TokenClass.of]
  split <;> rfl

theorem blank_appFilter : Filter.blank r.appFilter = r.shape.appFilter := by
  unfold appFilter Shape.appFilter shape
  cases r.app with
  | none => rfl
  | some app => exact blank_token .app app

theorem blank_instanceFilter : Filter.blank r.instanceFilter = r.shape.instanceFilter := by
  unfold instanceFilter Shape.instanceFilter shape TokenClass.ofInstance
  cases r.instanceId with
  | none => rfl
  | some i =>
    by_cases bare : i = Token.wildcard.toString
    · simp only [bare, if_true]
      rfl
    · have apart : ¬ some i = some Token.wildcard.toString := fun h => bare (Option.some.inj h)
      simp only [bare, apart, if_false]
      exact blank_token .instanceId i

theorem blank_windowFilter : Filter.blank r.windowFilter = r.shape.windowFilter := by
  unfold windowFilter start finish Shape.windowFilter shape
  cases r.givenStart <;> cases r.givenFinish <;> rfl

theorem blank_attributeFilter : Filter.blank r.attributeFilter = r.shape.attributeFilter := by
  unfold attributeFilter Shape.attributeFilter
  simp only [Filter.blank_append, blank_nameFilter, blank_hostFilter, blank_appFilter,
    blank_instanceFilter]

theorem blank_seriesFilter : Filter.blank r.seriesFilter = r.shape.seriesFilter := by
  have count : r.shape.identities = 0 ↔ r.identities.isEmpty = true := by
    rw [List.isEmpty_iff]
    exact List.length_eq_zero_iff
  unfold seriesFilter Shape.seriesFilter
  rw [Filter.blank_append, blank_windowFilter]
  by_cases h : r.identities.isEmpty
  · rw [if_pos h, if_pos (count.mpr h), blank_attributeFilter]
  · rw [if_neg h, if_neg (mt count.mp h), blank_identityFilter]

theorem scope_shape : r.scope = r.shape.scope := by
  unfold scope hasHosts Shape.scope shape
  cases r.hostList <;> rfl

/-- **What a view shows, with blank values, can be told from the shape.** -/
theorem blank_predicate (view : View) : (r.predicate view).blank = r.shape.predicate view := by
  cases view with
  | series => exact congrArg Predicate.plain r.blank_seriesFilter
  | ranked ranking granularity =>
    simp only [predicate, rankedFilter, Predicate.blank, RankedFilter.blank, Shape.predicate,
      blank_seriesFilter, blank_windowFilter, scope_shape]
  | transient =>
    simp only [predicate, transientFilter, Predicate.blank, Shape.predicate, Filter.blank_append,
      blank_attributeFilter, blank_windowFilter]
  | metadata target =>
    cases target with
    | metric =>
      simp only [predicate, metadataFilter, Predicate.blank, Shape.predicate, Filter.blank_append,
        blank_nameFilter, blank_appFilter, blank_instanceFilter]
    | host => exact congrArg Predicate.plain r.blank_hostFilter
  | lookup identity =>
    exact congrArg (fun f => Predicate.plain (_ :: f)) r.blank_windowFilter
  | identities => exact congrArg Predicate.plain r.blank_identityFilter
  | names => exact congrArg Predicate.plain r.blank_nameFilter
  | hosts => exact congrArg Predicate.plain r.blank_hostFilter
  | app => exact congrArg Predicate.plain r.blank_appFilter
  | instanceId => exact congrArg Predicate.plain r.blank_instanceFilter
  | window => exact congrArg Predicate.plain r.blank_windowFilter

/-- So can its clause, with blank values. -/
theorem blank_clause (view : View) : (r.clause view).blank = (r.shape.predicate view).clause := by
  unfold clause
  rw [← Predicate.clause_blank, blank_predicate]

end Request

/-! ## Forms of one shape -/

/-- What of a plan its values do not show in. -/
structure Outline where
  text : String
  table : Table
  kinds : List Value.Kind
  deriving DecidableEq

/-- The outline of a plan. -/
def Plan.outline (p : Plan) : Outline := ⟨p.text, p.table, p.values.map Value.kind⟩

section Forms

variable {s : Settings} {granularity : Granularity} {r r' : Request} (same : r.shape = r'.shape)

/-- Views that show the same of a shape make the same outline of one form. -/
theorem Form.outline_eq {f f' : Form} {reads : Option Granularity} {asked asked' : Request}
    (table : f.table = f'.table) (before : f.before = f'.before) (after : f.after = f'.after)
    (own : f.own = f'.own)
    (clause : (asked.clause f.view).blank = (asked'.clause f'.view).blank) :
    (f.plan s reads asked).outline = (f'.plan s reads asked').outline := by
  have written : (asked.clause f.view).whereText = (asked'.clause f'.view).whereText := by
    show (asked.clause f.view).blank.whereText = (asked'.clause f'.view).blank.whereText
    rw [clause]
  have text : f.text asked = f'.text asked' := by
    unfold Form.text
    rw [before, after, own, written]
  have kinds : (asked.clause f.view).values.map Value.kind
      = (asked'.clause f'.view).values.map Value.kind := by
    rw [← Clause.kinds_blank, clause, Clause.kinds_blank]
  unfold Plan.outline Form.plan
  rw [text, table, kinds]

include same

theorem clause_of_shape (m : Method) (view : View) :
    ((m.asked r).clause view).blank = ((m.asked r').clause view).blank := by
  rw [m.clause_asked, m.clause_asked, r.blank_clause, r'.blank_clause, same]

theorem nameless_of_shape : r.kind.nameless = r'.kind.nameless := congrArg Shape.kind same

theorem wholeView_of_shape (g : Option Granularity) : r.wholeView g = r'.wholeView g :=
  Request.Kind.eq_of_nameless (fun k => Request.wholeView { r with kind := k } g)
    (fun k => by cases k <;> rfl) (nameless_of_shape same)

theorem metadataTarget_of_shape : r.metadataTarget? = r'.metadataTarget? :=
  Request.Kind.eq_of_nameless (fun k => Request.metadataTarget? { r with kind := k })
    (fun k => by cases k <;> rfl) (nameless_of_shape same)

theorem isPlain_of_shape : r.isPlain = r'.isPlain :=
  Request.Kind.eq_of_nameless (fun k => Request.isPlain { r with kind := k })
    (fun k => by cases k <;> rfl) (nameless_of_shape same)

theorem isTransient_of_shape : r.isTransient = r'.isTransient :=
  Request.Kind.eq_of_nameless (fun k => Request.isTransient { r with kind := k })
    (fun k => by cases k <;> rfl) (nameless_of_shape same)

theorem limit_of_shape (default : Int) : r.limit default = r'.limit default := by
  have unlimited : r.unlimited = r'.unlimited := congrArg Shape.unlimited same
  have pinned : r.granularity = r'.granularity := congrArg Shape.granularity same
  have given : r.givenLimit = r'.givenLimit := congrArg Shape.givenLimit same
  unfold Request.limit
  rw [unlimited, pinned, given]

theorem headOf_of_shape (columns : String) (table : Table) :
    Plan.headOf r columns table = Plan.headOf r' columns table := by
  have statement : r.statement = r'.statement := congrArg Shape.statement same
  unfold Plan.headOf
  rw [statement]

theorem orderOf_of_shape (default : List String) :
    Plan.orderOf r default = Plan.orderOf r' default := by
  have orderBy : r.orderBy = r'.orderBy := congrArg Shape.orderBy same
  unfold Plan.orderOf
  rw [orderBy]

theorem length_names_of_shape : r.names.length = r'.names.length := by
  have exact_names := congrArg Shape.exactNames same
  have patterns := congrArg Shape.patternNames same
  rw [← r.length_names, ← r'.length_names]
  exact congrArg₂ (· + ·) exact_names patterns

/-- **Forms of one shape** are one and the same, but for the identities that are looked up. -/
theorem Method.outlines_of_forms (m : Method) :
    ((m.forms s r granularity).map fun f => (f.plan s (m.reads granularity) (m.asked r)).outline)
      = (m.forms s r' granularity).map fun f =>
          (f.plan s (m.reads granularity) (m.asked r')).outline := by
  have one : ∀ f : Form, (f.plan s (m.reads granularity) (m.asked r)).outline
      = (f.plan s (m.reads granularity) (m.asked r')).outline := fun f =>
    f.outline_eq rfl rfl rfl rfl (clause_of_shape same m f.view)
  have forms_eq : m.forms s r granularity = m.forms s r' granularity →
      ((m.forms s r granularity).map fun f => (f.plan s (m.reads granularity) (m.asked r)).outline)
      = (m.forms s r' granularity).map fun f =>
          (f.plan s (m.reads granularity) (m.asked r')).outline := by
    intro h
    rw [h]
    exact List.map_congr_left fun f _ => one f
  cases m with
  | series scope =>
    refine forms_eq (congrArg ([·]) ?_)
    unfold Plan.seriesForm
    rw [wholeView_of_shape same, headOf_of_shape same, orderOf_of_shape same, limit_of_shape same]
  | latest =>
    have statement : r.statement = r'.statement := congrArg Shape.statement same
    have orderBy : r.orderBy = r'.orderBy := congrArg Shape.orderBy same
    refine forms_eq (congrArg ([·]) ?_)
    unfold Plan.latestForm
    rw [statement, orderBy]
  | transient =>
    refine forms_eq (congrArg ([·]) ?_)
    unfold Plan.transientForm
    rw [headOf_of_shape same, orderOf_of_shape same, limit_of_shape same]
  | metadata =>
    refine forms_eq ?_
    have form : Plan.metadataForm r = Plan.metadataForm r' := by
      funext target
      unfold Plan.metadataForm
      rw [headOf_of_shape same]
    unfold forms
    rw [metadataTarget_of_shape same, form]
  | latestAggregates =>
    have count : r.identities.length = r'.identities.length := congrArg Shape.identities same
    -- The identities differ, and so do the views; but each shows one identity, blank like any other.
    have lookup : ∀ i j, ((Plan.lookupForm r i).plan s none r).outline
        = ((Plan.lookupForm r' j).plan s none r').outline := by
      intro i j
      refine Form.outline_eq rfl rfl ?_ rfl ?_
      · unfold Plan.lookupForm
        rw [length_names_of_shape same]
      · rw [r.blank_clause, r'.blank_clause, same]
        rfl
    unfold forms
    rw [List.map_map, List.map_map]
    refine List.ext_getElem (by simp [count]) fun n h h' => ?_
    rw [List.getElem_map, List.getElem_map]
    exact lookup _ _

end Forms

/-! ## The order of names -/

namespace Request

variable {r : Request} {names : List String}

/-- Other names leave all but the names as it was. -/
theorem withNames_frame (r : Request) (names : List String) :
    ∃ kind shared, r.withNames names = { r with kind := kind, sharedNames := shared } := by
  unfold withNames
  cases r.kind with
  | transient _ => exact ⟨.transient names, r.sharedNames, rfl⟩
  | plain | ranked _ | metadata _ => exact ⟨_, names, rfl⟩

theorem nameless_withNames (r : Request) (names : List String) :
    (r.withNames names).kind.nameless = r.kind.nameless := by
  unfold withNames
  cases r.kind <;> rfl

theorem granularity_withNames (r : Request) (names : List String) :
    (r.withNames names).granularity = r.granularity := by
  obtain ⟨kind, shared, other⟩ := r.withNames_frame names
  rw [other]

section Order

variable (perm : names.Perm r.names)

include perm

/-- Names in another order have the same shape. -/
theorem shape_withNames : (r.withNames names).shape = r.shape := by
  have exact_names : (Token.exact (r.withNames names).names).length
      = (Token.exact r.names).length := by
    rw [names_withNames]
    exact (perm.filter _).length_eq
  have patterns : (Token.patterns (r.withNames names).names).length
      = (Token.patterns r.names).length := by
    rw [names_withNames]
    exact (perm.filter _).length_eq
  obtain ⟨kind, shared, other⟩ := r.withNames_frame names
  unfold shape
  rw [nameless_withNames, exact_names, patterns, other]
  rfl

theorem length_withNames : (r.withNames names).names.length = r.names.length := by
  rw [names_withNames]
  exact perm.length_eq

theorem isEmpty_withNames : (r.withNames names).names.isEmpty = r.names.isEmpty := by
  rw [names_withNames]
  exact perm.isEmpty_eq

theorem estimate_withNames (s : Settings) (granularity : Granularity) :
    s.estimate (r.withNames names) granularity = s.estimate r granularity := by
  obtain ⟨kind, shared, other⟩ := r.withNames_frame names
  unfold Settings.estimate
  rw [length_withNames perm, other]
  rfl

/-- The budget is checked as before, and refused in the same words. -/
theorem checkBudget_withNames (s : Settings) (granularity : Granularity) :
    s.checkBudget (r.withNames names) granularity = s.checkBudget r granularity := by
  obtain ⟨kind, shared, other⟩ := r.withNames_frame names
  unfold Settings.checkBudget
  rw [isEmpty_withNames perm, estimate_withNames perm, length_withNames perm, other]
  rfl

theorem finest_withNames (s : Settings) (now : Int) :
    s.finest (r.withNames names) now = s.finest r now := by
  have admits : s.admits (r.withNames names) now = s.admits r now := by
    obtain ⟨kind, shared, other⟩ := r.withNames_frame names
    funext granularity
    unfold Settings.admits
    rw [estimate_withNames perm, other]
    rfl
  unfold Settings.finest
  rw [admits]

/-- The same granularity is found. -/
theorem resolve_withNames (s : Settings) (now : Int) :
    s.resolve (r.withNames names) now = s.resolve r now := by
  unfold Settings.resolve
  rw [granularity_withNames, finest_withNames perm]
  cases r.granularity with
  | none => rfl
  | some granularity =>
    exact congrArg (Except.map fun _ => granularity) (checkBudget_withNames perm s granularity)

theorem checkNonempty_withNames :
    Plan.checkNonempty (r.withNames names) = Plan.checkNonempty r := by
  obtain ⟨kind, shared, other⟩ := r.withNames_frame names
  unfold Plan.checkNonempty isEmpty
  rw [isEmpty_withNames perm, other]
  rfl

/-- Hosts or metrics can be ranked in any order of the names. -/
theorem ranks_withNames :
    (r.withNames names).ranksHosts = r.ranksHosts
      ∧ (r.withNames names).ranksMetrics = r.ranksMetrics := by
  have pattern : Token.anyPattern names = Token.anyPattern r.names := perm.any_eq
  have hosts : (r.withNames names).hosts = r.hosts := by
    obtain ⟨kind, shared, other⟩ := r.withNames_frame names
    rw [other]
  unfold ranksHosts ranksMetrics Ranking.overHosts Ranking.overMetrics
  rw [names_withNames, hosts, pattern, perm.length_eq, perm.isEmpty_eq]
  exact ⟨rfl, rfl⟩

theorem checkSeries_withNames (scope : Scope) :
    Plan.checkSeries scope (r.withNames names) = Plan.checkSeries scope r := by
  have hosts : (r.withNames names).hostCount = r.hostCount := by
    obtain ⟨kind, shared, other⟩ := r.withNames_frame names
    rw [other]
    rfl
  cases k : r.kind with
  | ranked ranking =>
    have kept : (r.withNames names).kind = .ranked ranking := by
      unfold withNames
      rw [k]
    unfold Plan.checkSeries
    rw [kept, k]
    -- Only here are the names looked at, and then all together.
    show Plan.require _ _ = Plan.require _ _
    rw [(ranks_withNames perm).1, (ranks_withNames perm).2, length_withNames perm, hosts]
  | plain | transient _ | metadata _ =>
    unfold Plan.checkSeries withNames
    simp only [k]

/-- The checks of every method are as they were. -/
theorem check_withNames (m : Method) (s : Settings) (now : Int) :
    m.check s now (r.withNames names) = m.check s now r := by
  obtain ⟨kind, shared, other⟩ := r.withNames_frame names
  have nonempty := checkNonempty_withNames perm
  have named := isEmpty_withNames perm
  have same := shape_withNames perm
  cases m with
  | series scope =>
    simp only [Method.check]
    rw [nonempty, checkSeries_withNames perm, resolve_withNames perm]
  | latest =>
    have plain : (r.withNames names).isPlain = r.isPlain := isPlain_of_shape same
    simp only [Method.check]
    rw [nonempty, plain, named]
  | transient =>
    have transient : (r.withNames names).isTransient = r.isTransient := isTransient_of_shape same
    have within : s.checkPinned (r.withNames names) = s.checkPinned r := by
      unfold Settings.checkPinned
      rw [granularity_withNames]
      cases r.granularity with
      | none => rfl
      | some granularity => exact checkBudget_withNames perm s granularity
    simp only [Method.check]
    rw [nonempty, transient, within]
  | metadata =>
    simp only [Method.check]
    rw [metadataTarget_of_shape same]
  | latestAggregates =>
    have identities : (r.withNames names).identities = r.identities := by rw [other]
    simp only [Method.check]
    rw [nonempty, identities]

end Order

end Request

namespace Method

/-- **No value reaches a text.**  Requests of one shape, whatever their tokens, identities and times
    and whenever they are asked, are answered by plans of one outline, if the same granularities are
    read.  Names in another order make no difference at all. -/
theorem outlines_of_shape (m : Method) (s : Settings) :
    (∀ (r r' : Request) (now now' : Int) (ps ps' : List Plan), r.shape = r'.shape →
        m.plans s now r = .ok ps → m.plans s now' r' = .ok ps' →
        (∀ scope, m = .series scope →
          ps.map (fun p => p.granularity) = ps'.map fun p => p.granularity) →
        ps.map Plan.outline = ps'.map Plan.outline)
      ∧ ∀ (r : Request) (now : Int) (names : List String), names.Perm r.names →
        (m.plans s now (r.withNames names)).map (fun ps => ps.map Plan.outline)
          = (m.plans s now r).map fun ps => ps.map Plan.outline := by
  constructor
  · intro r r' now now' ps ps' same planned planned' read
    obtain ⟨granularity, -, rfl⟩ := plans_eq_ok.mp planned
    obtain ⟨granularity', -, rfl⟩ := plans_eq_ok.mp planned'
    have forms' : m.forms s r' granularity' = m.forms s r' granularity
        ∧ m.reads granularity' = m.reads granularity := by
      cases m with
      | series scope =>
        have found : [some granularity] = [some granularity'] := read scope rfl
        obtain rfl : granularity = granularity' := Option.some.inj (List.head_eq_of_cons_eq found)
        exact ⟨rfl, rfl⟩
      | latest | transient | metadata | latestAggregates => exact ⟨rfl, rfl⟩
    -- From here on the two runs differ in their requests alone.
    rw [forms'.1, forms'.2, List.map_map, List.map_map]
    exact outlines_of_forms same m
  · intro r now names perm
    rw [plans_eq, plans_eq, Request.check_withNames perm]
    cases m.check s now r with
    | error e => rfl
    | ok granularity =>
      refine congrArg Except.ok ?_
      show List.map Plan.outline (List.map _ _) = List.map Plan.outline (List.map _ _)
      rw [List.map_map, List.map_map]
      exact outlines_of_forms (Request.shape_withNames perm) m

/-- Two requests for transient metrics, alike but for every value, are answered by one outline; and so
    is the first of them with its names exchanged. -/
theorem outlines_of_shape_transient :
    ∃ p p' q, transient.plans .standard 0
          { kind := .transient ["load%", "cpu_user"], hosts := some ["a.b"], givenStart := some 1 }
        = .ok [p]
      ∧ transient.plans .standard 9
          { kind := .transient ["x", "?%"], hosts := some ["'; --"], givenStart := some 7 }
        = .ok [p']
      ∧ transient.plans .standard 0
          { kind := .transient ["cpu_user", "load%"], hosts := some ["a.b"], givenStart := some 1 }
        = .ok [q]
      ∧ p.outline = p'.outline ∧ q.outline = p.outline := by
  obtain ⟨p, planned⟩ : ∃ p, transient.plans .standard 0
      { kind := .transient ["load%", "cpu_user"], hosts := some ["a.b"], givenStart := some 1 }
      = .ok [p] := ⟨_, rfl⟩
  obtain ⟨p', planned'⟩ : ∃ p, transient.plans .standard 9
      { kind := .transient ["x", "?%"], hosts := some ["'; --"], givenStart := some 7 }
      = .ok [p] := ⟨_, rfl⟩
  obtain ⟨q, exchanged⟩ : ∃ p, transient.plans .standard 0
      { kind := .transient ["cpu_user", "load%"], hosts := some ["a.b"], givenStart := some 1 }
      = .ok [p] := ⟨_, rfl⟩
  have alike := (outlines_of_shape .transient .standard).1 _ _ 0 9 [p] [p'] (by decide +kernel)
    planned planned' nofun
  have swapped := (outlines_of_shape .transient .standard).2
    { kind := .transient ["load%", "cpu_user"], hosts := some ["a.b"], givenStart := some 1 } 0
    ["cpu_user", "load%"] (.swap _ _ _)
  refine ⟨p, p', q, planned, planned', exchanged, List.head_eq_of_cons_eq alike, ?_⟩
  have same : Except.ok [q.outline] = (Except.ok [p.outline] : Except PlanError (List Outline)) := by
    have other := congrArg (Except.map fun ps => ps.map Plan.outline) exchanged
    have given := congrArg (Except.map fun ps => ps.map Plan.outline) planned
    exact other.symm.trans (swapped.trans given)
  exact List.head_eq_of_cons_eq (Except.ok.inj same)

end Method

end Rollup
