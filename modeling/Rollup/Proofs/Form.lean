/-
  The form of a plan.

  A method checks a request and then writes its statements.  Here the two are told apart.
  `Method.check` is the checks alone, in their order.  A `Form` is all that a method settles about a
  statement apart from the condition: the table, the text before and after, and which view of the
  request the condition shows.  Whatever a method answers is its forms filled in, once its checks
  are passed (`Method.plans_eq`), so that a property of plans is shown for forms, and a property of
  refusals for checks, once for all methods.

  The crux is that a form never sees the condition.  `seriesForm` and its siblings read of a request
  only what its caller wrote for the text itself, and the counts that cap the answer.
-/
import Rollup.Plan

namespace Rollup

open Sql (Clause capText orderText)

/-! ## Forms -/

/-- What a method settles about a statement apart from its condition. -/
structure Form where
  table : Table
  view : View
  before : String
  after : String := ""
  /-- A text of the caller that stands for the whole statement. -/
  own : Option String := none

namespace Form

/-- The text of a form with the condition of a request in it. -/
def text (f : Form) (r : Request) : String :=
  f.own.getD (f.before ++ (r.clause f.view).whereText ++ f.after)

/-- A form filled in. -/
def plan (f : Form) (s : Settings) (granularity : Option Granularity) (r : Request) : Plan where
  text := f.text r
  values := (r.clause f.view).values
  fetchSize := r.fetchSize.or s.defaultFetchSize
  granularity := granularity
  table := f.table
  request := r.viewed f.view

end Form

namespace Plan

/-- The form of the rows of series. -/
def seriesForm (scope : Scope) (s : Settings) (r : Request) (granularity : Granularity) : Form where
  table := .series scope granularity
  view := r.wholeView (some granularity)
  before := headOf r (seriesColumns scope granularity) (.series scope granularity)
  after := orderText (orderOf r ["UUID", "SERVER_TIME"]) ++ capText (r.limit s.defaultLimit)

/-- What stands before the condition in the join for the most recent rows. -/
def latestBefore (hinted : Bool) : String :=
  "SELECT " ++ (if hinted then joinHint ++ " " else "") ++ latestColumns ++ " FROM "
    ++ (Table.series .perHost .seconds).name
    ++ " AS E INNER JOIN (SELECT UUID, MAX(SERVER_TIME) AS MAX_SERVER_TIME FROM "
    ++ (Table.series .perHost .seconds).name

/-- What stands after it. -/
def latestAfter : String :=
  " GROUP BY UUID) AS I ON E.UUID=I.UUID AND E.SERVER_TIME=I.MAX_SERVER_TIME"

/-- The form of the most recent rows. -/
def latestForm (s : Settings) (r : Request) : Form where
  table := .series .perHost .seconds
  view := .series
  before := latestBefore s.sortMergeJoin
  after := latestAfter ++ orderText (descending r.orderBy)
  own := r.statement

/-- The form of the rows of transient metrics. -/
def transientForm (s : Settings) (r : Request) : Form where
  table := .transient
  view := .transient
  before := headOf r transientColumns .transient
  after := orderText (orderOf r ["METRIC_NAME", "SERVER_TIME"]) ++ capText (r.limit s.defaultLimit)

/-- The form of a metadata scan. -/
def metadataForm (r : Request) (target : MetadataTarget) : Form where
  table := (metadataSource target).1
  view := .metadata target
  before := headOf r (metadataSource target).2 (metadataSource target).1

/-- The form of the last rows of one identity. -/
def lookupForm (r : Request) (identity : Bytes) : Form where
  table := .series .cluster .seconds
  view := .lookup identity
  before := "SELECT " ++ seriesColumns .cluster .seconds ++ " FROM "
    ++ (Table.series .cluster .seconds).name
  after := orderText (descending ["UUID", "SERVER_TIME"])
    ++ capText (some (max r.names.length 1 : Nat))

end Plan

namespace Method

/-- The forms of a method, one for each statement; the granularity matters for series only. -/
def forms (s : Settings) (r : Request) (granularity : Granularity) : Method → List Form
  | series scope => [Plan.seriesForm scope s r granularity]
  | latest => [Plan.latestForm s r]
  | transient => [Plan.transientForm s r]
  | metadata => (r.metadataTarget?.map (Plan.metadataForm r)).toList
  | latestAggregates => r.identities.map (Plan.lookupForm r)

/-- The checks of a method, in their order.  Those of series end with the granularity that is read;
    the other methods have none to look for. -/
def check (s : Settings) (now : Int) (r : Request) : Method → Except PlanError Granularity
  | series scope => do
    Plan.checkNonempty r
    Plan.checkSeries scope r
    s.resolve r now
  | latest => do
    Plan.checkNonempty r
    Plan.require r.isPlain (.invalid .latestOfSpecial)
    Plan.require (!r.names.isEmpty) (.invalid .latestWithoutNames)
    return .seconds
  | transient => do
    Plan.checkNonempty r
    Plan.require r.isTransient (.invalid .notTransient)
    s.checkPinned r
    return .seconds
  | metadata => do
    Plan.require r.metadataTarget?.isSome (.invalid .notMetadata)
    return .seconds
  | latestAggregates => do
    Plan.checkNonempty r
    Plan.require (!r.identities.isEmpty) (.invalid .noIdentities)
    return .seconds

/-- The request as a method plans it. -/
def asked (r : Request) : Method → Request
  | series _ => r.resolved
  | _ => r

/-- The granularity of a method's plans. -/
def reads (granularity : Granularity) : Method → Option Granularity
  | series _ => some granularity
  | _ => none

end Method

/-! ## What planning leaves as it was -/

namespace Plan

variable (r : Request)

/-- A view leaves the fetch size. -/
theorem fetchSize_viewed (view : View) : (r.viewed view).fetchSize = r.fetchSize := by
  unfold Request.viewed Request.withNamesSorted Request.withNames
  split
  · cases r.kind <;> rfl
  · rfl

/-- Looking for a granularity lifts the cap of a request that had none. -/
theorem limit_resolved (default : Int) : r.resolved.limit default = r.limit default := by
  unfold Request.resolved
  split
  · next pinned => simp [Request.limit, Request.withoutLimit, pinned]
  · rfl

/-- It changes nothing that a condition shows. -/
theorem clause_resolved (view : View) : r.resolved.clause view = r.clause view := by
  unfold Request.resolved
  split
  · cases view <;> rfl
  · rfl

/-- The series form is that of the request before a granularity was looked for. -/
theorem seriesForm_resolved (scope : Scope) (s : Settings) (granularity : Granularity) :
    seriesForm scope s r.resolved granularity = seriesForm scope s r granularity := by
  unfold seriesForm
  rw [limit_resolved]
  unfold Request.resolved
  split <;> rfl

end Plan

namespace Method

theorem clause_asked (m : Method) (r : Request) (view : View) :
    (m.asked r).clause view = r.clause view := by
  cases m with
  | series _ => exact Plan.clause_resolved r view
  | latest | transient | metadata | latestAggregates => rfl

theorem fetchSize_asked (m : Method) (r : Request) : (m.asked r).fetchSize = r.fetchSize := by
  cases m with
  | series _ =>
    show r.resolved.fetchSize = r.fetchSize
    unfold Request.resolved
    split <;> rfl
  | latest | transient | metadata | latestAggregates => rfl

theorem text_asked (m : Method) (r : Request) (f : Form) : f.text (m.asked r) = f.text r := by
  unfold Form.text
  rw [clause_asked]

/-- A metadata scan has the form of its target, if the request has one. -/
theorem mem_forms_metadata {s : Settings} {r : Request} {granularity : Granularity} {f : Form} :
    f ∈ metadata.forms s r granularity
      ↔ ∃ target, r.metadataTarget? = some target ∧ Plan.metadataForm r target = f := by
  rw [forms, Option.mem_toList, Option.map_eq_some_iff]

/-- Only the most recent rows may be asked for in a statement all of the caller's own. -/
theorem own_of_mem {m : Method} {s : Settings} {r : Request} {granularity : Granularity} {f : Form}
    (h : f ∈ m.forms s r granularity) (own : m = .latest → r.statement = none) : f.own = none := by
  cases m with
  | series _ | transient =>
    obtain rfl := List.mem_singleton.mp h
    rfl
  | latest =>
    obtain rfl := List.mem_singleton.mp h
    exact own rfl
  | metadata =>
    obtain ⟨target, -, rfl⟩ := mem_forms_metadata.mp h
    rfl
  | latestAggregates =>
    obtain ⟨_, -, rfl⟩ := List.mem_map.mp h
    rfl

end Method

/-! ## The methods in their forms -/

namespace Plan

variable (s : Settings) (now : Int) (r : Request)

/-- A statement with the parts of a form is the form filled in. -/
theorem finish_eq {f : Form} {order : List Sql.OrderTerm} {cap : Option Int}
    (granularity : Option Granularity) (own : f.own = none)
    (after : f.after = orderText order ++ capText cap) :
    finish s { head := f.before, filter := r.clause f.view, order := order, cap := cap }
        granularity f.table (r.viewed f.view)
      = f.plan s granularity r := by
  unfold finish Form.plan Form.text Sql.Select.text
  rw [fetchSize_viewed, own, after]
  simp only [Option.getD_none, String.append_assoc]

/-- The parts of a statement for series are those of its form. -/
theorem finish_series (scope : Scope) (granularity : Granularity) :
    finish s
        { head := headOf r.resolved (seriesColumns scope granularity) (.series scope granularity)
          filter := r.resolved.clause (r.resolved.wholeView (some granularity))
          order := orderOf r.resolved ["UUID", "SERVER_TIME"]
          cap := r.resolved.limit s.defaultLimit }
        (some granularity) (.series scope granularity)
        (r.resolved.viewed (r.resolved.wholeView (some granularity)))
      = (seriesForm scope s r granularity).plan s (some granularity) r.resolved := by
  -- The form is of the request as it came, the condition of the request with its granularity.
  rw [← seriesForm_resolved]
  exact finish_eq s r.resolved (f := seriesForm scope s r.resolved granularity) _ rfl rfl

theorem series_eq (scope : Scope) :
    series scope s now r = ((Method.series scope).check s now r).map fun granularity =>
      (seriesForm scope s r granularity).plan s (some granularity) r.resolved := by
  simp only [series, Method.check]
  cases checkNonempty r with
  | error e => rfl
  | ok _ =>
    cases checkSeries scope r with
    | error e => rfl
    | ok _ =>
      cases s.resolve r now with
      | error e => rfl
      | ok granularity => exact congrArg Except.ok (finish_series s r scope granularity)

/-- The statement for the most recent rows is the caller's own or that of its form. -/
theorem finish_latest :
    { finish s
        { head :=
            match r.statement with
            | some statement => statement
            | none => latestJoin s.sortMergeJoin (.series .perHost .seconds) (r.clause .series)
                ++ orderText (descending r.orderBy) }
        none (.series .perHost .seconds) (r.viewed .series)
      with values := (r.clause .series).values }
    = (latestForm s r).plan s none r := by
  have whole : ∀ head : String, Sql.Select.text { head := head } = head := by
    intro head
    show head ++ "" ++ "" ++ "" = head
    rw [String.append_empty, String.append_empty, String.append_empty]
  have written : latestJoin s.sortMergeJoin (.series .perHost .seconds) (r.clause .series)
        ++ orderText (descending r.orderBy)
      = latestBefore s.sortMergeJoin ++ (r.clause .series).whereText
        ++ (latestAfter ++ orderText (descending r.orderBy)) := by
    unfold latestJoin latestBefore latestAfter
    simp only [String.append_assoc]
  unfold finish Form.plan Form.text latestForm
  rw [fetchSize_viewed, whole, written]
  -- A statement of the caller's own takes the place of the join, but its values stay.
  cases r.statement <;> rfl

theorem latest_eq :
    latest s r = (Method.latest.check s now r).map fun _ => (latestForm s r).plan s none r := by
  rw [← finish_latest]
  simp only [latest, Method.check]
  cases checkNonempty r with
  | error e => rfl
  | ok _ =>
    cases require r.isPlain (.invalid .latestOfSpecial) with
    | error e => rfl
    | ok _ => cases require (!r.names.isEmpty) (.invalid .latestWithoutNames) <;> rfl

theorem transient_eq :
    transient s r
      = (Method.transient.check s now r).map fun _ => (transientForm s r).plan s none r := by
  have written :
      finish s
          { head := headOf r transientColumns .transient
            filter := r.clause .transient
            order := orderOf r ["METRIC_NAME", "SERVER_TIME"]
            cap := r.limit s.defaultLimit }
          none .transient (r.viewed .transient)
        = (transientForm s r).plan s none r :=
    finish_eq s r (f := transientForm s r) none rfl rfl
  rw [← written]
  simp only [transient, Method.check]
  cases checkNonempty r with
  | error e => rfl
  | ok _ =>
    cases require r.isTransient (.invalid .notTransient) with
    | error e => rfl
    | ok _ => cases s.checkPinned r <;> rfl

theorem metadata_eq :
    (metadata s r).map ([·])
      = (Method.metadata.check s now r).map fun _ =>
          (r.metadataTarget?.map fun target => (metadataForm r target).plan s none r).toList := by
  have written : ∀ target,
      finish s
          { head := headOf r (metadataSource target).2 (metadataSource target).1
            filter := r.clause (.metadata target) }
          none (metadataSource target).1 (r.viewed (.metadata target))
        = (metadataForm r target).plan s none r := fun target =>
    finish_eq s r (f := metadataForm r target) none rfl rfl
  simp only [metadata, Method.check]
  cases r.metadataTarget? with
  | none => rfl
  | some target => exact congrArg (fun p => Except.ok [p]) (written target)

/-- The lookup of one identity is always answered. -/
theorem latestAggregate_eq (identity : Bytes) :
    latestAggregate s ⟨r, identity⟩ = (lookupForm r identity).plan s none r :=
  finish_eq s r (f := lookupForm r identity) none rfl rfl

theorem latestAggregates_eq :
    latestAggregates s r
      = (Method.latestAggregates.check s now r).map fun _ =>
          r.identities.map fun identity => (lookupForm r identity).plan s none r := by
  have written : r.lookups.map (latestAggregate s)
      = r.identities.map fun identity => (lookupForm r identity).plan s none r := by
    unfold Request.lookups
    rw [List.map_map]
    exact List.map_congr_left fun identity _ => latestAggregate_eq s r identity
  rw [← written]
  simp only [latestAggregates, Method.check]
  cases checkNonempty r with
  | error e => rfl
  | ok _ => cases require (!r.identities.isEmpty) (.invalid .noIdentities) <;> rfl

end Plan

namespace Method

/-- **Every answer is made of the forms of its method**, once its checks are passed; and a refusal
    is that of the first check to fail. -/
theorem plans_eq (m : Method) (s : Settings) (now : Int) (r : Request) :
    m.plans s now r = (m.check s now r).map fun granularity =>
      (m.forms s r granularity).map fun f => f.plan s (m.reads granularity) (m.asked r) := by
  cases m with
  | series scope =>
    show (Plan.series scope s now r).map ([·]) = _
    rw [Plan.series_eq]
    cases (series scope).check s now r <;> rfl
  | latest =>
    show (Plan.latest s r).map ([·]) = _
    rw [Plan.latest_eq s now]
    cases latest.check s now r <;> rfl
  | transient =>
    show (Plan.transient s r).map ([·]) = _
    rw [Plan.transient_eq s now]
    cases transient.check s now r <;> rfl
  | metadata =>
    show (Plan.metadata s r).map ([·]) = _
    rw [Plan.metadata_eq s now]
    unfold forms
    cases r.metadataTarget? <;> rfl
  | latestAggregates =>
    show Plan.latestAggregates s r = _
    rw [Plan.latestAggregates_eq s now]
    simp only [forms, List.map_map]
    rfl

/-! ## Answers -/

theorem plans_eq_ok {m : Method} {s : Settings} {now : Int} {r : Request} {ps : List Plan} :
    m.plans s now r = .ok ps ↔ ∃ granularity, m.check s now r = .ok granularity
      ∧ ((m.forms s r granularity).map fun f => f.plan s (m.reads granularity) (m.asked r)) = ps := by
  rw [plans_eq]
  cases m.check s now r with
  | error e => simp [Except.map]
  | ok granularity => simp [Except.map]

end Method

namespace Plan

theorem bind_eq_ok {ε α β : Type} {x : Except ε α} {f : α → Except ε β} {b : β} :
    (x >>= f) = .ok b ↔ ∃ a, x = .ok a ∧ f a = .ok b := by
  cases x with
  | error e => simp [bind, Except.bind]
  | ok a => simp [bind, Except.bind]

theorem checkNonempty_eq_ok {r : Request} : checkNonempty r = .ok () ↔ r.isEmpty = false := by
  unfold checkNonempty require
  cases r.isEmpty <;> simp

/-- **Series** are planned for a request that asks for something, has the right kind and finds a
    granularity. -/
theorem series_eq_ok {s : Settings} {now : Int} {r : Request} {scope : Scope} {p : Plan} :
    series scope s now r = .ok p ↔
      r.isEmpty = false ∧ checkSeries scope r = .ok () ∧ ∃ granularity,
        s.resolve r now = .ok granularity
          ∧ (seriesForm scope s r granularity).plan s (some granularity) r.resolved = p := by
  have passed : ∀ granularity, (Method.series scope).check s now r = .ok granularity ↔
      r.isEmpty = false ∧ checkSeries scope r = .ok () ∧ s.resolve r now = .ok granularity := by
    intro granularity
    simp only [Method.check]
    rw [bind_eq_ok, ← checkNonempty_eq_ok]
    constructor
    · rintro ⟨_, nonempty, h⟩
      obtain ⟨_, kind, resolved⟩ := bind_eq_ok.mp h
      exact ⟨nonempty, kind, resolved⟩
    · rintro ⟨nonempty, kind, resolved⟩
      exact ⟨(), nonempty, bind_eq_ok.mpr ⟨(), kind, resolved⟩⟩
  rw [series_eq]
  constructor
  · intro planned
    cases checked : (Method.series scope).check s now r with
    | error e =>
      rw [checked] at planned
      exact nomatch planned
    | ok granularity =>
      rw [checked] at planned
      obtain ⟨nonempty, kind, resolved⟩ := (passed granularity).mp checked
      exact ⟨nonempty, kind, granularity, resolved, Except.ok.inj planned⟩
  · rintro ⟨nonempty, kind, granularity, resolved, rfl⟩
    rw [(passed granularity).mpr ⟨nonempty, kind, resolved⟩]
    rfl

end Plan

end Rollup
