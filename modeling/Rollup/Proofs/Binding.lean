/-
  What plans bind.

  A plan is a text and a list of values, and nothing but their order ties the two together.  Here
  they are tied: a plan waits for its values and for whatever the caller wrote himself, and every
  value meets a placeholder of the column that it was taken from.

  The crux is that each dimension of a request has one column and one list of values
  (`Request.bound`), and that the filter of the dimension has exactly these for fields.  The views
  then only say which dimensions stand side by side; `Predicate.binds` carries the fields into the
  text, and a form puts text around them that names nothing.
-/
import Rollup.Proofs.Form
import Rollup.Proofs.Sql.Slot

namespace Rollup

open Sql

/-! ## What a request binds -/

/-- The kind of the values of a column. -/
def Sql.Column.kind : Column → Value.Kind
  | identity => .bytes
  | time => .integer
  | name | host | app | instanceId => .text

namespace Request

variable (r : Request)

/-- All that a request has for a column, in order. -/
def bound : Column → List Value
  | .identity => r.identities.map .bytes
  | .name => (Token.exactFirst r.names).map .text
  | .host => r.hostList.map .text
  | .app => r.app.toList.map .text
  | .instanceId => (r.instanceId.filter fun i => i ≠ Token.wildcard.toString).toList.map .text
  | .time => (r.start.toList ++ r.finish.toList).map .integer

/-- What a request for series binds at a column: identities, where given, take the place of all but
    the window. -/
def boundForSeries (c : Column) : List Value :=
  match c with
  | .identity | .time => r.bound c
  | .name | .host | .app | .instanceId => if r.identities = [] then r.bound c else []

/-- What a view of a request binds at a column.  A ranking binds the window twice. -/
def boundIn : View → Column → List Value
  | .series, c => r.boundForSeries c
  | .ranked _ _, c => r.boundForSeries c ++ if c = .time then r.bound c else []
  | .transient, c => if c = .identity then [] else r.bound c
  | .metadata .metric, c => if c = .name ∨ c = .app ∨ c = .instanceId then r.bound c else []
  | .metadata .host, c => if c = .host then r.bound c else []
  | .lookup identity, c =>
    if c = .identity then [.bytes identity] else if c = .time then r.bound c else []
  | .identities, c => if c = .identity then r.bound c else []
  | .names, c => if c = .name then r.bound c else []
  | .hosts, c => if c = .host then r.bound c else []
  | .app, c => if c = .app then r.bound c else []
  | .instanceId, c => if c = .instanceId then r.bound c else []
  | .window, c => if c = .time then r.bound c else []

theorem kind_of_mem_bound {c : Column} {v : Value} (h : v ∈ r.bound c) : v.kind = c.kind := by
  cases c with
  | identity | name | host | app | instanceId | time =>
    obtain ⟨_, -, rfl⟩ := List.mem_map.mp h
    rfl

end Request

/-! ## The fields of the dimensions -/

namespace Sql

/-- The values of a column among fields. -/
def valuesAt (c : Column) (fs : List Field) : List Value :=
  (fs.filter fun f => f.1 = c).map Prod.snd

theorem valuesAt_append (c : Column) (fs gs : List Field) :
    valuesAt c (fs ++ gs) = valuesAt c fs ++ valuesAt c gs := by
  unfold valuesAt
  rw [List.filter_append, List.map_append]

/-- The values as fields of one column. -/
def Column.holding (c : Column) (vs : List Value) : List Field := vs.map fun v => (c, v)

theorem Column.values_holding (c : Column) (vs : List Value) :
    (c.holding vs).map Prod.snd = vs := by
  rw [holding, List.map_map]
  exact List.map_id vs

theorem valuesAt_holding (c d : Column) (vs : List Value) :
    valuesAt c (d.holding vs) = if c = d then vs else [] := by
  unfold valuesAt Column.holding
  rw [List.filter_map, List.map_map]
  by_cases h : c = d
  · simp [h, Function.comp_def]
  · simp [h, Ne.symm h, Function.comp_def]

theorem Factor.fields_group (negated : Bool) (ts : List Test) :
    (group negated ts).fields = ts.flatMap Test.fields := by
  cases negated <;> rfl

theorem Filter.fields_one (x : Factor) : fields [x] = x.fields := List.append_nil _

theorem Filter.fields_append (f g : Filter) : fields (f ++ g) = fields f ++ fields g :=
  List.flatMap_append

end Sql

namespace Request

variable (r : Request)

theorem fields_identity :
    Filter.fields r.identityFilter = Column.identity.holding (r.bound .identity) := by
  unfold identityFilter
  cases h : r.identities with
  | nil => simp [bound, h, Filter.fields, Column.holding]
  | cons i is =>
    simp [bound, h, Filter.fields, Column.holding, Factor.fields_group, Test.fields]

theorem fields_name : Filter.fields r.nameFilter = Column.name.holding (r.bound .name) := by
  have tests : r.nameTests.flatMap Test.fields = Column.name.holding (r.bound .name) := by
    unfold nameTests bound Column.holding Token.exactFirst
    rw [List.flatMap_append, List.map_append, List.map_append]
    congr 1
    · cases h : Token.exact r.names <;> simp [Test.fields]
    · simp only [List.flatMap_map, Test.likes, Test.fields, List.map_map, Function.comp_def]
      exact List.map_eq_flatMap.symm
  unfold nameFilter
  cases h : r.names with
  | nil => simp [bound, h, Token.exactFirst, Token.exact, Token.patterns, Filter.fields,
      Column.holding]
  | cons t ts =>
    rw [List.isEmpty_cons, if_neg Bool.false_ne_true]
    simp only [Filter.fields_one, Factor.fields_group, tests]

theorem fields_host : Filter.fields r.hostFilter = Column.host.holding (r.bound .host) := by
  unfold hostFilter bound Column.holding
  rcases hosts : r.hostList with _ | ⟨h, hs⟩
  · rfl
  · by_cases pattern : Token.anyPattern (h :: hs)
    · simp only [pattern, if_true]
      simp only [Filter.fields_one, Factor.fields_group, List.flatMap_map, Test.likes, Test.fields,
        List.map_map, Function.comp_def]
      exact List.map_eq_flatMap.symm
    · simp only [pattern, Bool.false_eq_true, if_false]
      cases hs <;> simp [Filter.fields_one, Factor.fields, Test.equals, Test.fields]

theorem fields_token (c : Column) (token : String) :
    (Factor.one (tokenTest c token)).fields = c.holding [.text token] := by
  unfold tokenTest
  split <;> rfl

theorem fields_app : Filter.fields r.appFilter = Column.app.holding (r.bound .app) := by
  unfold appFilter bound
  cases r.app with
  | none => rfl
  | some app =>
    rw [Filter.fields_one, fields_token]
    rfl

theorem fields_instance :
    Filter.fields r.instanceFilter = Column.instanceId.holding (r.bound .instanceId) := by
  unfold instanceFilter bound
  cases r.instanceId with
  | none => rfl
  | some i =>
    by_cases bare : i = Token.wildcard.toString
    · simp [bare, Filter.fields, Column.holding]
    · have kept : ((some i).filter fun i => i ≠ Token.wildcard.toString) = some i := by
        rw [Option.filter_some, if_pos (decide_eq_true bare)]
      simp only [bare, if_false, kept]
      rw [Filter.fields_one, fields_token]
      rfl

theorem fields_window : Filter.fields r.windowFilter = Column.time.holding (r.bound .time) := by
  unfold windowFilter bound
  cases r.start <;> cases r.finish <;> rfl

/-! ## The fields of the views -/

theorem fields_attributes :
    Filter.fields r.attributeFilter
      = Column.name.holding (r.bound .name) ++ Column.host.holding (r.bound .host)
        ++ Column.app.holding (r.bound .app) ++ Column.instanceId.holding (r.bound .instanceId) := by
  unfold attributeFilter
  simp only [Filter.fields_append, fields_name, fields_host, fields_app, fields_instance]

theorem valuesAt_series (c : Column) :
    valuesAt c (Filter.fields r.seriesFilter) = r.boundForSeries c := by
  unfold seriesFilter boundForSeries
  rw [Filter.fields_append, fields_window]
  by_cases h : r.identities = []
  · rw [if_pos (by simpa using h), fields_attributes]
    cases c <;> simp [valuesAt_append, valuesAt_holding, h, bound]
  · rw [if_neg (by simpa using h), fields_identity]
    cases c <;> simp [valuesAt_append, valuesAt_holding, h]

/-- **A view has the fields of its dimensions**, each as often as the view shows it. -/
theorem valuesAt_predicate (view : View) (c : Column) :
    valuesAt c (r.predicate view).fields = r.boundIn view c := by
  cases view with
  | series => exact r.valuesAt_series c
  | ranked ranking granularity =>
    show valuesAt c (Filter.fields r.seriesFilter ++ Filter.fields r.windowFilter) = _
    rw [valuesAt_append, valuesAt_series, fields_window, valuesAt_holding]
    by_cases h : c = .time
    · rw [h]
      rfl
    · simp only [boundIn, h, if_false]
  | transient =>
    show valuesAt c (Filter.fields (r.attributeFilter ++ r.windowFilter)) = _
    rw [Filter.fields_append, fields_attributes, fields_window]
    cases c <;> simp [valuesAt_append, valuesAt_holding, boundIn]
  | metadata target =>
    cases target with
    | metric =>
      show valuesAt c (Filter.fields (r.nameFilter ++ r.appFilter ++ r.instanceFilter)) = _
      rw [Filter.fields_append, Filter.fields_append, fields_name, fields_app, fields_instance]
      cases c <;> simp [valuesAt_append, valuesAt_holding, boundIn]
    | host =>
      show valuesAt c (Filter.fields r.hostFilter) = _
      rw [fields_host, valuesAt_holding]
      cases c <;> simp [boundIn]
  | lookup identity =>
    show valuesAt c (Column.identity.holding [.bytes identity] ++ Filter.fields r.windowFilter) = _
    rw [valuesAt_append, fields_window, valuesAt_holding, valuesAt_holding]
    cases c <;> simp [boundIn]
  | identities | names | hosts | app | instanceId | window =>
    simp only [predicate, Predicate.fields, fields_identity, fields_name, fields_host, fields_app,
      fields_instance, fields_window, valuesAt_holding, boundIn]
    cases c <;> simp

/-- The clause of a view binds the fields of its predicate. -/
theorem clause_binds (view : View) : (r.clause view).Binds (r.predicate view).fields :=
  (r.predicate view).binds

/-- Whatever a view binds at a column is of the column's kind. -/
theorem kind_of_mem_boundIn {view : View} {c : Column} {v : Value} (h : v ∈ r.boundIn view c) :
    v.kind = c.kind := by
  have series : v ∈ r.boundForSeries c → v.kind = c.kind := by
    intro h
    unfold boundForSeries at h
    split at h
    · exact r.kind_of_mem_bound h
    · exact r.kind_of_mem_bound h
    all_goals
      split at h
      · exact r.kind_of_mem_bound h
      · exact absurd h List.not_mem_nil
  have given : ∀ {shown : Prop} [Decidable shown],
      v ∈ (if shown then r.bound c else []) → v.kind = c.kind := by
    intro shown _ h
    split at h
    · exact r.kind_of_mem_bound h
    · exact absurd h List.not_mem_nil
  cases view with
  | series => exact series h
  | ranked ranking granularity => exact (List.mem_append.mp h).elim series given
  | transient =>
    -- All columns but one are shown, so the condition stands the other way round.
    have shown : v ∈ if ¬ c = .identity then r.bound c else [] := by
      rw [ite_not]
      exact h
    exact given shown
  | metadata target => cases target <;> exact given h
  | lookup identity =>
    by_cases at_identity : c = .identity
    · simp only [boundIn, at_identity, if_true, List.mem_singleton] at h
      rw [h, at_identity]
      rfl
    · simp only [boundIn, at_identity, if_false] at h
      exact given h
  | identities | names | hosts | app | instanceId | window => exact given h

end Request

/-! ## What stands around a condition -/

namespace Sql

/-- An order waits for what its columns wait for. -/
theorem placeholderCount_order (terms : List OrderTerm) :
    placeholderCount (orderText terms)
      = (terms.map fun t => placeholderCount t.column).sum := by
  have term : ∀ t : OrderTerm, placeholderCount t.text = placeholderCount t.column := by
    intro t
    have word : placeholderCount " DESC" = 0 := placeholderCount_ofList _
    unfold OrderTerm.text
    split
    · rw [placeholderCount_append, word, Nat.add_zero]
    · rfl
  unfold orderText
  cases terms with
  | nil => rfl
  | cons t ts =>
    have word : placeholderCount " ORDER BY " = 0 := placeholderCount_ofList _
    have comma : placeholderCount ", " = 0 := placeholderCount_ofList _
    rw [List.isEmpty_cons, if_neg Bool.false_ne_true, placeholderCount_append, word, Nat.zero_add,
      placeholderCount_intercalate comma, List.map_map]
    exact congrArg List.sum (List.map_congr_left fun t _ => term t)

end Sql

namespace Plan

/-! ### Columns and tables -/

theorem seriesColumns_plain (scope : Scope) (granularity : Granularity) :
    Plain (seriesColumns scope granularity) := by
  cases scope <;> cases granularity <;> exact .ofList (by decide)

theorem transientColumns_plain : Plain transientColumns :=
  .append (.ofList (by decide)) (.ofList (by decide))

theorem metadataColumns_plain (target : MetadataTarget) : Plain (metadataSource target).2 := by
  cases target <;> exact .ofList (by decide)

theorem source_plain {columns : String} (plain : Plain columns) (table : Table) :
    Plain ("SELECT " ++ columns ++ " FROM " ++ table.name) := by
  have opening : Plain "SELECT " := .ofList (by decide)
  have source : Plain " FROM " := .ofList (by decide)
  exact ((opening.append plain).append source).append (.table table)

theorem latestBefore_plain (hinted : Bool) : Plain (latestBefore hinted) := by
  have columns : Plain latestColumns :=
    .append (.append (.ofList (by decide)) (.ofList (by decide))) (.ofList (by decide))
  have hint : Plain (if hinted then joinHint ++ " " else "") := by
    cases hinted with
    | true => exact .append (.ofList (by decide)) (.ofList (by decide))
    | false => exact .ofList (by decide)
  have opening : Plain "SELECT " := .ofList (by decide)
  have source : Plain " FROM " := .ofList (by decide)
  have join : Plain " AS E INNER JOIN (SELECT UUID, MAX(SERVER_TIME) AS MAX_SERVER_TIME FROM " :=
    .ofList (by decide)
  have table := Plain.table (.series .perHost .seconds)
  exact (((((opening.append hint).append columns).append source).append table).append join).append
    table

/-! ### Heads and orders -/

/-- A head waits for what the caller's statement waits for. -/
theorem placeholderCount_head {columns : String} (plain : Plain columns) (r : Request)
    (table : Table) :
    placeholderCount (headOf r columns table) = placeholderCount (r.statement.getD "") := by
  unfold headOf
  cases r.statement with
  | some statement => rfl
  | none => exact (source_plain plain table).waits

/-- An order waits for what the caller's columns wait for. -/
theorem placeholderCount_orderOf {default : List String}
    (silent : (default.map placeholderCount).sum = 0) (r : Request) :
    placeholderCount (orderText (orderOf r default)) = (r.orderBy.map placeholderCount).sum := by
  rw [placeholderCount_order]
  unfold orderOf ascending
  rw [List.map_map]
  cases h : r.orderBy with
  | nil => exact silent
  | cons c cs => rfl

end Plan

namespace Method

/-- How many placeholders the caller's statement brings, where a method uses it. -/
def statementSlots (r : Request) : Method → Nat
  | series _ | transient | metadata => placeholderCount (r.statement.getD "")
  | latest | latestAggregates => 0

/-- How many placeholders the caller's columns to order by bring, where a method uses them. -/
def orderSlots (r : Request) : Method → Nat
  | series _ | latest | transient => (r.orderBy.map placeholderCount).sum
  | metadata | latestAggregates => 0

/-- **Around its condition** a statement waits only for what the caller wrote himself. -/
theorem slots_around {m : Method} {s : Settings} {r : Request} {granularity : Granularity}
    {f : Form} (h : f ∈ m.forms s r granularity) :
    placeholderCount f.before = m.statementSlots r
      ∧ placeholderCount f.after = m.orderSlots r := by
  cases m with
  | series scope =>
    obtain rfl := List.mem_singleton.mp h
    have columns := sum_placeholderCount_columns [.identity, .time]
    refine ⟨Plan.placeholderCount_head (Plan.seriesColumns_plain _ _) r _, ?_⟩
    show placeholderCount (orderText (Plan.orderOf r _) ++ capText _) = _
    rw [placeholderCount_append, (Plain.cap _).waits]
    exact Plan.placeholderCount_orderOf columns r
  | latest =>
    obtain rfl := List.mem_singleton.mp h
    constructor
    · exact (Plan.latestBefore_plain s.sortMergeJoin).waits
    · show placeholderCount (Plan.latestAfter ++ orderText (Plan.descending r.orderBy)) = _
      have after : placeholderCount Plan.latestAfter = 0 := placeholderCount_ofList _
      rw [placeholderCount_append, after, placeholderCount_order, Plan.descending, List.map_map,
        Nat.zero_add]
      rfl
  | transient =>
    obtain rfl := List.mem_singleton.mp h
    have columns := sum_placeholderCount_columns [.name, .time]
    refine ⟨Plan.placeholderCount_head Plan.transientColumns_plain r _, ?_⟩
    show placeholderCount (orderText (Plan.orderOf r _) ++ capText _) = _
    rw [placeholderCount_append, (Plain.cap _).waits]
    exact Plan.placeholderCount_orderOf columns r
  | metadata =>
    obtain ⟨target, -, rfl⟩ := mem_forms_metadata.mp h
    exact ⟨Plan.placeholderCount_head (Plan.metadataColumns_plain target) r _, rfl⟩
  | latestAggregates =>
    obtain ⟨identity, -, rfl⟩ := List.mem_map.mp h
    constructor
    · exact (Plan.source_plain (Plan.seriesColumns_plain .cluster .seconds) _).waits
    · have columns := sum_placeholderCount_columns [.identity, .time]
      refine silent_append ?_ (Plain.cap _).waits
      rw [placeholderCount_order, Plan.descending, List.map_map]
      exact columns

end Method

/-! ## Plans -/

namespace Form

variable {f : Form} {r : Request}

/-- A form waits for its values and for what stands around its condition. -/
theorem placeholderCount_text (own : f.own = none) :
    placeholderCount (f.text r)
      = (r.clause f.view).values.length + placeholderCount f.before + placeholderCount f.after := by
  have binds := r.clause_binds f.view
  have condition : placeholderCount (r.clause f.view).whereText
      = (r.clause f.view).values.length := by
    rw [binds.whereText.placeholderCount_eq, binds.2, List.length_map, List.length_map]
  unfold text
  rw [own, Option.getD_none, placeholderCount_append, placeholderCount_append, condition]
  omega

/-- Where nothing is waited for before the condition, its fields have the first slots. -/
theorem slots_text (own : f.own = none) (silent : placeholderCount f.before = 0) :
    ∃ rest, slots (f.text r) = (r.predicate f.view).fields.map (fun x => some x.1) ++ rest := by
  have named := (Named.ofSilent silent).append (r.clause_binds f.view).whereText
  rw [List.nil_append] at named
  unfold text slots
  rw [own, Option.getD_none, String.toList_append, slotsAfter_append]
  refine ⟨_, congrArg (· ++ _) ?_⟩
  rw [named, List.map_map]
  rfl

end Form

namespace Plan

/-- The values that meet the placeholders of a column. -/
def boundAt (p : Plan) (c : Column) : List Value :=
  (((slots p.text).zip p.values).filter fun x => x.1 = some c).map Prod.snd

section Fields

variable {p : Plan} {fields : List Field} {rest : List (Option Column)}

/-- Where the fields have the first slots, the values of each column are found in order. -/
theorem boundAt_eq (values : p.values = fields.map Prod.snd)
    (slots : slots p.text = fields.map (fun x => some x.1) ++ rest) (c : Column) :
    p.boundAt c = valuesAt c fields := by
  have pairs : (fields.map fun x => some x.1).zip (fields.map Prod.snd)
      = fields.map fun x => (some x.1, x.2) := List.zip_map' ..
  have zipped : ((Sql.slots p.text).zip p.values) = fields.map fun x => (some x.1, x.2) := by
    rw [slots, values, ← List.append_nil (fields.map Prod.snd), List.zip_append (by simp), pairs,
      List.zip_nil_right, List.append_nil]
  unfold boundAt valuesAt
  rw [zipped, List.filter_map, List.map_map]
  simp [Function.comp_def]

/-- And each of them meets its own column. -/
theorem slot_of_value (values : p.values = fields.map Prod.snd)
    (slots : slots p.text = fields.map (fun x => some x.1) ++ rest) {j : Nat} {v : Value}
    (at_j : p.values[j]? = some v) :
    ∃ c, (Sql.slots p.text)[j]? = some (some c) ∧ v ∈ valuesAt c fields := by
  rw [values, List.getElem?_map] at at_j
  obtain ⟨⟨c, w⟩, field, rfl⟩ := Option.map_eq_some_iff.mp at_j
  have within : j < (fields.map fun x => some x.1).length := by
    rw [List.length_map]
    exact (List.getElem?_eq_some_iff.mp field).1
  refine ⟨c, ?_, ?_⟩
  · rw [slots, List.getElem?_append_left within, List.getElem?_map, field]
    rfl
  · refine List.mem_map.mpr ⟨(c, w), List.mem_filter.mpr ⟨?_, decide_eq_true rfl⟩, rfl⟩
    exact List.mem_of_getElem? field

end Fields

end Plan

namespace Method

/-- The view that the plan at a place of the answer shows. -/
def viewAt (r : Request) (i : Nat) : Method → View
  | latest => .series
  | latestAggregates => .lookup (r.identities.getD i [])
  | transient => .transient
  | series _ | metadata => r.wholeView none

/-- The forms of a method bind what its views bind. -/
theorem boundIn_form {m : Method} {s : Settings} {r : Request} {granularity : Granularity}
    {i : Nat} {f : Form} (at_i : (m.forms s r granularity)[i]? = some f) (c : Column) :
    r.boundIn f.view c = r.boundIn (m.viewAt r i) c := by
  cases m with
  | series scope =>
    obtain rfl := List.mem_singleton.mp (List.mem_of_getElem? at_i)
    -- The granularity says which table a ranking reads, not what it binds.
    show r.boundIn (r.wholeView (some granularity)) c = r.boundIn (r.wholeView none) c
    unfold Request.wholeView
    cases r.kind <;> rfl
  | latest =>
    obtain rfl := List.mem_singleton.mp (List.mem_of_getElem? at_i)
    rfl
  | transient =>
    obtain rfl := List.mem_singleton.mp (List.mem_of_getElem? at_i)
    rfl
  | metadata =>
    obtain ⟨target, kind, rfl⟩ := mem_forms_metadata.mp (List.mem_of_getElem? at_i)
    unfold Request.metadataTarget? at kind
    unfold viewAt Request.wholeView
    cases k : r.kind with
    | metadata target' =>
      rw [k] at kind
      rw [Option.some.inj kind]
      rfl
    | plain | ranked _ | transient _ =>
      rw [k] at kind
      cases kind
  | latestAggregates =>
    have listed : r.identities[i]?.map (Plan.lookupForm r) = some f := by
      rw [← List.getElem?_map]
      exact at_i
    obtain ⟨identity, found, rfl⟩ := Option.map_eq_some_iff.mp listed
    show r.boundIn (.lookup identity) c = r.boundIn (.lookup (r.identities.getD i [])) c
    rw [List.getD_eq_getElem?_getD, found]
    rfl

/-- **Every value has its placeholder.**  The plans of a method wait for their values and for what
    the caller wrote himself.  Where his statement waits for nothing, each value meets a placeholder
    of a column of its kind, and each column meets in order what the request has for it. -/
theorem plans_bind {m : Method} {s : Settings} {now : Int} {r : Request} {ps : List Plan}
    (planned : m.plans s now r = .ok ps) (own : m = .latest → r.statement = none) {i : Nat}
    {p : Plan} (at_i : ps[i]? = some p) :
    p.placeholders = p.values.length + m.statementSlots r + m.orderSlots r
      ∧ (m.statementSlots r = 0 →
        (∀ (j : Nat) (v : Value), p.values[j]? = some v →
          ∃ c, (slots p.text)[j]? = some (some c) ∧ v.kind = c.kind)
        ∧ ∀ c, p.boundAt c = r.boundIn (m.viewAt r i) c) := by
  obtain ⟨granularity, -, rfl⟩ := plans_eq_ok.mp planned
  rw [List.getElem?_map] at at_i
  obtain ⟨f, form, rfl⟩ := Option.map_eq_some_iff.mp at_i
  obtain ⟨before, after⟩ := slots_around (List.mem_of_getElem? form)
  have no_own : f.own = none := own_of_mem (List.mem_of_getElem? form) own
  have text : (f.plan s (m.reads granularity) (m.asked r)).text = f.text r := text_asked m r f
  have values : (f.plan s (m.reads granularity) (m.asked r)).values
      = (r.predicate f.view).fields.map Prod.snd := by
    rw [← (r.clause_binds f.view).2, ← clause_asked m r]
    rfl
  refine ⟨?_, fun silent => ?_⟩
  · unfold Plan.placeholders
    rw [text, f.placeholderCount_text no_own, before, after, values, (r.clause_binds f.view).2]
  · obtain ⟨rest, slots⟩ := f.slots_text (r := r) no_own (before.trans silent)
    rw [← text] at slots
    refine ⟨fun j v at_j => ?_, fun c => ?_⟩
    · obtain ⟨c, slot, among⟩ := Plan.slot_of_value values slots at_j
      rw [r.valuesAt_predicate] at among
      exact ⟨c, slot, r.kind_of_mem_boundIn among⟩
    · rw [Plan.boundAt_eq values slots, r.valuesAt_predicate, boundIn_form form]

/-- A ranking of two metrics waits for its values alone: the exact name before the pattern, and the
    window twice, inside the ranking and after it. -/
theorem plans_bind_ranking :
    ∃ p, (series .perHost).plans .standard 0
        { kind := .ranked ⟨3, false, none⟩, sharedNames := ["load%", "cpu_user"],
          givenStart := some 1000, givenFinish := some 2000 } = .ok [p]
      ∧ p.placeholders = p.values.length
      ∧ p.boundAt .name = [.text "cpu_user", .text "load%"]
      ∧ p.boundAt .time
          = [.integer 1000000, .integer 2000000, .integer 1000000, .integer 2000000] := by
  obtain ⟨p, planned⟩ : ∃ p, (series .perHost).plans .standard 0
      { kind := .ranked ⟨3, false, none⟩, sharedNames := ["load%", "cpu_user"],
        givenStart := some 1000, givenFinish := some 2000 } = .ok [p] := ⟨_, rfl⟩
  obtain ⟨count, met⟩ := plans_bind (i := 0) planned nofun rfl
  have found := (met rfl).2
  refine ⟨p, planned, count, ?_, ?_⟩
  · rw [found]
    decide
  · rw [found]
    rfl

end Method

end Rollup
