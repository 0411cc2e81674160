/-
  One lookup for each identity.

  The latest aggregates are looked up one identity at a time.  Nothing is lost on the way or read
  twice: there is one plan for each identity, in the order in which they are listed, also where one
  is listed again; and a list in two parts is looked up as the one part and then the other.

  The crux is how little a lookup knows of its request (`Plan.lookupPlan`): its identity, the ends of
  the window and how many names there are.  Whatever else a request says, of hosts or negation, of
  orders, limits or granularities, or in a statement of its caller's own, is not looked at, nor are
  the settings; only the fetch size is taken over besides.
-/
import Rollup.Proofs.Binding

namespace Rollup.Plan

open Sql (Column Named slots)

/-! ## One lookup -/

/-- The text of a lookup, for a window with or without its ends and for so many names. -/
def lookupText (start finish : Option Int) (names : Nat) : String :=
  "SELECT UUID, SERVER_TIME, METRIC_SUM, HOSTS_COUNT, METRIC_MAX, METRIC_MIN"
    ++ " FROM METRIC_AGGREGATE_UUID WHERE UUID = ?"
    ++ (if start.isSome then " AND SERVER_TIME >= ?" else "")
    ++ (if finish.isSome then " AND SERVER_TIME < ?" else "")
    ++ " ORDER BY UUID DESC, SERVER_TIME DESC LIMIT " ++ toString (max 1 names)

/-- The plan of a lookup. -/
def lookupPlan (s : Settings) (r : Request) (identity : Bytes) : Plan where
  text := lookupText r.start r.finish r.names.length
  values := .bytes identity :: (r.start.toList ++ r.finish.toList).map .integer
  fetchSize := r.fetchSize.or s.defaultFetchSize
  granularity := none
  table := .series .cluster .seconds
  request := r

variable (s : Settings) (r : Request) (identity : Bytes)

/-- The condition of a lookup: its identity, and the ends that the window has. -/
theorem clause_lookup :
    r.clause (.lookup identity)
      = { text := "UUID = ?" ++ (if r.start.isSome then " AND SERVER_TIME >= ?" else "")
            ++ (if r.finish.isSome then " AND SERVER_TIME < ?" else "")
          values := .bytes identity :: (r.start.toList ++ r.finish.toList).map .integer } := by
  unfold Request.clause Request.predicate Request.lookupFilter Request.windowFilter
  cases r.start <;> cases r.finish <;> rfl

theorem text_lookupForm :
    (lookupForm r identity).text r = lookupText r.start r.finish r.names.length := by
  have stated : ¬ (r.clause (.lookup identity)).isEmpty = true := by
    rw [clause_lookup]
    simp [Sql.Clause.isEmpty]
  have head : "SELECT " ++ seriesColumns .cluster .seconds ++ " FROM "
        ++ (Table.series .cluster .seconds).name ++ " WHERE " ++ "UUID = ?"
      = "SELECT UUID, SERVER_TIME, METRIC_SUM, HOSTS_COUNT, METRIC_MAX, METRIC_MIN"
        ++ " FROM METRIC_AGGREGATE_UUID WHERE UUID = ?" := rfl
  have order : Sql.orderText (descending ["UUID", "SERVER_TIME"])
      = " ORDER BY UUID DESC, SERVER_TIME DESC" := rfl
  have cap : Sql.capText (some (max r.names.length 1 : Nat))
      = " LIMIT " ++ toString (max 1 r.names.length) := by
    rw [Nat.max_comm]
    rfl
  unfold Form.text lookupText
  show "SELECT " ++ seriesColumns .cluster .seconds ++ " FROM "
        ++ (Table.series .cluster .seconds).name ++ (r.clause (.lookup identity)).whereText
        ++ (Sql.orderText (descending ["UUID", "SERVER_TIME"])
          ++ Sql.capText (some (max r.names.length 1 : Nat))) = _
  rw [Sql.Clause.whereText, if_neg stated, clause_lookup, ← head, order, cap,
    show " ORDER BY UUID DESC, SERVER_TIME DESC LIMIT "
      = " ORDER BY UUID DESC, SERVER_TIME DESC" ++ " LIMIT " from rfl]
  simp only [String.append_assoc]

/-- A lookup form filled in knows no more of its request. -/
theorem plan_lookupForm : (lookupForm r identity).plan s none r = lookupPlan s r identity := by
  unfold Form.plan lookupPlan
  rw [text_lookupForm, show (lookupForm r identity).view = .lookup identity from rfl, clause_lookup]
  rfl

/-- Its placeholders are that of the identity and those of the window's ends, one for each value. -/
theorem slots_lookupPlan {s : Settings} {r : Request} {identity : Bytes}
    (listed : identity ∈ r.identities) :
    slots (lookupPlan s r identity).text
      = some .identity :: (r.start.toList ++ r.finish.toList).map fun _ => some .time := by
  have form : lookupForm r identity ∈ Method.latestAggregates.forms s r .seconds :=
    List.mem_map_of_mem listed
  obtain ⟨before, after⟩ := Method.slots_around form
  have condition := (r.clause_binds (.lookup identity)).whereText
  have named := ((Named.ofSilent before).append condition).append (Named.ofSilent after)
  have text : (lookupForm r identity).before ++ (r.clause (.lookup identity)).whereText
      ++ (lookupForm r identity).after = (lookupPlan s r identity).text := text_lookupForm r identity
  rw [text, List.nil_append, List.append_nil] at named
  have fields : (r.predicate (.lookup identity)).fields
      = (.identity, .bytes identity) :: Column.time.holding (r.bound .time) :=
    congrArg (List.cons _) r.fields_window
  unfold slots
  rw [named, fields]
  simp only [List.map_cons, Column.holding, Request.bound, List.map_map, Function.comp_def]

/-! ## All lookups -/

section All

variable {s : Settings} {r : Request}

/-- A request that asks for something and lists identities is answered with a lookup for each. -/
theorem latestAggregates_eq_map (asks : r.isEmpty = false) (some_id : r.identities ≠ []) :
    latestAggregates s r = .ok (r.identities.map (lookupPlan s r)) := by
  have listed : (!r.identities.isEmpty) = true := by simpa using some_id
  have plans : (r.identities.map fun identity => (lookupForm r identity).plan s none r)
      = r.identities.map (lookupPlan s r) :=
    List.map_congr_left fun identity _ => plan_lookupForm s r identity
  rw [latestAggregates_eq s 0, plans]
  simp only [Method.check, checkNonempty_eq_ok.mpr asks, require, listed, if_true]
  rfl

/-- **One lookup for each identity, and nothing else.**  A request that asks for something and
    lists identities gets one plan for each, in their order, in which each value has a placeholder
    of its own column.  Another request with these identities, the same window and as many names
    gets the same plans, with its own fetch size, whatever else it says and whatever the settings
    are.  And if the list is in two parts, the plans are those for the one part and then those for
    the other. -/
theorem latestAggregates_each (asks : r.isEmpty = false) (some_id : r.identities ≠ []) :
    latestAggregates s r = .ok (r.identities.map (lookupPlan s r))
      ∧ (∀ identity ∈ r.identities, slots (lookupPlan s r identity).text
        = some .identity :: (r.start.toList ++ r.finish.toList).map fun _ => some .time)
      ∧ (∀ (s' : Settings) (r' : Request), r'.isEmpty = false → r'.identities = r.identities →
        r'.start = r.start → r'.finish = r.finish → r'.names.length = r.names.length →
        latestAggregates s' r' = (latestAggregates s r).map (List.map fun p =>
          { p with fetchSize := r'.fetchSize.or s'.defaultFetchSize, request := r' }))
      ∧ ∀ xs ys, r.identities = xs ++ ys → xs ≠ [] → ys ≠ [] →
        ∃ ps qs, latestAggregates s { r with identities := xs } = .ok ps
          ∧ latestAggregates s { r with identities := ys } = .ok qs
          ∧ latestAggregates s r = .ok ((ps ++ qs).map fun p => { p with request := r }) := by
  have planned := latestAggregates_eq_map (s := s) asks some_id
  refine ⟨planned, fun identity listed => slots_lookupPlan listed, ?others, ?parts⟩
  case others =>
    intro s' r' asks' same start finish count
    have some_id' : r'.identities ≠ [] := by
      rw [same]
      exact some_id
    rw [planned, latestAggregates_eq_map asks' some_id', same]
    show Except.ok _ = Except.ok (List.map _ (List.map _ _))
    rw [List.map_map]
    refine congrArg Except.ok (List.map_congr_left fun identity _ => ?_)
    show lookupPlan s' r' identity = { lookupPlan s r identity with
      fetchSize := r'.fetchSize.or s'.defaultFetchSize, request := r' }
    unfold lookupPlan
    rw [start, finish, count]
  case parts =>
    intro xs ys parts some_x some_y
    have asks_x : { r with identities := xs }.isEmpty = false := asks
    have asks_y : { r with identities := ys }.isEmpty = false := asks
    refine ⟨_, _, latestAggregates_eq_map asks_x some_x, latestAggregates_eq_map asks_y some_y, ?_⟩
    rw [planned, parts]
    show _ = Except.ok (List.map _ (xs.map _ ++ ys.map _))
    rw [List.map_append, List.map_append, List.map_map, List.map_map]
    rfl

/-- Three identities, one of them listed twice, over a window without an end: three lookups.  A
    request of another kind with as many names, which negates its identities, names a host, pins a
    granularity and brings its own statement and order, is looked up in the same way; and the first
    lookup and the other two are those of the list in two parts. -/
theorem latestAggregates_each_repeated :
    ∃ ps qs rs,
      latestAggregates .standard
          { kind := .plain, sharedNames := ["cpu_user", "mem_%"], givenStart := some 1699992800,
            identities := [[1], [2], [1]] } = .ok ps
        ∧ ps.map (fun p => (p.text, p.values))
          = [[1], [2], [1]].map (fun identity : Bytes =>
            ("SELECT UUID, SERVER_TIME, METRIC_SUM, HOSTS_COUNT, METRIC_MAX, METRIC_MIN"
                ++ " FROM METRIC_AGGREGATE_UUID WHERE UUID = ? AND SERVER_TIME >= ?"
                ++ " ORDER BY UUID DESC, SERVER_TIME DESC LIMIT 2",
              [Value.bytes identity, .integer 1699992800000]))
        ∧ (latestAggregates (.embedded 2880)
            { kind := .transient ["a", "b"], hosts := some ["h1"], givenStart := some 1699992800000,
              granularity := some .days, orderBy := ["HOSTNAME"], identities := [[1], [2], [1]],
              negateIdentities := true, statement := some "SELECT 1" }).map
              (List.map fun p => (p.text, p.values))
          = .ok (ps.map fun p => (p.text, p.values))
        ∧ latestAggregates .standard
          { kind := .plain, sharedNames := ["cpu_user", "mem_%"], givenStart := some 1699992800,
            identities := [[1]] } = .ok qs
        ∧ latestAggregates .standard
          { kind := .plain, sharedNames := ["cpu_user", "mem_%"], givenStart := some 1699992800,
            identities := [[2], [1]] } = .ok rs
        ∧ ps.map (fun p => p.values) = qs.map (fun p => p.values) ++ rs.map (fun p => p.values) := by
  obtain ⟨planned, -, others, parts⟩ := latestAggregates_each (s := .standard)
    (r := { kind := .plain, sharedNames := ["cpu_user", "mem_%"], givenStart := some 1699992800,
            identities := [[1], [2], [1]] }) (by decide) (by decide)
  obtain ⟨qs, rs, first, last, whole⟩ := parts [[1]] [[2], [1]] rfl (by decide) (by decide)
  refine ⟨_, qs, rs, planned, by decide +kernel, ?others, first, last, ?parts⟩
  case others =>
    rw [others (.embedded 2880), planned]
    · rfl
    all_goals decide
  case parts =>
    have both := Except.ok.inj (planned.symm.trans whole)
    rw [both, List.map_map, List.map_append]
    rfl

end All

end Rollup.Plan
