/-
  From a request to a query.

  A plan is put on a statement with numbered placeholders, value by value, and the statement is then
  asked for its query.  Three counts of the same text have a say: how many values the plan has, how
  many placeholders it waits for, and how many the statement numbered.

  1. **Numbering** (`toList_number`): the k-th placeholder becomes `$k`, told without the numbering's
     own count, by how many placeholders there are up to each.
  2. **Filling** (`ofPlan_eq`): there are values enough or too few for the statement to be filled,
     and it takes them all; or too many, and the first one too many ends it.
  3. **Planning** (`placeholders_of_mem`): a plan has as many values as it needs but for what the
     caller wrote himself; so it has just as many if he wrote nothing that waits for a value
     (`placeholders_eq_length`).

  The crux is that numbered statements are a connection like any other.  What calls are made, and
  that a failing one ends it, is settled for all of them by `Loads`; here it remains to say which
  calls succeed.
-/
import Mathlib.Algebra.BigOperators.Group.List.Basic
import Rollup.Proofs.Binding
import Rollup.Proofs.Lifecycle
import Rollup.Proofs.Loading

namespace Rollup

open Sql (placeholder placeholderCount)

/-! ## Numbering -/

namespace Numbering

/-- A text with each placeholder replaced by the label of how many there are up to it, and every
    other character as it is. -/
def relabelled (text : List Char) : List Char :=
  (text.mapIdx fun i c =>
    if c = placeholder then label ((text.take (i + 1)).count placeholder) else [c]).flatten

/-- What is numbered after `k` placeholders is told by how many there are up to each. -/
theorem numberFrom_eq (k : Nat) (text : List Char) :
    numberFrom k text = (text.mapIdx fun i c =>
      if c = placeholder then label (k + (text.take (i + 1)).count placeholder) else [c]).flatten := by
  induction text generalizing k with
  | nil => rfl
  | cons c rest ih =>
    rw [List.mapIdx_cons, List.flatten_cons]
    by_cases waits : c = placeholder
    · have counts : ∀ i, k + ((c :: rest).take (i + 1 + 1)).count placeholder
          = k + 1 + (rest.take (i + 1)).count placeholder := by
        intro i
        rw [List.take_succ_cons, waits, List.count_cons_self]
        omega
      have one : k + ((c :: rest).take (0 + 1)).count placeholder = k + 1 := by
        rw [List.take_succ_cons, List.take_zero, waits, List.count_singleton_self]
      simp only [counts, one]
      rw [numberFrom, if_pos waits, if_pos waits, ih]
    · have counts : ∀ i, ((c :: rest).take (i + 1 + 1)).count placeholder
          = (rest.take (i + 1)).count placeholder := by
        intro i
        rw [List.take_succ_cons, List.count_cons_of_ne waits]
      simp only [counts]
      rw [numberFrom, if_neg waits, if_neg waits, ih]
      rfl

/-- **Numbering** replaces the k-th placeholder by `$k`, and nothing else. -/
theorem toList_number (text : String) : (number text).toList = relabelled text.toList := by
  unfold number relabelled
  rw [String.toList_ofList, numberFrom_eq]
  simp only [Nat.zero_add]

end Numbering

/-! ## Filling -/

namespace Numbered

open Connection (Action)

variable {n n' : Numbered} {fault : Fault}

theorem run_prepare (text : String) (slot : Slot) :
    (connection.perform (.prepare text)).run.run slot = (.ok (), some (ofText text)) := by
  cases slot <;> rfl

theorem run_fetchSize (n : Numbered) (rows : Int) :
    (connection.perform (.setFetchSize rows)).run.run (some n)
      = (.ok (), some { n with fetchSize := some rows }) := rfl

/-- A call takes its step from the slot it finds. -/
theorem run_call_eq (step : Step) (slot : Slot) :
    (call step).run.run slot
      = (match slot.step step with
        | (result, next) => (do
            set next
            if let .failed fault := result then throw fault : Call Slot Fault Unit)).run.run slot :=
  rfl

/-- A step of the slot as a call: it fails with the fault of the step, if that has one. -/
theorem run_call (step : Step) (slot : Slot) :
    (call step).run.run slot
      = (match (slot.step step).1 with
          | .failed fault => .error fault
          | .prepared _ | .done | .query _ => .ok (),
        (slot.step step).2) := by
  rw [run_call_eq]
  rcases slot.step step with ⟨_ | _ | _ | _, next⟩ <;> rfl

theorem run_bind (n : Numbered) (position : Nat) (value : Value) :
    (connection.perform (.bind position value)).run.run (some n)
      = match n.bind position value with
        | .ok n' => (.ok (), some n')
        | .error fault => (.error fault, some n) := by
  have step : (connection.perform (.bind position value)).run.run (some n)
      = (call (.bind position value)).run.run (some n) := by
    cases value <;> rfl
  rw [step, run_call]
  cases bound : n.bind position value with
  | ok n' => rw [step_bind_ok bound]
  | error fault => rw [step_bind_error bound]

/-- **Values are taken** one after the other, as long as there are placeholders for them. -/
theorem succeeds_bindAll (n : Numbered) (values : List Value)
    (room : n.bound + values.length ≤ n.expected) :
    connection.Succeeds (some n) (Action.bindAll (n.bound + 1) values)
      (some { n with bound := n.bound + values.length, values := n.values ++ values }) := by
  induction values generalizing n with
  | nil =>
    rw [List.append_nil]
    exact .nil _
  | cons value rest ih =>
    rw [List.length_cons] at room
    have bound : n.bind (n.bound + 1) value
        = .ok { n with bound := n.bound + 1, values := n.values ++ [value] } :=
      bind_eq_ok.mpr ⟨rfl, by omega, rfl⟩
    have room' : n.bound + 1 + rest.length ≤ n.expected := by omega
    have later := ih { n with bound := n.bound + 1, values := n.values ++ [value] } room'
    have taken := run_bind n (n.bound + 1) value
    rw [bound] at taken
    refine .cons taken ?_
    rw [List.length_cons, Nat.add_comm rest.length, ← Nat.add_assoc,
      List.append_cons n.values value rest]
    exact later

/-- The statement of a plan with all of the plan's values. -/
def whole (p : Plan) : Numbered where
  text := Numbering.number p.text
  expected := p.placeholders
  bound := p.values.length
  values := p.values
  fetchSize := p.fetchSize

/-- With values enough or too few the statement takes them all, and the fetch size after them. -/
theorem loads_whole (p : Plan) (room : p.values.length ≤ p.placeholders) :
    ∃ made, connection.Loads p none (.ok ()) (some (whole p)) made := by
  have values : connection.Succeeds (some (ofText p.text)) (Action.bindAll 1 p.values)
      (some { whole p with fetchSize := none }) := by
    have taken := succeeds_bindAll (ofText p.text) p.values ((Nat.zero_add _).symm ▸ room)
    have count : (ofText p.text).bound + p.values.length = p.values.length := Nat.zero_add _
    rw [count] at taken
    exact taken
  have fetchSize : connection.Succeeds (some { whole p with fetchSize := none })
      (p.fetchSize.toList.map .setFetchSize) (some (whole p)) := by
    unfold whole
    cases p.fetchSize with
    | none => exact .nil _
    | some rows => exact .cons (run_fetchSize _ rows) (.nil _)
  exact ⟨_, .filled (.cons (run_prepare p.text none) (values.append fetchSize))⟩

/-- The first value too many is refused. -/
theorem loads_arity (p : Plan) (excess : p.placeholders < p.values.length) :
    ∃ slot made,
      connection.Loads p none (.error (.arity p.placeholders (p.placeholders + 1))) slot made := by
  have length : (p.values.take p.placeholders).length = p.placeholders := by
    rw [List.length_take]
    omega
  have taken := succeeds_bindAll (ofText p.text) (p.values.take p.placeholders) (by
    rw [length]
    exact Nat.le_of_eq (Nat.zero_add _))
  have count : (ofText p.text).bound + (p.values.take p.placeholders).length = p.placeholders := by
    rw [length]
    exact Nat.zero_add _
  rw [count] at taken
  have refused := run_bind { ofText p.text with
      bound := p.placeholders
      values := (ofText p.text).values ++ p.values.take p.placeholders }
    (p.placeholders + 1) p.values[p.placeholders]
  rw [bind_eq_error.mpr (.inr ⟨rfl, Nat.lt_succ_self _, rfl⟩)] at refused
  exact ⟨_, _, .broken (Connection.filling_split p excess)
    (.cons (run_prepare p.text none) taken) refused⟩

/-- **Preparing a plan** leaves a statement with all of the plan's values, or ends with the first
    value too many. -/
theorem ofPlan_eq (p : Plan) :
    ofPlan p = if p.values.length ≤ p.placeholders then .ok (whole p)
      else .error (.arity p.placeholders (p.placeholders + 1)) := by
  unfold ofPlan
  by_cases room : p.values.length ≤ p.placeholders
  · obtain ⟨made, loads⟩ := loads_whole p room
    rw [if_pos room, loads.run_eq]
  · obtain ⟨slot, made, loads⟩ := loads_arity p (Nat.lt_of_not_le room)
    rw [if_neg room, loads.run_eq]

/-- Its query holds the values, if there are enough of them. -/
theorem query_whole (p : Plan) :
    (whole p).query
      = if p.values.length = p.placeholders then .ok p.values
        else .error (.arity p.placeholders p.values.length) :=
  ite_not ..

end Numbered

/-! ## Planning -/

namespace Method

variable {m : Method} {s : Settings} {now : Int} {r : Request} {ps : List Plan} {p : Plan}

/-- A plan waits for its values and for what the caller wrote himself. -/
theorem placeholders_of_mem (planned : m.plans s now r = .ok ps)
    (own : m = .latest → r.statement = none) (among : p ∈ ps) :
    p.placeholders = p.values.length + m.statementSlots r + m.orderSlots r := by
  obtain ⟨granularity, -, rfl⟩ := plans_eq_ok.mp planned
  obtain ⟨f, form, rfl⟩ := List.mem_map.mp among
  obtain ⟨before, after⟩ := slots_around form
  have text : (f.plan s (m.reads granularity) (m.asked r)).text = f.text r := text_asked m r f
  have values : (f.plan s (m.reads granularity) (m.asked r)).values = (r.clause f.view).values :=
    congrArg Sql.Clause.values (clause_asked m r f.view)
  unfold Plan.placeholders
  rw [text, values, f.placeholderCount_text (own_of_mem form own), before, after]

/-- Without a statement of the caller's, and with columns to order by that wait for nothing, a plan
    waits for its values alone. -/
theorem placeholders_eq_length (planned : m.plans s now r = .ok ps) (own : r.statement = none)
    (silent : ∀ column ∈ r.orderBy, placeholder ∉ column.toList) (among : p ∈ ps) :
    p.placeholders = p.values.length := by
  have columns : (r.orderBy.map placeholderCount).sum = 0 := by
    refine List.sum_eq_zero fun n counted => ?_
    obtain ⟨column, ordered, rfl⟩ := List.mem_map.mp counted
    exact List.count_eq_zero.mpr (silent column ordered)
  have statement : m.statementSlots r = 0 := by
    unfold statementSlots
    rw [own]
    cases m <;> rfl
  have order : m.orderSlots r = 0 := by
    cases m with
    | series _ | latest | transient => exact columns
    | metadata | latestAggregates => rfl
  rw [placeholders_of_mem planned (fun _ => own) among, statement, order]
  rfl

/-- **From a plan to its query.**  Preparing a plan succeeds if it has no more values than
    placeholders, and otherwise ends with the first value too many.  The statement then has all the
    values, the fetch size and the text with the k-th placeholder as `$k`; and it gives up the values
    of the plan as its query if none is missing.  So a plan in which the caller wrote no placeholder
    himself always comes to its query. -/
theorem plans_deliver (p : Plan) :
    ((∃ n, Numbered.ofPlan p = .ok n) ↔ p.values.length ≤ p.placeholders)
      ∧ (p.placeholders < p.values.length →
          Numbered.ofPlan p = .error (.arity p.placeholders (p.placeholders + 1)))
      ∧ (∀ n, Numbered.ofPlan p = .ok n →
          n.bound = p.values.length ∧ n.fetchSize = p.fetchSize
            ∧ n.text.toList = Numbering.relabelled p.text.toList
            ∧ n.query = if p.values.length = p.placeholders then .ok p.values
                else .error (.arity p.placeholders p.values.length))
      ∧ ∀ (m : Method) (s : Settings) (now : Int) (r : Request) (ps : List Plan),
          m.plans s now r = .ok ps → p ∈ ps → r.statement = none →
          (∀ column ∈ r.orderBy, placeholder ∉ column.toList) →
          ∃ n, Numbered.ofPlan p = .ok n ∧ n.query = .ok p.values := by
  have prepared := Numbered.ofPlan_eq p
  refine ⟨?_, ?_, ?_, ?_⟩
  · rw [prepared]
    by_cases room : p.values.length ≤ p.placeholders
    · rw [if_pos room]
      exact ⟨fun _ => room, fun _ => ⟨_, rfl⟩⟩
    · rw [if_neg room]
      exact ⟨nofun, fun enough => absurd enough room⟩
  · intro excess
    rw [prepared, if_neg (Nat.not_le_of_lt excess)]
  · intro n done
    rw [prepared] at done
    by_cases room : p.values.length ≤ p.placeholders
    · rw [if_pos room] at done
      obtain rfl : Numbered.whole p = n := Except.ok.inj done
      exact ⟨rfl, rfl, Numbering.toList_number p.text, Numbered.query_whole p⟩
    · rw [if_neg room] at done
      exact nomatch done
  · intro m s now r ps planned among own silent
    have count := placeholders_eq_length planned own silent among
    refine ⟨Numbered.whole p, ?_, ?_⟩
    · rw [prepared, if_pos (Nat.le_of_eq count.symm)]
    · rw [Numbered.query_whole, if_pos count.symm]

/-- A metric in an order of the caller's comes to its query; and a statement of the caller's without
    placeholders does not take the value that goes with it. -/
theorem plans_deliver_ordered :
    (∃ p n, (series .perHost).plans .standard 0
          { kind := .plain, sharedNames := ["cpu_user"], givenStart := some 1000,
            orderBy := ["METRIC_MAX"] } = .ok [p]
        ∧ Numbered.ofPlan p = .ok n
        ∧ n.query = .ok [.text "cpu_user", .integer 1000000])
      ∧ ∃ p, latest.plans .standard 0
          { kind := .plain, sharedNames := ["cpu_user"], statement := some "SELECT 1" } = .ok [p]
        ∧ Numbered.ofPlan p = .error (.arity 0 1) := by
  constructor
  · obtain ⟨p, planned, values⟩ : ∃ p, (series .perHost).plans .standard 0
        { kind := .plain, sharedNames := ["cpu_user"], givenStart := some 1000,
          orderBy := ["METRIC_MAX"] } = .ok [p]
        ∧ p.values = [.text "cpu_user", .integer 1000000] := ⟨_, rfl, rfl⟩
    have silent : ∀ column ∈ ["METRIC_MAX"], placeholder ∉ column.toList := by decide +kernel
    obtain ⟨n, prepared, query⟩ :=
      (plans_deliver p).2.2.2 _ _ _ _ _ planned (List.mem_singleton_self p) rfl silent
    exact ⟨p, n, planned, prepared, values ▸ query⟩
  · obtain ⟨p, planned, values, text⟩ : ∃ p, latest.plans .standard 0
        { kind := .plain, sharedNames := ["cpu_user"], statement := some "SELECT 1" } = .ok [p]
        ∧ p.values = [.text "cpu_user"] ∧ p.text = "SELECT 1" := ⟨_, rfl, rfl, rfl⟩
    have none_waits : p.placeholders = 0 := by
      unfold Plan.placeholders
      rw [text]
      decide +kernel
    have excess : p.placeholders < p.values.length := by
      rw [none_waits, values]
      decide
    have refused := (plans_deliver p).2.1 excess
    rw [none_waits] at refused
    exact ⟨p, planned, refused⟩

end Method

end Rollup
