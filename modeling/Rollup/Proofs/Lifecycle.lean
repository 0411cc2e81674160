/-
  The life of a prepared statement.

  A statement is prepared, takes values at positions 1, 2 and so on, and gives them up as a query
  once it has one for every placeholder.  Any position may be asked for at any time, and a fetch
  size may be set in between.  `accepted` reads off the results of a run which bindings were done;
  the rest of the story is told in their terms and in those of the text.

  The crux is `Filled`: the count that the statement keeps, and the values that it keeps beside it,
  are those of the bindings that were done, at positions 1, 2, ... without a gap.  One step keeps it
  (`step_filling`), since a refused binding leaves the statement alone, and so any run does
  (`run_filling`).
-/
import Rollup.Prepared.Numbered

namespace Rollup.Numbered

/-! ## Bindings -/

/-- A step that fills the statement: it neither replaces it nor takes it out of the slot. -/
def Step.Fills : Step → Prop
  | bind _ _ | fetchSize _ => True
  | prepare _ | close | query => False

/-- The bindings among some steps that were done according to their results, each value with its
    position, in the order of the steps. -/
def accepted (steps : List Step) (results : List (Result × Slot)) : List (Nat × Value) :=
  (steps.zip results).filterMap fun
    | (.bind position value, (.done, _)) => some (position, value)
    | _ => none

/-- The bindings that are done when steps are taken on a statement fresh from its text. -/
def bindings (text : String) (steps : List Step) : List (Nat × Value) :=
  accepted steps (Slot.run (some (ofText text)) steps)

/-- A statement of a text on which the bindings of a history were done, and no others. -/
structure Filled (given : String) (history : List (Nat × Value)) (n : Numbered) : Prop where
  text : n.text = Numbering.number given
  expected : n.expected = Sql.placeholderCount given
  within : n.bound ≤ n.expected
  positions : history.map Prod.fst = List.range' 1 n.bound
  values : history.map Prod.snd = n.values

theorem accepted_cons (step : Step) (steps : List Step) (result : Result × Slot)
    (results : List (Result × Slot)) :
    accepted (step :: steps) (result :: results)
      = accepted [step] [result] ++ accepted steps results :=
  List.filterMap_append (l := [(step, result)])

/-! ## One step -/

section Bind

variable {n n' : Numbered} {position : Nat} {value : Value} {fault : Fault}

/-- A binding is done at the next position, if there is such a placeholder. -/
theorem bind_eq_ok :
    n.bind position value = .ok n' ↔
      position = n.bound + 1 ∧ position ≤ n.expected
        ∧ n' = { n with bound := position, values := n.values ++ [value] } := by
  unfold bind advance
  by_cases next : position = n.bound + 1
  · by_cases beyond : n.expected < position
    · rw [if_neg (not_not_intro next), if_pos beyond]
      exact ⟨nofun, fun h => absurd h.2.1 (Nat.not_le.mpr beyond)⟩
    · rw [if_neg (not_not_intro next), if_neg beyond]
      constructor
      · intro done
        exact ⟨next, Nat.not_lt.mp beyond, (Except.ok.inj done).symm⟩
      · rintro ⟨-, -, rfl⟩
        rfl
  · rw [if_pos next]
    exact ⟨nofun, fun h => absurd h.1 next⟩

/-- It is refused at any other position, and past the last placeholder. -/
theorem bind_eq_error :
    n.bind position value = .error fault ↔
      (position ≠ n.bound + 1 ∧ fault = .outOfOrder (n.bound + 1) position)
      ∨ (position = n.bound + 1 ∧ n.expected < position ∧ fault = .arity n.expected position) := by
  unfold bind advance
  by_cases next : position = n.bound + 1
  · by_cases beyond : n.expected < position
    · rw [if_neg (not_not_intro next), if_pos beyond]
      constructor
      · intro refused
        exact .inr ⟨next, beyond, (Except.error.inj refused).symm⟩
      · rintro (⟨astray, -⟩ | ⟨-, -, rfl⟩)
        · exact absurd next astray
        · rfl
    · rw [if_neg (not_not_intro next), if_neg beyond]
      constructor
      · exact nofun
      · rintro (⟨astray, -⟩ | ⟨-, beyond', -⟩)
        · exact absurd next astray
        · exact absurd beyond' beyond
  · rw [if_pos next]
    constructor
    · intro refused
      exact .inl ⟨next, (Except.error.inj refused).symm⟩
    · rintro (⟨-, rfl⟩ | ⟨next', -⟩)
      · rfl
      · exact absurd next' next

theorem step_bind_ok (bound : n.bind position value = .ok n') :
    Slot.step (some n) (.bind position value) = (.done, some n') := by
  simp only [Slot.step, bound]

/-- A refusal leaves the statement as it was. -/
theorem step_bind_error (refused : n.bind position value = .error fault) :
    Slot.step (some n) (.bind position value) = (.failed fault, some n) := by
  simp only [Slot.step, refused]

end Bind

/-- The query takes the statement out of the slot, whether or not it is given up. -/
theorem step_query (n : Numbered) :
    Slot.step (some n) .query =
      if n.bound = n.expected then (.query n.values, none)
      else (.failed (.arity n.expected n.bound), none) := by
  by_cases full : n.bound = n.expected
  · simp [Slot.step, query, full]
  · simp [Slot.step, query, full]

/-! ## Steps that fill -/

section Filling

variable {text : String} {history : List (Nat × Value)} {n : Numbered}

/-- A fresh statement. -/
theorem filled_ofText (text : String) : Filled text [] (ofText text) :=
  ⟨rfl, rfl, Nat.zero_le _, rfl, rfl⟩

theorem Filled.length_eq (filled : Filled text history n) : history.length = n.bound := by
  have lengths := congrArg List.length filled.positions
  rwa [List.length_map, List.length_range'] at lengths

/-- One binding more. -/
theorem Filled.concat (filled : Filled text history n) (more : n.bound + 1 ≤ n.expected)
    (value : Value) :
    Filled text (history ++ [(n.bound + 1, value)])
      { n with bound := n.bound + 1, values := n.values ++ [value] } where
  text := filled.text
  expected := filled.expected
  within := more
  positions := by
    rw [List.map_append, filled.positions, List.range'_1_concat, Nat.add_comm 1]
    rfl
  values := by
    rw [List.map_append, filled.values]
    rfl

/-- **A step that fills** leaves a statement, and on it what was bound before and by the step. -/
theorem step_filling (filled : Filled text history n) {step : Step} (fills : step.Fills) :
    ∃ n', (Slot.step (some n) step).2 = some n'
      ∧ Filled text (history ++ accepted [step] [Slot.step (some n) step]) n' := by
  cases step with
  | prepare _ | close | query => exact fills.elim
  | fetchSize rows =>
    refine ⟨{ n with fetchSize := some rows }, rfl, ?_⟩
    have same : history ++ accepted [.fetchSize rows] [Slot.step (some n) (.fetchSize rows)]
        = history := List.append_nil history
    rw [same]
    exact ⟨filled.text, filled.expected, filled.within, filled.positions, filled.values⟩
  | bind position value =>
    cases bound : n.bind position value with
    | error fault =>
      rw [step_bind_error bound]
      refine ⟨n, rfl, ?_⟩
      have same : history ++ accepted [.bind position value] [(.failed fault, some n)] = history :=
        List.append_nil history
      rw [same]
      exact filled
    | ok n' =>
      rw [step_bind_ok bound]
      obtain ⟨rfl, more, rfl⟩ := bind_eq_ok.mp bound
      exact ⟨_, rfl, filled.concat more value⟩

/-- **A run of such steps** leaves a statement on which it goes on, with the bindings done in it. -/
theorem run_filling {steps : List Step} (filling : ∀ step ∈ steps, step.Fills)
    (filled : Filled text history n) :
    ∃ n', (∀ more, Slot.run (some n) (steps ++ more)
          = Slot.run (some n) steps ++ Slot.run (some n') more)
      ∧ Filled text (history ++ accepted steps (Slot.run (some n) steps)) n' := by
  induction steps generalizing n history with
  | nil =>
    refine ⟨n, fun more => rfl, ?_⟩
    have same : history ++ accepted [] (Slot.run (some n) []) = history := List.append_nil history
    rw [same]
    exact filled
  | cons step steps ih =>
    obtain ⟨n₁, slot, filled₁⟩ := step_filling filled (filling step List.mem_cons_self)
    obtain ⟨n', goes_on, filled'⟩ :=
      ih (fun later among => filling later (List.mem_cons_of_mem step among)) filled₁
    have first : ∀ rest, Slot.run (some n) (step :: rest)
        = Slot.step (some n) step :: Slot.run (some n₁) rest := by
      intro rest
      rw [Slot.run, slot]
    refine ⟨n', fun more => ?_, ?_⟩
    · rw [List.cons_append, first, first, goes_on, List.cons_append]
    · rw [first, accepted_cons, ← List.append_assoc]
      exact filled'

end Filling

/-! ## The whole life -/

/-- **The life of a statement.**  After any binding and setting of fetch sizes, however much of it
    was refused, the statement goes on as one that holds the values of the bindings that were done,
    at the positions 1, 2, ... in that order, and never more than the text has placeholders.  A
    binding is done at the next position and no other, and past the last placeholder at none; one
    that is refused changes nothing.  The query is given up once every placeholder has its value. -/
theorem lifecycle (text : String) (steps : List Step) (filling : ∀ step ∈ steps, step.Fills) :
    ∃ n : Numbered,
      (∀ more, Slot.run (some (ofText text)) (steps ++ more)
          = Slot.run (some (ofText text)) steps ++ Slot.run (some n) more)
      ∧ Filled text (bindings text steps) n
      ∧ n.bound = (bindings text steps).length
      ∧ (∀ position value, Slot.step (some n) (.bind position value) =
          if position ≠ (bindings text steps).length + 1 then
            (.failed (.outOfOrder ((bindings text steps).length + 1) position), some n)
          else if Sql.placeholderCount text < position then
            (.failed (.arity (Sql.placeholderCount text) position), some n)
          else (.done, some { n with bound := position, values := n.values ++ [value] }))
      ∧ (∀ rows, Slot.step (some n) (.fetchSize rows)
          = (.done, some { n with fetchSize := some rows }))
      ∧ Slot.step (some n) .query =
          if (bindings text steps).length = Sql.placeholderCount text then
            (.query ((bindings text steps).map Prod.snd), none)
          else
            (.failed (.arity (Sql.placeholderCount text) (bindings text steps).length), none) := by
  obtain ⟨n, goes_on, filled⟩ := run_filling filling (filled_ofText text)
  have filled : Filled text (bindings text steps) n := filled
  have count := filled.length_eq
  refine ⟨n, goes_on, filled, count.symm, fun position value => ?_, fun rows => rfl, ?_⟩
  · rw [count, ← filled.expected]
    cases bound : n.bind position value with
    | error fault =>
      rw [step_bind_error bound]
      obtain ⟨astray, rfl⟩ | ⟨next, beyond, rfl⟩ := bind_eq_error.mp bound
      · rw [if_pos astray]
      · rw [if_neg (not_not_intro next), if_pos beyond]
    | ok n' =>
      rw [step_bind_ok bound]
      obtain ⟨next, more, rfl⟩ := bind_eq_ok.mp bound
      rw [if_neg (not_not_intro next), if_neg (Nat.not_lt.mpr more)]
  · rw [count, ← filled.expected, filled.values]
    exact step_query n

/-- Two placeholders: a binding too early, one repeated and one too many are refused, and the query
    holds the two that were done. -/
theorem lifecycle_two_placeholders :
    (Slot.run (some (ofText "a = ? AND b = ?"))
        ([.bind 2 (.text "x"), .bind 1 (.integer 7), .fetchSize 5, .bind 1 (.integer 8),
          .bind 2 (.text "y"), .bind 3 (.text "z")] ++ [.query])).getLast?
      = some (.query [.integer 7, .text "y"], none) := by
  have filling : ∀ step ∈ [Step.bind 2 (.text "x"), .bind 1 (.integer 7), .fetchSize 5,
      .bind 1 (.integer 8), .bind 2 (.text "y"), .bind 3 (.text "z")], step.Fills := by
    simp [Step.Fills]
  obtain ⟨n, goes_on, -, -, -, -, query⟩ := lifecycle "a = ? AND b = ?" _ filling
  have done : bindings "a = ? AND b = ?" [.bind 2 (.text "x"), .bind 1 (.integer 7), .fetchSize 5,
      .bind 1 (.integer 8), .bind 2 (.text "y"), .bind 3 (.text "z")]
      = [(1, .integer 7), (2, .text "y")] := by decide +kernel
  have two : Sql.placeholderCount "a = ? AND b = ?" = 2 := by decide +kernel
  rw [done, two] at query
  rw [goes_on]
  show (_ ++ [Slot.step (some n) .query]).getLast? = _
  rw [List.getLast?_concat, query]
  rfl

end Rollup.Numbered
