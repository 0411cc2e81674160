/-
  Which calls are made when a plan is loaded.

  A connection is arbitrary: each of its calls may change its state in any way, and all but the
  closing of a statement may fail.  So the calls themselves are what can be told.  `Action` names a
  call with its arguments, `Plan.filling` lists the calls that fill the statement of a plan, and
  `Loads` tells the three ways in which loading can go: the statement is not prepared, or filling it
  breaks off at some call and it is closed, or it is filled.  There is no fourth (`exists_loads`).

  The crux is that a connection which keeps a record of its calls is a connection too.  Whatever is
  shown of the result and the state on every connection holds on the traced one, whose state is the
  record (`Loads.traced`), and nothing has to be shown of the calls a second time.
-/
import Rollup.Prepared.Recorder

namespace Rollup

/-! ## Calls by name -/

/-- A call with its arguments. -/
inductive Connection.Action
  | prepare (text : String)
  | bindBytes (position : Nat) (value : Bytes)
  | bindText (position : Nat) (value : String)
  | bindInteger (position : Nat) (value : Int)
  | setFetchSize (rows : Int)
  | close
  deriving DecidableEq

namespace Connection

variable {σ ε : Type}

/-- The call that binds a value, by the value's type. -/
def Action.bind (position : Nat) : Value → Action
  | .bytes value => .bindBytes position value
  | .text value => .bindText position value
  | .integer value => .bindInteger position value

/-- The calls that bind values to consecutive positions. -/
def Action.bindAll (position : Nat) (values : List Value) : List Action :=
  (values.zipIdx position).map fun (value, k) => .bind k value

/-- Makes a call. -/
def perform (c : Connection σ ε) : Action → Call σ ε Unit
  | .prepare text => c.prepare text
  | .bindBytes position value => c.bindBytes position value
  | .bindText position value => c.bindText position value
  | .bindInteger position value => c.bindInteger position value
  | .setFetchSize rows => c.setFetchSize rows
  | .close => c.close

/-- Makes calls one after the other, up to the first that fails. -/
def performAll (c : Connection σ ε) : List Action → Call σ ε Unit
  | [] => pure ()
  | a :: rest => do
    c.perform a
    c.performAll rest

/-- Makes a call, and notes it beside the state whether or not it fails. -/
def note (c : Connection σ ε) (a : Action) : Call (σ × List Action) ε Unit := do
  let (state, made) ← get
  let (result, next) := (c.perform a).run.run state
  set (next, made ++ [a])
  match result with
  | .ok _ => pure ()
  | .error e => throw e

/-- The connection with a record of every call made on it. -/
def traced (c : Connection σ ε) : Connection (σ × List Action) ε where
  prepare text := c.note (.prepare text)
  bindBytes position value := c.note (.bindBytes position value)
  bindText position value := c.note (.bindText position value)
  bindInteger position value := c.note (.bindInteger position value)
  setFetchSize rows := c.note (.setFetchSize rows)
  close := modify fun (state, made) => ((c.close.run state).2, made ++ [.close])

end Connection

/-- The calls that fill the statement of a plan: one for each value, the `k`-th at position `k` and
    by its own type, and one for the fetch size if there is any. -/
def Plan.filling (p : Plan) : List Connection.Action :=
  Connection.Action.bindAll 1 p.values
    ++ p.fetchSize.toList.map Connection.Action.setFetchSize

namespace Connection

variable {σ ε : Type}

/-! ## The ways of loading -/

/-- Calls that succeed one after the other, each in the state that the one before it left. -/
inductive Succeeds (c : Connection σ ε) : σ → List Action → σ → Prop
  | nil (s : σ) : Succeeds c s [] s
  | cons {s t u : σ} {a : Action} {rest : List Action}
    (first : (c.perform a).run.run s = (.ok (), t)) (later : Succeeds c t rest u) :
    Succeeds c s (a :: rest) u

/-- `Loads c p s result t made`: loading a plan in the state `s` makes the calls `made` and no
    others, ends with the result and leaves the state `t`. -/
inductive Loads (c : Connection σ ε) (p : Plan) (s : σ) : Except ε Unit → σ → List Action → Prop
  /-- The statement is not prepared, and there is none to close. -/
  | unprepared {e : ε} {t : σ} (fails : (c.perform (.prepare p.text)).run.run s = (.error e, t)) :
    Loads c p s (.error e) t [.prepare p.text]
  /-- Filling breaks off at a call, and the statement is closed. -/
  | broken {before after : List Action} {a : Action} {e : ε} {t u : σ}
    (split : p.filling = before ++ a :: after)
    (done : c.Succeeds s (.prepare p.text :: before) t)
    (fails : (c.perform a).run.run t = (.error e, u)) :
    Loads c p s (.error e) (c.close.run u).2 (.prepare p.text :: before ++ [a, .close])
  /-- The statement is filled, and stays open. -/
  | filled {t : σ} (done : c.Succeeds s (.prepare p.text :: p.filling) t) :
    Loads c p s (.ok ()) t (.prepare p.text :: p.filling)

theorem Succeeds.append {c : Connection σ ε} {s t u : σ} {xs ys : List Action}
    (done : c.Succeeds s xs t) (later : c.Succeeds t ys u) : c.Succeeds s (xs ++ ys) u := by
  induction done with
  | nil _ => exact later
  | cons first _ ih => exact .cons first (ih later)

/-! ## Filling by name -/

theorem Action.bindAll_append (position : Nat) (xs ys : List Value) :
    bindAll position (xs ++ ys) = bindAll position xs ++ bindAll (position + xs.length) ys := by
  unfold bindAll
  rw [List.zipIdx_append, List.map_append]

/-- The calls that fill a statement, parted at the value of one position. -/
theorem filling_split (p : Plan) {i : Nat} (within : i < p.values.length) :
    p.filling = Action.bindAll 1 (p.values.take i)
      ++ .bind (i + 1) p.values[i]
        :: (Action.bindAll (i + 1 + 1) (p.values.drop (i + 1))
          ++ p.fetchSize.toList.map .setFetchSize) := by
  have length : 1 + (p.values.take i).length = i + 1 := by
    rw [List.length_take]
    omega
  have binds := Action.bindAll_append 1 (p.values.take i) (p.values.drop i)
  rw [List.take_append_drop, length, List.drop_eq_getElem_cons within] at binds
  unfold Plan.filling
  rw [binds, List.append_assoc]
  rfl

theorem performAll_append (c : Connection σ ε) (xs ys : List Action) :
    c.performAll (xs ++ ys) = (do c.performAll xs; c.performAll ys) := by
  induction xs with
  | nil => exact (pure_bind () fun _ => c.performAll ys).symm
  | cons x xs ih =>
    show (do c.perform x; c.performAll (xs ++ ys)) = _
    rw [ih]
    exact (bind_assoc ..).symm

theorem bindFrom_eq (c : Connection σ ε) (position : Nat) (values : List Value) :
    c.bindFrom position values = c.performAll (Action.bindAll position values) := by
  induction values generalizing position with
  | nil => rfl
  | cons value rest ih =>
    have first : c.bind position value = c.perform (.bind position value) := by
      cases value <;> rfl
    show (do c.bind position value; c.bindFrom (position + 1) rest) = _
    rw [first, ih]
    rfl

/-- A fetch size is set by a call if there is one. -/
theorem setFetchSize_eq (c : Connection σ ε) (fetchSize : Option Int) :
    (do if let some rows := fetchSize then c.setFetchSize rows)
      = c.performAll (fetchSize.toList.map Action.setFetchSize) := by
  cases fetchSize with
  | none => rfl
  | some rows => exact (bind_pure (c.setFetchSize rows)).symm

/-- **Filling a statement** is making the calls that fill it. -/
theorem fill_eq (c : Connection σ ε) (p : Plan) : c.fill p = c.performAll p.filling := by
  unfold Plan.filling
  rw [performAll_append, ← bindFrom_eq, ← setFetchSize_eq]
  rfl

/-! ## Running calls -/

section Run

variable {c : Connection σ ε} {p : Plan} {s t : σ} {e : ε}

theorem run_bind_ok {x y : Call σ ε Unit} (succeeds : x.run.run s = (.ok (), t)) :
    (do x; y).run.run s = y.run.run t := by
  rw [ExceptT.run_bind, StateT.run_bind, succeeds]
  rfl

theorem run_bind_error {x y : Call σ ε Unit} (fails : x.run.run s = (.error e, t)) :
    (do x; y).run.run s = (.error e, t) := by
  rw [ExceptT.run_bind, StateT.run_bind, fails]
  rfl

theorem run_tryCatch_ok {x : Call σ ε Unit} {handle : ε → Call σ ε Unit}
    (succeeds : x.run.run s = (.ok (), t)) : (tryCatch x handle).run.run s = (.ok (), t) := by
  rw [ExceptT.run_tryCatch, StateT.run_bind, succeeds]
  rfl

theorem run_tryCatch_error {x : Call σ ε Unit} {handle : ε → Call σ ε Unit}
    (fails : x.run.run s = (.error e, t)) :
    (tryCatch x handle).run.run s = (handle e).run.run t := by
  rw [ExceptT.run_tryCatch, StateT.run_bind, fails]
  rfl

theorem run_performAll_ok {actions rest : List Action} (done : c.Succeeds s actions t) :
    (c.performAll (actions ++ rest)).run.run s = (c.performAll rest).run.run t := by
  induction done with
  | nil s => rfl
  | cons first _ ih => exact (run_bind_ok first).trans ih

theorem run_performAll_error {before after : List Action} {a : Action} {u : σ}
    (done : c.Succeeds s before t) (fails : (c.perform a).run.run t = (.error e, u)) :
    (c.performAll (before ++ a :: after)).run.run s = (.error e, u) :=
  (run_performAll_ok done).trans (run_bind_error fails)

/-- Any calls succeed one after the other, or break off at one of them. -/
theorem succeeds_or_breaks (c : Connection σ ε) (s : σ) (actions : List Action) :
    (∃ t, c.Succeeds s actions t)
      ∨ ∃ before a after t e u, actions = before ++ a :: after ∧ c.Succeeds s before t
          ∧ (c.perform a).run.run t = (.error e, u) := by
  induction actions generalizing s with
  | nil => exact .inl ⟨s, .nil s⟩
  | cons a rest ih =>
    rcases first : (c.perform a).run.run s with ⟨e | ⟨⟩, t⟩
    · exact .inr ⟨[], a, rest, s, e, t, rfl, .nil s, first⟩
    · rcases ih t with ⟨u, later⟩ | ⟨before, b, after, u, e, v, rfl, later, fails⟩
      · exact .inl ⟨u, .cons first later⟩
      · exact .inr ⟨a :: before, b, after, u, e, v, rfl, .cons first later, fails⟩

/-! ## Loading -/

/-- A statement that is filled is left as it is. -/
theorem run_load_filled {u : σ} (prepared : (c.perform (.prepare p.text)).run.run s = (.ok (), t))
    (filled : (c.fill p).run.run t = (.ok (), u)) : (c.load p).run.run s = (.ok (), u) := by
  have whole : (c.load p).run.run s = _ := run_bind_ok prepared
  rw [whole]
  exact run_tryCatch_ok filled

/-- One that is not is closed, and the error passed on. -/
theorem run_load_broken {u : σ} (prepared : (c.perform (.prepare p.text)).run.run s = (.ok (), t))
    (broken : (c.fill p).run.run t = (.error e, u)) :
    (c.load p).run.run s = (.error e, (c.close.run u).2) := by
  have whole : (c.load p).run.run s = _ := run_bind_ok prepared
  rw [whole]
  exact run_tryCatch_error broken

/-- **Loading ends as told.** -/
theorem Loads.run_eq {result : Except ε Unit} {made : List Action}
    (loads : c.Loads p s result t made) : (c.load p).run.run s = (result, t) := by
  cases loads with
  | unprepared fails => exact run_bind_error fails
  | broken split done fails =>
    cases done with
    | cons prepared later =>
      refine run_load_broken prepared ?_
      rw [fill_eq, split]
      exact run_performAll_error later fails
  | filled done =>
    cases done with
    | cons prepared later =>
      refine run_load_filled prepared ?_
      rw [fill_eq, ← List.append_nil p.filling]
      exact run_performAll_ok later

/-- **There is always a way.** -/
theorem exists_loads (c : Connection σ ε) (p : Plan) (s : σ) :
    ∃ result t made, c.Loads p s result t made := by
  rcases prepared : (c.perform (.prepare p.text)).run.run s with ⟨e | ⟨⟩, t⟩
  · exact ⟨_, _, _, .unprepared prepared⟩
  · rcases c.succeeds_or_breaks t p.filling with
      ⟨u, done⟩ | ⟨before, a, after, u, e, v, split, done, fails⟩
    · exact ⟨_, _, _, .filled (.cons prepared done)⟩
    · exact ⟨_, _, _, .broken split (.cons prepared done) fails⟩

end Run

/-! ## The record of the calls -/

section Traced

variable {c : Connection σ ε} {p : Plan} {s t : σ}

/-- A call on the traced connection does what it does, and is noted. -/
theorem run_traced {result : Except ε Unit} {a : Action}
    (run : (c.perform a).run.run s = (result, t)) (made : List Action) :
    (c.traced.perform a).run.run (s, made) = (result, (t, made ++ [a])) := by
  have noted : (c.note a).run.run (s, made) = (result, (t, made ++ [a])) := by
    show StateT.run (ExceptT.run (match (c.perform a).run.run s with
      | (result, next) => (do
          set (next, made ++ [a])
          match result with
          | .ok _ => pure ()
          | .error e => throw e : Call (σ × List Action) ε Unit))) (s, made) = _
    rw [run]
    cases result <;> rfl
  cases a with
  | prepare _ | bindBytes _ _ | bindText _ _ | bindInteger _ _ | setFetchSize _ => exact noted
  | close =>
    obtain ⟨rfl, rfl⟩ := Prod.mk.inj run
    rfl

theorem Succeeds.traced {actions : List Action} (done : c.Succeeds s actions t)
    (made : List Action) :
    c.traced.Succeeds (s, made) actions (t, made ++ actions) := by
  induction done generalizing made with
  | nil s =>
    rw [List.append_nil]
    exact .nil _
  | @cons s t u a rest first _ ih =>
    have later := ih (made ++ [a])
    rw [List.append_assoc] at later
    exact .cons (run_traced first made) later

/-- **The calls of a traced connection are noted as told.** -/
theorem Loads.traced {result : Except ε Unit} {made : List Action}
    (loads : c.Loads p s result t made) (before : List Action) :
    c.traced.Loads p (s, before) result (t, before ++ made) made := by
  cases loads with
  | unprepared fails => exact .unprepared (run_traced fails before)
  | filled done => exact .filled (done.traced before)
  | broken split done fails =>
    have closed := Loads.broken split (done.traced before) (run_traced fails _)
    have noted : ∀ (u : σ) (log : List Action),
        (c.traced.close.run (u, log)).2 = ((c.close.run u).2, log ++ [.close]) := fun _ _ => rfl
    rw [noted] at closed
    simpa [List.append_assoc] using closed

end Traced

end Connection

/-! ## A recorder that refuses a position -/

namespace Recorder

/-- Bindings of values at consecutive positions, as they are recorded. -/
def Event.bindAll (position : Nat) (values : List Value) : List Event :=
  (values.zipIdx position).map fun (value, k) => .bind k value

variable {c : Recorder} {failing : Nat} {p : Plan}

theorem run_bind (c : Recorder) (position : Nat) (value : Value) (events : List Event) :
    (c.connection.perform (.bind position value)).run.run events
      = if c.failingPosition = some position then (.error (.bind position), events)
        else (.ok (), events ++ [.bind position value]) := by
  have recorded : (c.connection.perform (.bind position value)).run.run events
      = (record (c.failingPosition == some position) (.bind position)
          (.bind position value)).run.run events := by
    cases value <;> rfl
  rw [recorded]
  by_cases refused : c.failingPosition = some position
  · rw [if_pos refused, beq_iff_eq.mpr refused]
    rfl
  · rw [if_neg refused, beq_eq_false_iff_ne.mpr refused]
    rfl

/-- Values are recorded as long as their positions are below the one that is refused. -/
theorem succeeds_bindAll (refuses : c.failingPosition = some failing) (position : Nat)
    (values : List Value) (below : position + values.length ≤ failing) (events : List Event) :
    c.connection.Succeeds events (Connection.Action.bindAll position values)
      (events ++ Event.bindAll position values) := by
  induction values generalizing position events with
  | nil =>
    show c.connection.Succeeds events [] (events ++ [])
    rw [List.append_nil]
    exact .nil _
  | cons value rest ih =>
    rw [List.length_cons] at below
    have taken : c.failingPosition ≠ some position := by
      intro refused
      have same : failing = position := Option.some.inj (refuses.symm.trans refused)
      omega
    have first := c.run_bind position value events
    rw [if_neg taken] at first
    have later := ih (position + 1) (by omega) (events ++ [.bind position value])
    rw [List.append_assoc] at later
    exact .cons first later

/-- **A refused position** ends the recording: what is recorded is the bindings before it, and that
    the statement was closed. -/
theorem loads_refused {i : Nat} (prepares : c.failsPrepare = false)
    (refuses : c.failingPosition = some (i + 1)) (within : i < p.values.length) :
    ∃ made, c.connection.Loads p [] (.error (.bind (i + 1)))
      (.prepare p.text :: Event.bindAll 1 (p.values.take i) ++ [.close]) made := by
  have prepared : (c.connection.perform (.prepare p.text)).run.run []
      = (.ok (), [.prepare p.text]) := by
    show (record c.failsPrepare _ _).run.run [] = _
    rw [prepares]
    rfl
  have below : 1 + (p.values.take i).length ≤ i + 1 := by
    rw [List.length_take]
    omega
  have before := succeeds_bindAll refuses 1 (p.values.take i) below [.prepare p.text]
  have fails := c.run_bind (i + 1) p.values[i]
    ([.prepare p.text] ++ Event.bindAll 1 (p.values.take i))
  rw [if_pos refuses] at fails
  exact ⟨_, .broken (Connection.filling_split p within) (.cons prepared before) fails⟩

end Recorder

/-! ## The calls -/

namespace Connection

/-- **The calls of loading.**  On any connection, loading a plan makes the calls that `Loads` tells
    and ends as it tells: the calls that were made can be read off the traced connection, and the
    record changes neither the result nor the state.  On a recorder that refuses a position, the
    values recorded are those before the position. -/
theorem load_calls {σ ε : Type} (c : Connection σ ε) (p : Plan) (s : σ) :
    (∀ result t made, (c.traced.load p).run.run (s, []) = (result, (t, made))
        ↔ c.Loads p s result t made)
      ∧ (∀ result t, (c.load p).run.run s = (result, t) ↔ ∃ made, c.Loads p s result t made)
      ∧ ∀ (recorder : Recorder) (failing : Nat), recorder.failsPrepare = false →
          recorder.failingPosition = some failing → 1 ≤ failing → failing ≤ p.values.length →
          recorder.transcript p
            = (.prepare p.text :: Recorder.Event.bindAll 1 (p.values.take (failing - 1)) ++ [.close],
                some (.bind failing)) := by
  have noted : ∀ {result t made}, c.Loads p s result t made →
      (c.traced.load p).run.run (s, []) = (result, (t, made)) := by
    intro result t made loads
    exact (loads.traced []).run_eq
  obtain ⟨result₀, t₀, made₀, loads₀⟩ := c.exists_loads p s
  refine ⟨fun result t made => ⟨fun run => ?_, noted⟩,
    fun result t => ⟨fun run => ?_, fun ⟨made, loads⟩ => loads.run_eq⟩, ?_⟩
  · have same : (result₀, (t₀, made₀)) = (result, (t, made)) := (noted loads₀).symm.trans run
    obtain ⟨rfl, left⟩ := Prod.mk.inj same
    obtain ⟨rfl, rfl⟩ := Prod.mk.inj left
    exact loads₀
  · have same : (result₀, t₀) = (result, t) := loads₀.run_eq.symm.trans run
    obtain ⟨rfl, rfl⟩ := Prod.mk.inj same
    exact ⟨made₀, loads₀⟩
  · intro recorder failing prepares refuses first last
    obtain ⟨i, rfl⟩ : ∃ i, failing = i + 1 := ⟨failing - 1, by omega⟩
    obtain ⟨made, loads⟩ := Recorder.loads_refused prepares refuses (Nat.lt_of_succ_le last)
    unfold Recorder.transcript
    rw [loads.run_eq]
    rfl

/-- A plan of three values and a fetch size. -/
def threeValues : Plan where
  text := "METRIC_NAME = ? AND SERVER_TIME >= ? AND UUID = ?"
  values := [.text "cpu_user", .integer 7, .bytes [1]]
  fetchSize := some 50
  granularity := none
  table := .transient
  request := { kind := .plain }

/-- A recorder that refuses the second position has recorded the first value when the statement is
    closed; the call that it refused was made. -/
theorem load_calls_refused :
    Recorder.transcript { failingPosition := some 2 } threeValues
        = ([.prepare threeValues.text, .bind 1 (.text "cpu_user"), .close], some (.bind 2))
      ∧ ∃ t, (Recorder.connection { failingPosition := some 2 }).Loads threeValues []
          (.error (.bind 2)) t
          [.prepare threeValues.text, .bindText 1 "cpu_user", .bindInteger 2 7, .close] := by
  obtain ⟨calls, -, recorded⟩ :=
    load_calls (Recorder.connection { failingPosition := some 2 }) threeValues []
  exact ⟨recorded { failingPosition := some 2 } 2 rfl rfl (by decide) (by decide),
    _, (calls _ _ _).mp rfl⟩

end Connection

end Rollup
