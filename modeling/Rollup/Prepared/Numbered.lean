/-
  Statements with numbered placeholders.

  The `k`-th `?` of a text is written `$k`.  A statement in this form takes its values strictly in
  order: position 1 first, then 2, and no more than it has placeholders.  Only when every
  placeholder has its value does it give them up as a query.

  The crux is the order of events in `Numbered.bind`: the count moves on to a position only once
  that position was found right, and the value follows the count, so a refusal leaves both alone.
-/
import Rollup.Prepared
import Rollup.Text.Quoted

namespace Rollup

/-! ## Numbering -/

namespace Numbering

/-- The text of the `k`-th placeholder. -/
def label (k : Nat) : List Char := '$' :: (Nat.repr k).toList

/-- Numbers the placeholders of a text of which `k` were numbered before. -/
def numberFrom (k : Nat) : List Char → List Char
  | [] => []
  | c :: rest =>
    if c = Sql.placeholder then label (k + 1) ++ numberFrom (k + 1) rest
    else c :: numberFrom k rest

/-- The text with its placeholders numbered. -/
def number (text : String) : String := String.ofList (numberFrom 0 text.toList)

example : number "UUID IN (?, ?) AND t >= ?" = "UUID IN ($1, $2) AND t >= $3" := by decide +kernel

end Numbering

/-! ## Statements -/

/-- A statement with numbered placeholders and the values bound so far. -/
structure Numbered where
  text : String
  expected : Nat
  /-- How many values are bound. -/
  bound : Nat := 0
  values : List Value := []
  fetchSize : Option Int := none
  deriving DecidableEq

namespace Numbered

/-- Why a statement does not take or give up its values. -/
inductive Fault
  | outOfOrder (expected got : Nat)
  | arity (expected bound : Nat)
  /-- There is no statement. -/
  | missing
  deriving DecidableEq

/-- The wording of a fault. -/
def Fault.message : Fault → String
  | outOfOrder expected got =>
    "bind position " ++ toString got ++ " out of order, expected " ++ toString expected
  | arity expected bound =>
    "statement expects " ++ toString expected ++ " binds but " ++ toString bound
      ++ " were supplied"
  | missing => "no statement is prepared"

/-- A text made ready to take values. -/
def ofText (text : String) : Numbered where
  text := Numbering.number text
  expected := Sql.placeholderCount text

/-- Moves the count on to a position: only the one after the last bound one will do. -/
def advance (n : Numbered) (position : Nat) : Except Fault Numbered :=
  if position ≠ n.bound + 1 then .error (.outOfOrder (n.bound + 1) position)
  else if n.expected < position then .error (.arity n.expected position)
  else .ok { n with bound := position }

/-- Binds a value to a position. -/
def bind (n : Numbered) (position : Nat) (value : Value) : Except Fault Numbered :=
  (n.advance position).map fun n => { n with values := n.values ++ [value] }

/-- The values of the query, once none is missing. -/
def query (n : Numbered) : Except Fault (List Value) :=
  if n.bound ≠ n.expected then .error (.arity n.expected n.bound) else .ok n.values

/-! ## A slot for one statement -/

/-- What can be done with the slot. -/
inductive Step
  | prepare (text : String)
  | bind (position : Nat) (value : Value)
  | fetchSize (rows : Int)
  | close
  | query
  deriving DecidableEq

/-- What comes of it. -/
inductive Result
  | prepared (text : String)
  | done
  | query (values : List Value)
  | failed (fault : Fault)
  deriving DecidableEq

/-- A slot that holds one statement at most. -/
abbrev Slot := Option Numbered

/-- Does a step on the slot.  Preparing replaces the statement; closing it and asking for its query
    take it out, whatever comes of that; a value that is refused changes nothing. -/
def Slot.step : Slot → Step → Result × Slot
  | _, .prepare text => (.prepared (ofText text).text, some (ofText text))
  | none, _ => (.failed .missing, none)
  | some n, .bind position value =>
    match n.bind position value with
    | .ok n' => (.done, some n')
    | .error fault => (.failed fault, some n)
  | some n, .fetchSize rows => (.done, some { n with fetchSize := some rows })
  | some _, .close => (.done, none)
  | some n, .query =>
    match n.query with
    | .ok values => (.query values, none)
    | .error fault => (.failed fault, none)

/-- Every result of a list of steps, with the slot as it was left. -/
def Slot.run (slot : Slot) : List Step → List (Result × Slot)
  | [] => []
  | step :: rest => slot.step step :: Slot.run (slot.step step).2 rest

/-! ## As a connection -/

/-- A step of the slot as a call. -/
def call (step : Step) : Call Slot Fault Unit := do
  let slot ← get
  let (result, next) := Slot.step slot step
  set next
  if let .failed fault := result then throw fault

/-- The connection whose statements have numbered placeholders. -/
def connection : Connection Slot Fault where
  prepare text := call (.prepare text)
  bindBytes position value := call (.bind position (.bytes value))
  bindText position value := call (.bind position (.text value))
  bindInteger position value := call (.bind position (.integer value))
  setFetchSize rows := call (.fetchSize rows)
  close := modify fun slot => (Slot.step slot .close).2

/-- The statement that preparing a plan leaves, or the fault that ended it. -/
def ofPlan (p : Plan) : Except Fault Numbered :=
  match (connection.load p).run.run none with
  | (.ok _, some n) => .ok n
  | (.ok _, none) => .error .missing
  | (.error fault, _) => .error fault

end Numbered

/-! ## Showing the values of a query -/

/-- A value as it is shown. -/
def Value.display : Value → String
  | .bytes value => "[" ++ String.intercalate ", " (value.map fun b => toString b.toNat) ++ "]"
  | .text value => Text.quote value
  | .integer value => toString value

/-- Values as they are shown: in brackets, with commas between. -/
def Value.displayAll (values : List Value) : String :=
  "[" ++ String.intercalate ", " (values.map Value.display) ++ "]"

example : Value.displayAll [.bytes [0, 255], .text "a", .integer 7] = "[[0, 255], \"a\", 7]" := by
  decide +kernel

end Rollup
