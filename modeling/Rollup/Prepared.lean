/-
  Preparing a plan on a connection.

  A connection is whatever can prepare a text and then take values for its placeholders, by
  position and by type.  Any of its calls may fail.  `Connection.load` makes the calls that a plan
  needs, in the order of its values, and stops at the first that fails; a statement that was
  prepared but not filled is closed before the error is passed on.
-/
import Rollup.Plan

namespace Rollup

/-- A call on a connection in state `σ` that may fail with an `ε`. -/
abbrev Call (σ ε : Type) := ExceptT ε (StateM σ)

/-- What a connection can do.  Its state holds the statement that is being prepared. -/
structure Connection (σ ε : Type) where
  prepare : String → Call σ ε Unit
  bindBytes : Nat → Bytes → Call σ ε Unit
  bindText : Nat → String → Call σ ε Unit
  bindInteger : Nat → Int → Call σ ε Unit
  setFetchSize : Int → Call σ ε Unit
  close : StateM σ Unit

namespace Connection

variable {σ ε : Type}

/-- Binds a value by the call for its type. -/
def bind (c : Connection σ ε) (position : Nat) : Value → Call σ ε Unit
  | .bytes value => c.bindBytes position value
  | .text value => c.bindText position value
  | .integer value => c.bindInteger position value

/-- Binds values to consecutive positions. -/
def bindFrom (c : Connection σ ε) (position : Nat) : List Value → Call σ ε Unit
  | [] => pure ()
  | value :: rest => do
    c.bind position value
    c.bindFrom (position + 1) rest

/-- Fills a prepared statement: all values from position 1, and then the fetch size. -/
def fill (c : Connection σ ε) (p : Plan) : Call σ ε Unit := do
  c.bindFrom 1 p.values
  if let some rows := p.fetchSize then c.setFetchSize rows

/-- Prepares a plan. -/
def load (c : Connection σ ε) (p : Plan) : Call σ ε Unit := do
  c.prepare p.text
  tryCatch (c.fill p) fun e => do
    c.close
    throw e

end Connection

end Rollup
