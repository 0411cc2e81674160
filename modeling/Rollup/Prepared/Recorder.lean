/-
  A connection that records.

  It keeps the calls made on it and can be told to refuse some.  A call that is refused is not
  recorded.
-/
import Rollup.Prepared

namespace Rollup

/-- A call as it was made. -/
inductive Recorder.Event
  | prepare (text : String)
  | bind (position : Nat) (value : Value)
  | fetchSize (rows : Int)
  | close
  deriving DecidableEq

/-- Which calls are refused. -/
structure Recorder where
  failingPosition : Option Nat := none
  failsPrepare : Bool := false
  failsFetchSize : Bool := false
  deriving DecidableEq

namespace Recorder

/-- A call that was refused. -/
inductive Fault
  | prepare
  | bind (position : Nat)
  | fetchSize
  deriving DecidableEq

/-- The wording of a refusal. -/
def Fault.message : Fault → String
  | prepare => "prepare rejected"
  | bind position => "bind " ++ toString position ++ " rejected"
  | fetchSize => "fetch size rejected"

/-- Records a call, or refuses it. -/
def record (refused : Bool) (fault : Fault) (event : Event) : Call (List Event) Fault Unit :=
  if refused then throw fault else modify (· ++ [event])

/-- Records the binding of a value. -/
def recordBind (c : Recorder) (position : Nat) (value : Value) : Call (List Event) Fault Unit :=
  record (c.failingPosition == some position) (.bind position) (.bind position value)

/-- The connection that records. -/
def connection (c : Recorder) : Connection (List Event) Fault where
  prepare text := record c.failsPrepare .prepare (.prepare text)
  bindBytes position value := c.recordBind position (.bytes value)
  bindText position value := c.recordBind position (.text value)
  bindInteger position value := c.recordBind position (.integer value)
  setFetchSize rows := record c.failsFetchSize .fetchSize (.fetchSize rows)
  close := modify (· ++ [.close])

/-- The calls that preparing a plan makes, and the refusal that ended them. -/
def transcript (c : Recorder) (p : Plan) : List Event × Option Fault :=
  match (c.connection.load p).run.run [] with
  | (.ok _, events) => (events, none)
  | (.error fault, events) => (events, some fault)

end Recorder

end Rollup
