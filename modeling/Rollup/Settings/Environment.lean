/-
  Settings from the environment.

  Sixteen variables, matched by name in any letter case, may override the standard settings.  They
  are read in the order of the environment, and the first problem ends the reading: a variable met
  for the second time is refused before its value is looked at.  Only when all have been read are
  the values examined, in a fixed order, for being positive where they must be.
-/
import Rollup.Settings
import Rollup.Text.Lowercase
import Rollup.Text.Numeral

namespace Rollup

/-! ## The environment -/

/-- Variables and their values, in the order in which they were first set. -/
abbrev Environment := List (String × String)

/-- Sets a variable: a new one goes to the end, a known one gets the value where it stands. -/
def Environment.set : Environment → String → String → Environment
  | [], name, value => [(name, value)]
  | (n, v) :: rest, name, value =>
    if n = name then (n, value) :: rest else (n, v) :: Environment.set rest name value

namespace Settings

/-! ## Variables -/

/-- The variables that hold an integer. -/
inductive Quantity
  | resultLimit
  | defaultLimit
  | fetchSize
  | hostSecondInterval
  | clusterSecondInterval
  | hostMinuteInterval
  | clusterMinuteInterval
  | hostSecondRetention
  | hostMinuteRetention
  | hostHourRetention
  | hostDayRetention
  | clusterSecondRetention
  | clusterMinuteRetention
  | clusterHourRetention
  | clusterDayRetention
  deriving DecidableEq

/-- The variables that are read. -/
inductive Variable
  | quantity (q : Quantity)
  | sortMergeJoin
  deriving DecidableEq

/-- The name of an integer variable. -/
def Quantity.name : Quantity → String
  | resultLimit => "METRICS_RESULT_LIMIT"
  | defaultLimit => "METRICS_DEFAULT_LIMIT"
  | fetchSize => "METRICS_FETCH_SIZE"
  | hostSecondInterval => "METRICS_HOST_SECOND_INTERVAL"
  | clusterSecondInterval => "METRICS_CLUSTER_SECOND_INTERVAL"
  | hostMinuteInterval => "METRICS_HOST_MINUTE_INTERVAL"
  | clusterMinuteInterval => "METRICS_CLUSTER_MINUTE_INTERVAL"
  | hostSecondRetention => "METRICS_HOST_RAW_TTL"
  | hostMinuteRetention => "METRICS_HOST_MINUTE_TTL"
  | hostHourRetention => "METRICS_HOST_HOUR_TTL"
  | hostDayRetention => "METRICS_HOST_DAY_TTL"
  | clusterSecondRetention => "METRICS_CLUSTER_SECOND_TTL"
  | clusterMinuteRetention => "METRICS_CLUSTER_MINUTE_TTL"
  | clusterHourRetention => "METRICS_CLUSTER_HOUR_TTL"
  | clusterDayRetention => "METRICS_CLUSTER_DAY_TTL"

/-- The width in which an integer variable must fit. -/
def Quantity.width : Quantity → Text.Numeral.Width
  | fetchSize => Text.Numeral.short
  | _ => Text.Numeral.long

namespace Variable

/-- The name of a variable. -/
def name : Variable → String
  | quantity q => q.name
  | sortMergeJoin => "METRICS_SORT_MERGE_JOIN"

/-- All variables. -/
def all : List Variable :=
  [.quantity .resultLimit, .quantity .defaultLimit, .quantity .fetchSize, .sortMergeJoin,
    .quantity .hostSecondInterval, .quantity .clusterSecondInterval,
    .quantity .hostMinuteInterval, .quantity .clusterMinuteInterval,
    .quantity .hostSecondRetention, .quantity .hostMinuteRetention,
    .quantity .hostHourRetention, .quantity .hostDayRetention,
    .quantity .clusterSecondRetention, .quantity .clusterMinuteRetention,
    .quantity .clusterHourRetention, .quantity .clusterDayRetention]

theorem mem_all (v : Variable) : v ∈ all := by
  rcases v with q | _
  · cases q <;> decide
  · decide

/-- The name in the form in which names are compared. -/
def key (v : Variable) : String := Text.lowercaseAscii v.name

/-- The variable of that name, whatever its letter case. -/
def named? (name : String) : Option Variable :=
  all.find? fun v => v.key == Text.lowercase name

end Variable

/-! ## Reading values -/

/-- What a variable was found to hold. -/
inductive Reading
  | integer (q : Quantity) (value : Int)
  | sortMergeJoin (on : Bool)
  deriving DecidableEq

/-- The variable that was read. -/
def Reading.subject : Reading → Variable
  | integer q _ => .quantity q
  | sortMergeJoin _ => .sortMergeJoin

/-- Why a value cannot be read. -/
inductive Unreadable
  | numeral (fault : Text.Numeral.Fault)
  | notBoolean
  deriving DecidableEq

/-- The wording of it. -/
def Unreadable.message : Unreadable → String
  | numeral fault => fault.message
  | notBoolean => "provided string was not `true` or `false`"

/-- Reads the value of a variable. -/
def Variable.read (value : String) : Variable → Except Unreadable Reading
  | quantity q =>
    match Text.Numeral.read q.width value with
    | .ok n => .ok (.integer q n)
    | .error fault => .error (.numeral fault)
  | sortMergeJoin =>
    if value = "true" then .ok (.sortMergeJoin true)
    else if value = "false" then .ok (.sortMergeJoin false)
    else .error .notBoolean

/-- Why no settings come out of an environment. -/
inductive Problem
  | duplicate (v : Variable)
  | unreadable (reason : Unreadable) (value name : String)
  | notPositive (q : Quantity)
  deriving DecidableEq

/-- The wording of a problem. -/
def Problem.message : Problem → String
  | duplicate v =>
    "failed to parse METRICS_* environment variables: duplicate field `" ++ v.key ++ "`"
  | unreadable reason value name =>
    "failed to parse METRICS_* environment variables: " ++ reason.message
      ++ " while parsing value '" ++ value ++ "' provided by " ++ name
  | notPositive q => q.name ++ " must be positive"

/-- Reads the variables of an environment onto the readings made so far. -/
def readOnto (readings : List Reading) : Environment → Except Problem (List Reading)
  | [] => .ok readings
  | (name, value) :: rest =>
    match Variable.named? name with
    | none => readOnto readings rest
    | some v =>
      if readings.any fun r => r.subject == v then .error (.duplicate v)
      else
        match v.read value with
        | .error reason => .error (.unreadable reason value name)
        | .ok reading => readOnto (readings ++ [reading]) rest

/-! ## Putting the settings together -/

/-- The integer read for a quantity. -/
def integer? (readings : List Reading) (q : Quantity) : Option Int :=
  readings.findSome? fun
    | .integer q' n => if q' = q then some n else none
    | .sortMergeJoin _ => none

/-- The truth value read for the join. -/
def join? (readings : List Reading) : Option Bool :=
  readings.findSome? fun
    | .sortMergeJoin on => some on
    | .integer _ _ => none

/-- The settings that the readings describe, the standard ones where nothing was read. -/
def ofReadings (readings : List Reading) : Settings :=
  let get q (default : Int) := (integer? readings q).getD default
  let resultLimit := get .resultLimit standard.resultLimit
  let host := standard.hostRetention
  let cluster := standard.clusterRetention
  { resultLimit
    defaultLimit := max 1 (get .defaultLimit resultLimit)
    defaultFetchSize := (integer? readings .fetchSize).filter fun n => 0 < n
    sortMergeJoin := (join? readings).getD standard.sortMergeJoin
    hostIntervals :=
      { second := get .hostSecondInterval standard.hostIntervals.second
        minute := get .hostMinuteInterval standard.hostIntervals.minute }
    clusterIntervals :=
      { second := get .clusterSecondInterval standard.clusterIntervals.second
        minute := get .clusterMinuteInterval standard.clusterIntervals.minute }
    hostRetention :=
      { seconds := get .hostSecondRetention host.seconds
        minutes := get .hostMinuteRetention host.minutes
        hours := get .hostHourRetention host.hours
        days := get .hostDayRetention host.days }
    clusterRetention :=
      { seconds := get .clusterSecondRetention cluster.seconds
        minutes := get .clusterMinuteRetention cluster.minutes
        hours := get .clusterHourRetention cluster.hours
        days := get .clusterDayRetention cluster.days } }

/-- The figures that must be positive, in the order in which they are examined. -/
def mustBePositive (s : Settings) : List (Quantity × Int) :=
  [(.resultLimit, s.resultLimit),
    (.hostSecondInterval, s.hostIntervals.second),
    (.clusterSecondInterval, s.clusterIntervals.second),
    (.hostMinuteInterval, s.hostIntervals.minute),
    (.clusterMinuteInterval, s.clusterIntervals.minute)]

/-- The settings themselves, unless a figure that must be positive is not. -/
def checked (s : Settings) : Except Problem Settings :=
  match s.mustBePositive.find? fun (_, n) => decide (n < 1) with
  | some (q, _) => .error (.notPositive q)
  | none => .ok s

/-- The settings that an environment asks for. -/
def ofEnvironment (e : Environment) : Except Problem Settings :=
  (readOnto [] e).bind fun readings => (ofReadings readings).checked

example : ofEnvironment [] = .ok standard := by rfl

end Settings

end Rollup
