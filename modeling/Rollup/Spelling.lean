/-
  Reading the words for granularities and statistics.

  People write them with white space around and in any ASCII case, and a statistic also with the
  underscores that tie it to a metric's name (`_avg`).  Programs send them as documents, in the
  exact spelling only.  A word that names nothing is reported in the form in which it was
  compared.
-/
import Rollup.PlanError
import Rollup.Text.Blank
import Rollup.Text.Lowercase

namespace Rollup

/-! ## Words as people write them -/

namespace Granularity

/-- The word for a granularity. -/
def word : Granularity → String
  | seconds => "seconds"
  | minutes => "minutes"
  | hours => "hours"
  | days => "days"

/-- The form of a text in which it is compared with the words. -/
def canonical (s : String) : String := Text.lowercaseAscii (Text.trim s)

/-- Reads a granularity. -/
def read (s : String) : Except PlanError Granularity :=
  match all.find? fun g => g.word == canonical s with
  | some g => .ok g
  | none => .error (.invalid (.unknownGranularity (canonical s)))

end Granularity

namespace Statistic

/-- The text without the underscores it begins with. -/
def dropUnderscores (s : String) : String := String.ofList (s.toList.dropWhile (· == '_'))

/-- The form of a text in which it is compared with the words. -/
def canonical (s : String) : String := Text.lowercaseAscii (dropUnderscores (Text.trim s))

/-- Reads a statistic; its words are its names. -/
def read (s : String) : Except PlanError Statistic :=
  match all.find? fun f => f.name == canonical s with
  | some f => .ok f
  | none => .error (.invalid (.unknownStatistic (canonical s)))

end Statistic

/-! ## Tags as programs send them -/

/-- The granularity that a document names exactly. -/
def Granularity.ofDocument? (d : Document) : Option Granularity :=
  d.tag?.bind fun t => all.find? fun g => g.name == t

/-- The statistic that a document names exactly. -/
def Statistic.ofDocument? (d : Document) : Option Statistic :=
  d.tag?.bind fun t => all.find? fun f => f.name == t

theorem Granularity.ofDocument?_document (g : Granularity) : ofDocument? g.document = some g := by
  cases g <;> decide

theorem Statistic.ofDocument?_document (f : Statistic) : ofDocument? f.document = some f := by
  cases f <;> decide

end Rollup
