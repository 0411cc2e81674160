/-
  The parts of a statement.

  A statement is a head, a condition, an order and a cap on its rows, written one after the other.
  Whatever is absent leaves no trace in the text.
-/
import Rollup.Sql.Clause

namespace Rollup.Sql

/-- A column to order by. -/
structure OrderTerm where
  column : String
  descending : Bool := false
  deriving DecidableEq

/-- The text of a column to order by. -/
def OrderTerm.text (t : OrderTerm) : String :=
  if t.descending then t.column ++ " DESC" else t.column

/-- The order as part of a statement. -/
def orderText (terms : List OrderTerm) : String :=
  if terms.isEmpty then ""
  else " ORDER BY " ++ String.intercalate ", " (terms.map OrderTerm.text)

/-- The cap as part of a statement. -/
def capText : Option Int → String
  | some rows => " LIMIT " ++ toString rows
  | none => ""

/-- A statement by its parts. -/
structure Select where
  head : String
  filter : Clause := {}
  order : List OrderTerm := []
  cap : Option Int := none
  deriving DecidableEq

/-- The text of a statement. -/
def Select.text (s : Select) : String :=
  s.head ++ s.filter.whereText ++ orderText s.order ++ capText s.cap

end Rollup.Sql
