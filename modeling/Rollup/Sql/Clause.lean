/-
  Clauses: statement text together with the values for its placeholders.

  A `?` in the text waits for a value, the first `?` for the first value and so on.  Clauses are
  joined by `and`, which writes ` AND ` only between two texts and passes over a clause without
  text, its values included.
-/
import Rollup.Value

namespace Rollup.Sql

/-- The character that waits for a value. -/
def placeholder : Char := '?'

/-- How many values a text waits for. -/
def placeholderCount (text : String) : Nat := text.toList.count placeholder

/-- Text with the values for its placeholders. -/
structure Clause where
  text : String := ""
  values : List Value := []
  deriving DecidableEq

namespace Clause

/-- The clause that says nothing. -/
def empty : Clause := {}

/-- Has it no text? -/
def isEmpty (c : Clause) : Bool := c.text == ""

/-- How many values it waits for. -/
def placeholders (c : Clause) : Nat := placeholderCount c.text

/-- Both clauses at once. -/
def and (c d : Clause) : Clause :=
  if d.isEmpty then c
  else
    { text := if c.isEmpty then d.text else c.text ++ " AND " ++ d.text
      values := c.values ++ d.values }

/-- All the clauses at once. -/
def all (cs : List Clause) : Clause := cs.foldl and empty

/-- The clause as the condition of a statement: nothing if it says nothing. -/
def whereText (c : Clause) : String := if c.isEmpty then "" else " WHERE " ++ c.text

@[simp] theorem and_empty (c : Clause) : c.and empty = c := rfl

example : (all [⟨"a = ?", [.integer 1]⟩, ⟨"", [.integer 2]⟩, ⟨"b", []⟩]).text = "a = ? AND b" := by
  decide +kernel

end Clause

end Rollup.Sql
