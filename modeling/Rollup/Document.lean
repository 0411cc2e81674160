/-
  Documents: values as they are handed to other programs.

  A document is null, a truth value, a decimal number, a text, a list or a record; the fields of a
  record keep the order in which they were written.  What is serialized becomes a document here,
  and how a document is spelled in bytes is left to whoever sends it.
-/
namespace Rollup

/-- A structured value.  `number digits places` is the decimal `digits / 10 ^ places`. -/
inductive Document
  | null
  | flag (value : Bool)
  | number (digits : Int) (places : Nat)
  | text (value : String)
  | list (items : List Document)
  | record (fields : List (String × Document))
  deriving Inhabited

namespace Document

/-- The document of an integer. -/
def integer (n : Int) : Document := .number n 0

/-- A field that is left out when it has no value. -/
def field? (key : String) : Option Document → List (String × Document)
  | some value => [(key, value)]
  | none => []

/-- The tag that a document names: a bare text, or a record of that one field holding null. -/
def tag? : Document → Option String
  | .text t => some t
  | .record [(t, .null)] => some t
  | _ => none

end Document

end Rollup
