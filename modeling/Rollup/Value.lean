/-
  Values bound to the placeholders of a statement.

  A value has one of three types, and each type has its own way onto a prepared statement: bytes
  (a series identity), text (a name, a host, an id) or a 64-bit integer (a time).
-/
import Rollup.Document
import Rollup.Text.Base64

namespace Rollup

/-- A byte string. -/
abbrev Bytes := List UInt8

/-- A value for one placeholder. -/
inductive Value
  | bytes (value : Bytes)
  | text (value : String)
  | integer (value : Int)
  deriving DecidableEq

namespace Value

/-- The text of a text value. -/
def text? : Value → Option String
  | text value => some value
  | _ => none

/-- The document of a value: its type as a tag, and its payload; bytes are written in Base64. -/
def document : Value → Document
  | bytes value => .record [("t", .text "bytes"), ("v", .text (Text.Base64.encode value))]
  | text value => .record [("t", .text "text"), ("v", .text value)]
  | integer value => .record [("t", .text "big_int"), ("v", .integer value)]

end Value

end Rollup
