/-
  Reading an integer from its decimal text.

  The grammar is one optional sign, `+` or `-`, and then ASCII digits to the end.  Reading goes
  from the left and stops at the first thing wrong, which makes the reason definite when two are
  wrong: a digit that leaves the range before a foreign character is met reads as too large (or
  too small), the other way round as an invalid digit.
-/
namespace Rollup.Text.Numeral

/-- Why a text is not an integer of the wanted range. -/
inductive Fault
  | empty
  | invalidDigit
  | tooLarge
  | tooSmall
  deriving DecidableEq

/-- The fault as it is reported. -/
def Fault.message : Fault → String
  | .empty => "cannot parse integer from empty string"
  | .invalidDigit => "invalid digit found in string"
  | .tooLarge => "number too large to fit in target type"
  | .tooSmall => "number too small to fit in target type"

/-- The value of an ASCII digit. -/
def digit? (c : Char) : Option Nat :=
  if c.isDigit then some (c.toNat - '0'.toNat) else none

/-- Reads digits onto the magnitude `read` so far; no digit may carry it past `limit`, which is
    reported as `fault`. -/
def readDigits (limit : Nat) (fault : Fault) (read : Nat) : List Char → Except Fault Nat
  | [] => .ok read
  | c :: rest =>
    match digit? c with
    | none => .error .invalidDigit
    | some d =>
      let grown := read * 10 + d
      if limit < grown then .error fault else readDigits limit fault grown rest

/-- The range of a signed word, which reaches one further down than up. -/
structure Width where
  /-- The greatest integer of the range. -/
  greatest : Nat
  deriving DecidableEq

/-- The magnitude of the least integer of the range. -/
def Width.least (w : Width) : Nat := w.greatest + 1

/-- Words of 64 bits. -/
def long : Width := ⟨9223372036854775807⟩

/-- Words of 32 bits. -/
def short : Width := ⟨2147483647⟩

/-- Reads an integer of the given width. -/
def readChars (w : Width) : List Char → Except Fault Int
  | [] => .error .empty
  | ['+'] => .error .invalidDigit
  | ['-'] => .error .invalidDigit
  | '+' :: digits => (readDigits w.greatest .tooLarge 0 digits).map Int.ofNat
  | '-' :: digits => (readDigits w.least .tooSmall 0 digits).map fun n => -Int.ofNat n
  | digits => (readDigits w.greatest .tooLarge 0 digits).map Int.ofNat

/-- Reads an integer of the given width from a text. -/
def read (w : Width) (s : String) : Except Fault Int := readChars w s.toList

example : read short "-2147483648" = .ok (-2147483648) := by cbv
example : read short "2147483648x" = .error .tooLarge := by cbv
example : read short "214748364x8" = .error .invalidDigit := by cbv
example : read long "+" = .error .invalidDigit := by cbv

end Rollup.Text.Numeral
