/-
  Quoted text.

  A text is shown between double quotes.  The quote and the backslash are escaped by a backslash,
  and so is what would not show: the line feed, carriage return, tab and NUL by a letter, the
  other control characters of ASCII by their code in hexadecimal.  The texts shown are ASCII;
  beyond it nothing is escaped.
-/
namespace Rollup.Text

/-- A control character by its code, in braces. -/
def hexEscape (c : Char) : List Char :=
  "\\u\x7b".toList ++ Nat.toDigits 16 c.toNat ++ ['\x7d']

/-- A character as it is shown between quotes. -/
def escape (c : Char) : List Char :=
  match c with
  | '"' => ['\\', '"']
  | '\\' => ['\\', '\\']
  | '\n' => ['\\', 'n']
  | '\r' => ['\\', 'r']
  | '\t' => ['\\', 't']
  | '\x00' => ['\\', '0']
  | c => if c.toNat < 32 || c.toNat = 127 then hexEscape c else [c]

/-- The text in quotes. -/
def quote (s : String) : String := String.ofList ('"' :: s.toList.flatMap escape ++ ['"'])

example : quote "say \"hi\"\\\n" = "\"say \\\"hi\\\"\\\\\\n\"" := by decide +kernel

end Rollup.Text
