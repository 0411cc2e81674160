/-
  White space at the ends of a text.

  A blank is a character with the Unicode property White_Space; `trim` drops the blanks at both
  ends and touches nothing between.
-/
namespace Rollup.Text

/-- Is the character white space? -/
def isBlank (c : Char) : Bool :=
  let n := c.toNat
  (9 ≤ n && n ≤ 13) || n == 0x20 || n == 0x85 || n == 0xA0 || n == 0x1680
    || (0x2000 ≤ n && n ≤ 0x200A) || n == 0x2028 || n == 0x2029 || n == 0x202F
    || n == 0x205F || n == 0x3000

/-- The characters without the blanks at either end. -/
def trimChars (cs : List Char) : List Char :=
  ((cs.dropWhile isBlank).reverse.dropWhile isBlank).reverse

/-- The text without the blanks at either end. -/
def trim (s : String) : String := String.ofList (trimChars s.toList)

example : trim " \t days　" = "days" := by decide +kernel
example : trim " a b " = "a b" := by decide +kernel

end Rollup.Text
