/-
  Base64 with the standard alphabet, padded.

  Three bytes make four digits.  A last group of one or two bytes makes two or three digits and is
  filled up with `=`, so the length is always a multiple of four.
-/
namespace Rollup.Text.Base64

/-- The digits in the order of their values: `A` to `Z`, `a` to `z`, `0` to `9`, `+`, `/`. -/
def alphabet : List Char :=
  "ABCDEFGHIJKLMNOPQRSTUVWXYZabcdefghijklmnopqrstuvwxyz0123456789+/".toList

/-- The digit of a six-bit value. -/
def digit (n : Nat) : Char := alphabet.getD n 'A'

/-- The digits of a byte string, the last group padded. -/
def encodeBytes : List UInt8 → List Char
  | [] => []
  | [a] => [digit (a.toNat / 4), digit (a.toNat % 4 * 16), '=', '=']
  | [a, b] =>
    [digit (a.toNat / 4), digit (a.toNat % 4 * 16 + b.toNat / 16), digit (b.toNat % 16 * 4), '=']
  | a :: b :: c :: rest =>
    digit (a.toNat / 4) :: digit (a.toNat % 4 * 16 + b.toNat / 16)
      :: digit (b.toNat % 16 * 4 + c.toNat / 64) :: digit (c.toNat % 64) :: encodeBytes rest

/-- The text of a byte string. -/
def encode (bytes : List UInt8) : String := String.ofList (encodeBytes bytes)

example : encode [0xde, 0xad] = "3q0=" := by decide +kernel
example : encode [0xff] = "/w==" := by decide +kernel
example : encode [0, 16, 131] = "ABCD" := by decide +kernel

end Rollup.Text.Base64
