/-
  Reading Base64.

  The digits are read in groups of four.  Three of them can be filled up with `=` only at the end
  of a text, and the bits of its last digit that belong to no byte must be zero.  So read, Base64
  is the inverse of writing it, in both directions (`decode_eq_some`): every byte string is read
  back, whatever its length, and nothing else is read at all.

  The crux is that a group is three bytes or, from the other side, four digits, and that the
  cases of the writer, by how many bytes are left, are those of the reader, by how much is padding.
-/
import Rollup.Text.Base64

namespace Rollup.Text.Base64

/-! ## Digits -/

/-- The value of a digit. -/
def value? (c : Char) : Option Nat := alphabet.idxOf? c

theorem value?_digit {n : Nat} (six_bits : n < 64) : value? (digit n) = some n := by
  have each : ∀ n < 64, value? (digit n) = some n := by decide +kernel
  exact each n six_bits

theorem digit_ne_pad {n : Nat} (six_bits : n < 64) : digit n ≠ '=' := by
  have each : ∀ n < 64, digit n ≠ '=' := by decide +kernel
  exact each n six_bits

theorem value?_eq_some {c : Char} {n : Nat} (h : value? c = some n) : n < 64 ∧ digit n = c := by
  obtain ⟨within, at_place, -⟩ := List.idxOf?_eq_some_iff.mp h
  have size : alphabet.length = 64 := by decide +kernel
  refine ⟨size ▸ within, ?_⟩
  unfold digit
  rw [List.getD_eq_getElem?_getD, List.getElem?_eq_getElem within, Option.getD_some, at_place]

/-! ## Groups -/

/-- The bytes of a text in Base64. -/
def decodeChars : List Char → Option (List UInt8)
  | [] => some []
  | [a, b, '=', '='] => do
    let a ← value? a
    let b ← value? b
    if b % 16 = 0 then some [.ofNat (a * 4 + b / 16)] else none
  | [a, b, c, '='] => do
    let a ← value? a
    let b ← value? b
    let c ← value? c
    if c % 4 = 0 then some [.ofNat (a * 4 + b / 16), .ofNat (b % 16 * 16 + c / 4)] else none
  | a :: b :: c :: d :: rest => do
    let a ← value? a
    let b ← value? b
    let c ← value? c
    let d ← value? d
    let bytes ← decodeChars rest
    some (.ofNat (a * 4 + b / 16) :: .ofNat (b % 16 * 16 + c / 4) :: .ofNat (c % 4 * 64 + d) :: bytes)
  | _ => none

/-- The bytes of a text, if it is in Base64. -/
def decode (text : String) : Option (List UInt8) := decodeChars text.toList

/-! ## What was written -/

theorem ofNat_eq {a : UInt8} {n : Nat} (h : n = a.toNat) : UInt8.ofNat n = a := by
  rw [h, UInt8.ofNat_toNat]

/-- **What was written is read back.** -/
theorem decodeChars_encodeBytes (bytes : List UInt8) :
    decodeChars (encodeBytes bytes) = some bytes := by
  induction bytes using encodeBytes.induct with
  | case1 => rfl
  | case2 a =>
    have := a.toNat_lt
    have byte : a.toNat / 4 * 4 + a.toNat % 4 * 16 / 16 = a.toNat := by omega
    have nothing_left : a.toNat % 4 * 16 % 16 = 0 := by omega
    rw [encodeBytes, decodeChars, value?_digit (by omega), value?_digit (by omega)]
    show (if _ then _ else _) = _
    rw [if_pos nothing_left, ofNat_eq byte]
  | case3 a b =>
    have := a.toNat_lt
    have := b.toNat_lt
    have first : a.toNat / 4 * 4 + (a.toNat % 4 * 16 + b.toNat / 16) / 16 = a.toNat := by omega
    have second : (a.toNat % 4 * 16 + b.toNat / 16) % 16 * 16 + b.toNat % 16 * 4 / 4 = b.toNat := by
      omega
    have nothing_left : b.toNat % 16 * 4 % 4 = 0 := by omega
    have digit : digit (b.toNat % 16 * 4) ≠ '=' := digit_ne_pad (by omega)
    rw [encodeBytes, decodeChars, value?_digit (by omega), value?_digit (by omega),
      value?_digit (by omega)]
    · show (if _ then _ else _) = _
      rw [if_pos nothing_left, ofNat_eq first, ofNat_eq second]
    · exact digit
  | case4 a b c rest ih =>
    have := a.toNat_lt
    have := b.toNat_lt
    have := c.toNat_lt
    have first : a.toNat / 4 * 4 + (a.toNat % 4 * 16 + b.toNat / 16) / 16 = a.toNat := by omega
    have second : (a.toNat % 4 * 16 + b.toNat / 16) % 16 * 16
        + (b.toNat % 16 * 4 + c.toNat / 64) / 4 = b.toNat := by omega
    have third : (b.toNat % 16 * 4 + c.toNat / 64) % 4 * 64 + c.toNat % 64 = c.toNat := by omega
    have digit : digit (c.toNat % 64) ≠ '=' := digit_ne_pad (by omega)
    rw [encodeBytes, decodeChars, value?_digit (by omega), value?_digit (by omega),
      value?_digit (by omega), value?_digit (by omega), ih]
    · show some _ = _
      rw [ofNat_eq first, ofNat_eq second, ofNat_eq third]
    · exact fun _ pad _ => digit pad
    · exact fun pad _ => digit pad

theorem toNat_ofNat {n : Nat} (byte : n < 256) : (UInt8.ofNat n).toNat = n :=
  UInt8.toNat_ofNat_of_lt' byte

/-- **Nothing else is read.** -/
theorem encodeBytes_of_decodeChars {text : List Char} {bytes : List UInt8}
    (h : decodeChars text = some bytes) : encodeBytes bytes = text := by
  induction text using decodeChars.induct generalizing bytes with
  | case1 =>
    obtain rfl := Option.some.inj h
    rfl
  | case2 a b =>
    rw [decodeChars] at h
    obtain ⟨x, first, h⟩ := Option.bind_eq_some_iff.mp h
    obtain ⟨y, second, h⟩ := Option.bind_eq_some_iff.mp h
    obtain ⟨nothing_left, bytes⟩ := Option.ite_none_right_eq_some.mp h
    obtain rfl := Option.some.inj bytes
    obtain ⟨hx, rfl⟩ := value?_eq_some first
    obtain ⟨hy, rfl⟩ := value?_eq_some second
    have upper : (x * 4 + y / 16) / 4 = x := by omega
    have lower : (x * 4 + y / 16) % 4 * 16 = y := by omega
    rw [encodeBytes, toNat_ofNat (by omega), upper, lower]
  | case3 a b c digit =>
    rw [decodeChars] at h
    · obtain ⟨x, first, h⟩ := Option.bind_eq_some_iff.mp h
      obtain ⟨y, second, h⟩ := Option.bind_eq_some_iff.mp h
      obtain ⟨z, third, h⟩ := Option.bind_eq_some_iff.mp h
      obtain ⟨nothing_left, bytes⟩ := Option.ite_none_right_eq_some.mp h
      obtain rfl := Option.some.inj bytes
      obtain ⟨hx, rfl⟩ := value?_eq_some first
      obtain ⟨hy, rfl⟩ := value?_eq_some second
      obtain ⟨hz, rfl⟩ := value?_eq_some third
      have upper : (x * 4 + y / 16) / 4 = x := by omega
      have middle : (x * 4 + y / 16) % 4 * 16 + (y % 16 * 16 + z / 4) / 16 = y := by omega
      have lower : (y % 16 * 16 + z / 4) % 16 * 4 = z := by omega
      rw [encodeBytes, toNat_ofNat (by omega), toNat_ofNat (by omega), upper, middle, lower]
    · exact digit
  | case4 a b c d rest two one ih =>
    rw [decodeChars] at h
    · obtain ⟨x, first, h⟩ := Option.bind_eq_some_iff.mp h
      obtain ⟨y, second, h⟩ := Option.bind_eq_some_iff.mp h
      obtain ⟨z, third, h⟩ := Option.bind_eq_some_iff.mp h
      obtain ⟨w, fourth, h⟩ := Option.bind_eq_some_iff.mp h
      obtain ⟨others, later, h⟩ := Option.bind_eq_some_iff.mp h
      obtain rfl := Option.some.inj h
      obtain ⟨hx, rfl⟩ := value?_eq_some first
      obtain ⟨hy, rfl⟩ := value?_eq_some second
      obtain ⟨hz, rfl⟩ := value?_eq_some third
      obtain ⟨hw, rfl⟩ := value?_eq_some fourth
      have upper : (x * 4 + y / 16) / 4 = x := by omega
      have second : (x * 4 + y / 16) % 4 * 16 + (y % 16 * 16 + z / 4) / 16 = y := by omega
      have third : (y % 16 * 16 + z / 4) % 16 * 4 + (z % 4 * 64 + w) / 64 = z := by omega
      have lower : (z % 4 * 64 + w) % 64 = w := by omega
      rw [encodeBytes, toNat_ofNat (by omega), toNat_ofNat (by omega), toNat_ofNat (by omega),
        upper, second, third, lower, ih later]
    · exact two
    · exact one
  | case5 text _ _ _ _ =>
    rw [decodeChars] at h
    · exact nomatch h
    all_goals assumption

/-- **Reading is the inverse of writing**: a text is read as the bytes that are written as it. -/
theorem decode_eq_some {text : String} {bytes : List UInt8} :
    decode text = some bytes ↔ encode bytes = text := by
  unfold decode encode
  constructor
  · intro h
    rw [encodeBytes_of_decodeChars h, String.ofList_toList]
  · rintro rfl
    rw [String.toList_ofList, decodeChars_encodeBytes]

theorem decode_encode (bytes : List UInt8) : decode (encode bytes) = some bytes :=
  decode_eq_some.mpr rfl

example : decode "3q0=" = some [0xde, 0xad] := by decide +kernel
example : decode "3q1=" = none := by decide +kernel

end Rollup.Text.Base64
