/-
  The texts that are integers.

  A text denotes an integer if it has digits, after one sign at most, and nothing else; the digits
  are read in the base ten.  Such a text is read as what it denotes, where the width holds that;
  any other is refused, with one definite fault.

  The crux is that the reader may stop early, and that it does not matter when: digits only ever
  make a magnitude grow, so the magnitude leaves the range before the first foreign character just
  if that of all the digits before it does (`readDigits_eq`).
-/
import Mathlib.Data.List.TakeWhile
import Rollup.Text.Numeral

namespace Rollup.Text.Numeral

/-! ## The language -/

/-- What may stand before the digits. -/
inductive Sign
  | absent
  | plus
  | minus
  deriving DecidableEq

/-- The sign that a text begins with. -/
def signOf : List Char → Sign
  | '+' :: _ => .plus
  | '-' :: _ => .minus
  | _ => .absent

/-- The text after its sign. -/
def unsigned : List Char → List Char
  | '+' :: cs => cs
  | '-' :: cs => cs
  | cs => cs

/-- The integer with that sign and a magnitude. -/
def Sign.apply : Sign → Nat → Int
  | minus, n => -Int.ofNat n
  | plus, n | absent, n => Int.ofNat n

/-- The magnitude that digits stand for. -/
def magnitude (digits : List Char) : Nat := Nat.ofDigitChars 10 digits 0

/-- A text denotes an integer: one or more digits, after one sign at most. -/
structure Denotes (cs : List Char) (n : Int) : Prop where
  some_digit : unsigned cs ≠ []
  digits : ∀ c ∈ unsigned cs, c.isDigit = true
  value : n = (signOf cs).apply (magnitude (unsigned cs))

/-- The integers of a width. -/
def Width.Holds (w : Width) (n : Int) : Prop := -(w.greatest + 1) ≤ n ∧ n ≤ w.greatest

/-- The digits that a text begins with, after its sign. -/
def leading (cs : List Char) : List Char := (unsigned cs).takeWhile Char.isDigit

/-- What is wrong with a text.  A magnitude out of the range is seen before a foreign character
    that comes after it. -/
inductive Faulty (w : Width) : List Char → Fault → Prop
  | empty : Faulty w [] .empty
  | tooLarge {cs : List Char} (unnegated : signOf cs ≠ .minus)
    (excess : w.greatest < magnitude (leading cs)) : Faulty w cs .tooLarge
  | tooSmall {cs : List Char} (negated : signOf cs = .minus)
    (excess : w.greatest + 1 < magnitude (leading cs)) : Faulty w cs .tooSmall
  | invalidDigit {cs : List Char} (some_char : cs ≠ [])
    (within : w.Holds ((signOf cs).apply (magnitude (leading cs))))
    (foreign : unsigned cs = [] ∨ ∃ c ∈ unsigned cs, c.isDigit = false) :
    Faulty w cs .invalidDigit

/-! ## Reading digits -/

theorem digit?_of_isDigit {c : Char} (digit : c.isDigit = true) :
    digit? c = some (c.toNat - '0'.toNat) :=
  if_pos digit

theorem digit?_of_not_isDigit {c : Char} (foreign : c.isDigit = false) : digit? c = none :=
  if_neg (by simp [foreign])

/-- Digits make a magnitude grow. -/
theorem le_ofDigitChars (ds : List Char) (read : Nat) : read ≤ Nat.ofDigitChars 10 ds read := by
  induction ds generalizing read with
  | nil => exact Nat.le_refl read
  | cons d ds ih =>
    rw [Nat.ofDigitChars_cons]
    exact Nat.le_trans (by omega) (ih _)

/-- **Reading digits** ends with the fault if the digits at the beginning go past the limit, and
    with a foreign character if there is one. -/
theorem readDigits_eq {limit : Nat} {fault : Fault} {read : Nat} (within : read ≤ limit)
    (cs : List Char) :
    readDigits limit fault read cs
      = if limit < Nat.ofDigitChars 10 (cs.takeWhile Char.isDigit) read then .error fault
        else if cs.all Char.isDigit then .ok (Nat.ofDigitChars 10 cs read)
        else .error .invalidDigit := by
  induction cs generalizing read with
  | nil => simp [readDigits, Nat.not_lt.mpr within]
  | cons c cs ih =>
    unfold readDigits
    by_cases digit : c.isDigit = true
    · have grows := le_ofDigitChars (cs.takeWhile Char.isDigit) (10 * read + (c.toNat - '0'.toNat))
      rw [digit?_of_isDigit digit, List.takeWhile_cons_of_pos digit, Nat.ofDigitChars_cons,
        Nat.ofDigitChars_cons]
      simp only [Nat.mul_comm read 10]
      by_cases excess : limit < 10 * read + (c.toNat - '0'.toNat)
      · rw [if_pos excess, if_pos (Nat.lt_of_lt_of_le excess grows)]
      · rw [if_neg excess, ih (Nat.not_lt.mp excess)]
        simp only [List.all_cons, digit, Bool.true_and]
    · have foreign : c.isDigit = false := Bool.eq_false_iff.mpr digit
      rw [digit?_of_not_isDigit foreign, List.takeWhile_cons_of_neg digit, Nat.ofDigitChars_nil,
        if_neg (Nat.not_lt.mpr within), List.all_cons, foreign, Bool.false_and,
        if_neg Bool.false_ne_true]

/-! ## Reading texts -/

/-- How far a magnitude with that sign may go in a width. -/
def Sign.limit (w : Width) : Sign → Nat
  | minus => w.least
  | plus | absent => w.greatest

/-- What is said of a magnitude that goes further. -/
def Sign.fault : Sign → Fault
  | minus => .tooSmall
  | plus | absent => .tooLarge

/-- A width holds an integer if its magnitude stays within the limit. -/
theorem Width.holds_apply {w : Width} (sign : Sign) (n : Nat) :
    w.Holds (sign.apply n) ↔ n ≤ sign.limit w := by
  cases sign with
  | minus =>
    show -((w.greatest : Int) + 1) ≤ -(n : Int) ∧ -(n : Int) ≤ w.greatest ↔ n ≤ w.greatest + 1
    omega
  | plus | absent =>
    show -((w.greatest : Int) + 1) ≤ (n : Int) ∧ (n : Int) ≤ w.greatest ↔ n ≤ w.greatest
    omega

/-- Something after the sign is read as digits. -/
theorem readChars_unsigned (w : Width) {cs : List Char} (some_char : unsigned cs ≠ []) :
    readChars w cs
      = (readDigits ((signOf cs).limit w) (signOf cs).fault 0 (unsigned cs)).map
        (signOf cs).apply := by
  unfold readChars
  split
  · exact absurd rfl some_char
  · exact absurd rfl some_char
  · exact absurd rfl some_char
  · rfl
  · rfl
  · next no_plus no_minus =>
    have unmarked : signOf cs = .absent ∧ unsigned cs = cs := by
      unfold signOf unsigned
      split
      · exact absurd rfl (no_plus _)
      · exact absurd rfl (no_minus _)
      · exact ⟨rfl, rfl⟩
    rw [unmarked.1, unmarked.2]
    rfl

/-- With nothing after the sign there is a lone sign, or no text at all. -/
theorem readChars_unsigned_nil (w : Width) {cs : List Char} (no_char : unsigned cs = []) :
    readChars w cs = .error (if cs = [] then .empty else .invalidDigit) := by
  unfold unsigned at no_char
  split at no_char
  · rw [no_char]
    rfl
  · rw [no_char]
    rfl
  · rw [no_char]
    rfl

/-- **How a text is read.** -/
theorem read_eq (w : Width) (s : String) :
    read w s
      = if unsigned s.toList = [] then .error (if s.toList = [] then .empty else .invalidDigit)
        else if (signOf s.toList).limit w < magnitude (leading s.toList) then
          .error (signOf s.toList).fault
        else if (unsigned s.toList).all Char.isDigit then
          .ok ((signOf s.toList).apply (magnitude (unsigned s.toList)))
        else .error .invalidDigit := by
  unfold read
  by_cases no_char : unsigned s.toList = []
  · rw [if_pos no_char, readChars_unsigned_nil w no_char]
  · rw [if_neg no_char, readChars_unsigned w no_char, readDigits_eq (Nat.zero_le _)]
    unfold leading magnitude
    split
    · rfl
    · split <;> rfl

theorem leading_of_digits {cs : List Char} (digits : ∀ c ∈ unsigned cs, c.isDigit = true) :
    leading cs = unsigned cs :=
  List.takeWhile_eq_self_iff.mpr digits

/-- **A text is read as the integer that it denotes**, if the width holds it. -/
theorem read_eq_ok {w : Width} {s : String} {n : Int} :
    read w s = .ok n ↔ Denotes s.toList n ∧ w.Holds n := by
  rw [read_eq]
  constructor
  · intro was_read
    split at was_read
    · exact nomatch was_read
    · next some_digit =>
      split at was_read
      · exact nomatch was_read
      · next within =>
        split at was_read
        · next all_digits =>
          have digits := List.all_eq_true.mp all_digits
          rw [leading_of_digits digits] at within
          obtain rfl := Except.ok.inj was_read
          exact ⟨⟨some_digit, digits, rfl⟩, (Width.holds_apply _ _).mpr (Nat.not_lt.mp within)⟩
        · exact nomatch was_read
  · rintro ⟨⟨some_digit, digits, rfl⟩, held⟩
    have within := (Width.holds_apply _ _).mp held
    rw [if_neg some_digit, leading_of_digits digits, if_neg (Nat.not_lt.mpr within),
      if_pos (List.all_eq_true.mpr digits)]

/-- A magnitude past the limit is a fault of its sign. -/
theorem Faulty.of_excess {w : Width} {cs : List Char}
    (excess : (signOf cs).limit w < magnitude (leading cs)) : Faulty w cs (signOf cs).fault := by
  cases sign : signOf cs with
  | minus =>
    rw [sign] at excess
    exact .tooSmall sign excess
  | plus | absent =>
    rw [sign] at excess
    exact .tooLarge (by simp [sign]) excess

/-- What is refused is wrong. -/
theorem Faulty.of_read {w : Width} {s : String} {f : Fault} (refused : read w s = .error f) :
    Faulty w s.toList f := by
  rw [read_eq] at refused
  split at refused
  · next no_char =>
    obtain rfl := Except.error.inj refused
    by_cases no_text : s.toList = []
    · rw [if_pos no_text, no_text]
      exact .empty
    · rw [if_neg no_text]
      refine .invalidDigit no_text ?_ (.inl no_char)
      rw [leading, no_char]
      exact (Width.holds_apply _ _).mpr (Nat.zero_le _)
  · next some_char =>
    split at refused
    · next excess =>
      obtain rfl := Except.error.inj refused
      exact .of_excess excess
    · next within =>
      split at refused
      · exact nomatch refused
      · next foreign =>
        obtain rfl := Except.error.inj refused
        have some_text : s.toList ≠ [] := fun no_text => some_char (congrArg unsigned no_text)
        have held := (Width.holds_apply _ _).mpr (Nat.not_lt.mp within)
        refine .invalidDigit some_text held (.inr ?_)
        simpa using foreign

/-- What is wrong is refused. -/
theorem Faulty.read_eq {w : Width} {s : String} {f : Fault} (faulty : Faulty w s.toList f) :
    read w s = .error f := by
  have some_char (excess : (signOf s.toList).limit w < magnitude (leading s.toList)) :
      unsigned s.toList ≠ [] := by
    intro no_char
    rw [leading, no_char] at excess
    exact Nat.not_lt_zero _ excess
  rw [Numeral.read_eq]
  generalize s.toList = cs at faulty some_char ⊢
  cases faulty with
  | empty => rfl
  | tooLarge unnegated excess =>
    have sign : (signOf cs).limit w = w.greatest ∧ (signOf cs).fault = .tooLarge := by
      cases sign : signOf cs with
      | minus => exact absurd sign unnegated
      | plus | absent => exact ⟨rfl, rfl⟩
    rw [← sign.1] at excess
    rw [if_neg (some_char excess), if_pos excess, sign.2]
  | tooSmall negated excess =>
    have sign : (signOf cs).limit w = w.greatest + 1 ∧ (signOf cs).fault = .tooSmall := by
      rw [negated]
      exact ⟨rfl, rfl⟩
    rw [← sign.1] at excess
    rw [if_neg (some_char excess), if_pos excess, sign.2]
  | invalidDigit some_text within foreign =>
    by_cases no_char : unsigned cs = []
    · rw [if_pos no_char, if_neg some_text]
    · obtain ⟨c, mem, not_digit⟩ := foreign.resolve_left no_char
      rw [if_neg no_char, if_neg (Nat.not_lt.mpr ((Width.holds_apply _ _).mp within)),
        if_neg fun digits => by simp [List.all_eq_true.mp digits c mem] at not_digit]

/-- **A text that is not read** has that wrong with it which the fault says. -/
theorem read_eq_error {w : Width} {s : String} {f : Fault} :
    read w s = .error f ↔ Faulty w s.toList f :=
  ⟨.of_read, Faulty.read_eq⟩

end Rollup.Text.Numeral
