/-
  Documents as JSON text.

  The text has no white space, and its strings escape only what must be escaped.  It says which
  document it is of (`json_injective`), also where more text follows it, as the rest of a list
  follows an item.

  The crux is where a part ends.  Strings, lists and records end with a character of their own; the
  words for null and the truth values begin differently; and a number goes on for as long as its
  characters do, which those that may follow a document are not (`Stops`).  What a document is can
  then be told from its first character (`Kind.ofLead`), and the induction goes through its parts.
-/
import Mathlib
import Rollup.Proofs.Sql.Plain

namespace Rollup.Document

/-! ## Text -/

/-- A character of a string: the quote, the backslash and control characters are escaped. -/
def escape (c : Char) : List Char :=
  match c with
  | '"' => ['\\', '"']
  | '\\' => ['\\', '\\']
  | '\x08' => ['\\', 'b']
  | '\t' => ['\\', 't']
  | '\n' => ['\\', 'n']
  | '\x0c' => ['\\', 'f']
  | '\r' => ['\\', 'r']
  | c =>
    if c.toNat < 32 then
      ['\\', 'u', '0', '0', Nat.digitChar (c.toNat / 16), Nat.digitChar (c.toNat % 16)]
    else [c]

/-- A string. -/
def quoted (text : String) : List Char := '"' :: (text.toList.flatMap escape ++ ['"'])

/-- A number; one with decimal places has an exponent. -/
def numeral (digits : Int) (places : Nat) : List Char :=
  (toString digits).toList
    ++ if places = 0 then [] else 'e' :: '-' :: (toString places).toList

/-- What stands before an item. -/
def separator (first : Bool) : List Char := if first then [] else [',']

mutual

/-- The characters of a document. -/
def spelling : Document → List Char
  | null => ['n', 'u', 'l', 'l']
  | flag true => ['t', 'r', 'u', 'e']
  | flag false => ['f', 'a', 'l', 's', 'e']
  | number digits places => numeral digits places
  | text value => quoted value
  | list items => '[' :: spellingItems true items
  | record fields => '\x7b' :: spellingFields true fields

/-- The items of a list, up to its end. -/
def spellingItems (first : Bool) : List Document → List Char
  | [] => [']']
  | item :: rest => separator first ++ (spelling item ++ spellingItems false rest)

/-- The fields of a record, up to its end. -/
def spellingFields (first : Bool) : List (String × Document) → List Char
  | [] => ['\x7d']
  | (key, value) :: rest =>
    separator first ++ (quoted key ++ ':' :: (spelling value ++ spellingFields false rest))

end

/-- The JSON text of a document, without white space. -/
def json (d : Document) : String := String.ofList d.spelling

example : json (.record [("t", .text "a\"b"), ("v", .list [.integer (-7), .null])])
    = "\x7b\"t\":\"a\\\"b\",\"v\":[-7,null]\x7d" := by decide +kernel

/-! ## Strings -/

/-- The value of a hexadecimal digit. -/
def hexValue (c : Char) : Nat := if c.isDigit then c.toNat - 48 else c.toNat - 87

/-- The first character of the rest of a string, and what follows it. -/
def readEscaped : List Char → Option (Char × List Char)
  | '\\' :: 'b' :: rest => some ('\x08', rest)
  | '\\' :: 't' :: rest => some ('\t', rest)
  | '\\' :: 'n' :: rest => some ('\n', rest)
  | '\\' :: 'f' :: rest => some ('\x0c', rest)
  | '\\' :: 'r' :: rest => some ('\r', rest)
  | '\\' :: 'u' :: _ :: _ :: a :: b :: rest =>
    some (Char.ofNat (hexValue a * 16 + hexValue b), rest)
  | '\\' :: c :: rest => some (c, rest)
  | '"' :: _ => none
  | c :: rest => some (c, rest)
  | [] => none

theorem readEscaped_escape (c : Char) (rest : List Char) :
    readEscaped (escape c ++ rest) = some (c, rest) := by
  unfold escape
  split
  iterate 7 rfl
  split
  · next control =>
    have each : ∀ n < 32, Char.ofNat (hexValue (Nat.digitChar (n / 16)) * 16
        + hexValue (Nat.digitChar (n % 16))) = Char.ofNat n := by decide +kernel
    show some (Char.ofNat _, rest) = _
    rw [each c.toNat control, Char.ofNat_toNat]
  · next quote backslash _ _ _ _ _ plain =>
    rw [List.singleton_append, readEscaped.eq_def]
    split <;> simp_all

theorem readEscaped_flatMap (c : Char) (cs rest : List Char) :
    readEscaped ((c :: cs).flatMap escape ++ rest) = some (c, cs.flatMap escape ++ rest) := by
  rw [List.flatMap_cons, List.append_assoc, readEscaped_escape]

/-- The characters of a string say where it ends. -/
theorem flatMap_escape_inj (cs ds : List Char) {s t : List Char}
    (same : cs.flatMap escape ++ '"' :: s = ds.flatMap escape ++ '"' :: t) : cs = ds ∧ s = t := by
  have read := congrArg readEscaped same
  induction cs generalizing ds with
  | nil =>
    cases ds with
    | nil => exact ⟨rfl, List.tail_eq_of_cons_eq same⟩
    | cons d ds =>
      rw [readEscaped_flatMap] at read
      exact nomatch read
  | cons c cs ih =>
    rw [readEscaped_flatMap] at read
    cases ds with
    | nil => exact nomatch read
    | cons d ds =>
      rw [readEscaped_flatMap] at read
      obtain ⟨rfl, rest⟩ := Prod.mk.inj (Option.some.inj read)
      obtain ⟨rfl, rfl⟩ := ih ds rest (congrArg readEscaped rest)
      exact ⟨rfl, rfl⟩

theorem quoted_append_inj {a b : String} {s t : List Char}
    (same : quoted a ++ s = quoted b ++ t) : a = b ∧ s = t := by
  unfold quoted at same
  simp only [List.cons_append, List.append_assoc, List.nil_append] at same
  obtain ⟨chars, rest⟩ := flatMap_escape_inj _ _ (List.tail_eq_of_cons_eq same)
  exact ⟨String.toList_inj.mp chars, rest⟩

/-! ## Numbers -/

/-- The character may be part of a number. -/
def isNumeral (c : Char) : Bool := c.isDigit || c = '-' || c = 'e'

/-- No number goes on into the text. -/
def Stops (text : List Char) : Prop := ∀ c ∈ text.head?, isNumeral c = false

theorem integer_chars (n : Int) : ∀ c ∈ (toString n).toList, c.isDigit = true ∨ c = '-' := by
  intro c among
  cases n with
  | ofNat n => exact .inl (Sql.isDigit_of_mem_toString among)
  | negSucc n =>
    have among : c ∈ ("-" ++ toString (n + 1)).toList := among
    rw [String.toList_append, List.mem_append] at among
    rcases among with sign | digit
    · exact .inr (List.mem_singleton.mp sign)
    · exact .inl (Sql.isDigit_of_mem_toString digit)

theorem numeral_chars (digits : Int) (places : Nat) :
    ∀ c ∈ numeral digits places, isNumeral c = true := by
  intro c among
  unfold numeral at among
  unfold isNumeral
  rcases List.mem_append.mp among with digit | exponent
  · rcases integer_chars digits c digit with digit | rfl
    · rw [digit]
      rfl
    · decide
  · split at exponent
    · exact nomatch exponent
    · rcases List.mem_cons.mp exponent with rfl | exponent
      · decide
      · rcases List.mem_cons.mp exponent with rfl | digit
        · decide
        · rw [Sql.isDigit_of_mem_toString digit]
          rfl

/-- A number ends with its last character. -/
theorem takeWhile_numeral (digits : Int) (places : Nat) {s : List Char} (stops : Stops s) :
    (numeral digits places ++ s).takeWhile isNumeral = numeral digits places :=
  Sql.takeWhile_append_of_head (numeral_chars digits places) stops

/-- The part before the exponent is the integer. -/
theorem takeWhile_integer (n : Int) (k : Nat) :
    (numeral n k).takeWhile (· ≠ 'e') = (toString n).toList := by
  refine Sql.takeWhile_append_of_head (fun c among => decide_eq_true fun e => ?_) fun c first => ?_
  · rcases integer_chars n c among with digit | sign
    · exact absurd (e ▸ digit) (by decide)
    · exact absurd (e.symm.trans sign) (by decide)
  · split at first
    · exact nomatch first
    · obtain rfl := Option.some.inj first
      rfl

theorem numeral_inj {m n : Int} {j k : Nat} (same : numeral m j = numeral n k) : m = n ∧ j = k := by
  have integers := congrArg (List.takeWhile (· ≠ 'e')) same
  rw [takeWhile_integer, takeWhile_integer] at integers
  obtain rfl : m = n := Int.repr_inj.mp (String.toList_inj.mp integers)
  have exponents := List.append_cancel_left same
  refine ⟨rfl, ?_⟩
  by_cases hj : j = 0
  · by_cases hk : k = 0
    · rw [hj, hk]
    · rw [if_pos hj, if_neg hk] at exponents
      exact nomatch exponents
  · by_cases hk : k = 0
    · rw [if_neg hj, if_pos hk] at exponents
      exact nomatch exponents
    · rw [if_neg hj, if_neg hk] at exponents
      have places := List.tail_eq_of_cons_eq (List.tail_eq_of_cons_eq exponents)
      exact Nat.repr_inj.mp (String.toList_inj.mp places)

/-! ## Documents -/

/-- What kind of a value a document is. -/
inductive Kind
  | null
  | flag
  | number
  | text
  | list
  | record

/-- The kind of a document. -/
def kind : Document → Kind
  | null => .null
  | flag _ => .flag
  | number _ _ => .number
  | text _ => .text
  | list _ => .list
  | record _ => .record

/-- The kind that a first character tells; a number may begin with any digit, or with its sign. -/
def Kind.ofLead : Char → Kind
  | 'n' => .null
  | 't' => .flag
  | 'f' => .flag
  | '"' => .text
  | '[' => .list
  | '\x7b' => .record
  | _ => .number

theorem Kind.ofLead_integer {c : Char} (h : c.isDigit = true ∨ c = '-') :
    ofLead c = .number := by
  unfold ofLead
  split <;> first | rfl | exact absurd h (by decide)

/-- A document begins with a character of its kind, and not as a list ends. -/
theorem exists_lead (d : Document) :
    ∃ c rest, d.spelling = c :: rest ∧ Kind.ofLead c = d.kind ∧ c ≠ ']' := by
  cases d with
  | null => exact ⟨'n', _, rfl, rfl, by decide⟩
  | flag value =>
    cases value with
    | true => exact ⟨'t', _, rfl, rfl, by decide⟩
    | false => exact ⟨'f', _, rfl, rfl, by decide⟩
  | number digits places =>
    have some_digit : (toString digits).toList ≠ [] := by
      intro empty
      cases digits with
      | ofNat n =>
        have empty : (toString n).toList = [] := empty
        rw [Sql.toList_toString] at empty
        exact Nat.toDigits_ne_nil empty
      | negSucc n => exact nomatch (String.toList_append.symm.trans empty)
    obtain ⟨c, rest, chars⟩ := List.exists_cons_of_ne_nil some_digit
    have lead := integer_chars digits c (chars ▸ List.mem_cons_self)
    have inside : c ≠ ']' := by
      rintro rfl
      exact absurd lead (by decide)
    have first : (number digits places).spelling
        = c :: (rest ++ if places = 0 then [] else 'e' :: '-' :: (toString places).toList) := by
      rw [spelling, numeral, chars, List.cons_append]
    exact ⟨c, _, first, Kind.ofLead_integer lead, inside⟩
  | text value => exact ⟨'"', _, rfl, rfl, by decide⟩
  | list items => exact ⟨'[', _, rfl, rfl, by decide⟩
  | record fields => exact ⟨'\x7b', _, rfl, rfl, by decide⟩

theorem kind_eq {d e : Document} {s t : List Char} (same : d.spelling ++ s = e.spelling ++ t) :
    d.kind = e.kind := by
  obtain ⟨c, _, spelling, kind, -⟩ := d.exists_lead
  obtain ⟨c', _, spelling', kind', -⟩ := e.exists_lead
  rw [spelling, spelling'] at same
  rw [← kind, ← kind', List.head_eq_of_cons_eq same]

/-- After an item a list goes on with a comma or ends with its bracket. -/
theorem stops_items (items : List Document) (s : List Char) :
    Stops (spellingItems false items ++ s) := by
  intro c first
  cases items with
  | nil =>
    obtain rfl := Option.some.inj first
    decide
  | cons item rest =>
    obtain rfl := Option.some.inj first
    decide

theorem stops_fields (fields : List (String × Document)) (s : List Char) :
    Stops (spellingFields false fields ++ s) := by
  intro c first
  cases fields with
  | nil =>
    obtain rfl := Option.some.inj first
    decide
  | cons field rest =>
    obtain rfl := Option.some.inj first
    decide

/-- A list does not end where an item begins. -/
theorem items_ne_end (first : Bool) (item : Document) (rest : List Document) (s t : List Char) :
    spellingItems first (item :: rest) ++ s ≠ ']' :: t := by
  intro same
  obtain ⟨c, _, spelling, -, inside⟩ := item.exists_lead
  rw [spellingItems, spelling] at same
  cases first with
  | true => exact inside (List.head_eq_of_cons_eq same)
  | false => exact absurd (List.head_eq_of_cons_eq same) (by decide)

theorem fields_ne_end (first : Bool) (field : String × Document)
    (rest : List (String × Document)) (s t : List Char) :
    spellingFields first (field :: rest) ++ s ≠ '\x7d' :: t := by
  intro same
  cases first <;> exact absurd (List.head_eq_of_cons_eq same) (by decide)

mutual

-- The induction is on the first document.  The second is of its kind, so one case of it is left.
/-- **The text of a document** says which document it is of and where it ends. -/
theorem spelling_append_inj : ∀ (d e : Document) {s t : List Char}, Stops s → Stops t →
    d.spelling ++ s = e.spelling ++ t → d = e ∧ s = t
  | .null, e, s, t, _, _, same => by
    have kinds := kind_eq same
    cases e with
    | null => exact ⟨rfl, List.append_cancel_left same⟩
    | _ => exact nomatch kinds
  | .flag a, e, s, t, _, _, same => by
    have kinds := kind_eq same
    cases e with
    | flag b =>
      cases a <;> cases b <;> first | exact ⟨rfl, List.append_cancel_left same⟩ | exact nomatch same
    | _ => exact nomatch kinds
  | .number m j, e, s, t, hs, ht, same => by
    have kinds := kind_eq same
    cases e with
    | number n k =>
      have numerals := congrArg (List.takeWhile isNumeral) same
      rw [spelling, spelling, takeWhile_numeral m j hs, takeWhile_numeral n k ht] at numerals
      obtain ⟨rfl, rfl⟩ := numeral_inj numerals
      exact ⟨rfl, List.append_cancel_left same⟩
    | _ => exact nomatch kinds
  | .text a, e, s, t, _, _, same => by
    have kinds := kind_eq same
    cases e with
    | text b =>
      rw [spelling, spelling] at same
      obtain ⟨rfl, rest⟩ := quoted_append_inj same
      exact ⟨rfl, rest⟩
    | _ => exact nomatch kinds
  | .list ds, e, s, t, _, _, same => by
    have kinds := kind_eq same
    cases e with
    | list es =>
      rw [spelling, spelling] at same
      obtain ⟨rfl, rest⟩ := spellingItems_append_inj true ds es (List.tail_eq_of_cons_eq same)
      exact ⟨rfl, rest⟩
    | _ => exact nomatch kinds
  | .record fs, e, s, t, _, _, same => by
    have kinds := kind_eq same
    cases e with
    | record gs =>
      rw [spelling, spelling] at same
      obtain ⟨rfl, rest⟩ := spellingFields_append_inj true fs gs (List.tail_eq_of_cons_eq same)
      exact ⟨rfl, rest⟩
    | _ => exact nomatch kinds

theorem spellingItems_append_inj (first : Bool) : ∀ (ds es : List Document) {s t : List Char},
    spellingItems first ds ++ s = spellingItems first es ++ t → ds = es ∧ s = t
  | [], [], s, t, same => ⟨rfl, List.append_cancel_left same⟩
  | [], e :: es, s, t, same => absurd same.symm (items_ne_end first e es t s)
  | d :: ds, [], s, t, same => absurd same (items_ne_end first d ds s t)
  | d :: ds, e :: es, s, t, same => by
    rw [spellingItems, spellingItems] at same
    simp only [List.append_assoc] at same
    -- An item may be a number, and the rest of the list is what ends it.
    obtain ⟨rfl, rest⟩ := spelling_append_inj d e (stops_items ds s) (stops_items es t)
      (List.append_cancel_left same)
    obtain ⟨rfl, later⟩ := spellingItems_append_inj false ds es rest
    exact ⟨rfl, later⟩

theorem spellingFields_append_inj (first : Bool) :
    ∀ (fs gs : List (String × Document)) {s t : List Char},
    spellingFields first fs ++ s = spellingFields first gs ++ t → fs = gs ∧ s = t
  | [], [], s, t, same => ⟨rfl, List.append_cancel_left same⟩
  | [], g :: gs, s, t, same => absurd same.symm (fields_ne_end first g gs t s)
  | f :: fs, [], s, t, same => absurd same (fields_ne_end first f fs s t)
  | (key, d) :: fs, (key', e) :: gs, s, t, same => by
    rw [spellingFields, spellingFields] at same
    simp only [List.append_assoc, List.cons_append] at same
    obtain ⟨rfl, behind⟩ := quoted_append_inj (List.append_cancel_left same)
    obtain ⟨rfl, rest⟩ := spelling_append_inj d e (stops_fields fs s) (stops_fields gs t)
      (List.tail_eq_of_cons_eq behind)
    obtain ⟨rfl, later⟩ := spellingFields_append_inj false fs gs rest
    exact ⟨rfl, later⟩

end

/-- **No two documents** have the same text. -/
theorem json_injective {d e : Document} (same : d.json = e.json) : d = e := by
  have chars : d.spelling ++ [] = e.spelling ++ [] := by
    rw [List.append_nil, List.append_nil]
    exact String.ofList_injective same
  have stops : Stops [] := fun _ first => nomatch (first : none = some _)
  exact (spelling_append_inj d e stops stops chars).1

end Rollup.Document
