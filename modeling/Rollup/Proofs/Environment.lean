/-
  What an environment gives, and how it is read.

  A variable is given a value by every entry whose name, lowered, is its key.  An environment can be
  read if no variable is given two values, and each value is one that its variable may have;
  otherwise the first entry that spoils this is reported, and an entry that names a variable for
  the second time is reported for that, whatever its value.

  The crux is one invariant of the reading (`Records`): what has been recorded for a variable is
  the one value that the entries so far give it, read; or nothing, if they give none.  A step keeps
  it or ends with the problem that the table has for it, and so does, by induction, a whole run.
-/
import Rollup.Proofs.Numeral
import Rollup.Settings.Environment

namespace Rollup

open Text.Numeral (Denotes Faulty)

/-! ## What is given -/

/-- The values that an environment gives to a variable, under any spelling of its name. -/
def Environment.given (e : Environment) (v : Settings.Variable) : List String :=
  e.filterMap fun (name, value) => if Text.lowercase name = v.key then some value else none

theorem Environment.given_append (e e' : Environment) (v : Settings.Variable) :
    Environment.given (e ++ e') v = e.given v ++ e'.given v :=
  List.filterMap_append

namespace Settings

namespace Variable

/-- No two variables have one key. -/
theorem key_injective {v w : Variable} (same : v.key = w.key) : v = w := by
  have apart : ∀ v ∈ all, ∀ w ∈ all, v.key = w.key → v = w := by decide +kernel
  exact apart v (mem_all v) w (mem_all w) same

theorem named?_eq_some {name : String} {v : Variable} :
    named? name = some v ↔ Text.lowercase name = v.key := by
  constructor
  · intro found
    have key := List.find?_some found
    exact (beq_iff_eq.mp key).symm
  · intro key
    cases found : named? name with
    | none =>
      have missed := List.find?_eq_none.mp found v (mem_all v)
      simp [key] at missed
    | some w =>
      have other := List.find?_some found
      rw [key_injective ((beq_iff_eq.mp other).trans key)]

/-! ## The values of a variable -/

/-- The values that a variable may have: the texts of integers of its width, or a truth value. -/
def Admits (value : String) : Variable → Prop
  | quantity q => ∃ n, Denotes value.toList n ∧ q.width.Holds n
  | sortMergeJoin => value = "true" ∨ value = "false"

/-- What is wrong with any other value. -/
inductive Misreads (value : String) : Variable → Unreadable → Prop
  | numeral {q : Quantity} {fault : Text.Numeral.Fault}
    (faulty : Faulty q.width value.toList fault) : Misreads value (.quantity q) (.numeral fault)
  | notBoolean (not_true : value ≠ "true") (not_false : value ≠ "false") :
    Misreads value .sortMergeJoin .notBoolean

/-- The reading of a value. -/
inductive Means (value : String) : Variable → Reading → Prop
  | integer {q : Quantity} {n : Int} (denotes : Denotes value.toList n) (held : q.width.Holds n) :
    Means value (.quantity q) (.integer q n)
  | truth (on : Bool) (word : value = toString on) : Means value .sortMergeJoin (.sortMergeJoin on)

variable {v : Variable} {value : String}

theorem read_quantity (q : Quantity) :
    (quantity q).read value
      = ((Text.Numeral.read q.width value).map (Reading.integer q)).mapError .numeral := by
  simp only [read]
  cases Text.Numeral.read q.width value <;> rfl

theorem read_eq_ok {r : Reading} : v.read value = .ok r ↔ v.Means value r := by
  cases v with
  | quantity q =>
    rw [read_quantity]
    constructor
    · intro was_read
      cases numeral : Text.Numeral.read q.width value with
      | ok n =>
        rw [numeral] at was_read
        obtain rfl := Except.ok.inj was_read
        obtain ⟨denotes, held⟩ := Text.Numeral.read_eq_ok.mp numeral
        exact .integer denotes held
      | error fault =>
        rw [numeral] at was_read
        exact nomatch was_read
    · intro means
      cases means with
      | integer denotes held =>
        rw [Text.Numeral.read_eq_ok.mpr ⟨denotes, held⟩]
        rfl
  | sortMergeJoin =>
    simp only [read]
    constructor
    · intro was_read
      split at was_read
      · next word =>
        obtain rfl := Except.ok.inj was_read
        exact .truth true word
      · split at was_read
        · next word =>
          obtain rfl := Except.ok.inj was_read
          exact .truth false word
        · exact nomatch was_read
    · intro means
      cases means with
      | truth on word =>
        subst word
        cases on <;> rfl

theorem read_eq_error {reason : Unreadable} :
    v.read value = .error reason ↔ v.Misreads value reason := by
  cases v with
  | quantity q =>
    rw [read_quantity]
    constructor
    · intro refused
      cases numeral : Text.Numeral.read q.width value with
      | ok n =>
        rw [numeral] at refused
        exact nomatch refused
      | error fault =>
        rw [numeral] at refused
        obtain rfl := Except.error.inj refused
        exact .numeral (Text.Numeral.read_eq_error.mp numeral)
    · intro wrong
      cases wrong with
      | numeral faulty =>
        rw [Text.Numeral.read_eq_error.mpr faulty]
        rfl
  | sortMergeJoin =>
    simp only [read]
    constructor
    · intro refused
      split at refused
      · exact nomatch refused
      · next not_true =>
        split at refused
        · exact nomatch refused
        · next not_false =>
          obtain rfl := Except.error.inj refused
          exact .notBoolean not_true not_false
    · intro wrong
      cases wrong with
      | notBoolean not_true not_false => rw [if_neg not_true, if_neg not_false]

/-- A variable admits just the values that can be read. -/
theorem admits_iff : v.Admits value ↔ ∃ r, v.read value = .ok r := by
  simp only [read_eq_ok]
  constructor
  · intro admitted
    cases v with
    | quantity q =>
      obtain ⟨n, denotes, held⟩ := admitted
      exact ⟨_, .integer denotes held⟩
    | sortMergeJoin =>
      obtain word | word := admitted
      · exact ⟨_, .truth true word⟩
      · exact ⟨_, .truth false word⟩
  · rintro ⟨r, means⟩
    cases means with
    | integer denotes held => exact ⟨_, denotes, held⟩
    | truth on word =>
      cases on with
      | true => exact .inl word
      | false => exact .inr word

theorem Misreads.not_admits {reason : Unreadable} (wrong : v.Misreads value reason) :
    ¬ v.Admits value := by
  intro admitted
  obtain ⟨r, was_read⟩ := admits_iff.mp admitted
  exact nomatch was_read.symm.trans (read_eq_error.mpr wrong)

theorem subject_of_read {r : Reading} (was_read : v.read value = .ok r) : r.subject = v := by
  cases read_eq_ok.mp was_read <;> rfl

end Variable

/-! ## What is wrong with an environment -/

/-- No variable is given two values, and each value is one that its variable may have. -/
structure Readable (e : Environment) : Prop where
  once : ∀ v, (e.given v).length ≤ 1
  admitted : ∀ v, ∀ value ∈ e.given v, v.Admits value

/-- The first thing wrong with an environment: a variable given for the second time, or a value that
    its variable may not have.  Up to there it is readable. -/
inductive Spoils (e : Environment) : Problem → Prop
  | duplicate {before after : Environment} {name value : String} {v : Variable}
    (parts : e = before ++ (name, value) :: after) (readable : Readable before)
    (named : Text.lowercase name = v.key) (again : before.given v ≠ []) :
    Spoils e (.duplicate v)
  | unreadable {before after : Environment} {name value : String} {v : Variable}
    {reason : Unreadable} (parts : e = before ++ (name, value) :: after)
    (readable : Readable before) (named : Text.lowercase name = v.key)
    (first : before.given v = []) (wrong : v.Misreads value reason) :
    Spoils e (.unreadable reason value name)

theorem given_of_named {name value : String} {v : Variable} (named : Text.lowercase name = v.key)
    (before after : Environment) :
    Environment.given (before ++ (name, value) :: after) v
      = before.given v ++ value :: after.given v := by
  rw [Environment.given_append]
  refine congrArg (before.given v ++ ·) ?_
  exact List.filterMap_cons_some (if_pos named)

theorem given_concat_of_not_named {name value : String} {v : Variable}
    (other : Text.lowercase name ≠ v.key) (before : Environment) :
    Environment.given (before ++ [(name, value)]) v = before.given v := by
  rw [Environment.given_append]
  simp [Environment.given, other]

/-- What is spoiled is not readable. -/
theorem Spoils.not_readable {e : Environment} {p : Problem} (spoiled : Spoils e p) :
    ¬ Readable e := by
  intro readable
  cases spoiled with
  | @duplicate before after name value v parts _ named again =>
    have once := readable.once v
    rw [parts, given_of_named named] at once
    have given := List.length_pos_iff.mpr again
    simp only [List.length_append, List.length_cons] at once
    omega
  | @unreadable before after name value v reason parts _ named first wrong =>
    refine wrong.not_admits (readable.admitted v value ?_)
    rw [parts, given_of_named named, first]
    exact List.mem_cons_self

/-! ## The reading -/

/-- What has been recorded for a variable. -/
def recorded (readings : List Reading) (v : Variable) : Option Reading :=
  readings.find? fun r => r.subject == v

/-- The readings are those of an environment: nothing for a variable that is given no value, and
    for any other the reading of its one value. -/
def Records (readings : List Reading) (e : Environment) : Prop :=
  ∀ v, (e.given v = [] ∧ recorded readings v = none)
    ∨ ∃ value r, e.given v = [value] ∧ v.read value = .ok r ∧ recorded readings v = some r

/-- Reads one entry. -/
def readNext (readings : List Reading) (name value : String) : Except Problem (List Reading) :=
  match Variable.named? name with
  | none => .ok readings
  | some v =>
    if readings.any fun r => r.subject == v then .error (.duplicate v)
    else
      match v.read value with
      | .error reason => .error (.unreadable reason value name)
      | .ok reading => .ok (readings ++ [reading])

theorem readOnto_cons (readings : List Reading) (name value : String) (e : Environment) :
    readOnto readings ((name, value) :: e)
      = (readNext readings name value).bind fun readings => readOnto readings e := by
  simp only [readOnto, readNext]
  cases Variable.named? name with
  | none => rfl
  | some v =>
    simp only
    split
    · rfl
    · cases v.read value <;> rfl

theorem readOnto_append (readings : List Reading) (e e' : Environment) :
    readOnto readings (e ++ e')
      = (readOnto readings e).bind fun readings => readOnto readings e' := by
  induction e generalizing readings with
  | nil => rfl
  | cons x e ih =>
    obtain ⟨name, value⟩ := x
    rw [List.cons_append, readOnto_cons, readOnto_cons]
    cases readNext readings name value with
    | error p => rfl
    | ok readings => exact ih readings

theorem records_nil : Records [] [] := fun _ => .inl ⟨rfl, rfl⟩

variable {readings : List Reading} {e : Environment}

/-- What is recorded is readable. -/
theorem Records.readable (records : Records readings e) : Readable e := by
  refine ⟨fun v => ?_, fun v value mem => ?_⟩
  · obtain ⟨given, -⟩ | ⟨value, r, given, -⟩ := records v
    · rw [given]
      exact Nat.zero_le 1
    · rw [given]
      exact Nat.le_refl 1
  · obtain ⟨given, -⟩ | ⟨only, r, given, was_read, -⟩ := records v
    · rw [given] at mem
      exact absurd mem List.not_mem_nil
    · rw [given] at mem
      obtain rfl := List.mem_singleton.mp mem
      exact Variable.admits_iff.mpr ⟨r, was_read⟩

/-- A variable has been met before just if it was given a value. -/
theorem Records.met_iff (records : Records readings e) (v : Variable) :
    (readings.any fun r => r.subject == v) = true ↔ e.given v ≠ [] := by
  have found : (readings.any fun r => r.subject == v) = true ↔ (recorded readings v).isSome := by
    rw [recorded, List.find?_isSome, List.any_eq_true]
  rw [found]
  obtain ⟨given, record⟩ | ⟨value, r, given, -, record⟩ := records v
  · simp [given, record]
  · simp [given, record]

theorem recorded_concat (r : Reading) (v : Variable) :
    recorded (readings ++ [r]) v
      = (recorded readings v).or (if r.subject = v then some r else none) := by
  unfold recorded
  rw [List.find?_append, List.find?_singleton]
  simp only [beq_iff_eq]

/-- An entry that names no variable changes nothing. -/
theorem Records.pass {name : String} (records : Records readings e)
    (foreign : Variable.named? name = none) (value : String) :
    Records readings (e ++ [(name, value)]) := by
  intro v
  have other : Text.lowercase name ≠ v.key := fun named =>
    nomatch foreign.symm.trans (Variable.named?_eq_some.mpr named)
  rw [given_concat_of_not_named other]
  exact records v

/-- The reading of the first value of a variable is recorded for it, and for no other. -/
theorem Records.record {name value : String} {v : Variable} {r : Reading}
    (records : Records readings e) (named : Text.lowercase name = v.key) (first : e.given v = [])
    (was_read : v.read value = .ok r) : Records (readings ++ [r]) (e ++ [(name, value)]) := by
  have subject := Variable.subject_of_read was_read
  intro w
  rw [recorded_concat, subject]
  by_cases same : v = w
  · subst same
    have unrecorded : recorded readings v = none := by
      obtain ⟨-, record⟩ | ⟨_, _, given, -⟩ := records v
      · exact record
      · exact nomatch first.symm.trans given
    refine .inr ⟨value, r, ?_, was_read, ?_⟩
    · rw [given_of_named named, first]
      rfl
    · rw [unrecorded, if_pos rfl]
      rfl
  · have other : Text.lowercase name ≠ w.key := fun key =>
      same (Variable.key_injective (named.symm.trans key))
    rw [given_concat_of_not_named other, if_neg same, Option.or_none]
    exact records w

/-- **A step** reads the entry into the record, or ends with what is wrong with it. -/
theorem Records.next (records : Records readings e) (name value : String) :
    (∃ readings', readNext readings name value = .ok readings'
        ∧ Records readings' (e ++ [(name, value)]))
      ∨ ∃ p, readNext readings name value = .error p
        ∧ ∀ after, Spoils (e ++ (name, value) :: after) p := by
  unfold readNext
  cases found : Variable.named? name with
  | none => exact .inl ⟨readings, rfl, records.pass found value⟩
  | some v =>
    have named := Variable.named?_eq_some.mp found
    simp only
    by_cases met : (readings.any fun r => r.subject == v) = true
    · have again := (records.met_iff v).mp met
      rw [if_pos met]
      exact .inr ⟨_, rfl, fun after => .duplicate rfl records.readable named again⟩
    · have first : e.given v = [] := Classical.not_not.mp (mt (records.met_iff v).mpr met)
      rw [if_neg met]
      cases was_read : v.read value with
      | ok r => exact .inl ⟨_, rfl, records.record named first was_read⟩
      | error reason =>
        have wrong := Variable.read_eq_error.mp was_read
        exact .inr ⟨_, rfl, fun after => .unreadable rfl records.readable named first wrong⟩

/-- **A run** reads all entries into the record, or ends with the first thing wrong. -/
theorem Records.run {before : Environment} (records : Records readings before)
    (after : Environment) :
    (∃ readings', readOnto readings after = .ok readings' ∧ Records readings' (before ++ after))
      ∨ ∃ p, readOnto readings after = .error p ∧ Spoils (before ++ after) p := by
  induction after generalizing readings before with
  | nil =>
    rw [List.append_nil]
    exact .inl ⟨readings, rfl, records⟩
  | cons x after ih =>
    obtain ⟨name, value⟩ := x
    rw [readOnto_cons]
    obtain ⟨readings', next, records'⟩ | ⟨p, next, spoiled⟩ := records.next name value
    · rw [next, List.append_cons]
      exact ih records'
    · rw [next]
      exact .inr ⟨p, rfl, spoiled after⟩

/-- An environment is read just if it is readable, and then into a record of it. -/
theorem readOnto_of_readable (readable : Readable e) :
    ∃ readings, readOnto [] e = .ok readings ∧ Records readings e := by
  obtain all_read | ⟨p, -, spoiled⟩ := records_nil.run e
  · exact all_read
  · exact absurd readable spoiled.not_readable

theorem records_of_readOnto (all_read : readOnto [] e = .ok readings) : Records readings e := by
  obtain ⟨readings', same, records⟩ | ⟨p, refused, -⟩ := records_nil.run e
  · obtain rfl := Except.ok.inj (all_read.symm.trans same)
    exact records
  · exact nomatch all_read.symm.trans refused

/-- **What is reported** is what is wrong with the environment. -/
theorem readOnto_eq_error {p : Problem} : readOnto [] e = .error p ↔ Spoils e p := by
  constructor
  · intro refused
    obtain ⟨readings, all_read, -⟩ | ⟨q, same, spoiled⟩ := records_nil.run e
    · exact nomatch refused.symm.trans all_read
    · obtain rfl := Except.error.inj (refused.symm.trans same)
      exact spoiled
  · intro spoiled
    -- the readable part is read, and then the entry that spoils it
    have stop {before after : Environment} {name value : String} (readable : Readable before)
        (next : ∀ readings, Records readings before → readNext readings name value = .error p) :
        readOnto [] (before ++ (name, value) :: after) = .error p := by
      obtain ⟨readings, all_read, records⟩ := readOnto_of_readable readable
      rw [readOnto_append, all_read]
      show readOnto readings ((name, value) :: after) = _
      rw [readOnto_cons, next readings records]
      rfl
    cases spoiled with
    | duplicate parts readable named again =>
      subst parts
      refine stop readable fun readings records => ?_
      simp only [readNext, Variable.named?_eq_some.mpr named]
      rw [if_pos ((records.met_iff _).mpr again)]
    | unreadable parts readable named first wrong =>
      subst parts
      refine stop readable fun readings records => ?_
      simp only [readNext, Variable.named?_eq_some.mpr named]
      rw [if_neg fun met => (records.met_iff _).mp met first, Variable.read_eq_error.mpr wrong]

end Settings

end Rollup
