/-
  The spellings of a word.

  Granularities and statistics are read alike.  A vocabulary (`Vocabulary`) bundles what they differ
  in: the values and their words, the mark that may be put before a word, and what is said of a
  text that spells none of them.  Which texts spell a value is a grammar (`Vocabulary.Spells`):
  white space, marks, the word in any letter case, white space, and nothing else.

  The crux is that reading takes a text apart where the grammar put it together.  Letters are
  neither white space nor marks, and marks are no white space; so trimming stops at the first mark
  or letter, the marks end where the word begins, and what is left is lowered to the word only if
  it is the word but for its case (`Vocabulary.canonical_eq_word_iff`).
-/
import Mathlib
import Rollup.Proofs.Trimming
import Rollup.Spelling

namespace Rollup

/-! ## Letter case -/

namespace Text

/-- The characters are those of a word, each as it is or as its capital. -/
def AnyCase (word cs : List Char) : Prop :=
  List.Forall₂ (fun letter c => c = letter ∨ c = letter.toUpper) word cs

/-- Two characters are lowered to a small letter: itself and its capital. -/
theorem toLower_eq_iff {c letter : Char} (small : letter.isLower = true) :
    c.toLower = letter ↔ c = letter ∨ c = letter.toUpper := by
  have kept : letter.toLower = letter :=
    Char.toLower_eq_of_not_isUpper (Char.not_isUpper_of_isLower small)
  constructor
  · rintro rfl
    by_cases capital : c.isUpper = true
    · right
      rw [Char.toUpper_toLower_eq_toUpper,
        Char.toUpper_eq_of_not_isLower (Char.not_isLower_of_isUpper capital)]
    · left
      rw [Char.toLower_eq_of_not_isUpper capital]
  · rintro (rfl | rfl)
    · exact kept
    · rw [Char.toLower_toUpper_eq_toLower, kept]

/-- **Lowering** gives a word just if its letters were there, in any case. -/
theorem map_toLower_eq_iff {word cs : List Char} (small : ∀ c ∈ word, c.isLower = true) :
    cs.map Char.toLower = word ↔ AnyCase word cs := by
  induction word generalizing cs with
  | nil => rw [List.map_eq_nil_iff, AnyCase, List.forall₂_nil_left_iff]
  | cons letter word ih =>
    obtain ⟨first, others⟩ := List.forall_mem_cons.mp small
    cases cs with
    | nil => exact ⟨nofun, nofun⟩
    | cons c cs =>
      rw [List.map_cons, List.cons.injEq, toLower_eq_iff first, ih others, AnyCase, AnyCase,
        List.forall₂_cons]

/-- Only letters spell a word. -/
theorem AnyCase.isAlpha {word cs : List Char} (small : ∀ c ∈ word, c.isLower = true)
    (spelled : AnyCase word cs) : ∀ c ∈ cs, c.isAlpha = true := by
  intro c among
  have lowered : c.toLower ∈ word := by
    rw [← (map_toLower_eq_iff small).mpr spelled]
    exact List.mem_map_of_mem among
  rw [← Char.isLower_toLower_eq_isAlpha]
  exact small _ lowered

/-- No letter is white space. -/
theorem isBlank_of_isAlpha {c : Char} (letter : c.isAlpha = true) : isBlank c = false := by
  have code : (65 ≤ c.toNat ∧ c.toNat ≤ 90) ∨ (97 ≤ c.toNat ∧ c.toNat ≤ 122) := by
    simpa [Char.isAlpha, Char.isUpper, Char.isLower, UInt32.le_iff_toNat_le] using letter
  simp only [isBlank, Bool.or_eq_false_iff, Bool.and_eq_false_iff, decide_eq_false_iff_not,
    beq_eq_false_iff_ne]
  omega

end Text

/-! ## Vocabularies -/

/-- Values with a word for each. -/
structure Vocabulary (α : Type) where
  all : List α
  mem_all : ∀ a, a ∈ all
  word : α → String
  word_injective : ∀ a b, word a = word b → a = b
  word_small : ∀ a, ∀ c ∈ (word a).toList, c.isLower = true
  /-- What may be put before a word, as often as one likes. -/
  mark : Option Char
  mark_apart : ∀ c ∈ mark, c.isAlpha = false ∧ Text.isBlank c = false
  /-- What is said of a text that spells no word. -/
  refusal : String → Refusal

namespace Vocabulary

variable {α : Type} (v : Vocabulary α)

/-- Is the character the mark of the vocabulary? -/
def isMark (c : Char) : Bool := v.mark == some c

/-- **The spellings** of a value: its word in any letter case, behind any number of marks, and
    white space around that. -/
inductive Spells (v : Vocabulary α) : List Char → α → Prop
  | spelling {before marks word after : List Char} {a : α} (opening : Text.Blanks before)
    (marked : ∀ c ∈ marks, v.mark = some c) (spelled : Text.AnyCase (v.word a).toList word)
    (closing : Text.Blanks after) : Spells v (before ++ marks ++ word ++ after) a

/-- `stem` is the text without the white space around it, and without the marks that it begins
    with then. -/
def Leaves (cs stem : List Char) : Prop :=
  ∃ core, Text.Trims cs core ∧ Text.Sheds v.isMark core stem

/-- What it is to read a vocabulary. -/
structure ReadBy (read : String → Except PlanError α) : Prop where
  /-- A text is read as the value that it spells. -/
  accepts : ∀ s a, read s = .ok a ↔ v.Spells s.toList a
  /-- A text that spells none is refused, and named by its stem in small letters. -/
  refuses : ∀ s e, read s = .error e ↔
    (∀ a, ¬ v.Spells s.toList a)
      ∧ ∃ stem, v.Leaves s.toList stem
        ∧ e = .invalid (v.refusal (String.ofList (stem.map Char.toLower)))
  /-- White space around a text changes nothing. -/
  padded : ∀ before s after : String, Text.Blanks before.toList → Text.Blanks after.toList →
    read (before ++ s ++ after) = read s

/-! ## Taking a text apart -/

variable {v}

theorem isMark_iff {c : Char} : v.isMark c = true ↔ v.mark = some c := beq_iff_eq

/-- What is left of a text, told by what it is, is what dropping leaves of it. -/
theorem leaves_iff {cs stem : List Char} :
    v.Leaves cs stem ↔ (Text.trimChars cs).dropWhile v.isMark = stem := by
  simp only [Leaves, ← Text.trimChars_eq_iff, ← Text.dropWhile_eq_iff, exists_eq_left']

/-- What is left of a text spells what the text does. -/
theorem Leaves.spells {cs stem : List Char} {a : α} (leaves : v.Leaves cs stem)
    (spelled : Text.AnyCase (v.word a).toList stem) : v.Spells cs a := by
  obtain ⟨core, ⟨⟨before, after, opening, closing, rfl⟩, -, -⟩, ⟨marks, inside, rfl⟩, -⟩ := leaves
  rw [← List.append_assoc before]
  exact .spelling opening (fun c among => isMark_iff.mp (inside c among)) spelled closing

/-- **A spelling leaves the word**, in the case in which it was written. -/
theorem leaves_of_letters {before marks word after : List Char} (opening : Text.Blanks before)
    (marked : ∀ c ∈ marks, v.mark = some c) (letters : ∀ c ∈ word, c.isAlpha = true)
    (closing : Text.Blanks after) : v.Leaves (before ++ marks ++ word ++ after) word := by
  refine ⟨marks ++ word, ?_, ⟨marks, fun c among => isMark_iff.mpr (marked c among), rfl⟩,
    fun c first => ?_⟩
  · rw [List.append_assoc before]
    refine Text.trims_of_dense opening (fun c among => ?_) closing
    rcases List.mem_append.mp among with mark | letter
    · exact (v.mark_apart c (marked c mark)).2
    · exact Text.isBlank_of_isAlpha (letters c letter)
  · -- the marks end here, for the word begins with a letter
    have letter := letters c (List.mem_of_mem_head? first)
    refine Bool.eq_false_iff.mpr fun mark => ?_
    have apart := (v.mark_apart c (isMark_iff.mp mark)).1
    exact Bool.false_ne_true (apart.symm.trans letter)

/-! ## Reading -/

variable (v)

/-- The form of a text in which it is compared with the words. -/
def canonical (s : String) : String :=
  String.ofList (((Text.trimChars s.toList).dropWhile v.isMark).map Char.toLower)

/-- Reads a value. -/
def read (s : String) : Except PlanError α :=
  match v.all.find? fun a => v.word a == v.canonical s with
  | some a => .ok a
  | none => .error (.invalid (v.refusal (v.canonical s)))

variable {v}

theorem Leaves.canonical_eq {s : String} {stem : List Char} (leaves : v.Leaves s.toList stem) :
    v.canonical s = String.ofList (stem.map Char.toLower) := by
  rw [canonical, leaves_iff.mp leaves]

/-- **A text has the form of a word** just if it spells the value. -/
theorem canonical_eq_word_iff {s : String} {a : α} :
    v.canonical s = v.word a ↔ v.Spells s.toList a := by
  obtain ⟨stem, leaves⟩ : ∃ stem, v.Leaves s.toList stem := ⟨_, leaves_iff.mpr rfl⟩
  have form : v.canonical s = v.word a ↔ Text.AnyCase (v.word a).toList stem := by
    rw [leaves.canonical_eq, ← String.toList_inj, String.toList_ofList,
      Text.map_toLower_eq_iff (v.word_small a)]
  rw [form]
  constructor
  · exact leaves.spells
  · intro spells
    generalize s.toList = cs at leaves spells
    cases spells with
    | spelling opening marked spelled closing =>
      have letters := spelled.isAlpha (v.word_small a)
      -- a text leaves one stem only, and here that is the word
      rw [← leaves_iff.mp leaves, leaves_iff.mp (leaves_of_letters opening marked letters closing)]
      exact spelled

/-- A value is found by its word. -/
theorem find?_word {t : String} {a : α} :
    (v.all.find? fun b => v.word b == t) = some a ↔ v.word a = t := by
  constructor
  · intro found
    have same := List.find?_some found
    exact beq_iff_eq.mp same
  · rintro rfl
    cases found : v.all.find? fun b => v.word b == v.word a with
    | some b =>
      have same := List.find?_some found
      rw [v.word_injective b a (beq_iff_eq.mp same)]
    | none =>
      have missed := List.find?_eq_none.mp found a (v.mem_all a)
      exact absurd (beq_self_eq_true _) missed

theorem read_eq_ok {s : String} {a : α} : v.read s = .ok a ↔ v.Spells s.toList a := by
  rw [← canonical_eq_word_iff, @eq_comm _ (v.canonical s), ← find?_word, read]
  cases v.all.find? fun b => v.word b == v.canonical s with
  | some b =>
    constructor
    · rintro ⟨⟩
      rfl
    · rintro ⟨⟩
      rfl
  | none => exact ⟨nofun, nofun⟩

theorem read_of_canonical {s : String} {a : α} (form : v.canonical s = v.word a) :
    v.read s = .ok a :=
  read_eq_ok.mpr (canonical_eq_word_iff.mp form)

theorem read_eq_error {s : String} {e : PlanError} :
    v.read s = .error e ↔
      (∀ a, ¬ v.Spells s.toList a) ∧ e = .invalid (v.refusal (v.canonical s)) := by
  have refused_as {e : PlanError} (refused : v.read s = .error e) :
      e = .invalid (v.refusal (v.canonical s)) := by
    rw [read] at refused
    split at refused
    · exact nomatch refused
    · exact (Except.error.inj refused).symm
  constructor
  · intro refused
    refine ⟨fun a spells => ?_, refused_as refused⟩
    exact nomatch refused.symm.trans (read_eq_ok.mpr spells)
  · rintro ⟨no_word, rfl⟩
    cases was_read : v.read s with
    | ok a => exact absurd (read_eq_ok.mp was_read) (no_word a)
    | error e => rw [refused_as was_read]

theorem canonical_padded {before s after : String} (opening : Text.Blanks before.toList)
    (closing : Text.Blanks after.toList) : v.canonical (before ++ s ++ after) = v.canonical s := by
  unfold canonical
  rw [String.toList_append, String.toList_append, Text.trimChars_padded opening closing]

variable (v)

/-- **Every vocabulary is read so.** -/
theorem readBy_read : v.ReadBy v.read := by
  refine ⟨fun s a => read_eq_ok, fun s e => ?_, fun before s after opening closing => ?_⟩
  · rw [read_eq_error]
    refine and_congr_right fun _ => ⟨?_, ?_⟩
    · rintro rfl
      exact ⟨_, leaves_iff.mpr rfl, rfl⟩
    · rintro ⟨stem, leaves, rfl⟩
      rw [leaves.canonical_eq]
  · unfold read
    rw [canonical_padded opening closing]

end Vocabulary

/-! ## Granularities and statistics -/

/-- Granularities, by their plain words. -/
def granularities : Vocabulary Granularity where
  all := Granularity.all
  mem_all := Granularity.mem_all
  word := Granularity.word
  word_injective a b := by cases a <;> cases b <;> decide +kernel
  word_small a := List.all_eq_true.mp (by cases a <;> decide +kernel)
  mark := none
  mark_apart := nofun
  refusal := .unknownGranularity

/-- Statistics, by their names, with the underscores that tie them to the name of a metric. -/
def statistics : Vocabulary Statistic where
  all := Statistic.all
  mem_all := Statistic.mem_all
  word := Statistic.name
  word_injective a b := by cases a <;> cases b <;> decide +kernel
  word_small a := List.all_eq_true.mp (by cases a <;> decide +kernel)
  mark := some '_'
  mark_apart := by
    rintro _ ⟨⟩
    decide
  refusal := .unknownStatistic

/-! ## The readers of these vocabularies -/

/-- A vocabulary without marks compares a text as it is trimmed. -/
theorem granularities_canonical (s : String) :
    granularities.canonical s = Granularity.canonical s := by
  have unmarked : Text.Sheds granularities.isMark (Text.trimChars s.toList)
      (Text.trimChars s.toList) := ⟨⟨[], nofun, rfl⟩, fun _ _ => rfl⟩
  rw [Vocabulary.canonical, unmarked.dropWhile_eq, Granularity.canonical, Text.lowercaseAscii,
    Text.trim, String.toList_ofList]

theorem statistics_canonical (s : String) : statistics.canonical s = Statistic.canonical s := by
  have underscore : statistics.isMark = (· == '_') := by
    funext c
    rw [Bool.eq_iff_iff, Vocabulary.isMark_iff, beq_iff_eq]
    exact ⟨fun mark => (Option.some.inj mark).symm, fun same => congrArg some same.symm⟩
  rw [Vocabulary.canonical, underscore, Statistic.canonical, Text.lowercaseAscii,
    Statistic.dropUnderscores, Text.trim, String.toList_ofList, String.toList_ofList]

theorem granularities_read : granularities.read = Granularity.read := by
  funext s
  unfold Vocabulary.read Granularity.read
  rw [granularities_canonical]
  have search : (granularities.all.find? fun g => granularities.word g == Granularity.canonical s)
      = Granularity.all.find? fun g => g.word == Granularity.canonical s := rfl
  rw [search]
  cases Granularity.all.find? fun g => g.word == Granularity.canonical s <;> rfl

theorem statistics_read : statistics.read = Statistic.read := by
  funext s
  unfold Vocabulary.read Statistic.read
  rw [statistics_canonical]
  have search : (statistics.all.find? fun f => statistics.word f == Statistic.canonical s)
      = Statistic.all.find? fun f => f.name == Statistic.canonical s := rfl
  rw [search]
  cases Statistic.all.find? fun f => f.name == Statistic.canonical s <;> rfl

/-- A granularity is read from the name by which it is shown. -/
theorem Granularity.read_name (g : Granularity) : Granularity.read g.name = .ok g := by
  have form : granularities.canonical g.name = granularities.word g := by
    cases g <;> decide +kernel
  rw [← granularities_read]
  exact Vocabulary.read_of_canonical form

/-- A statistic is read from the name by which it is sent. -/
theorem Statistic.read_name (f : Statistic) : Statistic.read f.name = .ok f := by
  have form : statistics.canonical f.name = statistics.word f := by
    cases f <;> decide +kernel
  rw [← statistics_read]
  exact Vocabulary.read_of_canonical form

/-- **Which texts are words.**  A text is read as a granularity just if it is its word, in any
    letter case of ASCII, with nothing but white space around it; and as a statistic just if it is
    its name so written, behind any number of underscores.  White space around a text never
    matters.  What a value is shown as, and what it is sent as, is read as the value.  Any other
    text is refused as invalid, and the error names it as it was compared: trimmed, without the
    underscores before it where a statistic was wanted, and in small letters. -/
theorem spellings_read :
    granularities.ReadBy Granularity.read
      ∧ statistics.ReadBy Statistic.read
      ∧ (∀ g : Granularity, Granularity.read g.name = .ok g
        ∧ ∃ t, g.document = .text t ∧ Granularity.read t = .ok g)
      ∧ (∀ f : Statistic, ∃ t, f.document = .text t ∧ Statistic.read t = .ok f)
      ∧ (∀ named, (PlanError.invalid (granularities.refusal named)).message
        = "invalid request: invalid precision '" ++ named ++ "', expected one of "
          ++ ", ".intercalate (granularities.all.map granularities.word))
      ∧ ∀ named, (PlanError.invalid (statistics.refusal named)).message
        = "invalid request: unsupported read function '" ++ named ++ "'" := by
  refine ⟨?_, ?_, fun g => ⟨g.read_name, _, rfl, g.read_name⟩, fun f => ⟨_, rfl, f.read_name⟩,
    fun named => ?granularity, fun named => ?statistic⟩
  · rw [← granularities_read]
    exact granularities.readBy_read
  · rw [← statistics_read]
    exact statistics.readBy_read
  case granularity =>
    have words : ", ".intercalate (granularities.all.map granularities.word)
        = "seconds, minutes, hours, days" := by decide +kernel
    rw [words, String.append_assoc]
    show "invalid request: " ++ ("invalid precision '" ++ named
      ++ "', expected one of seconds, minutes, hours, days") = _
    rw [← String.append_assoc, ← String.append_assoc]
    rfl
  case statistic =>
    show "invalid request: " ++ ("unsupported read function '" ++ named ++ "'") = _
    rw [← String.append_assoc, ← String.append_assoc]
    rfl

/-- White space beyond ASCII is no hindrance, but none may stand between the underscores and the
    word, and a letter that is an `s` only to the rules of all of Unicode is none here. -/
theorem spellings_read_padded :
    Text.Blanks "\u3000".toList
      ∧ Text.Blanks "\n".toList
      ∧ Statistic.read ("\u3000" ++ "__Avg" ++ "\n") = .ok .avg
      ∧ (∀ f, ¬ statistics.Spells "_ avg".toList f)
      ∧ ∀ g, ¬ granularities.Spells "DAYſ".toList g := by
  obtain ⟨granularity, statistic, -⟩ := spellings_read
  have opening : Text.Blanks "\u3000".toList := List.all_eq_true.mp (by decide)
  have closing : Text.Blanks "\n".toList := List.all_eq_true.mp (by decide)
  have mean : Statistic.read "__Avg" = .ok .avg := by rfl
  have parted : Statistic.read "_ avg" = .error (.invalid (.unknownStatistic " avg")) := by rfl
  have foreign : Granularity.read "DAYſ" = .error (.invalid (.unknownGranularity "dayſ")) := by rfl
  exact ⟨opening, closing, (statistic.padded _ _ _ opening closing).trans mean,
    ((statistic.refuses _ _).mp parted).1, ((granularity.refuses _ _).mp foreign).1⟩

end Rollup
