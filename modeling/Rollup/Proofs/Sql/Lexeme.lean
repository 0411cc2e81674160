/-
  Lexemes: the words of a condition as a database reads them.

  A text falls into runs: letters, digits and underscores stick together, and so do the signs `<`,
  `>` and `=`; every other character stands alone, and blanks only divide.  Each run must be the
  name of a column, a reserved word, a sign or a placeholder.  The placeholders then take the
  values, the first the first, and no value may be missing or left over.

  The crux is `Yields`, which speaks of a text together with whatever follows it.  Stated so, the
  lexemes of two texts side by side are those of one and then those of the other, and no proof
  further on has to ask where one run ends and the next begins.
-/
import Mathlib.Data.List.SplitBy
import Rollup.Sql.Filter

namespace Rollup.Sql

/-! ## Lexemes -/

/-- All columns by which rows are filtered. -/
def Column.all : List Column := [.identity, .name, .host, .app, .instanceId, .time]

/-- The characters of a column's name. -/
def Column.letters : Column → List Char
  | identity => ['U', 'U', 'I', 'D']
  | name => ['M', 'E', 'T', 'R', 'I', 'C', '_', 'N', 'A', 'M', 'E']
  | host => ['H', 'O', 'S', 'T', 'N', 'A', 'M', 'E']
  | app => ['A', 'P', 'P', '_', 'I', 'D']
  | instanceId => ['I', 'N', 'S', 'T', 'A', 'N', 'C', 'E', '_', 'I', 'D']
  | time => ['S', 'E', 'R', 'V', 'E', 'R', '_', 'T', 'I', 'M', 'E']

-- Texts are compared by their characters here: evaluation is quick on lists and slow on strings.
theorem Column.toList_text (c : Column) : c.text.toList = c.letters := by
  cases c <;> exact String.toList_ofList

/-- The reserved words and signs of a condition. -/
inductive Mark
  | equals
  | differs
  | atLeast
  | below
  | like
  | isIn
  | not
  | and
  | or
  | opening
  | closing
  | comma
  deriving DecidableEq

/-- The characters with which a word or sign is written. -/
def Mark.letters : Mark → List Char
  | equals => ['=']
  | differs => ['<', '>']
  | atLeast => ['>', '=']
  | below => ['<']
  | like => ['L', 'I', 'K', 'E']
  | isIn => ['I', 'N']
  | not => ['N', 'O', 'T']
  | and => ['A', 'N', 'D']
  | or => ['O', 'R']
  | opening => ['(']
  | closing => [')']
  | comma => [',']

/-- All words and signs. -/
def Mark.all : List Mark :=
  [.equals, .differs, .atLeast, .below, .like, .isIn, .not, .and, .or, .opening, .closing, .comma]

/-- One word of a condition.  A placeholder is a `slot` until a value stands in its place. -/
inductive Lexeme
  | column (column : Column)
  | mark (mark : Mark)
  | slot
  | value (value : Value)
  deriving DecidableEq

/-- Is it a character of names and words? -/
def isWordChar (c : Char) : Bool := c.isAlphanum || c == '_'

/-- Is it a character of the signs that compare? -/
def isSignChar (c : Char) : Bool := c == '<' || c == '>' || c == '='

/-- Do two neighbours belong to one run? -/
def adjoin (c d : Char) : Bool := (isWordChar c && isWordChar d) || (isSignChar c && isSignChar d)

/-- Does the last character of a text adjoin nothing? -/
def endsRun (text : List Char) : Bool :=
  text.getLast?.all fun c => !(isWordChar c || isSignChar c)

/-- What a run spells, if it spells anything. -/
def Lexeme.ofRun (run : List Char) : Option Lexeme :=
  if run = [placeholder] then some .slot
  else
    match Column.all.find? fun c => c.letters = run with
    | some c => some (.column c)
    | none => (Mark.all.find? fun m => m.letters = run).map .mark

/-- The lexemes of a text. -/
def lexemes (text : List Char) : Option (List Lexeme) :=
  ((text.splitBy adjoin).filter fun run => run ≠ [' ']).mapM Lexeme.ofRun

/-- The lexemes with the values in the places of the placeholders. -/
def fill : List Lexeme → List Value → Option (List Lexeme)
  | [], vs => if vs.isEmpty then some [] else none
  | .slot :: ls, vs =>
    match vs with
    | [] => none
    | v :: vs => (fill ls vs).map (.value v :: ·)
  | .column c :: ls, vs => (fill ls vs).map (.column c :: ·)
  | .mark m :: ls, vs => (fill ls vs).map (.mark m :: ·)
  | .value v :: ls, vs => (fill ls vs).map (.value v :: ·)

/-- The words of a text and its values. -/
def words (text : List Char) (values : List Value) : Option (List Lexeme) :=
  (lexemes text).bind fun ls => fill ls values

/-! ## Texts side by side -/

/-- The text with the values spells the lexemes, whatever text and values follow. -/
def Yields (text : String) (values : List Value) (ls : List Lexeme) : Prop :=
  ∀ (rest : List Char) (more : List Value),
    words (text.toList ++ rest) (values ++ more) = (words rest more).map (ls ++ ·)

/-- A character that adjoins nothing ends its run, so the lexemes of a text that it ends do not
    depend on what follows. -/
theorem lexemes_append {text : List Char} (rest : List Char)
    (ends : endsRun text = true) : lexemes (text ++ rest)
      = (lexemes text).bind fun ls => (lexemes rest).map fun ms => ls ++ ms := by
  have apart : ∀ c ∈ text.getLast?, ∀ d ∈ rest.head?, adjoin c d = false := by
    intro c last d _
    rw [endsRun, Option.mem_def.mp last, Option.all_some] at ends
    simp only [Bool.not_eq_true', Bool.or_eq_false_iff] at ends
    rw [adjoin, ends.1, ends.2]
    rfl
  unfold lexemes
  rw [List.splitBy_append apart, List.filter_append, List.mapM_append]
  simp only [Option.bind_eq_bind, Option.pure_def, Option.map_eq_bind, Function.comp_def]

/-- Lexemes without a placeholder take no value. -/
theorem fill_append {ls : List Lexeme} (noSlot : .slot ∉ ls) (ms : List Lexeme) (vs : List Value) :
    fill (ls ++ ms) vs = (fill ms vs).map (ls ++ ·) := by
  induction ls with
  | nil => simp
  | cons l ls ih =>
    have hl : l ≠ .slot := fun h => noSlot (h ▸ List.mem_cons_self)
    have hls := ih fun h => noSlot (List.mem_cons_of_mem _ h)
    cases l with
    | slot => exact absurd rfl hl
    | column _ | mark _ | value _ =>
      rw [List.cons_append, fill, hls, Option.map_map]
      rfl

namespace Yields

/-- A text without placeholders whose last character adjoins nothing. -/
theorem ofLexemes {text : List Char} {ls : List Lexeme} (spelled : lexemes text = some ls)
    (noSlot : .slot ∉ ls) (ends : endsRun text = true) : Yields (String.ofList text) [] ls := by
  intro rest more
  unfold words
  rw [String.toList_ofList, lexemes_append rest ends, spelled, Option.bind_some, List.nil_append]
  cases lexemes rest with
  | none => rfl
  | some ms => exact fill_append noSlot ms more

/-- A text without placeholders and a blank after it. -/
theorem withBlank {text : List Char} {ls : List Lexeme} (spelled : lexemes (text ++ [' ']) = some ls)
    (noSlot : .slot ∉ ls) : Yields (String.ofList text ++ " ") [] ls := by
  have ends : endsRun (text ++ [' ']) = true := by
    rw [endsRun, List.getLast?_concat]
    rfl
  have yields := ofLexemes spelled noSlot ends
  rw [String.ofList_append] at yields
  exact yields

/-- A placeholder with its value. -/
theorem placeholder (v : Value) : Yields "?" [v] [.value v] := by
  intro rest more
  have text : "?".toList = [Sql.placeholder] := String.toList_ofList
  have spelled : lexemes [Sql.placeholder] = some [.slot] := rfl
  unfold words
  rw [text, lexemes_append rest rfl, spelled, Option.bind_some]
  cases lexemes rest <;> rfl

/-- Nothing spells nothing. -/
theorem nothing : Yields "" [] [] := by
  intro rest more
  simp

/-- **Texts side by side** spell their lexemes one after the other. -/
theorem append {s t : String} {us vs : List Value} {ls ms : List Lexeme} (hs : Yields s us ls)
    (ht : Yields t vs ms) : Yields (s ++ t) (us ++ vs) (ls ++ ms) := by
  intro rest more
  rw [String.toList_append, List.append_assoc, List.append_assoc, hs, ht, Option.map_map]
  simp [Function.comp_def]

/-- What a text spells by itself. -/
theorem words_eq {text : String} {values : List Value} {ls : List Lexeme}
    (h : Yields text values ls) : words text.toList values = some ls := by
  have alone := h [] []
  rw [List.append_nil, List.append_nil] at alone
  rw [alone]
  simp [words, lexemes, fill]

end Yields

example : words "APP_ID <> ?".toList [.text "a"]
    = some [.column .app, .mark .differs, .value (.text "a")] := by decide +kernel
example : words "APP_ID = ?".toList [] = none := by decide +kernel

end Rollup.Sql
