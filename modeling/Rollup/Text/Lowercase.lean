/-
  Full lower-casing.

  Letters are lowered one by one from the case tables, with two rules that no table of single
  characters can hold.  Capital `İ` becomes two characters, `i` and a combining dot.  Capital
  sigma looks at its neighbours: at the end of a word it becomes `ς`, anywhere else `σ`.  "End of
  a word" means that, case-ignorable characters skipped, a cased character stands before it and
  none stands after it.

  The crux is that only the sigma rule looks around, so lowering is one pass that carries the
  characters already read, nearest first.
-/
import Rollup.Text.LetterCase

namespace Rollup.Text

/-! ## Character classes -/

/-- Does one of the runs hold the code point? -/
def inRuns (runs : List (Nat × Nat)) (n : Nat) : Bool :=
  runs.any fun run => run.1 ≤ n && n ≤ run.2

/-- Is it a letter, mark or symbol that has a case? -/
def isCased (c : Char) : Bool := inRuns casedRuns c.toNat

/-- Is it skipped when a word is examined for cased characters? -/
def isCaseIgnorable (c : Char) : Bool := inRuns caseIgnorableRuns c.toNat

/-! ## One character -/

/-- The lower-case code point of `n`, by the first run that holds it; `n` itself if none does. -/
def lowerCode (n : Nat) : Nat :=
  match lowerRuns.find? fun (first, last, step, _) =>
      first ≤ n && n ≤ last && (n - first) % step == 0 with
  | some (_, _, _, offset) => (n + offset).toNat
  | none => n

/-- The lower-case form of a character taken by itself. -/
def lowerChar (c : Char) : List Char :=
  if c.toNat < 128 then [c.toLower]
  else if c = 'İ' then ['i', '\u0307']
  else [Char.ofNat (lowerCode c.toNat)]

/-! ## A whole text -/

/-- Is the first character that is not case-ignorable a cased one? -/
def meetsCased (cs : List Char) : Bool :=
  (cs.dropWhile isCaseIgnorable).head?.any isCased

/-- Does a word end between `before` (nearest character first) and `after`? -/
def endsWord (before after : List Char) : Bool :=
  meetsCased before && !meetsCased after

/-- Lowers a text of which the characters `before` (nearest first) have been read. -/
def lowerFrom (before : List Char) : List Char → List Char
  | [] => []
  | c :: after =>
    (if c = 'Σ' then [if endsWord before after then 'ς' else 'σ'] else lowerChar c)
      ++ lowerFrom (c :: before) after

/-- The text in lower case, by the full rules. -/
def lowercase (s : String) : String := String.ofList (lowerFrom [] s.toList)

/-- The text with its ASCII capitals lowered and nothing else changed. -/
def lowercaseAscii (s : String) : String := String.ofList (s.toList.map Char.toLower)

/-! ## Sigma at work -/

example : lowercase "ΟΔΟΣ" = "οδος" := by decide +kernel
example : lowercase "ΣΑΣ.Σ" = "σασ.ς" := by decide +kernel
example : lowercase "Σ" = "σ" := by decide +kernel
example : lowercase "İX" = "i̇x" := by decide +kernel

end Rollup.Text
