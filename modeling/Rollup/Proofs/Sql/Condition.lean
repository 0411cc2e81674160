/-
  Conditions: how they are written, and what they say of a row.

  A condition is built from tests of columns by AND and OR.  It is written with the usual ranks:
  an operand is a test or a condition in parentheses, a conjunction is operands with AND between
  them, and a disjunction is conjunctions with OR between them.  `Written` is that grammar.  It has
  no rule for a list without members or for a junction with nothing on one side.

  A condition is judged by a row whose columns all hold values.  Equality and membership compare
  values of one kind, the order compares integers, and LIKE is whatever relation of a text and a
  pattern the database takes for it.  A comparison of anything else has no verdict.

  The crux is `Written.unique`: no words can be read as two conditions.  The proof reads the words
  once from left to right.  `step` takes one word after the other, keeping for each open
  parenthesis what stands complete inside it, and whatever the grammar derives, the reader finds.
-/
import Rollup.Proofs.Sql.Lexeme

namespace Rollup

/-- The three kinds of values. -/
inductive Value.Kind
  | bytes
  | text
  | integer
  deriving DecidableEq

/-- The kind of a value. -/
def Value.kind : Value → Kind
  | bytes _ => .bytes
  | text _ => .text
  | integer _ => .integer

namespace Sql

/-! ## Rows -/

/-- A row of a series table, with a value in every column. -/
structure Row where
  identity : Bytes
  name : String
  host : String
  app : String
  instanceId : String
  time : Int

/-- What a row holds in a column. -/
def Row.value (row : Row) : Column → Value
  | .identity => .bytes row.identity
  | .name => .text row.name
  | .host => .text row.host
  | .app => .text row.app
  | .instanceId => .text row.instanceId
  | .time => .integer row.time

/-! ## Expressions -/

/-- How conditions are joined. -/
inductive Junction
  | all
  | any
  deriving DecidableEq

/-- A condition by its parts. -/
inductive Expr
  | test (test : Test)
  | join (junction : Junction) (left right : Expr)
  deriving DecidableEq

namespace Junction

/-- The word of a junction. -/
def mark : Junction → Mark
  | all => .and
  | any => .or

/-- The verdict when there is nothing to join. -/
def neutral : Junction → Bool
  | all => true
  | any => false

/-- Two verdicts as one. -/
def combine (j : Junction) (x y : Option Bool) : Option Bool :=
  x.bind fun a => y.map fun b =>
    match j with
    | all => a && b
    | any => a || b

/-- Any number of verdicts as one. -/
def combineAll (j : Junction) (xs : List (Option Bool)) : Option Bool :=
  xs.foldr j.combine (some j.neutral)

theorem combine_assoc (j : Junction) (x y z : Option Bool) :
    j.combine (j.combine x y) z = j.combine x (j.combine y z) := by
  cases x <;> cases y <;> cases z <;> cases j <;> simp [combine, Bool.and_assoc, Bool.or_assoc]

theorem combine_neutral (j : Junction) (x : Option Bool) :
    j.combine x (some j.neutral) = x := by
  cases x <;> cases j <;> simp [combine, neutral]

theorem neutral_combine (j : Junction) (x : Option Bool) :
    j.combine (some j.neutral) x = x := by
  cases x <;> cases j <;> simp [combine, neutral]

theorem combineAll_cons (j : Junction) (x : Option Bool) (xs : List (Option Bool)) :
    j.combineAll (x :: xs) = j.combine x (j.combineAll xs) := rfl

theorem combineAll_append (j : Junction) (xs ys : List (Option Bool)) :
    j.combineAll (xs ++ ys) = j.combine (j.combineAll xs) (j.combineAll ys) := by
  induction xs with
  | nil => exact (j.neutral_combine _).symm
  | cons x xs ih =>
    rw [List.cons_append, combineAll_cons, combineAll_cons, ih, combine_assoc]

end Junction

/-! ## Verdicts -/

section Verdicts

variable (like : String → String → Bool)

/-- Compares the value of a column with another. -/
def Relation.verdict : Relation → Value → Value → Option Bool
  | .equal, x, y => if x.kind = y.kind then some (decide (x = y)) else none
  | .unequal, x, y => if x.kind = y.kind then some (decide (x ≠ y)) else none
  | .like, .text s, .text p => some (like s p)
  | .unlike, .text s, .text p => some (!like s p)
  | .atLeast, .integer m, .integer n => some (decide (n ≤ m))
  | .below, .integer m, .integer n => some (decide (m < n))
  | _, _, _ => none

/-- Judges a row by one test.  To be a member is to equal one of the values. -/
def Test.verdict (row : Row) : Test → Option Bool
  | compare column relation value => relation.verdict like (row.value column) value
  | member column negated values =>
    (Junction.any.combineAll
      (values.map fun v => Relation.equal.verdict like (row.value column) v)).map (· != negated)

/-- Judges a row by a condition. -/
def Expr.verdict (row : Row) : Expr → Option Bool
  | test t => t.verdict like row
  | join j left right => j.combine (left.verdict row) (right.verdict row)

end Verdicts

/-! ## The grammar -/

/-- The words of a relation. -/
def Relation.marks : Relation → List Mark
  | .equal => [.equals]
  | .unequal => [.differs]
  | .like => [.like]
  | .unlike => [.not, .like]
  | .atLeast => [.atLeast]
  | .below => [.below]

/-- The words before the members of a list. -/
def listMarks (negated : Bool) : List Mark :=
  if negated then [.not, .isIn, .opening] else [.isIn, .opening]

/-- The words of a list of values. -/
def valueWords (values : List Value) : List Lexeme :=
  (values.map Lexeme.value).intersperse (.mark .comma)

/-- How much a piece of a condition holds together, the closest first. -/
inductive Rank
  | operand
  | conjunction
  | disjunction
  deriving DecidableEq

/-- `Written k ls e`: the words `ls` are a way to write the condition `e` as a piece of rank `k`. -/
inductive Written : Rank → List Lexeme → Expr → Prop
  | compare (c : Column) (r : Relation) (v : Value) :
    Written .operand (.column c :: r.marks.map .mark ++ [.value v]) (.test (.compare c r v))
  | member (c : Column) (negated : Bool) {vs : List Value} (some_member : vs ≠ []) :
    Written .operand
      (.column c :: (listMarks negated).map .mark ++ valueWords vs ++ [.mark .closing])
      (.test (.member c negated vs))
  | enclosed {ls : List Lexeme} {e : Expr} (inner : Written .disjunction ls e) :
    Written .operand (.mark .opening :: ls ++ [.mark .closing]) e
  | operand {ls : List Lexeme} {e : Expr} (piece : Written .operand ls e) :
    Written .conjunction ls e
  | and {ls ms : List Lexeme} {e f : Expr} (left : Written .conjunction ls e)
    (right : Written .operand ms f) :
    Written .conjunction (ls ++ .mark .and :: ms) (.join .all e f)
  | conjunction {ls : List Lexeme} {e : Expr} (piece : Written .conjunction ls e) :
    Written .disjunction ls e
  | or {ls ms : List Lexeme} {e f : Expr} (left : Written .disjunction ls e)
    (right : Written .conjunction ms f) :
    Written .disjunction (ls ++ .mark .or :: ms) (.join .any e f)

/-! ## Reading from left to right -/

/-- What has been read since a parenthesis was opened: the alternatives before the last OR, and the
    conjuncts since. -/
structure Level where
  alternatives : Option Expr := none
  conjuncts : Option Expr := none

namespace Level

/-- A condition after what was read before it. -/
def joinTo (j : Junction) (e : Expr) : Option Expr → Expr
  | none => e
  | some before => .join j before e

/-- One more operand. -/
def push (l : Level) (e : Expr) : Level := { l with conjuncts := some (joinTo .all e l.conjuncts) }

/-- The whole of a level, if it does not end in the air. -/
def close (l : Level) : Option Expr := l.conjuncts.map fun e => joinTo .any e l.alternatives

end Level

/-- What the reader waits for. -/
inductive Phase
  | operand
  | junction
  | relation (c : Column)
  | negated (c : Column)
  | value (c : Column) (r : Relation)
  | list (c : Column) (negated : Bool)
  | member (c : Column) (negated : Bool) (before : List Value)
  | comma (c : Column) (negated : Bool) (before : List Value)

/-- Where the reader stands: what it waits for, and what it has read at each level. -/
structure Reader where
  phase : Phase
  level : Level := {}
  outer : List Level := []

namespace Reader

/-- The reader after one more word; it stops at a word that cannot come next. -/
def step (s : Reader) (l : Lexeme) : Option Reader :=
  match s.phase, l with
  | .operand, .column c => some { s with phase := .relation c }
  | .operand, .mark .opening => some ⟨.operand, {}, s.level :: s.outer⟩
  | .relation c, .mark .equals => some { s with phase := .value c .equal }
  | .relation c, .mark .differs => some { s with phase := .value c .unequal }
  | .relation c, .mark .atLeast => some { s with phase := .value c .atLeast }
  | .relation c, .mark .below => some { s with phase := .value c .below }
  | .relation c, .mark .like => some { s with phase := .value c .like }
  | .relation c, .mark .isIn => some { s with phase := .list c false }
  | .relation c, .mark .not => some { s with phase := .negated c }
  | .negated c, .mark .like => some { s with phase := .value c .unlike }
  | .negated c, .mark .isIn => some { s with phase := .list c true }
  | .value c r, .value v => some ⟨.junction, s.level.push (.test (.compare c r v)), s.outer⟩
  | .list c n, .mark .opening => some { s with phase := .member c n [] }
  | .member c n vs, .value v => some { s with phase := .comma c n (vs ++ [v]) }
  | .comma c n vs, .mark .comma => some { s with phase := .member c n vs }
  | .comma c n vs, .mark .closing =>
    some ⟨.junction, s.level.push (.test (.member c n vs)), s.outer⟩
  | .junction, .mark .and => some { s with phase := .operand }
  | .junction, .mark .or => s.level.close.map fun e => ⟨.operand, ⟨some e, none⟩, s.outer⟩
  | .junction, .mark .closing =>
    match s.outer with
    | [] => none
    | below :: outer => s.level.close.map fun e => ⟨.junction, below.push e, outer⟩
  | _, _ => none

/-- The reader after several words. -/
def run (s : Reader) (ls : List Lexeme) : Option Reader := ls.foldlM step s

theorem run_cons (s : Reader) (l : Lexeme) (ls : List Lexeme) :
    s.run (l :: ls) = (s.step l).bind fun t => t.run ls := rfl

theorem run_append (s : Reader) (ls ms : List Lexeme) :
    s.run (ls ++ ms) = (s.run ls).bind fun t => t.run ms :=
  List.foldlM_append

/-- The members of a list are read one by one. -/
theorem run_values (c : Column) (n : Bool) (level : Level) (outer : List Level) :
    ∀ (vs before : List Value), vs ≠ [] →
      run ⟨.member c n before, level, outer⟩ (valueWords vs)
        = some ⟨.comma c n (before ++ vs), level, outer⟩
  | [], _, h => absurd rfl h
  | [v], before, _ => rfl
  | v :: w :: vs, before, _ => by
    have rest := run_values c n level outer (w :: vs) (before ++ [v]) (List.cons_ne_nil _ _)
    rw [List.append_assoc] at rest
    exact rest

/-- **The reader finds what the grammar derives.**  An operand is pushed, a conjunction fills the
    conjuncts of a level that has none, and a disjunction read at a fresh level closes to it. -/
theorem run_written {k : Rank} {ls : List Lexeme} {e : Expr} (h : Written k ls e) :
    match k with
    | .operand => ∀ level outer,
      run ⟨.operand, level, outer⟩ ls = some ⟨.junction, level.push e, outer⟩
    | .conjunction => ∀ alternatives outer,
      run ⟨.operand, ⟨alternatives, none⟩, outer⟩ ls
        = some ⟨.junction, ⟨alternatives, some e⟩, outer⟩
    | .disjunction => ∀ outer,
      ∃ level : Level, level.close = some e
        ∧ run ⟨.operand, {}, outer⟩ ls = some ⟨.junction, level, outer⟩ := by
  induction h with
  | compare c r v =>
    intro level outer
    cases r <;> rfl
  | @member c negated vs some_member =>
    intro level outer
    have opened : run ⟨.operand, level, outer⟩ (.column c :: (listMarks negated).map .mark)
        = some ⟨.member c negated [], level, outer⟩ := by
      cases negated <;> rfl
    rw [run_append, run_append, opened, Option.bind_some,
      run_values c negated level outer vs [] some_member]
    rfl
  | @enclosed ls e _ ih =>
    intro level outer
    -- Inside the parenthesis the reader starts afresh, with the level it left put by.
    obtain ⟨inside, closed, read⟩ := ih (level :: outer)
    rw [List.cons_append, run_cons]
    show run ⟨.operand, {}, level :: outer⟩ (ls ++ [.mark .closing]) = _
    rw [run_append, read, Option.bind_some, run_cons]
    simp only [step, closed, Option.map_some, Option.bind_some]
    rfl
  | operand _ ih =>
    intro alternatives outer
    exact ih ⟨alternatives, none⟩ outer
  | and _ _ ihl ihr =>
    intro alternatives outer
    rw [run_append, ihl, Option.bind_some, run_cons]
    exact ihr _ outer
  | conjunction _ ih =>
    intro outer
    exact ⟨_, rfl, ih none outer⟩
  | @or ls ms e f _ _ ihl ihr =>
    intro outer
    obtain ⟨level, closed, read⟩ := ihl outer
    -- The word OR closes what stands before it, and the conjuncts begin anew.
    refine ⟨⟨some e, some f⟩, rfl, ?_⟩
    rw [run_append, read, Option.bind_some, run_cons]
    simp only [step, closed, Option.map_some, Option.bind_some]
    exact ihr _ outer

end Reader

/-- **No words can be read as two conditions.** -/
theorem Written.unique {ls : List Lexeme} {e f : Expr} (he : Written .disjunction ls e)
    (hf : Written .disjunction ls f) : e = f := by
  obtain ⟨level, closed, read⟩ := Reader.run_written he []
  obtain ⟨level', closed', read'⟩ := Reader.run_written hf []
  have same : level = level' := by
    rw [read] at read'
    injection read' with h
    injection h
  rw [same, closed'] at closed
  injection closed with h
  exact h.symm

end Sql

end Rollup
