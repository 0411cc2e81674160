/-
  Filters read back.

  A filter writes itself out as a clause, a text with the values for its placeholders.  Here the
  clause is read as a database reads it, and what it says of a row is what the filter says: every
  factor is a piece of a condition (`Factor.means`), and a filter with at least one factor is a
  conjunction of them (`Filter.means`).

  The crux is that pieces are written from left to right, each new one after a joining word, as
  `String.intercalate` and `Clause.and` both do it.  `Clause.Means` says of a clause that it is
  written as a piece of some rank, in any surroundings, with a known verdict; one lemma,
  `Clause.Means.join`, then serves the tests inside parentheses and the factors of a filter alike.
-/
import Rollup.Proofs.Sql.Condition

namespace Rollup.Sql

variable {like : String → String → Bool}

/-! ## Verdicts of filters -/

/-- Judges a row by one dimension of a filter. -/
def Factor.verdict (like : String → String → Bool) (row : Row) : Factor → Option Bool
  | one t => t.verdict like row
  | anyOf ts => Junction.any.combineAll (ts.map fun t => t.verdict like row)
  | allOf ts => Junction.all.combineAll (ts.map fun t => t.verdict like row)

/-- Judges a row by a filter. -/
def Filter.verdict (like : String → String → Bool) (f : Filter) (row : Row) : Option Bool :=
  Junction.all.combineAll (f.map fun x => x.verdict like row)

/-- A test with something to compare with. -/
def Test.Proper : Test → Prop
  | .compare _ _ _ => True
  | .member _ _ values => values ≠ []

/-- A factor with something to test. -/
def Factor.Proper : Factor → Prop
  | .one t => t.Proper
  | .anyOf ts | .allOf ts => ts ≠ [] ∧ ∀ t ∈ ts, t.Proper

/-! ## Clauses as pieces of a condition -/

/-- The clause is written as a piece of rank `k`, wherever it stands, and judges rows so. -/
def Clause.Means (like : String → String → Bool) (c : Clause) (k : Rank)
    (verdict : Row → Option Bool) : Prop :=
  c.text ≠ "" ∧ ∃ ls e, Yields c.text c.values ls ∧ Written k ls e
    ∧ ∀ row, e.verdict like row = verdict row

/-- Two clauses with a word between them. -/
def Clause.joined (word : String) (c d : Clause) : Clause :=
  { text := c.text ++ word ++ d.text, values := c.values ++ d.values }

/-- The word of a junction in a text. -/
def Junction.word : Junction → String
  | all => " AND "
  | any => " OR "

/-- The rank of conditions joined so. -/
def Junction.rank : Junction → Rank
  | all => .conjunction
  | any => .disjunction

theorem text_append_ne_empty {s t : String} (h : s ≠ "") : s ++ t ≠ "" := fun empty =>
  h (String.append_eq_empty_iff.mp empty).1

/-- The parenthesis that ends a list or a group. -/
theorem yields_closing : Yields ")" [] [.mark .closing] := .ofLexemes rfl (by decide) rfl

namespace Clause.Means

variable {c d : Clause} {u v : Row → Option Bool}

/-- An operand is a conjunction of one, and a disjunction of one. -/
theorem ofOperand (j : Junction) (h : c.Means like .operand u) : c.Means like j.rank u := by
  obtain ⟨some_text, ls, e, yields, written, verdict⟩ := h
  refine ⟨some_text, ls, e, yields, ?_, verdict⟩
  cases j with
  | all => exact .operand written
  | any => exact .conjunction (.operand written)

/-- Joined pieces are a disjunction, if only of one conjunction. -/
theorem toDisjunction {j : Junction} (h : c.Means like j.rank u) : c.Means like .disjunction u := by
  cases j with
  | all =>
    obtain ⟨some_text, ls, e, yields, written, verdict⟩ := h
    exact ⟨some_text, ls, e, yields, .conjunction written, verdict⟩
  | any => exact h

/-- **One more piece after a joining word.** -/
theorem join {j : Junction} (hc : c.Means like j.rank u) (hd : d.Means like .operand v) :
    (c.joined j.word d).Means like j.rank fun row => j.combine (u row) (v row) := by
  obtain ⟨some_text, ls, e, hls, he, ue⟩ := hc
  obtain ⟨-, ms, f, hms, hf, vf⟩ := hd
  have word : Yields j.word [] [.mark j.mark] := by
    cases j <;> exact .ofLexemes rfl (by decide) rfl
  have yields := (hls.append word).append hms
  rw [List.append_nil, List.append_assoc] at yields
  refine ⟨text_append_ne_empty (text_append_ne_empty some_text), _, .join j e f, yields, ?_, ?_⟩
  · cases j with
    | all => exact .and he hf
    | any => exact .or he (.operand hf)
  · intro row
    show j.combine (e.verdict like row) (f.verdict like row) = _
    rw [ue, vf]

/-- Any number of pieces after a first one. -/
theorem joinAll {α : Type} {j : Junction} {clause : α → Clause} {w : α → Row → Option Bool}
    (xs : List α) (pieces : ∀ x ∈ xs, (clause x).Means like .operand (w x))
    (hc : c.Means like j.rank u) :
    (xs.foldl (fun d x => d.joined j.word (clause x)) c).Means like j.rank
      fun row => j.combine (u row) (j.combineAll (xs.map fun x => w x row)) := by
  induction xs generalizing c u with
  | nil => simpa [Junction.combineAll, Junction.combine_neutral] using hc
  | cons x xs ih =>
    have grown := ih (fun y hy => pieces y (List.mem_cons_of_mem _ hy))
      (hc.join (pieces x List.mem_cons_self))
    -- Written from left to right but judged from right to left, which is all the same.
    simp only [Junction.combine_assoc] at grown
    exact grown

/-- A piece in parentheses is an operand. -/
theorem enclosed (h : c.Means like .disjunction u) :
    Means like { text := "(" ++ c.text ++ ")", values := c.values } .operand u := by
  obtain ⟨-, ls, e, yields, written, verdict⟩ := h
  have opened : Yields "(" [] [.mark .opening] := .ofLexemes rfl (by decide) rfl
  have all := (opened.append yields).append yields_closing
  rw [List.nil_append, List.append_nil] at all
  exact ⟨text_append_ne_empty (text_append_ne_empty (by decide)), _, e, all, .enclosed written,
    verdict⟩

end Clause.Means

/-! ## Tests -/

/-- A column and the blank after it. -/
theorem Column.yields (c : Column) : Yields (c.text ++ " ") [] [.column c] := by
  cases c <;> exact .withBlank rfl (by decide)

/-- An operator and the blank after it. -/
theorem Relation.yields (r : Relation) : Yields (r.text ++ " ") [] (r.marks.map .mark) := by
  cases r <;> exact .withBlank rfl (by decide)

/-- A list of placeholders with its values. -/
theorem yields_placeholderList :
    ∀ vs : List Value, Yields (Test.placeholderList vs.length) vs (valueWords vs)
  | [] => .nothing
  | [v] => .placeholder v
  | v :: w :: vs => by
    have comma : Yields ", " [] [.mark .comma] := .ofLexemes rfl (by decide) rfl
    have rest := ((Yields.placeholder v).append comma).append (yields_placeholderList (w :: vs))
    have text : Test.placeholderList (v :: w :: vs).length
        = "?" ++ ", " ++ Test.placeholderList (w :: vs).length := String.intercalate_cons_cons
    rw [text]
    exact rest

/-- **A test is an operand.** -/
theorem Test.means {t : Test} (proper : t.Proper) :
    t.clause.Means like .operand fun row => t.verdict like row := by
  cases t with
  | compare c r v =>
    have yields := (c.yields.append r.yields).append (.placeholder v)
    have text : c.text ++ " " ++ (r.text ++ " ") ++ "?" = c.text ++ " " ++ r.text ++ " ?" := by
      rw [show " ?" = " " ++ "?" from rfl]
      simp only [String.append_assoc]
    rw [text] at yields
    refine ⟨?_, _, .test (.compare c r v), yields, .compare c r v, fun _ => rfl⟩
    exact text_append_ne_empty (text_append_ne_empty (text_append_ne_empty (by cases c <;> decide)))
  | member c negated vs =>
    have opened : Yields (if negated then "NOT IN (" else "IN (") []
        ((listMarks negated).map .mark) := by
      cases negated <;> exact .ofLexemes rfl (by decide) rfl
    have yields := ((c.yields.append opened).append (yields_placeholderList vs)).append
      yields_closing
    have text : c.text ++ " " ++ (if negated then "NOT IN (" else "IN (")
        = c.text ++ if negated then " NOT IN (" else " IN (" := by
      cases negated <;> exact String.append_assoc
    rw [text] at yields
    rw [List.nil_append, List.append_nil] at yields
    refine ⟨?_, _, .test (.member c negated vs), yields, .member c negated proper, fun _ => rfl⟩
    exact text_append_ne_empty (text_append_ne_empty (text_append_ne_empty (by cases c <;> decide)))

/-! ## Factors and filters -/

/-- Texts with a separator are written one after the other. -/
theorem intercalate_eq_foldl (sep : String) (first : String) (rest : List String) :
    String.intercalate sep (first :: rest) = rest.foldl (fun t s => t ++ sep ++ s) first := by
  induction rest generalizing first with
  | nil => exact String.intercalate_singleton
  | cons s rest ih =>
    rw [List.foldl_cons, ← ih]
    cases rest with
    | nil => rw [String.intercalate_cons_cons, String.intercalate_singleton,
        String.intercalate_singleton]
    | cons s' rest =>
      simp only [String.intercalate_cons_cons, String.append_assoc]

/-- Joining clauses joins their texts and their values. -/
theorem foldl_joined (word : String) (ts : List Test) (c : Clause) :
    ts.foldl (fun d t => d.joined word t.clause) c
      = { text := (ts.map fun t => t.clause.text).foldl (fun s t => s ++ word ++ t) c.text
          values := c.values ++ ts.flatMap fun t => t.clause.values } := by
  induction ts generalizing c with
  | nil => simp
  | cons t ts ih =>
    rw [List.foldl_cons, ih]
    simp [Clause.joined]

/-- Tests in parentheses are an operand. -/
theorem Factor.enclosed_means (j : Junction) {ts : List Test} (some_test : ts ≠ [])
    (proper : ∀ t ∈ ts, t.Proper) :
    (Factor.enclosed j.word ts).Means like .operand
      fun row => j.combineAll (ts.map fun t => t.verdict like row) := by
  cases ts with
  | nil => exact absurd rfl some_test
  | cons t ts =>
    have first : t.clause.Means like j.rank fun row => t.verdict like row :=
      (Test.means (proper t List.mem_cons_self)).ofOperand j
    have all := first.joinAll ts fun s hs => Test.means (proper s (List.mem_cons_of_mem _ hs))
    have enclosed := all.toDisjunction.enclosed
    rw [foldl_joined, ← intercalate_eq_foldl] at enclosed
    exact enclosed

/-- **A factor is an operand.** -/
theorem Factor.means {x : Factor} (proper : x.Proper) :
    x.clause.Means like .operand fun row => x.verdict like row := by
  cases x with
  | one t => exact Test.means proper
  | anyOf ts => exact enclosed_means .any proper.1 proper.2
  | allOf ts => exact enclosed_means .all proper.1 proper.2

/-- Clauses with text are joined by AND. -/
theorem foldl_and {f : Filter} (texts : ∀ x ∈ f, x.clause.text ≠ "") {c : Clause}
    (text : c.text ≠ "") :
    (f.map Factor.clause).foldl Clause.and c
      = f.foldl (fun d x => d.joined Junction.all.word x.clause) c := by
  induction f generalizing c with
  | nil => rfl
  | cons x f ih =>
    have hx : x.clause.text ≠ "" := texts x List.mem_cons_self
    have one : c.and x.clause = c.joined Junction.all.word x.clause := by
      simp [Clause.and, Clause.joined, Clause.isEmpty, Junction.word, hx, text]
    have grown : (c.joined Junction.all.word x.clause).text ≠ "" :=
      text_append_ne_empty (text_append_ne_empty text)
    rw [List.map_cons, List.foldl_cons, List.foldl_cons, one]
    exact ih (fun y hy => texts y (List.mem_cons_of_mem _ hy)) grown

/-- **A filter with a factor is a conjunction.** -/
theorem Filter.means {f : Filter} (some_factor : f ≠ []) (proper : ∀ x ∈ f, x.Proper) :
    (Filter.clause f).Means like .conjunction fun row => Filter.verdict like f row := by
  cases f with
  | nil => exact absurd rfl some_factor
  | cons x f =>
    have hx : x.clause.Means like .operand fun row => x.verdict like row :=
      Factor.means (proper x List.mem_cons_self)
    have hf : ∀ y ∈ f, y.clause.Means like .operand fun row => y.verdict like row :=
      fun y hy => Factor.means (proper y (List.mem_cons_of_mem _ hy))
    have start : Clause.empty.and x.clause = x.clause := by
      simp [Clause.and, Clause.isEmpty, Clause.empty, hx.1]
    have text : Filter.clause (x :: f)
        = f.foldl (fun d y => d.joined Junction.all.word y.clause) x.clause := by
      show (f.map Factor.clause).foldl Clause.and (Clause.empty.and x.clause) = _
      rw [start]
      exact foldl_and (fun y hy => (hf y hy).1) hx.1
    rw [text]
    exact (hx.ofOperand .all).joinAll f hf

/-! ## What a clause decides -/

/-- The clause is read as the condition. -/
def Clause.Reads (c : Clause) (e : Expr) : Prop :=
  ∃ ls, words c.text.toList c.values = some ls ∧ Written .disjunction ls e

/-- The clause lets pass exactly the rows of `wanted`: it is silent and all rows are wanted, or it
    is read as a condition, as one only, whose verdict on every row is whether it is wanted. -/
inductive Clause.Decides (like : String → String → Bool) (c : Clause) (wanted : Row → Prop) : Prop
  | silent (text : c.text = "") (values : c.values = []) (always : ∀ row, wanted row)
  | reads (e : Expr) (read : c.Reads e) (only : ∀ e', c.Reads e' → e' = e)
    (verdict : ∀ row, ∃ b, e.verdict like row = some b ∧ (b = true ↔ wanted row))

/-- The filter lets pass exactly the rows of `wanted`, and can be written out. -/
structure Filter.Selects (like : String → String → Bool) (f : Filter) (wanted : Row → Prop) :
    Prop where
  proper : ∀ x ∈ f, x.Proper
  verdict : ∀ row, ∃ b, Filter.verdict like f row = some b ∧ (b = true ↔ wanted row)

/-- What a filter selects, its clause decides. -/
theorem Filter.Selects.clause {f : Filter} {wanted : Row → Prop}
    (h : Filter.Selects like f wanted) : (Filter.clause f).Decides like wanted := by
  by_cases some_factor : f = []
  · -- Without a factor nothing is asked, so every row must have been wanted.
    subst some_factor
    refine .silent rfl rfl fun row => ?_
    obtain ⟨b, hb, wants⟩ := h.verdict row
    have passes : b = true := (Option.some.inj hb).symm
    exact wants.mp passes
  · have means : (Filter.clause f).Means like .conjunction fun row => Filter.verdict like f row :=
      Filter.means some_factor h.proper
    obtain ⟨-, ls, e, yields, written, verdict⟩ := means
    refine .reads e ⟨ls, yields.words_eq, .conjunction written⟩ ?_ fun row =>
      verdict row ▸ h.verdict row
    -- Whatever else the clause might be read as is written in the very same words.
    rintro e' ⟨ls', read, written'⟩
    rw [yields.words_eq] at read
    cases read
    exact written'.unique (.conjunction written)

end Rollup.Sql
