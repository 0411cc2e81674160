/-
  Slots: the placeholders of a text, each with the column it belongs to.

  The names of columns are sought in the text itself, character by character: a placeholder belongs
  to the column whose name ends nearest before it.  Nothing is known of the text but its characters,
  so the head of a statement, the query inside a ranking and the names of a caller are all searched
  alike.

  The crux is that what comes before a text can only matter through the column named last in it.
  A column's name settles that (`nearestColumn_name`), and between the name and its placeholders
  there stand only operators, parentheses and commas, none of which ends a name
  (`Continues`).  So a test names its own placeholders whatever stands before it, and texts that do
  so can be put together in any way at all (`Named.append`).
-/
import Mathlib.Algebra.Ring.Nat
import Rollup.Proofs.Sql.FilterReading
import Rollup.Proofs.Sql.Plain

namespace Rollup.Sql

/-! ## Searching a text -/

/-- The name of a column, read backwards. -/
def Column.reversed (c : Column) : List Char := c.letters.reverse

/-- The column whose name ends a text, the text read backwards. -/
def endingColumn (before : List Char) : Option Column :=
  Column.all.find? fun c => c.reversed.isPrefixOf before

/-- The column whose name ends nearest to the end of a text, the text read backwards. -/
def nearestColumn : List Char → Option Column
  | [] => none
  | c :: before => (endingColumn (c :: before)).or (nearestColumn before)

/-- For each placeholder of a text the column it belongs to.  What stands before the text is given
    backwards. -/
def slotsAfter (before : List Char) : List Char → List (Option Column)
  | [] => []
  | c :: text =>
    if c = placeholder then nearestColumn before :: slotsAfter (c :: before) text
    else slotsAfter (c :: before) text

/-- The slots of a text. -/
def slots (text : String) : List (Option Column) := slotsAfter [] text.toList

theorem slotsAfter_append (before xs ys : List Char) :
    slotsAfter before (xs ++ ys)
      = slotsAfter before xs ++ slotsAfter (xs.reverse ++ before) ys := by
  induction xs generalizing before with
  | nil => rfl
  | cons x xs ih =>
    have rest : (x :: xs).reverse ++ before = xs.reverse ++ x :: before := by simp
    rw [rest, List.cons_append, slotsAfter, slotsAfter, ih]
    split <;> rfl

/-- There is a slot for each placeholder. -/
theorem length_slotsAfter (before xs : List Char) :
    (slotsAfter before xs).length = xs.count placeholder := by
  induction xs generalizing before with
  | nil => rfl
  | cons x xs ih =>
    rw [slotsAfter]
    by_cases h : x = placeholder
    · rw [if_pos h, List.length_cons, ih, h, List.count_cons_self]
    · rw [if_neg h, ih, List.count_cons_of_ne h]

/-- A text without placeholders has no slots. -/
theorem slotsAfter_of_count {xs : List Char} (none_waits : xs.count placeholder = 0)
    (before : List Char) : slotsAfter before xs = [] :=
  List.eq_nil_of_length_eq_zero ((length_slotsAfter before xs).trans none_waits)

/-! ## Counting placeholders -/

theorem placeholderCount_ofList (cs : List Char) :
    placeholderCount (String.ofList cs) = cs.count placeholder := by
  unfold placeholderCount
  rw [String.toList_ofList]

theorem placeholderCount_append (s t : String) :
    placeholderCount (s ++ t) = placeholderCount s + placeholderCount t := by
  unfold placeholderCount
  rw [String.toList_append, List.count_append]

/-- Texts that wait for nothing, side by side. -/
theorem silent_append {s t : String} (hs : placeholderCount s = 0) (ht : placeholderCount t = 0) :
    placeholderCount (s ++ t) = 0 := by
  rw [placeholderCount_append, hs, ht]

/-- What texts with a separator wait for, they wait for one after the other. -/
theorem placeholderCount_intercalate {sep : String} (silent : placeholderCount sep = 0)
    (ts : List String) :
    placeholderCount (String.intercalate sep ts) = (ts.map placeholderCount).sum := by
  cases ts with
  | nil => rfl
  | cons t ts =>
    rw [intercalate_eq_foldl, List.map_cons, List.sum_cons]
    induction ts generalizing t with
    | nil => simp
    | cons u ts ih =>
      rw [List.foldl_cons, ih, placeholderCount_append, placeholderCount_append, silent,
        List.map_cons, List.sum_cons]
      omega

/-- The names of columns wait for nothing. -/
theorem placeholderCount_column (c : Column) : placeholderCount c.text = 0 := by
  cases c <;> exact placeholderCount_ofList _

theorem sum_placeholderCount_columns (cs : List Column) :
    ((cs.map Column.text).map placeholderCount).sum = 0 := by
  induction cs with
  | nil => rfl
  | cons c cs ih =>
    rw [List.map_cons, List.map_cons, List.sum_cons, ih, placeholderCount_column]

/-! ## The column named last -/

/-- Of two lists of which neither begins the other, neither begins the other with more behind. -/
theorem isPrefixOf_append_eq_false {a b : List Char} (hab : ¬ a <+: b) (hba : ¬ b <+: a)
    (rest : List Char) : a.isPrefixOf (b ++ rest) = false := by
  refine Bool.eq_false_iff.mpr fun h => ?_
  have begins : a <+: b ++ rest := List.isPrefixOf_iff_prefix.mp h
  exact (List.prefix_or_prefix_of_prefix begins (List.prefix_append b rest)).elim hab hba

theorem Column.mem_all (c : Column) : c ∈ Column.all := by cases c <;> decide

/-- A column's name ends with its own name and with no other's. -/
theorem nearestColumn_name (c : Column) (before : List Char) :
    nearestColumn (c.reversed ++ before) = some c := by
  have apart : ∀ d ∈ Column.all, d ≠ c →
      ¬ d.reversed <+: c.reversed ∧ ¬ c.reversed <+: d.reversed := by
    cases c <;> decide
  have ending : endingColumn (c.reversed ++ before) = some c := by
    cases found : endingColumn (c.reversed ++ before) with
    | none =>
      have missed := List.find?_eq_none.mp found c c.mem_all
      exact absurd (List.isPrefixOf_iff_prefix.mpr (List.prefix_append _ _)) missed
    | some d =>
      by_cases same : d = c
      · rw [same]
      · obtain ⟨hdc, hcd⟩ := apart d d.mem_all same
        have begins := List.find?_some found
        rw [isPrefixOf_append_eq_false hdc hcd] at begins
        exact absurd begins Bool.false_ne_true
  have some_char : c.reversed ≠ [] := by cases c <;> decide
  obtain ⟨x, xs, chars⟩ := List.exists_cons_of_ne_nil some_char
  rw [chars, List.cons_append] at ending ⊢
  rw [nearestColumn, ending, Option.some_or]

/-- Is it a text that names no column, as none ends in it wherever it stands? -/
def namesNone (text : List Char) : Bool :=
  text.reverse.tails.all fun u => u.isEmpty || Column.all.all fun c =>
    !c.reversed.isPrefixOf u && !u.isPrefixOf c.reversed

/-- Such a text leaves the column named last as it was. -/
theorem nearestColumn_of_namesNone {text : List Char} (h : namesNone text = true)
    (before : List Char) : nearestColumn (text.reverse ++ before) = nearestColumn before := by
  have walk : ∀ xs : List Char, (∀ u ∈ xs.tails, u ∈ text.reverse.tails) →
      nearestColumn (xs ++ before) = nearestColumn before := by
    intro xs
    induction xs with
    | nil => exact fun _ => rfl
    | cons x xs ih =>
      intro within
      -- A name that ended here would begin with this very suffix, or the suffix with it.
      have ending : endingColumn (x :: xs ++ before) = none := by
        refine List.find?_eq_none.mpr fun c hc => ?_
        have apart := List.all_eq_true.mp h (x :: xs) (within _ (by simp))
        have both := List.all_eq_true.mp ((Bool.false_or _).symm.trans apart) c hc
        simp only [Bool.and_eq_true, Bool.not_eq_true', ← Bool.not_eq_true,
          List.isPrefixOf_iff_prefix] at both
        rw [isPrefixOf_append_eq_false both.1 both.2]
        exact Bool.false_ne_true
      rw [List.cons_append] at ending ⊢
      rw [nearestColumn, ending, Option.none_or]
      exact ih fun u hu => within u (by simp [hu])
  exact walk _ fun _ hu => hu

/-! ## Texts that go on after a name -/

/-- The text has `n` placeholders, all of which belong to the column named last before it, and names
    none itself. -/
def Continues (text : String) (n : Nat) : Prop :=
  ∀ before, slotsAfter before text.toList = List.replicate n (nearestColumn before)
    ∧ nearestColumn (text.toList.reverse ++ before) = nearestColumn before

namespace Continues

theorem ofNamesNone {text : List Char} (names : namesNone text = true)
    (silent : text.count placeholder = 0) : Continues (String.ofList text) 0 := by
  intro before
  rw [String.toList_ofList]
  exact ⟨slotsAfter_of_count silent before, nearestColumn_of_namesNone names before⟩

theorem placeholder : Continues "?" 1 := by
  have chars : "?".toList = [Sql.placeholder] := String.toList_ofList
  have names : namesNone [Sql.placeholder] = true := rfl
  intro before
  rw [chars]
  exact ⟨rfl, nearestColumn_of_namesNone names before⟩

theorem append {s t : String} {m n : Nat} (hs : Continues s m) (ht : Continues t n) :
    Continues (s ++ t) (m + n) := by
  intro before
  obtain ⟨slots_s, last_s⟩ := hs before
  obtain ⟨slots_t, last_t⟩ := ht (s.toList.reverse ++ before)
  constructor
  · rw [String.toList_append, slotsAfter_append, slots_s, slots_t, last_s,
      List.replicate_append_replicate]
  · rw [String.toList_append, List.reverse_append, List.append_assoc, last_t, last_s]

/-- A list of placeholders. -/
theorem placeholderList : ∀ n, Continues (Test.placeholderList n) n
  | 0 => ofNamesNone rfl rfl
  | 1 => placeholder
  | n + 2 => by
    have comma : Continues ", " 0 := ofNamesNone rfl rfl
    have rest := (placeholder.append comma).append (placeholderList (n + 1))
    have text : Test.placeholderList (n + 2) = "?" ++ ", " ++ Test.placeholderList (n + 1) :=
      String.intercalate_cons_cons
    rw [text, show n + 2 = 1 + 0 + (n + 1) from by omega]
    exact rest

end Continues

/-! ## Texts that name their slots -/

/-- The text names the columns of its placeholders, whatever stands before it. -/
def Named (text : String) (columns : List Column) : Prop :=
  ∀ before, slotsAfter before text.toList = columns.map some

namespace Named

variable {s t : String} {cs ds : List Column}

/-- Without placeholders there is nothing to name. -/
theorem ofSilent (silent : placeholderCount t = 0) : Named t [] :=
  fun before => slotsAfter_of_count silent before

/-- A name, and what goes on after it. -/
theorem ofContinues {n : Nat} (c : Column) (goes_on : Continues t n) :
    Named (c.text ++ t) (List.replicate n c) := by
  intro before
  have last : nearestColumn (c.text.toList.reverse ++ before) = some c := by
    rw [c.toList_text]
    exact nearestColumn_name c before
  rw [String.toList_append, slotsAfter_append, slotsAfter_of_count (placeholderCount_column c),
    (goes_on _).1, last, List.nil_append, List.map_replicate]

/-- **Texts side by side** name the slots of the one and then those of the other. -/
theorem append (hs : Named s cs) (ht : Named t ds) : Named (s ++ t) (cs ++ ds) := by
  intro before
  rw [String.toList_append, slotsAfter_append, hs, ht, List.map_append]

/-- A text without placeholders between two others. -/
theorem around {word : String} (silent : placeholderCount word = 0) (hs : Named s cs)
    (ht : Named t ds) : Named (s ++ word ++ t) (cs ++ ds) := by
  have named := (hs.append (ofSilent silent)).append ht
  rw [List.append_nil] at named
  exact named

/-- The placeholders are as many as the columns. -/
theorem placeholderCount_eq (h : Named t cs) : placeholderCount t = cs.length := by
  unfold placeholderCount
  rw [← length_slotsAfter [], h, List.length_map]

end Named

/-! ## The fields of a filter -/

/-- A value with the column that it is compared with. -/
abbrev Field := Column × Value

/-- The fields of a test, in order. -/
def Test.fields : Test → List Field
  | compare c _ v => [(c, v)]
  | member c _ vs => vs.map fun v => (c, v)

/-- The fields of a factor. -/
def Factor.fields : Factor → List Field
  | one t => t.fields
  | anyOf ts | allOf ts => ts.flatMap Test.fields

/-- The fields of a filter. -/
def Filter.fields (f : Filter) : List Field := f.flatMap Factor.fields

/-- The fields of a filter by rank: those of the candidates inside, and those of the window. -/
def RankedFilter.fields (f : RankedFilter) : List Field :=
  Filter.fields f.candidates ++ Filter.fields f.window

/-- The fields of a predicate. -/
def Predicate.fields : Predicate → List Field
  | plain f => Filter.fields f
  | ranked f => f.fields

/-- The clause binds the fields: its text names their columns and its values are theirs. -/
def Clause.Binds (c : Clause) (fields : List Field) : Prop :=
  Named c.text (fields.map Prod.fst) ∧ c.values = fields.map Prod.snd

namespace Clause.Binds

variable {c d : Clause} {fs gs : List Field}

theorem empty : Clause.empty.Binds [] := ⟨.ofSilent rfl, rfl⟩

/-- A clause without text has no placeholder and hence no value. -/
theorem eq_nil (h : c.Binds fs) (silent : c.isEmpty = true) : fs = [] := by
  have text : c.text = "" := by simpa [isEmpty] using silent
  have count := h.1.placeholderCount_eq
  rw [text, List.length_map] at count
  exact List.eq_nil_of_length_eq_zero count.symm

/-- **Clauses joined by AND** bind the fields of both. -/
theorem and (hc : c.Binds fs) (hd : d.Binds gs) : (c.and d).Binds (fs ++ gs) := by
  unfold Clause.and
  -- A silent clause drops out of the join, values and all, so it must not have had any.
  by_cases d_silent : d.isEmpty
  · rw [if_pos d_silent, hd.eq_nil d_silent, List.append_nil]
    exact hc
  · rw [if_neg d_silent]
    by_cases c_silent : c.isEmpty
    · constructor
      · rw [if_pos c_silent, hc.eq_nil c_silent, List.nil_append]
        exact hd.1
      · rw [hc.2, hd.2, List.map_append]
    · constructor
      · rw [if_neg c_silent, List.map_append]
        exact .around (placeholderCount_ofList _) hc.1 hd.1
      · rw [hc.2, hd.2, List.map_append]

/-- Any number of clauses after a first one. -/
theorem foldl {α : Type} {clause : α → Clause} {fields : α → List Field}
    (each : ∀ x, (clause x).Binds (fields x)) (xs : List α) (hc : c.Binds fs) :
    ((xs.map clause).foldl Clause.and c).Binds (fs ++ xs.flatMap fields) := by
  induction xs generalizing c fs with
  | nil => simpa using hc
  | cons x xs ih =>
    rw [List.map_cons, List.foldl_cons, List.flatMap_cons, ← List.append_assoc]
    exact ih (hc.and (each x))

/-- A clause as the condition of a statement names what the clause names. -/
theorem whereText (h : c.Binds fs) : Named c.whereText (fs.map Prod.fst) := by
  unfold Clause.whereText
  by_cases silent : c.isEmpty
  · rw [if_pos silent, h.eq_nil silent]
    exact .ofSilent rfl
  · rw [if_neg silent]
    exact (Named.ofSilent (placeholderCount_ofList _)).append h.1

end Clause.Binds

/-! ## Every clause binds its fields -/

theorem Test.binds (t : Test) : t.clause.Binds t.fields := by
  cases t with
  | compare c r v =>
    have blank : Continues " " 0 := .ofNamesNone rfl rfl
    have relation : Continues r.text 0 := by cases r <;> exact .ofNamesNone rfl rfl
    have operator : Continues (" " ++ r.text ++ " ") 0 := (blank.append relation).append blank
    have named := Named.ofContinues c (operator.append .placeholder)
    have text : c.text ++ (" " ++ r.text ++ " " ++ "?") = c.text ++ " " ++ r.text ++ " ?" := by
      rw [show " ?" = " " ++ "?" from rfl]
      simp only [String.append_assoc]
    rw [text] at named
    exact ⟨named, rfl⟩
  | member c negated vs =>
    have opened : Continues (if negated then " NOT IN (" else " IN (") 0 := by
      cases negated <;> exact .ofNamesNone rfl rfl
    have closed : Continues ")" 0 := .ofNamesNone rfl rfl
    have named := Named.ofContinues c ((opened.append (.placeholderList vs.length)).append closed)
    rw [← String.append_assoc, ← String.append_assoc, Nat.zero_add, Nat.add_zero] at named
    refine ⟨?_, by simp [fields, clause, Function.comp_def]⟩
    have columns : (fields (.member c negated vs)).map Prod.fst = List.replicate vs.length c := by
      simp [fields, Function.comp_def]
    rw [columns]
    exact named

/-- Tests with a word between them name one after the other. -/
theorem named_intercalate {word : String} (silent : placeholderCount word = 0) :
    ∀ ts : List Test, Named (String.intercalate word (ts.map fun t => t.clause.text))
      ((ts.flatMap Test.fields).map Prod.fst)
  | [] => .ofSilent rfl
  | [t] => by
    rw [List.map_singleton, String.intercalate_singleton, List.flatMap_cons, List.flatMap_nil,
      List.append_nil]
    exact t.binds.1
  | t :: u :: ts => by
    rw [List.map_cons, List.map_cons, String.intercalate_cons_cons, List.flatMap_cons,
      List.map_append]
    exact .around silent t.binds.1 (named_intercalate silent (u :: ts))

theorem Factor.binds_enclosed {word : String} (silent : placeholderCount word = 0)
    (ts : List Test) : (enclosed word ts).Binds (ts.flatMap Test.fields) := by
  constructor
  · have opened : Named "(" [] := .ofSilent (placeholderCount_ofList _)
    have closed : Named ")" [] := .ofSilent (placeholderCount_ofList _)
    have named := (opened.append (named_intercalate silent ts)).append closed
    rw [List.nil_append, List.append_nil] at named
    exact named
  · show ts.flatMap (fun t => t.clause.values) = _
    rw [List.map_flatMap]
    exact congrArg (ts.flatMap ·) (funext fun t => t.binds.2)

theorem Factor.binds (x : Factor) : x.clause.Binds x.fields := by
  cases x with
  | one t => exact t.binds
  | anyOf ts => exact binds_enclosed (placeholderCount_ofList _) ts
  | allOf ts => exact binds_enclosed (placeholderCount_ofList _) ts

theorem Filter.binds (f : Filter) : (Filter.clause f).Binds (Filter.fields f) :=
  Clause.Binds.empty.foldl Factor.binds f

/-- The query inside names the fields of the candidates. -/
theorem RankedFilter.binds (f : RankedFilter) : f.clause.Binds f.fields := by
  have candidates := (Filter.binds f.candidates).whereText
  have named := ((Named.ofSilent f.opening_plain.waits).append candidates).append
    (.ofSilent f.closing_plain.waits)
  rw [List.nil_append, List.append_nil, ← f.text_membership_around] at named
  have membership : f.membership.Binds (Filter.fields f.candidates) :=
    ⟨named, (Filter.binds f.candidates).2⟩
  exact membership.and (Filter.binds f.window)

/-- **Every clause names the column of each of its values.** -/
theorem Predicate.binds (p : Predicate) : p.clause.Binds p.fields := by
  cases p with
  | plain f => exact Filter.binds f
  | ranked f => exact f.binds

example : slots "A = ? AND HOSTNAME IN (?, ?) AND UUID = ?"
    = [none, some .host, some .host, some .identity] := by
  unfold slots
  rw [show "A = ? AND HOSTNAME IN (?, ?) AND UUID = ?".toList = _ from String.toList_ofList]
  rfl

end Rollup.Sql
