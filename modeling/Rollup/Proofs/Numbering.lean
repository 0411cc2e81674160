/-
  Reading numbered placeholders back.

  A numbered text is read from left to right: a `$` begins a label, and all digits directly behind
  it are its number.  `runs` lists these numbers as they are written, and `restored` puts a
  placeholder in the place of each label.

  The crux is that a run of digits ends where its label ends.  What stands behind a placeholder
  begins with no digit if the text is numberable, and numbering leaves that so, for a label begins
  with `$` (`opens_numberFrom`).  The texts of all plans are numberable, but for what their caller
  wrote himself.
-/
import Rollup.Proofs.Delivery
import Rollup.Proofs.Sql.Numberable

namespace Rollup

open Sql (placeholder placeholderCount Numberable Opens Plain Detached)

namespace Numbering

variable {text : List Char}

/-! ## Reading -/

/-- The digits directly behind each `$`, as far as they go. -/
def runs : List Char → List (List Char)
  | [] => []
  | c :: rest => if c = '$' then rest.takeWhile Char.isDigit :: runs rest else runs rest

/-- The text with a placeholder for each `$` and the digits behind it; `inside` says whether what
    was read last belongs to a label. -/
def restoreFrom (inside : Bool) : List Char → List Char
  | [] => []
  | c :: rest =>
    if c = '$' then placeholder :: restoreFrom true rest
    else if inside && c.isDigit then restoreFrom true rest
    else c :: restoreFrom false rest

/-- The text with its labels turned back into placeholders. -/
def restored (text : String) : String := String.ofList (restoreFrom false text.toList)

example : restored "UUID IN ($1, $2) AND t >= $3" = "UUID IN (?, ?) AND t >= ?" := by decide +kernel

/-! ## Digits -/

theorem ne_dollar_of_isDigit {c : Char} (digit : c.isDigit = true) : c ≠ '$' := by
  rintro rfl
  exact absurd digit (by decide)

/-- No label begins among digits. -/
theorem runs_digits {digits : List Char} (each : ∀ c ∈ digits, c.isDigit = true)
    (rest : List Char) : runs (digits ++ rest) = runs rest := by
  induction digits with
  | nil => rfl
  | cons c digits ih =>
    rw [List.cons_append, runs, if_neg (ne_dollar_of_isDigit (each c List.mem_cons_self))]
    exact ih fun d among => each d (List.mem_cons_of_mem _ among)

/-- In a label digits leave nothing behind. -/
theorem restoreFrom_digits {digits : List Char} (each : ∀ c ∈ digits, c.isDigit = true)
    (rest : List Char) : restoreFrom true (digits ++ rest) = restoreFrom true rest := by
  induction digits with
  | nil => rfl
  | cons c digits ih =>
    have digit := each c List.mem_cons_self
    rw [List.cons_append, restoreFrom, if_neg (ne_dollar_of_isDigit digit), digit, Bool.and_true,
      if_pos rfl]
    exact ih fun d among => each d (List.mem_cons_of_mem _ among)

/-! ## What numbering leaves -/

/-- No placeholder is left. -/
theorem not_mem_numberFrom (k : Nat) (text : List Char) : placeholder ∉ numberFrom k text := by
  induction text generalizing k with
  | nil => exact List.not_mem_nil
  | cons c rest ih =>
    unfold numberFrom
    by_cases waits : c = placeholder
    · have label : placeholder ∉ label (k + 1) := by
        intro among
        rcases List.mem_cons.mp among with dollar | digit
        · exact absurd dollar (by decide)
        · exact absurd (Sql.isDigit_of_mem_toString digit) (by decide)
      rw [if_pos waits, List.mem_append, not_or]
      exact ⟨label, ih (k + 1)⟩
    · rw [if_neg waits, List.mem_cons, not_or]
      exact ⟨Ne.symm waits, ih k⟩

/-- A text that begins with no digit begins with none when it is numbered. -/
theorem opens_numberFrom (opens : Opens text) (k : Nat) : Opens (numberFrom k text) := by
  cases text with
  | nil => exact opens
  | cons c rest =>
    intro d first
    unfold numberFrom at first
    by_cases waits : c = placeholder
    · rw [if_pos waits] at first
      obtain rfl : '$' = d := Option.some.inj first
      decide
    · rw [if_neg waits] at first
      exact opens d first

/-- A label is read as its number if no digit follows. -/
theorem runs_label {rest : List Char} (opens : Opens rest) (n : Nat) :
    runs (label n ++ rest) = (toString n).toList :: runs rest := by
  have digits : ∀ c ∈ (Nat.repr n).toList, c.isDigit = true := fun _ => Sql.isDigit_of_mem_toString
  show runs ('$' :: ((Nat.repr n).toList ++ rest)) = _
  rw [runs, if_pos rfl, runs_digits digits, Sql.takeWhile_append_of_head digits opens]
  rfl

/-- **The labels** of a numbered text are the numbers in their order. -/
theorem runs_numberFrom (numberable : Numberable text) (k : Nat) :
    runs (numberFrom k text)
      = (List.range' (k + 1) (text.count placeholder)).map fun n => (toString n).toList := by
  induction text generalizing k with
  | nil => rfl
  | cons c rest ih =>
    obtain ⟨unmarked, later, behind⟩ := Sql.numberable_cons numberable
    unfold numberFrom
    by_cases waits : c = placeholder
    · rw [if_pos waits, runs_label (opens_numberFrom (behind waits) _), ih later, waits,
        List.count_cons_self, List.range'_succ, List.map_cons]
    · rw [if_neg waits, runs, if_neg unmarked, ih later, List.count_cons_of_ne waits]

/-- **Reading back** a numbered text gives the text that was numbered. -/
theorem restoreFrom_numberFrom (numberable : Numberable text) {inside : Bool}
    (apart : inside = true → Opens text) (k : Nat) :
    restoreFrom inside (numberFrom k text) = text := by
  induction text generalizing k inside with
  | nil => rfl
  | cons c rest ih =>
    obtain ⟨unmarked, later, behind⟩ := Sql.numberable_cons numberable
    unfold numberFrom
    by_cases waits : c = placeholder
    · have digits : ∀ c ∈ (Nat.repr (k + 1)).toList, c.isDigit = true :=
        fun _ => Sql.isDigit_of_mem_toString
      rw [if_pos waits]
      show restoreFrom inside ('$' :: ((Nat.repr (k + 1)).toList ++ numberFrom (k + 1) rest)) = _
      rw [restoreFrom, if_pos rfl, restoreFrom_digits digits, ih later (fun _ => behind waits),
        waits]
    · have kept : (inside && c.isDigit) = false := by
        cases inside with
        | false => rfl
        | true => exact apart rfl c rfl
      rw [if_neg waits, restoreFrom, if_neg unmarked, kept, if_neg Bool.false_ne_true,
        ih later fun inside => absurd inside Bool.false_ne_true]

theorem restored_number {text : String} (numberable : Numberable text.toList) :
    restored (number text) = text := by
  unfold restored number
  rw [String.toList_ofList,
    restoreFrom_numberFrom numberable fun inside => absurd inside Bool.false_ne_true,
    String.ofList_toList]

end Numbering

/-! ## Plans -/

namespace Plan

variable {r : Request}

theorem headOf_plain (own : r.statement = none) {columns : String} (plain : Plain columns)
    (table : Table) : Plain (headOf r columns table) := by
  unfold headOf
  rw [own]
  exact source_plain plain table

theorem orderOf_detached (plain : ∀ column ∈ r.orderBy, Plain column) {default : List String}
    (usual : ∀ column ∈ default, Plain column) : Detached (Sql.orderText (orderOf r default)) := by
  refine Sql.orderText_detached fun t among => ?_
  obtain ⟨column, ordered, rfl⟩ := List.mem_map.mp among
  split at ordered
  · exact usual column ordered
  · exact plain column ordered

theorem descending_detached {columns : List String} (plain : ∀ column ∈ columns, Plain column) :
    Detached (Sql.orderText (descending columns)) := by
  refine Sql.orderText_detached fun t among => ?_
  obtain ⟨column, ordered, rfl⟩ := List.mem_map.mp among
  exact plain column ordered

end Plan

namespace Method

variable {m : Method} {s : Settings} {now : Int} {r : Request} {ps : List Plan} {p : Plan}

/-- Around its condition a statement has nothing that could be taken for a label, nor a digit where
    the condition ends. -/
theorem numberable_around {granularity : Granularity} {f : Form}
    (h : f ∈ m.forms s r granularity) (own : r.statement = none)
    (plain : ∀ column ∈ r.orderBy, Plain column) : Plain f.before ∧ Detached f.after := by
  cases m with
  | series scope =>
    obtain rfl := List.mem_singleton.mp h
    have usual : ∀ column ∈ ["UUID", "SERVER_TIME"], Plain column := by decide +kernel
    exact ⟨Plan.headOf_plain own (Plan.seriesColumns_plain _ _) _,
      (Plan.orderOf_detached plain usual).append (Sql.capText_detached _)⟩
  | latest =>
    obtain rfl := List.mem_singleton.mp h
    have join : Detached Plan.latestAfter := by decide +kernel
    exact ⟨Plan.latestBefore_plain s.sortMergeJoin,
      join.append (Plan.descending_detached plain)⟩
  | transient =>
    obtain rfl := List.mem_singleton.mp h
    have usual : ∀ column ∈ ["METRIC_NAME", "SERVER_TIME"], Plain column := by decide +kernel
    exact ⟨Plan.headOf_plain own Plan.transientColumns_plain _,
      (Plan.orderOf_detached plain usual).append (Sql.capText_detached _)⟩
  | metadata =>
    obtain ⟨target, -, rfl⟩ := mem_forms_metadata.mp h
    have nothing : Detached "" := by decide +kernel
    exact ⟨Plan.headOf_plain own (Plan.metadataColumns_plain target) _, nothing⟩
  | latestAggregates =>
    obtain ⟨identity, -, rfl⟩ := List.mem_map.mp h
    have order : Detached (Sql.orderText (Plan.descending ["UUID", "SERVER_TIME"])) :=
      Plan.descending_detached (by decide +kernel)
    exact ⟨Plan.source_plain (Plan.seriesColumns_plain .cluster .seconds) _,
      order.append (Sql.capText_detached _)⟩

/-- The texts of plans are numberable, if the caller wrote no statement himself and his columns to
    order by are plain. -/
theorem text_numberable (planned : m.plans s now r = .ok ps) (among : p ∈ ps)
    (own : r.statement = none) (plain : ∀ column ∈ r.orderBy, Plain column) :
    Numberable p.text.toList := by
  obtain ⟨granularity, -, rfl⟩ := plans_eq_ok.mp planned
  obtain ⟨f, form, rfl⟩ := List.mem_map.mp among
  obtain ⟨before, after⟩ := numberable_around form own plain
  have condition : Detached (r.clause f.view).whereText :=
    Sql.Clause.whereText_detached (r.predicate f.view).detached
  have behind := condition.append after
  have text : (f.plan s (m.reads granularity) (m.asked r)).text
      = f.before ++ ((r.clause f.view).whereText ++ f.after) := by
    show f.text (m.asked r) = _
    rw [text_asked]
    unfold Form.text
    rw [own_of_mem form fun _ => own, Option.getD_none, String.append_assoc]
  rw [text, String.toList_append]
  exact before.numberable.append behind.numberable behind.opens

end Method

namespace Numbering

/-- **Numbering is faithful.**  It counts the placeholders of a text, puts `$k` in the place of the
    k-th and leaves no placeholder and every other character as it was.  If the text had no `$`, and
    no digit directly behind a placeholder, then the labels read from left to right are 1, 2 and so
    on up to that count, putting a placeholder in the place of each gives the text back, and no
    other such text is numbered alike.  The texts of all plans are of that kind, if their caller
    wrote no statement himself and ordered by columns with neither `$` nor placeholder. -/
theorem number_faithful :
    (∀ text : String,
        (Numbered.ofText text).expected = text.toList.count placeholder
          ∧ placeholder ∉ (Numbered.ofText text).text.toList
          ∧ (Numbered.ofText text).text.toList = relabelled text.toList)
      ∧ (∀ text : String, Numberable text.toList →
          runs (number text).toList
              = (List.range' 1 (placeholderCount text)).map (fun n => (toString n).toList)
            ∧ restored (number text) = text)
      ∧ (∀ text other : String, Numberable text.toList → Numberable other.toList →
          number text = number other → text = other)
      ∧ ∀ (m : Method) (s : Settings) (now : Int) (r : Request) (ps : List Plan) (p : Plan),
          m.plans s now r = .ok ps → p ∈ ps → r.statement = none →
          (∀ column ∈ r.orderBy, Plain column) → Numberable p.text.toList := by
  refine ⟨fun text => ⟨rfl, ?silent, toList_number text⟩, fun text numberable => ⟨?labels, ?back⟩,
    ?injective, fun m s now r ps p planned among own plain => ?plans⟩
  case silent =>
    show placeholder ∉ (number text).toList
    unfold number
    rw [String.toList_ofList]
    exact not_mem_numberFrom 0 text.toList
  case labels =>
    unfold number
    rw [String.toList_ofList, runs_numberFrom numberable]
    rfl
  case back => exact restored_number numberable
  case injective =>
    intro text other numberable numberable' same
    rw [← restored_number numberable, same, restored_number numberable']
  case plans => exact Method.text_numberable planned among own plain

/-- A plan for one metric in an order of the caller's: its labels are 1 and 2, it can be read back,
    and a text of another length is not numbered alike.  A `$` of a text's own, or a digit directly
    behind a placeholder, would be taken for part of a label. -/
theorem number_faithful_ordered :
    (∃ p, (Method.series .perHost).plans .standard 0
          { kind := .plain, sharedNames := ["cpu_user"], givenStart := some 1000,
            orderBy := ["METRIC_MAX"] } = .ok [p]
        ∧ runs (number p.text).toList = [['1'], ['2']]
        ∧ restored (number p.text) = p.text
        ∧ number p.text ≠ number "SELECT 1")
      ∧ number "?" = number "$1" ∧ restored (number "?1") = "?" := by
  obtain ⟨p, planned, count, differs⟩ : ∃ p, (Method.series .perHost).plans .standard 0
      { kind := .plain, sharedNames := ["cpu_user"], givenStart := some 1000,
        orderBy := ["METRIC_MAX"] } = .ok [p]
      ∧ placeholderCount p.text = 2 ∧ p.text ≠ "SELECT 1" :=
    ⟨_, rfl, by decide +kernel, by decide +kernel⟩
  obtain ⟨-, read, injective, numberable⟩ := number_faithful
  have plain : ∀ column ∈ ["METRIC_MAX"], Plain column := by decide +kernel
  have own_text : Numberable p.text.toList :=
    numberable _ _ _ _ _ _ planned List.mem_cons_self rfl plain
  obtain ⟨labels, back⟩ := read p.text own_text
  refine ⟨⟨p, planned, ?labels, back, fun same => ?alike⟩, by decide +kernel, by decide +kernel⟩
  case labels =>
    rw [labels, count]
    decide +kernel
  case alike => exact differs (injective _ _ own_text (by decide +kernel) same)

end Numbering

end Rollup
