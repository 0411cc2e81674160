/-
  Clauses joined.

  Joining clauses passes over those without a text.  What such a clause has for values is lost if it
  comes second, and kept if it comes first; so clauses can be joined from either end only if a
  clause without a text has no values (`Clause.Sound`).  Every clause of a filter is of that kind,
  and filters side by side are written as their clauses joined (`Filter.clause_append`).

  A whole list joined from the first on, whatever its clauses are, comes to the texts that are not
  empty with ` AND ` between them, and to the values that go with these texts
  (`Clause.conjunction`).  One more clause goes to the end (`conjunction_and`), so the run is an
  induction; what is waited for is added up in the same way.

  What stands in a statement is a clause with a word before it, or nothing at all (`Clause.led`);
  `Clause.stated?` says which of the two it is.
-/
import Rollup.Proofs.Sql.Slot

namespace Rollup.Sql

/-! ## Joining from either end -/

namespace Clause

/-- A clause without a text has no values. -/
def Sound (c : Clause) : Prop := c.text = "" → c.values = []

theorem Sound.and {c d : Clause} (sound : c.Sound) : (c.and d).Sound := by
  unfold Sound at *
  by_cases c_text : c.text = "" <;> by_cases d_text : d.text = "" <;>
    simp_all [Clause.and, isEmpty]

/-- **Three clauses** are joined from either end if the one in the middle has no values without a
    text. -/
theorem and_assoc {d : Clause} (sound : d.Sound) (c e : Clause) :
    (c.and d).and e = c.and (d.and e) := by
  unfold Sound at sound
  by_cases c_text : c.text = "" <;> by_cases d_text : d.text = "" <;>
    by_cases e_text : e.text = "" <;>
    simp_all [Clause.and, isEmpty, String.append_assoc]

/-- Joined to the clause that says nothing, a clause is as it was exactly if it is sound. -/
theorem empty_and_eq_iff {d : Clause} : empty.and d = d ↔ d.Sound := by
  by_cases d_text : d.text = ""
  · have dropped : empty.and d = empty := if_pos (beq_iff_eq.mpr d_text)
    rw [dropped]
    constructor
    · intro same _
      rw [← same]
      rfl
    · intro sound
      rw [show d = ⟨d.text, d.values⟩ from rfl, d_text, sound d_text]
      rfl
  · have kept : empty.and d = d := if_neg fun silent => d_text (beq_iff_eq.mp silent)
    exact ⟨fun _ no_text => absurd no_text d_text, fun _ => kept⟩

/-- Three clauses are joined from either end, whatever stands around the one in the middle, exactly
    if that one is sound. -/
theorem and_assoc_iff {d : Clause} :
    (∀ c e : Clause, (c.and d).and e = c.and (d.and e)) ↔ d.Sound := by
  constructor
  · intro assoc d_text
    obtain ⟨text, values⟩ := d
    obtain rfl : text = "" := d_text
    -- With nothing before it and a bare text behind it, its values are kept from one end only.
    have told := congrArg Clause.values (assoc empty ⟨"e", []⟩)
    have first : ((empty.and ⟨"", values⟩).and ⟨"e", []⟩).values = [] := rfl
    have last : (empty.and ((⟨"", values⟩ : Clause).and ⟨"e", []⟩)).values = values ++ [] := rfl
    rw [first, last, List.append_nil] at told
    exact told.symm
  · intro sound c e
    exact and_assoc sound c e

/-- Whatever is joined to two clauses is joined to the second of them. -/
theorem foldl_and_and {d : Clause} (sound : d.Sound) (c : Clause) (es : List Clause) :
    es.foldl Clause.and (c.and d) = c.and (es.foldl Clause.and d) := by
  induction es generalizing d with
  | nil => rfl
  | cons e es ih =>
    rw [List.foldl_cons, List.foldl_cons, and_assoc sound]
    exact ih sound.and

end Clause

/-- **Filters side by side** are written as their clauses joined. -/
theorem Filter.clause_append (f g : Filter) :
    Filter.clause (f ++ g) = (Filter.clause f).and (Filter.clause g) := by
  have sound : Clause.empty.Sound := fun _ => rfl
  unfold Filter.clause Clause.all
  rw [List.map_append, List.foldl_append]
  exact Clause.foldl_and_and sound _ _

/-! ## Joining a list -/

namespace Clause

/-- The clauses of a list that have a text. -/
def stated (cs : List Clause) : List Clause := cs.filter fun c => c.text ≠ ""

/-- The texts of a list with ` AND ` between them, and the values that go with them.  A clause without
    a text is left out, its values included. -/
def conjunction (cs : List Clause) : Clause where
  text := String.intercalate " AND " ((stated cs).map text)
  values := (stated cs).flatMap values

/-- There are as many values as are waited for. -/
def Balanced (c : Clause) : Prop := c.placeholders = c.values.length

theorem stated_append (cs ds : List Clause) : stated (cs ++ ds) = stated cs ++ stated ds :=
  List.filter_append ..

/-- Texts that are not empty make a text that is not empty. -/
theorem text_conjunction_ne_empty {cs : List Clause} (some_stated : stated cs ≠ []) :
    (conjunction cs).text ≠ "" := by
  obtain ⟨c, rest, pieces⟩ := List.exists_cons_of_ne_nil some_stated
  have among : c ∈ stated cs := pieces ▸ List.mem_cons_self
  have some_text : c.text ≠ "" := of_decide_eq_true (List.mem_filter.mp among).2
  unfold conjunction
  rw [pieces, List.map_cons, ← String.append_empty (s := c.text), String.intercalate_cons_append]
  intro no_text
  exact some_text (String.append_eq_empty_iff.mp no_text).1

/-- **One step.**  What is joined to the clauses of a list stands behind them. -/
theorem conjunction_and (cs : List Clause) (d : Clause) :
    (conjunction cs).and d = conjunction (cs ++ [d]) := by
  by_cases d_text : d.text = ""
  · have dropped : (conjunction cs).and d = conjunction cs := if_pos (beq_iff_eq.mpr d_text)
    have left_out : stated [d] = [] := by simp [stated, d_text]
    rw [dropped]
    unfold conjunction
    rw [stated_append, left_out, List.append_nil]
  · have speaks : ¬ d.isEmpty = true := fun silent => d_text (beq_iff_eq.mp silent)
    have kept : stated [d] = [d] := by simp [stated, d_text]
    have values : (conjunction (cs ++ [d])).values = (conjunction cs).values ++ d.values := by
      unfold conjunction
      rw [stated_append, kept, List.flatMap_append, List.flatMap_singleton]
    have text : (conjunction (cs ++ [d])).text
        = if (conjunction cs).isEmpty then d.text
          else (conjunction cs).text ++ " AND " ++ d.text := by
      by_cases nothing : stated cs = []
      · unfold conjunction
        rw [stated_append, kept, nothing]
        rfl
      · have before : ¬ (conjunction cs).isEmpty = true := fun silent =>
          text_conjunction_ne_empty nothing (beq_iff_eq.mp silent)
        rw [if_neg before]
        unfold conjunction
        rw [stated_append, kept, List.map_append, List.map_singleton,
          String.intercalate_append_of_ne_nil (by simpa using nothing) (List.cons_ne_nil _ _),
          String.intercalate_singleton]
    unfold Clause.and
    rw [if_neg speaks, ← text, ← values]

/-- **The whole run.**  Clauses joined one after the other are joined at once. -/
theorem all_eq_conjunction (parts : List Clause) : all parts = conjunction parts := by
  have run : ∀ done, parts.foldl Clause.and (conjunction done) = conjunction (done ++ parts) := by
    induction parts with
    | nil => simp
    | cons c parts ih =>
      intro done
      rw [List.foldl_cons, conjunction_and, ih, List.append_assoc, List.singleton_append]
  exact run []

/-- Two clauses have an ` AND ` between them only if both have a text. -/
theorem text_and_eq (c d : Clause) :
    (c.and d).text = String.intercalate " AND " ([c.text, d.text].filter (· ≠ "")) := by
  by_cases c_text : c.text = "" <;> by_cases d_text : d.text = "" <;>
    simp [Clause.and, isEmpty, c_text, d_text]

/-- Two clauses joined wait for what each of them waits for. -/
theorem placeholders_and (c d : Clause) :
    (c.and d).placeholders = c.placeholders + d.placeholders := by
  have nothing : ∀ {e : Clause}, e.isEmpty = true → e.placeholders = 0 := by
    intro e silent
    unfold placeholders
    rw [beq_iff_eq.mp silent]
    rfl
  have word : placeholderCount " AND " = 0 := placeholderCount_ofList _
  unfold Clause.and
  by_cases d_silent : d.isEmpty
  · rw [if_pos d_silent, nothing d_silent, Nat.add_zero]
  · rw [if_neg d_silent]
    by_cases c_silent : c.isEmpty
    · rw [if_pos c_silent, nothing c_silent, Nat.zero_add]
      rfl
    · rw [if_neg c_silent]
      show placeholderCount (c.text ++ " AND " ++ d.text) = _
      rw [placeholderCount_append, placeholderCount_append, word]
      rfl

theorem placeholders_all (parts : List Clause) :
    (all parts).placeholders = (parts.map placeholders).sum := by
  have run : ∀ c : Clause, (parts.foldl Clause.and c).placeholders
      = c.placeholders + (parts.map placeholders).sum := by
    induction parts with
    | nil => exact fun c => rfl
    | cons d parts ih =>
      intro c
      rw [List.foldl_cons, ih, placeholders_and, List.map_cons, List.sum_cons, Nat.add_assoc]
  rw [all, run]
  exact Nat.zero_add _

theorem Balanced.and {c d : Clause} (hc : c.Balanced) (hd : d.Balanced) : (c.and d).Balanced := by
  by_cases silent : d.isEmpty
  · have dropped : c.and d = c := if_pos silent
    rw [dropped]
    exact hc
  · have values : (c.and d).values = c.values ++ d.values := by
      unfold Clause.and
      rw [if_neg silent]
    unfold Balanced at *
    rw [placeholders_and, values, List.length_append, hc, hd]

theorem Balanced.all {parts : List Clause} (each : ∀ c ∈ parts, c.Balanced) :
    (Clause.all parts).Balanced := by
  have run : ∀ c : Clause, c.Balanced → (parts.foldl Clause.and c).Balanced := by
    induction parts with
    | nil => exact fun c hc => hc
    | cons d parts ih =>
      intro c hc
      have hd := each d List.mem_cons_self
      exact ih (fun e among => each e (List.mem_cons_of_mem d among)) _ (hc.and hd)
  exact run .empty rfl

/-- **Clauses joined.**  After any number of steps the texts that are not empty stand one after the
    other with ` AND ` between them, and the values that go with them; what they wait for is added
    up, and is what there is if each clause had as many values as it waits for.  Two clauses have an
    ` AND ` between them only if both have a text.  A sound clause, and no other, is left alone by
    the empty one on either side and may stand in the middle of three joined from either end; and
    what is joined to it is sound. -/
theorem and_conjoins (parts : List Clause) (n : Nat) :
    all (parts.take n) = conjunction (parts.take n)
      ∧ (all (parts.take n)).placeholders = ((parts.take n).map placeholders).sum
      ∧ ((∀ c ∈ parts.take n, c.Balanced) → (all (parts.take n)).Balanced)
      ∧ (∀ c d : Clause,
          (c.and d).text = String.intercalate " AND " ([c.text, d.text].filter (· ≠ "")))
      ∧ ∀ d : Clause, d.and empty = d ∧ (empty.and d = d ↔ d.Sound)
        ∧ ((∀ c e : Clause, (c.and d).and e = c.and (d.and e)) ↔ d.Sound)
        ∧ (d.Sound → ∀ e : Clause, (d.and e).Sound) := by
  refine ⟨all_eq_conjunction _, placeholders_all _, Balanced.all, text_and_eq, fun d => ?_⟩
  exact ⟨and_empty d, empty_and_eq_iff, and_assoc_iff, fun sound e => sound.and⟩

/-- Two clauses with values and two without a text: one ` AND `, and a value for each placeholder. -/
theorem and_conjoins_around_silence :
    (∀ c ∈ [⟨"", []⟩, ⟨"a = ?", [.integer 1]⟩, ⟨"", []⟩, ⟨"b IN (?, ?)", [.text "x", .text "y"]⟩],
        Balanced c)
      ∧ (all [⟨"", []⟩, ⟨"a = ?", [.integer 1]⟩, ⟨"", []⟩,
          ⟨"b IN (?, ?)", [.text "x", .text "y"]⟩]).text = "a = ? AND b IN (?, ?)"
      ∧ (all [⟨"", []⟩, ⟨"a = ?", [.integer 1]⟩, ⟨"", []⟩,
          ⟨"b IN (?, ?)", [.text "x", .text "y"]⟩]).Balanced := by
  obtain ⟨joined, -, balanced, -⟩ := and_conjoins [⟨"", []⟩, ⟨"a = ?", [.integer 1]⟩, ⟨"", []⟩,
    ⟨"b IN (?, ?)", [.text "x", .text "y"]⟩] 4
  have each : ∀ c ∈ [⟨"", []⟩, ⟨"a = ?", [.integer 1]⟩, ⟨"", []⟩,
      ⟨"b IN (?, ?)", [.text "x", .text "y"]⟩], Balanced c := by
    unfold Balanced
    decide +kernel
  refine ⟨each, ?_, balanced each⟩
  exact (congrArg Clause.text joined).trans (by decide +kernel)

end Clause

/-! ## Clauses with a word before them -/

namespace Clause

/-- The clause, if it says anything. -/
def stated? (c : Clause) : Option Clause := if c.isEmpty then none else some c

/-- The text of a clause with a word before it, or nothing if the clause says nothing. -/
def led (word : String) (c : Clause) : String := if c.isEmpty then "" else word ++ c.text

/-- What is joined to a clause with a text stands behind it. -/
theorem text_and {c : Clause} (some_text : c.text ≠ "") (d : Clause) :
    (c.and d).text = c.text ++ d.led " AND " := by
  have stated : ¬ c.isEmpty = true := fun silent => some_text (beq_iff_eq.mp silent)
  unfold Clause.and led
  by_cases silent : d.isEmpty
  · rw [if_pos silent, if_pos silent, String.append_empty]
  · rw [if_neg silent, if_neg silent, if_neg stated, String.append_assoc]

namespace Binds

variable {c d : Clause} {fs gs : List Field}

theorem sound (binds : c.Binds fs) : c.Sound := by
  intro no_text
  rw [binds.2, binds.eq_nil (beq_iff_eq.mpr no_text)]
  rfl

/-- The values of clauses joined are those of the one and then those of the other. -/
theorem values_and (binds : d.Binds gs) (c : Clause) : (c.and d).values = c.values ++ d.values := by
  unfold Clause.and
  by_cases silent : d.isEmpty
  · rw [if_pos silent, binds.sound (beq_iff_eq.mp silent), List.append_nil]
  · rw [if_neg silent]

/-- As many values are waited for as there are, also where the clause says nothing. -/
theorem count_stated (binds : c.Binds fs) :
    ((c.stated?.map fun d => d.text.toList).getD []).count placeholder = c.values.length := by
  unfold stated?
  by_cases silent : c.isEmpty
  · rw [if_pos silent, binds.sound (beq_iff_eq.mp silent)]
    rfl
  · rw [if_neg silent, binds.2, List.length_map]
    show placeholderCount c.text = fs.length
    rw [binds.1.placeholderCount_eq, List.length_map]

end Binds

/-- A clause is its text and its values. -/
theorem stated?_eq (c : Clause) :
    (c.stated?.map fun d => d.text.toList).map (fun t => ⟨String.ofList t, c.values⟩)
      = c.stated? := by
  unfold stated?
  by_cases silent : c.isEmpty
  · rw [if_pos silent]
    rfl
  · rw [if_neg silent]
    simp

end Clause

end Rollup.Sql
