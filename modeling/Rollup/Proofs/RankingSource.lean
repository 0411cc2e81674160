/-
  Where a ranking looks for its candidates.

  The statement for ranked series names two tables: the one that its rows are read from, and inside
  the ranking the one that the candidates come from.  Both are found here in the text itself, as the
  word after the first `FROM` and the word after the first `UUID IN (SELECT UUID FROM`.

  The first is the table of the method's scope and the second that of the request's own scope, which
  is that of hosts if the request names any.  The granularity is the same in both.  So the candidates
  are series of the table that is read exactly if the two scopes agree (`series_ranks_iff`), and they
  need not: metrics are ranked without hosts in the cluster's table, also for a method that reads the
  tables of hosts (`series_ranks_elsewhere`).
-/
import Rollup.Proofs.Form
import Rollup.Proofs.Sql.Slot

namespace Rollup

/-! ## Words in a text -/

namespace Sql

/-- The word that follows the first place where some words stand in a text. -/
def wordAfter (words : List Char) : List Char → Option (List Char)
  | [] => none
  | c :: rest =>
    if words.isPrefixOf (c :: rest) then
      some (((c :: rest).drop words.length).takeWhile fun d => d ≠ ' ')
    else wordAfter words rest

/-- The words stand nowhere in a text, nor do they begin in it, whatever follows. -/
def keepsOff (words text : List Char) : Bool :=
  text.tails.all fun u => u.isEmpty || (!words.isPrefixOf u && !u.isPrefixOf words)

/-- A word is found after the words if they do not stand before. -/
theorem wordAfter_append {words before word : List Char} (some_words : words ≠ [])
    (off : keepsOff words before = true) (unbroken : ' ' ∉ word) (rest : List Char) :
    wordAfter words (before ++ (words ++ (word ++ ' ' :: rest))) = some word := by
  induction before with
  | nil =>
    obtain ⟨c, cs, rfl⟩ := List.exists_cons_of_ne_nil some_words
    have found : (c :: cs).isPrefixOf (c :: (cs ++ (word ++ ' ' :: rest))) = true :=
      List.isPrefixOf_iff_prefix.mpr (List.prefix_append (c :: cs) _)
    have letters : ∀ d ∈ word, decide (d ≠ ' ') = true := by
      intro d among
      refine decide_eq_true fun blank => unbroken ?_
      rw [← blank]
      exact among
    show wordAfter (c :: cs) (c :: (cs ++ (word ++ ' ' :: rest))) = some word
    rw [wordAfter, if_pos found, ← List.cons_append, List.drop_left,
      List.takeWhile_append_of_pos letters]
    simp
  | cons c before ih =>
    have here := List.all_eq_true.mp off (c :: before) (by simp)
    rw [List.isEmpty_cons, Bool.false_or, Bool.and_eq_true, Bool.not_eq_true', Bool.not_eq_true',
      ← Bool.not_eq_true, ← Bool.not_eq_true, List.isPrefixOf_iff_prefix,
      List.isPrefixOf_iff_prefix] at here
    have not_here := isPrefixOf_append_eq_false here.1 here.2 (words ++ (word ++ ' ' :: rest))
    have later : keepsOff words before = true := by
      refine List.all_eq_true.mpr fun u ending => ?_
      exact List.all_eq_true.mp off u (List.mem_cons_of_mem _ ending)
    rw [List.cons_append] at not_here ⊢
    rw [wordAfter, if_neg (ne_true_of_eq_false not_here)]
    exact ih later

example : wordAfter " FROM ".toList "SELECT A FROM T WHERE B".toList = some "T".toList := by
  decide +kernel

/-! ## Clauses with a text -/

theorem Clause.not_isEmpty {c : Clause} (nonempty : c.text ≠ "") : ¬ c.isEmpty = true :=
  fun silent => nonempty (beq_iff_eq.mp silent)

/-- A clause with a text is a condition. -/
theorem Clause.whereText_eq {c : Clause} (nonempty : c.text ≠ "") :
    c.whereText = " WHERE " ++ c.text := by
  rw [whereText, if_neg (not_isEmpty nonempty)]

/-- Whatever is joined to a clause with a text, that text comes first, and so do its values. -/
theorem Clause.and_eq {c : Clause} (nonempty : c.text ≠ "") (d : Clause) :
    ∃ after more, c.and d = { text := c.text ++ after, values := c.values ++ more } := by
  unfold Clause.and
  by_cases silent : d.isEmpty
  · refine ⟨"", [], ?_⟩
    rw [if_pos silent, String.append_empty, List.append_nil]
  · refine ⟨" AND " ++ d.text, d.values, ?_⟩
    rw [if_neg silent, if_neg (not_isEmpty nonempty), String.append_assoc]

/-- The query inside a ranking names its source, and goes on after a blank. -/
theorem RankedFilter.text_membership (f : RankedFilter) :
    ∃ rest, f.membership.text = "UUID IN (SELECT UUID FROM " ++ f.source.name ++ " " ++ rest := by
  unfold membership Clause.whereText
  split
  · refine ⟨"GROUP BY UUID ORDER BY " ++ f.ranking.expression ++ " " ++ f.ranking.direction
      ++ " LIMIT " ++ toString f.ranking.count ++ ")", ?_⟩
    rw [show " GROUP BY UUID ORDER BY " = " " ++ "GROUP BY UUID ORDER BY " from rfl]
    simp only [String.append_assoc, String.append_empty]
  · refine ⟨"WHERE " ++ f.candidates.clause.text ++ " GROUP BY UUID ORDER BY "
      ++ f.ranking.expression ++ " " ++ f.ranking.direction
      ++ " LIMIT " ++ toString f.ranking.count ++ ")", ?_⟩
    rw [show " WHERE " = " " ++ "WHERE " from rfl]
    simp only [String.append_assoc]

/-- So does a filter by rank. -/
theorem RankedFilter.text_clause (f : RankedFilter) :
    ∃ rest, f.clause.text = "UUID IN (SELECT UUID FROM " ++ f.source.name ++ " " ++ rest := by
  obtain ⟨inside, opens⟩ := f.text_membership
  have nonempty : f.membership.text ≠ "" := by
    rw [opens]
    simp
  obtain ⟨outside, more, whole⟩ := Clause.and_eq nonempty f.window.clause
  refine ⟨inside ++ outside, ?_⟩
  show (f.membership.and f.window.clause).text = _
  rw [whole, opens, String.append_assoc]

end Sql

/-! ## The two tables of a ranking -/

namespace Plan

/-- The table that a statement names after the first place where some words stand in it. -/
def tableAfter (words : String) (p : Plan) : Option String :=
  (Sql.wordAfter words.toList p.text.toList).map String.ofList

/-- The table that rows are read from. -/
def readsFrom (p : Plan) : Option String := p.tableAfter " FROM "

/-- The table that the candidates of a ranking come from. -/
def ranksFrom (p : Plan) : Option String := p.tableAfter "UUID IN (SELECT UUID FROM "

/-- The name of a table is one word. -/
theorem unbroken_name (t : Table) : ' ' ∉ t.name.toList := by
  have chars : ∀ {cs : List Char}, ' ' ∉ cs → ' ' ∉ (String.ofList cs).toList := by simp
  cases t with
  | series scope granularity => cases scope <;> cases granularity <;> exact chars (by decide)
  | transient | metricMetadata | hostMetadata => exact chars (by decide)

/-- The table named by a text that is known up to its name. -/
theorem tableAfter_eq {p : Plan} {words before rest : String} {t : Table}
    (text : p.text = before ++ words ++ t.name ++ " " ++ rest) (some_words : words ≠ "")
    (off : Sql.keepsOff words.toList before.toList = true) : p.tableAfter words = some t.name := by
  have blank : " ".toList = [' '] := String.toList_ofList
  have found := Sql.wordAfter_append (mt String.toList_eq_nil_iff.mp some_words) off
    (unbroken_name t) rest.toList
  unfold tableAfter
  rw [text]
  simp only [String.toList_append, blank, List.append_assoc, List.singleton_append]
  rw [found, Option.map_some, String.ofList_toList]

-- The heads are compared as lists of characters, which is quick to evaluate.
theorem from_keepsOff (scope : Scope) (granularity : Granularity) :
    Sql.keepsOff " FROM ".toList ("SELECT " ++ seriesColumns scope granularity).toList = true := by
  have chars : ∀ a b : List Char, (String.ofList a ++ String.ofList b).toList = a ++ b := by
    simp
  have words : " FROM ".toList = [' ', 'F', 'R', 'O', 'M', ' '] := String.toList_ofList
  rw [words]
  cases scope <;> cases granularity <;> exact (congrArg _ (chars _ _)).trans rfl

theorem candidates_keepsOff (scope : Scope) (granularity : Granularity) :
    Sql.keepsOff "UUID IN (SELECT UUID FROM ".toList
      ("SELECT " ++ seriesColumns scope granularity ++ " FROM "
        ++ (Table.series scope granularity).name ++ " WHERE ").toList = true := by
  have chars : ∀ a b c d e : List Char,
      (String.ofList a ++ String.ofList b ++ String.ofList c ++ String.ofList d
        ++ String.ofList e).toList = a ++ b ++ c ++ d ++ e := by
    simp
  have words : "UUID IN (SELECT UUID FROM ".toList = ['U', 'U', 'I', 'D', ' ', 'I', 'N', ' ', '(',
      'S', 'E', 'L', 'E', 'C', 'T', ' ', 'U', 'U', 'I', 'D', ' ', 'F', 'R', 'O', 'M', ' '] :=
    String.toList_ofList
  rw [words]
  cases scope <;> cases granularity <;> exact (congrArg _ (chars _ _ _ _ _)).trans rfl

section Ranked

variable {r : Request} {ranking : Ranking} (ranked : r.kind = .ranked ranking)
  (own : r.statement = none) (scope : Scope) (s : Settings) (granularity : Granularity)

include ranked own

/-- The text of a ranking up to the table of its candidates. -/
theorem text_ranked :
    ∃ rest, ((seriesForm scope s r granularity).plan s (some granularity) r.resolved).text
      = "SELECT " ++ seriesColumns scope granularity ++ " FROM "
        ++ (Table.series scope granularity).name ++ " WHERE " ++ "UUID IN (SELECT UUID FROM "
        ++ (Table.series r.scope granularity).name ++ " " ++ rest := by
  have view : r.wholeView (some granularity) = .ranked ranking (some granularity) := by
    unfold Request.wholeView
    rw [ranked]
  obtain ⟨rest, opens⟩ := (r.rankedFilter ranking (some granularity)).text_clause
  have nonempty : (r.rankedFilter ranking (some granularity)).clause.text ≠ "" := by
    rw [opens]
    simp
  have condition : (r.resolved.clause (r.wholeView (some granularity))).whereText
      = " WHERE " ++ ("UUID IN (SELECT UUID FROM " ++ (Table.series r.scope granularity).name
        ++ " " ++ rest) := by
    rw [clause_resolved, view]
    exact (Sql.Clause.whereText_eq nonempty).trans (congrArg _ opens)
  refine ⟨rest ++ (seriesForm scope s r granularity).after, ?_⟩
  show headOf r (seriesColumns scope granularity) (.series scope granularity)
      ++ (r.resolved.clause (r.wholeView (some granularity))).whereText
      ++ (seriesForm scope s r granularity).after = _
  rw [condition, headOf, own]
  simp only [Option.getD_none, String.append_assoc]

/-- Rows are read from the table of the method's scope. -/
theorem readsFrom_ranked :
    ((seriesForm scope s r granularity).plan s (some granularity) r.resolved).readsFrom
      = some (Table.series scope granularity).name := by
  obtain ⟨rest, text⟩ := text_ranked ranked own scope s granularity
  have opens : ((seriesForm scope s r granularity).plan s (some granularity) r.resolved).text
      = "SELECT " ++ seriesColumns scope granularity ++ " FROM "
        ++ (Table.series scope granularity).name ++ " "
        ++ ("WHERE " ++ "UUID IN (SELECT UUID FROM "
          ++ (Table.series r.scope granularity).name ++ " " ++ rest) := by
    rw [text, show " WHERE " = " " ++ "WHERE " from rfl]
    simp only [String.append_assoc]
  exact tableAfter_eq opens (by decide) (from_keepsOff scope granularity)

/-- Candidates come from the table of the request's own scope. -/
theorem ranksFrom_ranked :
    ((seriesForm scope s r granularity).plan s (some granularity) r.resolved).ranksFrom
      = some (Table.series r.scope granularity).name := by
  obtain ⟨rest, text⟩ := text_ranked ranked own scope s granularity
  exact tableAfter_eq text (by decide) (candidates_keepsOff scope granularity)

end Ranked

/-- **Where a ranking looks.**  The statement reads the table of its method's scope and ranks in the
    table of the request's own, at the same granularity.  They are one table exactly if the scopes
    agree. -/
theorem series_ranks_iff {scope : Scope} {s : Settings} {now : Int} {r : Request}
    {ranking : Ranking} {p : Plan} (ranked : r.kind = .ranked ranking) (own : r.statement = none)
    (planned : series scope s now r = .ok p) :
    p.readsFrom = some p.table.name
      ∧ (∃ granularity, p.granularity = some granularity ∧ p.table = .series scope granularity
        ∧ p.ranksFrom = some (Table.series r.scope granularity).name)
      ∧ (p.ranksFrom = some p.table.name ↔ r.scope = scope) := by
  obtain ⟨-, -, granularity, -, rfl⟩ := series_eq_ok.mp planned
  have ranks := ranksFrom_ranked ranked own scope s granularity
  refine ⟨readsFrom_ranked ranked own scope s granularity, ⟨granularity, rfl, rfl, ranks⟩, ?_⟩
  rw [ranks]
  constructor
  · intro same
    have table := Table.eq_of_name_eq (Option.some.inj same)
    injection table
  · rintro rfl
    rfl

/-- Two metrics on one host: ranked where they are read. -/
theorem series_ranks_on_host :
    ∃ p, series .perHost .standard 2000000
        { kind := .ranked ⟨2, false, none⟩, sharedNames := ["cpu_user", "cpu_system"],
          hosts := some ["h1"] } = .ok p
      ∧ p.ranksFrom = some p.table.name := by
  obtain ⟨p, planned⟩ : ∃ p, series .perHost .standard 2000000
      { kind := .ranked ⟨2, false, none⟩, sharedNames := ["cpu_user", "cpu_system"],
        hosts := some ["h1"] } = .ok p := ⟨_, rfl⟩
  exact ⟨p, planned, (series_ranks_iff rfl rfl planned).2.2.mpr rfl⟩

/-- The same metrics without a host: rows of hosts are read, and ranked in the cluster's table. -/
theorem series_ranks_elsewhere :
    ∃ p, series .perHost .standard 2000000
        { kind := .ranked ⟨2, false, none⟩, sharedNames := ["cpu_user", "cpu_system"],
          givenStart := some 1000, givenFinish := some 2000 } = .ok p
      ∧ p.table.name = "METRIC_RECORD_UUID"
      ∧ p.ranksFrom = some "METRIC_AGGREGATE_UUID" := by
  obtain ⟨p, planned⟩ : ∃ p, series .perHost .standard 2000000
      { kind := .ranked ⟨2, false, none⟩, sharedNames := ["cpu_user", "cpu_system"],
        givenStart := some 1000, givenFinish := some 2000 } = .ok p := ⟨_, rfl⟩
  obtain ⟨-, -, granularity, found, rfl⟩ := series_eq_ok.mp planned
  obtain rfl : Granularity.seconds = granularity := Except.ok.inj found
  exact ⟨_, planned, rfl, ranksFrom_ranked rfl rfl .perHost .standard .seconds⟩

end Plan

end Rollup
