/-
  A ranking wraps a filter.

  The clause of a ranking asks whether a series is among the best: a query in parentheses ranks the
  candidates that a filter lets pass, and behind it the window is asked for once more.  Here the
  clause is read back by someone who knows nothing of the filter (`RankedReading.ofClause?`).  He
  finds the parenthesis that closes the query by counting, then in the query the table, the
  condition if there is one, and the order and count, and behind it the window if there is one.  The
  values he hands out by the placeholders that he has seen in each.

  He gets back the whole clause of the candidates and the whole clause of the window
  (`RankedFilter.ofClause?_clause`), so the wrapper has done nothing to either.  The crux is that a
  condition of any size stays where it is put (`Filter.contained`): its own parentheses come in
  pairs, so the count comes out right, and no `GROUP` begins in it, so the order is found behind it.
-/
import Rollup.Proofs.Binding
import Rollup.Proofs.RankingSource
import Rollup.Proofs.Selection
import Rollup.Proofs.Session
import Rollup.Proofs.Sql.Conjunction
import Rollup.Proofs.Sql.Parentheses

namespace Rollup

open Sql

namespace Sql

/-! ## Reading a text piece by piece -/

/-- The first word of a text, and the rest from the blank behind it. -/
def firstWord (text : List Char) : List Char × List Char :=
  (text.takeWhile fun c => c ≠ ' ', text.dropWhile fun c => c ≠ ' ')

/-- Cuts a text at the first place where some words stand in it. -/
def cut (words : List Char) : List Char → Option (List Char × List Char)
  | [] => none
  | c :: text =>
    match words.isPrefixOf? (c :: text) with
    | some after => some ([], after)
    | none => (cut words text).map fun (before, after) => (c :: before, after)

/-- A part that may be missing: either nothing is left, or a word and something behind it. -/
def optionalPart (word text : List Char) : Option (Option (List Char)) :=
  if text = [] then some none
  else
    match word.isPrefixOf? text with
    | some (c :: part) => some (some (c :: part))
    | _ => none

/-- A number by its decimal digits. -/
def natural? (digits : List Char) : Option Nat :=
  if digits ≠ [] ∧ digits.all Char.isDigit then some (Nat.ofDigitChars 10 digits 0) else none

theorem firstWord_append {word : List Char} (unbroken : ' ' ∉ word) (rest : List Char) :
    firstWord (word ++ ' ' :: rest) = (word, ' ' :: rest) := by
  have letters : ∀ c ∈ word, decide (c ≠ ' ') = true := by
    intro c among
    refine decide_eq_true fun blank => unbroken ?_
    rw [← blank]
    exact among
  unfold firstWord
  rw [List.takeWhile_append_of_pos letters, List.dropWhile_append_of_pos letters]
  simp

theorem natural?_toString (n : Nat) : natural? (toString n).toList = some n := by
  have some_digit : (toString n).toList ≠ [] := by
    rw [toList_toString]
    exact Nat.toDigits_ne_nil
  have digits : (toString n).toList.all Char.isDigit = true :=
    List.all_eq_true.mpr fun _ among => isDigit_of_mem_toString among
  unfold natural?
  rw [if_pos ⟨some_digit, digits⟩, toList_toString, Nat.ofDigitChars_ten_toDigits]

theorem isPrefixOf?_append (words rest : List Char) :
    words.isPrefixOf? (words ++ rest) = some rest :=
  List.isPrefixOf?_eq_some_iff_append_eq.mpr rfl

/-- Words are found where they stand if their second letter is not met before. -/
theorem cut_append {b g : Char} {ws before : List Char} (differ : g ≠ b) (off : g ∉ before)
    (rest : List Char) :
    cut (b :: g :: ws) (before ++ (b :: g :: ws ++ rest)) = some (before, rest) := by
  induction before with
  | nil =>
    have found := isPrefixOf?_append (b :: g :: ws) rest
    show cut (b :: g :: ws) (b :: (g :: ws ++ rest)) = some ([], rest)
    rw [cut, show b :: (g :: ws ++ rest) = b :: g :: ws ++ rest from rfl, found]
  | cons c before ih =>
    have not_here :
        (b :: g :: ws).isPrefixOf? (c :: (before ++ (b :: g :: ws ++ rest))) = none := by
      refine Option.eq_none_iff_forall_not_mem.mpr fun more found => ?_
      have begins := List.isPrefixOf?_eq_some_iff_append_eq.mp found
      rw [List.cons_append, List.cons_append, List.cons.injEq] at begins
      -- The second letter would stand before the words, or be their first.
      cases before with
      | nil => exact differ (List.cons.inj begins.2).1
      | cons d before =>
        have second : g = d := (List.cons.inj begins.2).1
        rw [second] at off
        exact off (List.mem_cons_of_mem _ List.mem_cons_self)
    rw [List.cons_append, cut, not_here, ih fun among => off (List.mem_cons_of_mem _ among)]
    rfl

/-- A clause with a word before it is a part that may be missing. -/
theorem optionalPart_led (word : String) (c : Clause) :
    optionalPart word.toList (c.led word).toList
      = some (c.stated?.map fun d => d.text.toList) := by
  unfold Clause.led Clause.stated?
  by_cases silent : c.isEmpty
  · rw [if_pos silent, if_pos silent]
    rfl
  · have some_text : c.text.toList ≠ [] := by
      intro no_text
      exact silent (beq_iff_eq.mpr (String.toList_eq_nil_iff.mp no_text))
    obtain ⟨d, part, chars⟩ := List.exists_cons_of_ne_nil some_text
    have follows := isPrefixOf?_append word.toList (d :: part)
    rw [if_neg silent, if_neg silent, String.toList_append, chars, optionalPart,
      if_neg (by simp), follows, Option.map_some, chars]

/-- It stays where it is put if the word and the clause do. -/
theorem Contained.led {word : String} {c : Clause} (hw : Contained word) (hc : Contained c.text) :
    Contained (c.led word) := by
  unfold Clause.led
  split
  · exact .ofLetters rfl (by decide)
  · exact hw.append hc

/-- A number has no parentheses. -/
theorem Paired.digits (n : Nat) : Paired (toString n).toList := by
  apply Paired.ofLetters
  apply List.all_eq_true.mpr
  intro c among
  have digit := isDigit_of_mem_toString among
  have opens : c ≠ '(' := by
    rintro rfl
    exact absurd digit (by decide)
  have closes : c ≠ ')' := by
    rintro rfl
    exact absurd digit (by decide)
  simp [opens, closes]

/-! ## Reading a ranking -/

/-- The query for the best series of a table, by its parts. -/
structure RankingQuery where
  source : List Char
  condition : Option (List Char)
  expression : List Char
  direction : List Char
  count : Nat
  deriving DecidableEq

/-- Reads such a query. -/
def RankingQuery.read? (text : List Char) : Option RankingQuery := do
  let named ← "SELECT UUID FROM ".toList.isPrefixOf? text
  let (filter, order) ← cut " GROUP BY UUID ORDER BY ".toList (firstWord named).2
  let condition ← optionalPart " WHERE ".toList filter
  match order.splitOn ' ' with
  | [expression, direction, word, digits] =>
    if word = "LIMIT".toList then
      (natural? digits).map fun count =>
        { source := (firstWord named).1, condition, expression, direction, count }
    else none
  | _ => none

/-- A test for being among the best, by its parts. -/
structure RankedReading where
  source : String
  /-- What the candidates are filtered by. -/
  candidates : Option Clause
  expression : String
  direction : String
  count : Nat
  /-- What is asked besides. -/
  window : Option Clause
  deriving DecidableEq

/-- Reads a clause as such a test.  The values go to the placeholders of the candidates and then to
    those of the window, and none is left over. -/
def RankedReading.ofClause? (c : Clause) : Option RankedReading := do
  let opened ← "UUID IN (".toList.isPrefixOf? c.text.toList
  let (inside, after) ← splitClosing 0 opened
  let query ← RankingQuery.read? inside
  let window ← optionalPart " AND ".toList after
  let inner := (query.condition.getD []).count placeholder
  let outer := (window.getD []).count placeholder
  if inner + outer = c.values.length then
    some
      { source := String.ofList query.source
        candidates := query.condition.map fun t => ⟨String.ofList t, c.values.take inner⟩
        expression := String.ofList query.expression
        direction := String.ofList query.direction
        count := query.count
        window := window.map fun t => ⟨String.ofList t, c.values.drop inner⟩ }
  else none

namespace RankedFilter

variable (f : RankedFilter)

/-- The text of the query. -/
def queryText : String :=
  "SELECT UUID FROM " ++ f.source.name ++ f.candidates.clause.led " WHERE "
    ++ " GROUP BY UUID ORDER BY " ++ f.rankText

/-- The condition of the query stays where it is put, and so does the window. -/
theorem contained_candidates : Contained (f.candidates.clause.led " WHERE ") :=
  .led (.ofLetters rfl (by decide)) (Filter.contained f.candidates)

theorem contained_window : Contained (f.window.clause.led " AND ") :=
  .led (.ofLetters rfl (by decide)) (Filter.contained f.window)

theorem text_membership_eq : f.membership.text = "UUID IN (" ++ (f.queryText ++ ")") := by
  unfold membership queryText rankText
  rw [show "UUID IN (SELECT UUID FROM " = "UUID IN (" ++ "SELECT UUID FROM " from rfl]
  simp only [String.append_assoc]
  rfl

/-! ### The order -/

/-- The order falls into four words. -/
theorem splitOn_rankText :
    f.rankText.toList.splitOn ' '
      = [f.ranking.expression.toList, f.ranking.direction.toList, "LIMIT".toList,
        (toString f.ranking.count).toList] := by
  have chars : ∀ {cs : List Char}, ' ' ∉ cs → ' ' ∉ (String.ofList cs).toList := by simp
  have unbroken : ∀ word ∈ [f.ranking.expression.toList, f.ranking.direction.toList,
      "LIMIT".toList, (toString f.ranking.count).toList], ' ' ∉ word := by
    intro word among
    simp only [List.mem_cons, List.not_mem_nil, or_false] at among
    rcases among with rfl | rfl | rfl | rfl
    · unfold Ranking.expression
      split <;> exact chars (by decide)
    · unfold Ranking.direction
      split <;> exact chars (by decide)
    · exact chars (by decide)
    · intro blank
      exact absurd (isDigit_of_mem_toString blank) (by decide)
  have words := List.splitOn_intercalate ' ' unbroken (List.cons_ne_nil _ _)
  have text : f.rankText.toList = [' '].intercalate [f.ranking.expression.toList,
      f.ranking.direction.toList, "LIMIT".toList, (toString f.ranking.count).toList] := by
    unfold rankText
    rw [show " LIMIT " = " " ++ "LIMIT" ++ " " from rfl]
    simp [List.intercalate]
  rw [text, words]

/-! ### The query -/

/-- **The query is read back**, whatever its candidates are filtered by. -/
theorem read?_queryText :
    RankingQuery.read? f.queryText.toList
      = some
        { source := f.source.name.toList
          condition := f.candidates.clause.stated?.map fun d => d.text.toList
          expression := f.ranking.expression.toList
          direction := f.ranking.direction.toList
          count := f.ranking.count } := by
  obtain ⟨ws, words⟩ : ∃ ws, " GROUP BY UUID ORDER BY ".toList = ' ' :: 'G' :: ws :=
    ⟨_, String.toList_ofList⟩
  have text : f.queryText.toList
      = "SELECT UUID FROM ".toList ++ (f.source.name.toList
        ++ ((f.candidates.clause.led " WHERE ").toList
          ++ (' ' :: 'G' :: ws ++ f.rankText.toList))) := by
    unfold queryText
    simp only [String.toList_append, words, List.append_assoc]
  -- Behind the name of the table there is a blank, be it of the condition or of the grouping.
  obtain ⟨more, blank⟩ : ∃ more, (f.candidates.clause.led " WHERE ").toList
      ++ (' ' :: 'G' :: ws ++ f.rankText.toList) = ' ' :: more := by
    unfold Clause.led
    split
    · exact ⟨_, rfl⟩
    · rw [show " WHERE " = " " ++ "WHERE " from rfl]
      simp
  have named := firstWord_append (Plan.unbroken_name f.source) more
  rw [← blank] at named
  have grouped : cut (' ' :: 'G' :: ws) ((f.candidates.clause.led " WHERE ").toList
      ++ (' ' :: 'G' :: ws ++ f.rankText.toList))
      = some ((f.candidates.clause.led " WHERE ").toList, f.rankText.toList) :=
    cut_append (by decide) f.contained_candidates.ungrouped f.rankText.toList
  have count := natural?_toString f.ranking.count
  unfold RankingQuery.read?
  rw [text, isPrefixOf?_append, words]
  simp only [Option.bind_eq_bind, Option.bind_some, named, grouped, optionalPart_led,
    splitOn_rankText, count, if_true, Option.map_some]

/-! ### The parentheses around it -/

/-- The parentheses of an order come in pairs, one inside another for a mean. -/
theorem paired_rankText : Paired f.rankText.toList := by
  have expression : Paired f.ranking.expression.toList := by
    unfold Ranking.expression
    split
    · have mean : Paired ("AVG" ++ "(" ++ "METRIC_SUM" ++ ")" ++ ",2").toList := by
        rw [String.toList_append]
        exact .append (.call (.ofList rfl) (.ofList rfl)) (.ofList rfl)
      rw [show "ROUND(AVG(METRIC_SUM),2)"
        = "ROUND" ++ "(" ++ ("AVG" ++ "(" ++ "METRIC_SUM" ++ ")" ++ ",2") ++ ")" from rfl]
      exact .call (.ofList rfl) mean
    · rw [show "SUM(METRIC_SUM)" = "SUM" ++ "(" ++ "METRIC_SUM" ++ ")" from rfl]
      exact .call (.ofList rfl) (.ofList rfl)
    · rw [show "MAX(METRIC_MAX)" = "MAX" ++ "(" ++ "METRIC_MAX" ++ ")" from rfl]
      exact .call (.ofList rfl) (.ofList rfl)
  have direction : Paired f.ranking.direction.toList := by
    unfold Ranking.direction
    split <;> exact .ofList rfl
  unfold rankText
  simp only [String.toList_append]
  exact (((expression.append (.ofList rfl)).append direction).append (.ofList rfl)).append
    (.digits f.ranking.count)

/-- The parentheses of a query come in pairs, those of its condition included. -/
theorem paired_queryText : Paired f.queryText.toList := by
  have source : Paired f.source.name.toList := by
    cases f.source with
    | series scope granularity => cases scope <;> cases granularity <;> exact .ofList rfl
    | transient | metricMetadata | hostMetadata => exact .ofList rfl
  unfold queryText
  simp only [String.toList_append]
  exact ((((Paired.ofList rfl).append source).append f.contained_candidates.paired).append
    (.ofList rfl)).append f.paired_rankText

/-- The window, if it says anything, stands behind the test for being among the best. -/
theorem text_clause_led : f.clause.text = f.membership.text ++ f.window.clause.led " AND " := by
  have some_text : f.membership.text ≠ "" := by
    rw [text_membership_eq]
    simp
  exact Clause.text_and some_text f.window.clause

/-- The text of a ranking: the query in parentheses, and the window behind them. -/
theorem text_clause_eq :
    f.clause.text.toList
      = "UUID IN (".toList
        ++ (f.queryText.toList ++ ')' :: (f.window.clause.led " AND ").toList) := by
  have closed : ")".toList = [')'] := String.toList_ofList
  rw [text_clause_led, text_membership_eq]
  simp only [String.toList_append, closed, List.append_assoc, List.singleton_append]

/-- **A ranking is read back**: the whole clause of its candidates inside the parentheses, and the
    whole clause of its window behind them. -/
theorem ofClause?_clause :
    RankedReading.ofClause? f.clause
      = some
        { source := f.source.name
          candidates := f.candidates.clause.stated?
          expression := f.ranking.expression
          direction := f.ranking.direction
          count := f.ranking.count
          window := f.window.clause.stated? } := by
  have inner := (Filter.binds f.candidates).count_stated
  have outer := (Filter.binds f.window).count_stated
  have values : f.clause.values = f.candidates.clause.values ++ f.window.clause.values :=
    (Filter.binds f.window).values_and f.membership
  have closed := f.paired_queryText.splitClosing_eq (f.window.clause.led " AND ").toList
  unfold RankedReading.ofClause?
  rw [f.text_clause_eq, isPrefixOf?_append]
  simp only [Option.bind_eq_bind, Option.bind_some, closed, f.read?_queryText, optionalPart_led,
    inner, outer, values, List.length_append, if_true, List.take_left, List.drop_left,
    String.ofList_toList, Clause.stated?_eq]

example : RankedReading.ofClause?
      ⟨"UUID IN (SELECT UUID FROM T WHERE (A OR B = ?) GROUP BY UUID ORDER BY M ASC LIMIT 5)"
        ++ " AND C < ?", [.text "b", .integer 1]⟩
    = some
      { source := "T", candidates := some ⟨"(A OR B = ?)", [.text "b"]⟩
        expression := "M", direction := "ASC", count := 5
        window := some ⟨"C < ?", [.integer 1]⟩ } := by
  decide +kernel

/-- Its parentheses come in pairs, within the query and around it. -/
theorem paired_clause : Paired f.clause.text.toList := by
  have opens : Paired "UUID IN ".toList := .ofList rfl
  have opened : "UUID IN (".toList = "UUID IN ".toList ++ ['('] := by
    rw [show "UUID IN (" = "UUID IN " ++ "(" from rfl, String.toList_append,
      show "(".toList = ['('] from String.toList_ofList]
  have around := Paired.pair f.paired_queryText f.contained_window.paired
  rw [f.text_clause_eq, opened, List.append_assoc, List.singleton_append]
  exact opens.append around

end RankedFilter

end Sql

/-! ## The ranking of a request -/

namespace Request

/-- A view that was taken changes no clause. -/
theorem clause_viewed (r : Request) (view other : View) :
    (r.viewed view).clause other = r.clause other := by
  have left := r.viewed_traced false false view
  rw [r.traced_none] at left
  rw [left]
  exact congrArg Predicate.clause (r.predicate_traced _ _ other)

/-- **A ranking wraps the filter of a series.**  Whatever the request is for, the clause of a
    ranking is a query for the best of some series and a window besides; its parentheses come in
    pairs, and it is read back as that query and that window.  The series are filtered by the
    clause of a series, whole and with its values, if it says anything; and the window asked for
    besides is the very window that this clause ends with, so that no row is ranked by a time that
    is not asked for outside.  Taking the ranking does to the request what taking the clause of a
    series does, and leaves that clause as it is. -/
theorem ranked_wraps (r : Request) (ranking : Ranking) (granularity : Option Granularity) :
    (r.clause (.ranked ranking granularity)).text
        = "UUID IN (SELECT UUID FROM " ++ (Table.ofScope r.scope granularity).name
          ++ (r.clause .series).led " WHERE " ++ " GROUP BY UUID ORDER BY " ++ ranking.expression
          ++ " " ++ ranking.direction ++ " LIMIT " ++ toString ranking.count ++ ")"
          ++ (r.clause .window).led " AND "
      ∧ Paired (r.clause (.ranked ranking granularity)).text.toList
      ∧ RankedReading.ofClause? (r.clause (.ranked ranking granularity))
        = some
          { source := (Table.ofScope r.scope granularity).name
            candidates := (r.clause .series).stated?
            expression := ranking.expression
            direction := ranking.direction
            count := ranking.count
            window := (r.clause .window).stated? }
      ∧ (r.clause (.ranked ranking granularity)).values
        = (r.clause .series).values ++ (r.clause .window).values
      ∧ r.clause .series
        = (Filter.clause (if r.identities.isEmpty then r.attributeFilter else r.identityFilter)).and
          (r.clause .window)
      ∧ valuesAt .time (r.predicate .series).fields = valuesAt .time (r.predicate .window).fields
      ∧ (∀ like : String → String → Bool,
        (r.clause .series).Decides like (r.AsksSeries like)
          ∧ (r.clause .window).Decides like r.AsksTime)
      ∧ r.viewed (.ranked ranking granularity) = r.viewed .series
      ∧ (r.viewed (.ranked ranking granularity)).clause .series = r.clause .series := by
  refine ⟨(r.rankedFilter ranking granularity).text_clause_led,
    (r.rankedFilter ranking granularity).paired_clause,
    (r.rankedFilter ranking granularity).ofClause?_clause, ?values, Filter.clause_append _ _,
    ?times, fun like => ⟨r.selects_series.clause, r.selects_window.clause⟩, rfl,
    r.clause_viewed _ _⟩
  case values => exact (Filter.binds r.windowFilter).values_and _
  case times =>
    rw [valuesAt_predicate, valuesAt_predicate]
    rfl

end Request

end Rollup
