/-
  Plain texts: those that have neither a placeholder nor a `$`.

  They are most of a statement.  Its words are plain, the digits of a number and the names of tables
  are, and so is what is put together from them.  Only conditions have placeholders, and only the
  names and the statement of a caller may have anything.

  What stands around the condition of a filter by rank, inside its query, is named here
  (`RankedFilter.opening`, `RankedFilter.closing`): both are plain, and for the readers of a text
  there is no more to know of them.
-/
import Rollup.Sql.Filter
import Rollup.Sql.Select

namespace Rollup.Sql

/-! ## Runs of characters -/

/-- The characters of a number are its digits. -/
theorem toList_toString (n : Nat) : (toString n).toList = Nat.toDigits 10 n := by
  show (Nat.repr n).toList = _
  rw [Nat.repr, String.toList_ofList]

theorem isDigit_of_mem_toString {n : Nat} {c : Char} (h : c ∈ (toString n).toList) :
    c.isDigit = true := by
  rw [toList_toString] at h
  exact Nat.isDigit_of_mem_toDigits (by decide) (by decide) h

/-- A run of characters goes as far as its last one, if what follows begins otherwise. -/
theorem takeWhile_append_of_head {p : Char → Bool} {run rest : List Char}
    (inside : ∀ c ∈ run, p c = true) (ends : ∀ c ∈ rest.head?, p c = false) :
    (run ++ rest).takeWhile p = run := by
  have nothing : rest.takeWhile p = [] := by
    cases rest with
    | nil => rfl
    | cons c rest => rw [List.takeWhile_cons, ends c rfl, if_neg Bool.false_ne_true]
  rw [List.takeWhile_append_of_pos inside, nothing, List.append_nil]

/-! ## Plain texts -/

/-- The text has neither `$` nor placeholder. -/
structure Plain (text : String) : Prop where
  unmarked : '$' ∉ text.toList
  silent : placeholder ∉ text.toList

instance (text : String) : Decidable (Plain text) :=
  decidable_of_iff ('$' ∉ text.toList ∧ placeholder ∉ text.toList)
    ⟨fun h => ⟨h.1, h.2⟩, fun h => ⟨h.unmarked, h.silent⟩⟩

namespace Plain

variable {s t : String}

/-- A text by its characters. -/
theorem ofList {cs : List Char} (plain : '$' ∉ cs ∧ placeholder ∉ cs) :
    Plain (String.ofList cs) := by
  constructor
  · rw [String.toList_ofList]
    exact plain.1
  · rw [String.toList_ofList]
    exact plain.2

theorem append (hs : Plain s) (ht : Plain t) : Plain (s ++ t) := by
  constructor
  · rw [String.toList_append, List.mem_append, not_or]
    exact ⟨hs.unmarked, ht.unmarked⟩
  · rw [String.toList_append, List.mem_append, not_or]
    exact ⟨hs.silent, ht.silent⟩

/-- It waits for nothing. -/
theorem waits (ht : Plain t) : placeholderCount t = 0 := List.count_eq_zero.mpr ht.silent

/-- The digits of a number. -/
theorem digits (n : Nat) : Plain (toString n) := by
  have foreign : ∀ {c : Char}, c.isDigit = false → c ∉ (toString n).toList := by
    intro c other among
    rw [isDigit_of_mem_toString among] at other
    exact absurd other (by decide)
  exact ⟨foreign (by decide), foreign (by decide)⟩

theorem integer (n : Int) : Plain (toString n) := by
  cases n with
  | ofNat n => exact digits n
  | negSucc n =>
    have sign : Plain "-" := .ofList (by decide)
    exact sign.append (digits (n + 1))

theorem table (t : Table) : Plain t.name := by
  cases t with
  | series scope granularity => cases scope <;> cases granularity <;> exact .ofList (by decide)
  | transient | metricMetadata | hostMetadata => exact .ofList (by decide)

theorem cap (rows : Option Int) : Plain (capText rows) := by
  cases rows with
  | none => exact .ofList (by decide)
  | some rows =>
    have word : Plain " LIMIT " := .ofList (by decide)
    exact word.append (.integer rows)

end Plain

/-! ## Around the candidates of a ranking -/

namespace RankedFilter

variable (f : RankedFilter)

/-- What stands before the condition of the candidates. -/
def opening : String := "UUID IN (SELECT UUID FROM " ++ f.source.name

/-- The order and the count of the query. -/
def rankText : String :=
  f.ranking.expression ++ " " ++ f.ranking.direction ++ " LIMIT " ++ toString f.ranking.count

/-- What stands after the condition. -/
def closing : String := " GROUP BY UUID ORDER BY " ++ (f.rankText ++ ")")

theorem text_membership_around :
    f.membership.text = f.opening ++ f.candidates.clause.whereText ++ f.closing := by
  unfold membership opening closing rankText
  simp only [String.append_assoc]

theorem opening_plain : Plain f.opening := .append (.ofList (by decide)) (.table f.source)

theorem closing_plain : Plain f.closing := by
  have expression : Plain f.ranking.expression := by
    unfold Ranking.expression
    split <;> exact .ofList (by decide)
  have direction : Plain f.ranking.direction := by
    unfold Ranking.direction
    split <;> exact .ofList (by decide)
  have blank : Plain " " := .ofList (by decide)
  have limit : Plain " LIMIT " := .ofList (by decide)
  have rank : Plain f.rankText :=
    (((expression.append blank).append direction).append limit).append (.digits _)
  have order : Plain " GROUP BY UUID ORDER BY " := .ofList (by decide)
  have closed : Plain ")" := .ofList (by decide)
  exact order.append (rank.append closed)

end RankedFilter

end Rollup.Sql
