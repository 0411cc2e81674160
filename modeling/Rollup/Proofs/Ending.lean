/-
  How statements end.

  After its condition a statement has an order and a cap, or only one of them, or neither.  Which it
  is depends on the method and on three words of the caller: the columns to order by, the limit, and
  a granularity or the wish for every row, either of which lifts the cap.  `Method.ending` is the
  whole table, and nothing follows what it says.

  The crux is that looking for a granularity lifts the limit of a request that pins one, in the
  course of planning it; but such a request has no cap to begin with (`Plan.limit_resolved`), so the
  ending can be told from the request as it came in.
-/
import Rollup.Proofs.Cap
import Rollup.Proofs.Drafting

namespace Rollup

open Sql (capText orderText)

/-! ## Endings -/

/-- The end of a statement: the columns that its rows are ordered by, each with a word behind it,
    and how many rows there are at most. -/
structure Ending where
  columns : List String := []
  word : String := ""
  cap : Option Int := none
  deriving DecidableEq

/-- The text of an ending. -/
def Ending.text (e : Ending) : String :=
  (if e.columns = [] then ""
    else " ORDER BY " ++ String.intercalate ", " (e.columns.map fun c => c ++ e.word))
  ++ (match e.cap with
    | some rows => " LIMIT " ++ toString rows
    | none => "")

namespace Method

/-- How the statements of a method end. -/
def ending (s : Settings) (r : Request) (m : Method) : Ending :=
  match m with
  | series _ | transient =>
    { columns := if r.orderBy = [] then m.defaultOrder else r.orderBy
      cap :=
        if r.granularity = none ∧ r.unlimited = false then some (r.givenLimit.getD s.defaultLimit)
        else none }
  | latest => { columns := r.orderBy, word := " DESC" }
  | metadata => {}
  | latestAggregates =>
    { columns := ["UUID", "SERVER_TIME"], word := " DESC", cap := some (max 1 r.names.length : Nat) }

/-- What stands between the condition of a statement and its ending: the rest of the join for the
    most recent rows, where the condition is inside. -/
def closing : Method → String
  | latest => Plan.latestAfter
  | series _ | transient | metadata | latestAggregates => ""

end Method

/-! ## The text of an ending -/

namespace Ending

/-- An ending is an order and a cap. -/
theorem text_eq {columns : List String} {descending : Bool} {word : String} {cap : Option Int}
    (falls : word = if descending then " DESC" else "") :
    Ending.text { columns, word, cap }
      = orderText (columns.map fun c => ⟨c, descending⟩) ++ capText cap := by
  have term : ∀ c, (⟨c, descending⟩ : Sql.OrderTerm).text = c ++ word := by
    intro c
    rw [falls]
    cases descending with
    | true => rfl
    | false => exact String.append_empty.symm
  have order : orderText (columns.map fun c => ⟨c, descending⟩)
      = if columns = [] then ""
        else " ORDER BY " ++ String.intercalate ", " (columns.map fun c => c ++ word) := by
    unfold orderText
    rw [List.map_map, List.isEmpty_map]
    cases columns with
    | nil => rfl
    | cons c cs => simp [Function.comp_def, term]
  unfold Ending.text
  rw [order]
  cases cap <;> rfl

end Ending

namespace Method

variable {m : Method} {s : Settings} {now : Int} {r : Request} {ps : List Plan} {p : Plan}
  {granularity : Granularity} {f : Form}

/-- A form ends as its method says. -/
theorem after_of_mem (h : f ∈ m.forms s r granularity) :
    f.after = m.closing ++ (m.ending s r).text := by
  have rising : "" = if false then " DESC" else "" := rfl
  have falling : " DESC" = if true then " DESC" else "" := rfl
  have order (default : List String) : Plan.orderOf r default
      = (if r.orderBy = [] then default else r.orderBy).map fun c => ⟨c, false⟩ := by
    unfold Plan.orderOf Plan.ascending
    cases r.orderBy <;> rfl
  cases m with
  | series _ | transient =>
    obtain rfl := List.mem_singleton.mp h
    rw [closing, String.empty_append, ending, Ending.text_eq rising, ← r.limit_eq, ← order]
    rfl
  | latest =>
    obtain rfl := List.mem_singleton.mp h
    rw [ending, Ending.text_eq falling]
    show _ = Plan.latestAfter ++ (orderText (Plan.descending r.orderBy) ++ "")
    rw [String.append_empty]
    rfl
  | metadata =>
    obtain ⟨target, -, rfl⟩ := mem_forms_metadata.mp h
    rfl
  | latestAggregates =>
    obtain ⟨identity, -, rfl⟩ := List.mem_map.mp h
    rw [closing, String.empty_append, ending, Ending.text_eq falling, Nat.max_comm]
    rfl

end Method

/-! ## The columns of the caller -/

theorem Draft.insertLast_nodup {columns : List String} (distinct : columns.Nodup) (c : String) :
    (insertLast columns c).Nodup := by
  unfold insertLast
  by_cases known : c ∈ columns
  · simpa [known] using distinct
  · simpa [known, List.nodup_append] using ⟨distinct, fun a among same => known (same ▸ among)⟩

/-- No column is kept twice. -/
theorem Draft.setAll_nodup {d : Draft} (distinct : d.orderBy.Nodup) (settings : List Setting) :
    (d.setAll settings).orderBy.Nodup := by
  induction settings generalizing d with
  | nil => exact distinct
  | cons x settings ih =>
    refine ih (d := d.set x) ?_
    cases x with
    | orderBy column => exact insertLast_nodup distinct column
    | _ => exact distinct

namespace Request

/-- The columns of a drafted request are those that were named, each at its first place. -/
theorem orderBy_ofSettings (settings : List Setting) :
    (ofSettings settings).orderBy = (Setting.said .orderBy settings).eraseDups
      ∧ (ofSettings settings).orderBy.Nodup :=
  ⟨congrArg orderBy (ofSettings_eq settings), Draft.setAll_nodup List.nodup_nil settings⟩

end Request

/-! ## Statements -/

namespace Method

variable {m : Method} {s : Settings} {now : Int} {r : Request} {ps : List Plan} {p : Plan}

/-- **How statements end.**  A statement is a head, the condition of its view, and the ending of its
    method; the most recent rows have the condition within their head, and may be asked for in a
    statement of the caller's own, to which nothing is added.  And the columns of a drafted request
    are those that were named, each at its first place only. -/
theorem plans_end (planned : m.plans s now r = .ok ps) (among : p ∈ ps) :
    (∀ own, m = .latest → r.statement = some own → p.text = own)
      ∧ ((m = .latest → r.statement = none) →
        ∃ granularity f, f ∈ m.forms s r granularity ∧ p.granularity = m.reads granularity
          ∧ p.table = f.table ∧ p.values = (r.clause f.view).values
          ∧ p.text = f.before ++ (r.clause f.view).whereText ++ m.closing ++ (m.ending s r).text)
      ∧ ∀ settings, r = Request.ofSettings settings →
        r.orderBy = (Setting.said .orderBy settings).eraseDups ∧ r.orderBy.Nodup := by
  obtain ⟨granularity, -, rfl⟩ := plans_eq_ok.mp planned
  obtain ⟨f, form, rfl⟩ := List.mem_map.mp among
  have text : (f.plan s (m.reads granularity) (m.asked r)).text = f.text r := text_asked m r f
  refine ⟨?own, fun no_own => ?parts, ?columns⟩
  case own =>
    rintro own rfl given
    obtain rfl := List.mem_singleton.mp form
    rw [text, Form.text]
    show r.statement.getD _ = own
    rw [given]
    rfl
  case parts =>
    refine ⟨granularity, f, form, rfl, rfl, ?_, ?_⟩
    · exact congrArg Sql.Clause.values (m.clause_asked r f.view)
    · rw [text, Form.text, own_of_mem form no_own, after_of_mem form, String.append_assoc,
        String.append_assoc, Option.getD_none, String.append_assoc]
  case columns =>
    rintro settings rfl
    exact Request.orderBy_ofSettings settings

/-- A request with a limit that names a column twice. -/
def namedTwice : List Setting :=
  [.names ["cpu_user"], .orderBy "SERVER_TIME", .orderBy "UUID", .orderBy "SERVER_TIME", .limit 7]

/-- Each column is ordered by at its first place, and the limit of the caller is the cap. -/
theorem plans_end_ordered :
    ∃ p, (series .perHost).plans .standard 0 (Request.ofSettings namedTwice) = .ok [p]
      ∧ p.text
        = "SELECT UUID, SERVER_TIME, METRIC_SUM, METRIC_MAX, METRIC_MIN, METRIC_COUNT"
          ++ " FROM METRIC_RECORD_DAILY_UUID" ++ " WHERE (METRIC_NAME IN (?))"
          ++ " ORDER BY SERVER_TIME, UUID LIMIT 7"
      ∧ (Request.ofSettings namedTwice).orderBy
        = ["SERVER_TIME", "UUID", "SERVER_TIME"].eraseDups := by
  obtain ⟨p, planned, days⟩ : ∃ p, (series .perHost).plans .standard 0
        (Request.ofSettings namedTwice) = .ok [p] ∧ p.granularity = some .days := ⟨_, rfl, rfl⟩
  obtain ⟨-, parts, columns⟩ := plans_end planned List.mem_cons_self
  obtain ⟨granularity, f, form, read, -, -, text⟩ := parts nofun
  obtain rfl : .days = granularity := Option.some.inj (days.symm.trans read)
  obtain rfl := List.mem_singleton.mp form
  refine ⟨p, planned, text.trans ?_, (columns namedTwice rfl).1⟩
  decide +kernel

end Method

end Rollup
