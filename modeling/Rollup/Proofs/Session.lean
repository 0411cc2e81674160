/-
  A session answers each question as if it were the first.

  Two kinds of question leave a trace on the request: a view that filters by name sorts the names,
  and looking for a granularity lifts the limit of a request that pins one.  `Session.left` says in
  full what is left after any questions: the names once sorted or as they were, the limit once
  lifted or as it was, and nothing else touched.

  The crux is that no question can tell a traced request from the one that came in
  (`answer_traced`).  A name filter splits the names into exact ones and patterns, and sorting them
  leaves both halves as they were; an estimate counts the names; and a request that pins a
  granularity has no limit to lift.  So a second trace falls on the first, and the session is one
  induction over its questions.
-/
import Rollup.Proofs.Shape
import Rollup.Session

namespace Rollup

open Sql (Predicate)

/-! ## Traces -/

theorem Token.exactFirst_perm (tokens : List String) : (exactFirst tokens).Perm tokens :=
  List.perm_append_comm.trans (List.filter_append_perm isPattern tokens)

namespace Request

/-- A request with its active names sorted or not, and its limit lifted or not where it pins a
    granularity.  Everything else is its own. -/
def traced (r : Request) (sorted lifted : Bool) : Request :=
  { r.withNames (if sorted then Token.exactFirst r.names else r.names) with
    unlimited := r.unlimited || (r.granularity.isSome && lifted) }

section Traced

variable (r : Request) (sorted lifted : Bool)

/-- No trace is the request itself. -/
theorem traced_none : r.traced false false = r := by
  unfold traced withNames names
  cases kind : r.kind <;> simp [← kind]

theorem traced_frame :
    ∃ kind shared unlimited,
      r.traced sorted lifted
        = { r with kind := kind, sharedNames := shared, unlimited := unlimited } := by
  obtain ⟨kind, shared, other⟩ :=
    r.withNames_frame (if sorted then Token.exactFirst r.names else r.names)
  unfold traced
  rw [other]
  exact ⟨kind, shared, _, rfl⟩

theorem names_traced :
    (r.traced sorted lifted).names = if sorted then Token.exactFirst r.names else r.names :=
  r.names_withNames _

/-- The names are the same, in whatever order. -/
theorem perm_traced : (if sorted then Token.exactFirst r.names else r.names).Perm r.names := by
  cases sorted with
  | false => exact .refl _
  | true => exact Token.exactFirst_perm r.names

/-! ### A trace on a trace -/

theorem withNamesSorted_traced :
    (r.traced sorted lifted).withNamesSorted = r.traced true lifted := by
  have names : Token.exactFirst (r.traced sorted lifted).names = Token.exactFirst r.names := by
    rw [names_traced]
    cases sorted with
    | false => rfl
    | true => exact Token.exactFirst_exactFirst r.names
  unfold withNamesSorted
  rw [names]
  unfold traced withNames
  cases r.kind <;> rfl

theorem resolved_traced : (r.traced sorted lifted).resolved = r.traced sorted true := by
  have pinned : (r.traced sorted lifted).granularity = r.granularity :=
    granularity_withNames r _
  unfold resolved
  rw [pinned]
  unfold traced withoutLimit
  cases r.granularity.isSome <;> simp

/-! ### What a trace cannot hide -/

/-- The two halves of the names stay in their own order. -/
theorem halves_traced :
    Token.exact (r.traced sorted lifted).names = Token.exact r.names
      ∧ Token.patterns (r.traced sorted lifted).names = Token.patterns r.names := by
  rw [names_traced]
  cases sorted with
  | false => exact ⟨rfl, rfl⟩
  | true =>
    simp [Token.exactFirst, Token.exact_append, Token.patterns_append, Token.exact_exact,
      Token.patterns_exact, Token.exact_patterns, Token.patterns_patterns]

theorem nameFilter_traced : (r.traced sorted lifted).nameFilter = r.nameFilter := by
  obtain ⟨exact_names, patterns⟩ := r.halves_traced sorted lifted
  have named : (r.traced sorted lifted).names.isEmpty = r.names.isEmpty :=
    isEmpty_withNames (r.perm_traced sorted)
  have negated : (r.traced sorted lifted).negateNames = r.negateNames := by
    obtain ⟨kind, shared, unlimited, other⟩ := r.traced_frame sorted lifted
    rw [other]
  unfold nameFilter nameTests
  rw [named, negated, exact_names, patterns]

theorem attributeFilter_traced :
    (r.traced sorted lifted).attributeFilter = r.attributeFilter := by
  have names := r.nameFilter_traced sorted lifted
  obtain ⟨kind, shared, unlimited, other⟩ := r.traced_frame sorted lifted
  unfold attributeFilter
  rw [names, other]
  rfl

theorem seriesFilter_traced : (r.traced sorted lifted).seriesFilter = r.seriesFilter := by
  have attributes := r.attributeFilter_traced sorted lifted
  obtain ⟨kind, shared, unlimited, other⟩ := r.traced_frame sorted lifted
  unfold seriesFilter
  rw [attributes, other]
  rfl

/-- **Every view shows the same** of a traced request. -/
theorem predicate_traced (view : View) :
    (r.traced sorted lifted).predicate view = r.predicate view := by
  have names := r.nameFilter_traced sorted lifted
  have attributes := r.attributeFilter_traced sorted lifted
  have series := r.seriesFilter_traced sorted lifted
  obtain ⟨kind, shared, unlimited, other⟩ := r.traced_frame sorted lifted
  cases view with
  | series => exact congrArg Predicate.plain series
  | names => exact congrArg Predicate.plain names
  | ranked ranking granularity =>
    show Predicate.ranked _ = Predicate.ranked _
    unfold rankedFilter
    rw [series, other]
    rfl
  | transient =>
    show Predicate.plain (_ ++ _) = Predicate.plain (_ ++ _)
    rw [attributes, other]
    rfl
  | metadata target =>
    cases target with
    | metric =>
      show Predicate.plain (_ ++ _ ++ _) = Predicate.plain (_ ++ _ ++ _)
      rw [names, other]
      rfl
    | host =>
      rw [other]
      rfl
  | lookup _ | identities | hosts | app | instanceId | window =>
    rw [other]
    rfl

theorem showsNames_traced (view : View) :
    (r.traced sorted lifted).showsNames view = r.showsNames view := by
  obtain ⟨kind, shared, unlimited, other⟩ := r.traced_frame sorted lifted
  rw [other]
  cases view <;> rfl

/-- Taking a view sorts the names if it shows them and they are not sorted already. -/
theorem viewed_traced (view : View) :
    (r.traced sorted lifted).viewed view
      = r.traced (sorted || r.showsNames view) lifted := by
  unfold viewed
  rw [showsNames_traced, withNamesSorted_traced]
  cases r.showsNames view <;> simp

theorem wholeView_traced (granularity : Option Granularity) :
    (r.traced sorted lifted).wholeView granularity = r.wholeView granularity := by
  unfold wholeView traced withNames
  cases r.kind <;> rfl

/-- A limit that is lifted was none before: a granularity is pinned. -/
theorem limit_traced (default : Int) :
    (r.traced sorted lifted).limit default = r.limit default := by
  obtain ⟨kind, shared, other⟩ :=
    r.withNames_frame (if sorted then Token.exactFirst r.names else r.names)
  unfold traced limit
  rw [other]
  cases r.granularity.isSome <;> simp

end Traced

end Request

/-! ## Questions -/

namespace Session

/-- A question sorts the names of a request. -/
def Question.sorts (r : Request) : Question → Bool
  | .view v => r.showsNames v
  | .whole granularity => r.showsNames (r.wholeView granularity)
  | .estimate _ | .budget _ | .finest _ | .resolve _ | .limit _ => false

/-- A question looks for the granularity to read at. -/
def Question.resolves : Question → Bool
  | .resolve _ => true
  | .view _ | .whole _ | .estimate _ | .budget _ | .finest _ | .limit _ => false

/-- A request as the questions asked so far leave it. -/
def left (r : Request) (asked : List Question) : Request :=
  r.traced (asked.any (Question.sorts r)) (asked.any Question.resolves)

section Traced

variable (s : Settings) (r : Request) (sorted lifted : Bool)

/-- **No answer tells a trace.** -/
theorem answer_traced (q : Question) : answer s (r.traced sorted lifted) q = answer s r q := by
  have perm := r.perm_traced sorted
  cases q with
  | view v =>
    show Answer.clause ((r.traced sorted lifted).predicate v).clause = _
    rw [Request.predicate_traced]
    rfl
  | whole granularity =>
    show Answer.clause ((r.traced sorted lifted).predicate _).clause = _
    rw [Request.wholeView_traced, Request.predicate_traced]
    rfl
  | estimate granularity =>
    exact congrArg Answer.rows (Request.estimate_withNames perm s granularity)
  | budget granularity =>
    have budget : s.checkBudget (r.traced sorted lifted) granularity
        = s.checkBudget r granularity :=
      Request.checkBudget_withNames perm s granularity
    unfold answer
    simp only [budget]
  | finest now => exact congrArg Answer.granularity (Request.finest_withNames perm s now)
  | resolve now =>
    have found : s.resolve (r.traced sorted lifted) now = s.resolve r now :=
      Request.resolve_withNames perm s now
    unfold answer
    simp only [found]
  | limit default => exact congrArg Answer.cap (r.limit_traced sorted lifted default)

/-- A question adds its own trace, if that is not there already. -/
theorem after_traced (q : Question) :
    after (r.traced sorted lifted) q
      = r.traced (sorted || q.sorts r) (lifted || q.resolves) := by
  cases q with
  | view v =>
    show (r.traced sorted lifted).viewed v = _
    rw [Request.viewed_traced, Question.resolves, Bool.or_false]
    rfl
  | whole granularity =>
    show (r.traced sorted lifted).viewed _ = _
    rw [Request.viewed_traced, Request.wholeView_traced, Question.resolves, Bool.or_false]
    rfl
  | resolve now =>
    show (r.traced sorted lifted).resolved = _
    rw [Request.resolved_traced, Question.sorts, Question.resolves, Bool.or_false, Bool.or_true]
  | estimate _ | budget _ | finest _ | limit _ =>
    rw [Question.sorts, Question.resolves, Bool.or_false, Bool.or_false]
    rfl

end Traced

/-! ## Sessions -/

/-- One more question, after some that were asked before. -/
theorem after_left (r : Request) (asked : List Question) (q : Question) :
    after (left r asked) q = left r (asked ++ [q]) := by
  unfold left
  rw [after_traced, List.any_append, List.any_append, List.any_cons, List.any_cons, List.any_nil,
    List.any_nil, Bool.or_false, Bool.or_false]

/-- A session that goes on. -/
theorem run_left (s : Settings) (r : Request) (asked qs : List Question) :
    run s (left r asked) qs
      = qs.mapIdx fun i q => (answer s r q, left r (asked ++ qs.take (i + 1))) := by
  induction qs generalizing asked with
  | nil => rfl
  | cons q qs ih =>
    have first : answer s (left r asked) q = answer s r q := answer_traced s r _ _ q
    rw [run, after_left, ih, first, List.mapIdx_cons]
    simp only [List.take_succ_cons, List.take_zero, List.append_assoc, List.cons_append,
      List.nil_append]

/-- **Sessions.**  Every question of a session is answered as it would be for the request that came
    in, and leaves that request with its names sorted if a name filter was among the questions so
    far, with its limit lifted if it pins a granularity and one was looked for, and otherwise as it
    came in. -/
theorem run_independent (s : Settings) (r : Request) (qs : List Question) :
    run s r qs = qs.mapIdx fun i q => (answer s r q, left r (qs.take (i + 1))) := by
  have none_asked : left r [] = r := r.traced_none
  calc run s r qs = run s (left r []) qs := by rw [none_asked]
    _ = qs.mapIdx fun i q => (answer s r q, left r ([] ++ qs.take (i + 1))) := run_left s r [] qs

example :
    (run .standard { kind := .plain, sharedNames := ["a%", "b"], granularity := some .hours }
        [.view .names, .view .window, .resolve 0]).map (fun (_, r) => (r.names, r.unlimited))
      = [(["b", "a%"], false), (["b", "a%"], false), (["b", "a%"], true)] := by decide +kernel

end Session

end Rollup
