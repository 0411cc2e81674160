/-
  What a request selects, in words of its own.

  A request asks for rows by what it says of identities, names, hosts, application, instance and
  window.  Each of these is stated here as a property of one row, without a word about filters or
  statements; then the clause of every view is shown to decide it.

  The crux is negation.  A negated list turns the tests of its members round and joins them by AND
  where they were joined by OR, and `combineAll_negated` is De Morgan's law for that: however a
  list is negated, its tests together say whether some member fits, or the opposite.
-/
import Rollup.Selection
import Rollup.Proofs.Sql.FilterReading

namespace Rollup

open Sql

/-- A value fits a token: it is like a pattern, or equal to any other token. -/
def Token.Fits (like : String → String → Bool) (token value : String) : Prop :=
  if isPattern token then like value token = true else value = token

/-! ## What is asked of a row -/

namespace Request

section Asked

variable (like : String → String → Bool) (r : Request) (row : Row)

/-- Its identity is listed, or is not where the list is negated. -/
def AsksIdentity : Prop := row.identity ∈ r.identities ↔ r.negateIdentities = false

/-- Its name fits one of the names, or none where they are negated. -/
def AsksName : Prop :=
  r.names ≠ [] → ((∃ t ∈ r.names, Token.Fits like t row.name) ↔ r.negateNames = false)

/-- Its host is one of the hosts, or like one of them if there is a pattern among them; or none of
    that where they are negated. -/
def AsksHost : Prop :=
  r.hostList ≠ [] →
    ((∃ h ∈ r.hostList,
        if Token.anyPattern r.hostList then like row.host h = true else row.host = h)
      ↔ r.negateHosts = false)

/-- Its application fits. -/
def AsksApp : Prop := ∀ app, r.app = some app → Token.Fits like app row.app

/-- Its instance fits; the bare wildcard asks nothing. -/
def AsksInstance : Prop :=
  ∀ i, r.instanceId = some i → i ≠ Token.wildcard.toString → Token.Fits like i row.instanceId

/-- Its time lies in the window, which holds its start and not its finish. -/
def AsksTime : Prop :=
  (∀ t, r.start = some t → t ≤ row.time) ∧ ∀ t, r.finish = some t → row.time < t

/-- All but identity and window. -/
def AsksAttributes : Prop :=
  ((r.AsksName like row ∧ r.AsksHost like row) ∧ r.AsksApp like row) ∧ r.AsksInstance like row

/-- What a request for series asks: identities, where given, take the place of the attributes. -/
def AsksSeries : Prop :=
  (if r.identities = [] then r.AsksAttributes like row else r.AsksIdentity row) ∧ r.AsksTime row

/-- What a request for transient metrics asks, identities or not. -/
def AsksTransient : Prop := r.AsksAttributes like row ∧ r.AsksTime row

/-- What a metadata scan asks. -/
def AsksMetadata : MetadataTarget → Prop
  | .metric => (r.AsksName like row ∧ r.AsksApp like row) ∧ r.AsksInstance like row
  | .host => r.AsksHost like row

/-- What the lookup of one identity asks. -/
def AsksLookup (identity : Bytes) : Prop := row.identity = identity ∧ r.AsksTime row

end Asked

end Request

/-! ## Negation -/

namespace Sql

variable {like : String → String → Bool} {row : Row}

/-- How the tests of a list are joined. -/
def Junction.ofNegated (negated : Bool) : Junction := if negated then .all else .any

/-- **De Morgan.**  Tests turned round and joined the other way say the opposite of "some". -/
theorem Junction.combineAll_negated {α : Type} (negated : Bool) (p : α → Bool) (xs : List α) :
    (ofNegated negated).combineAll (xs.map fun x => some (p x != negated))
      = some (xs.any p != negated) := by
  induction xs with
  | nil => cases negated <;> rfl
  | cons x xs ih =>
    rw [List.map_cons, combineAll_cons, ih]
    cases negated <;> cases hx : p x <;> simp [combine, ofNegated, hx]

/-- Two verdicts turned round and joined the other way. -/
theorem Junction.combine_negated (negated a b : Bool) :
    (ofNegated negated).combine (some (a != negated)) (some (b != negated))
      = some ((a || b) != negated) := by
  cases negated <;> cases a <;> cases b <;> rfl

/-- A verdict turned round is positive where the verdict and the negation differ. -/
theorem negated_iff {a negated : Bool} : (a != negated) = true ↔ (a = true ↔ negated = false) := by
  cases a <;> cases negated <;> decide

theorem Factor.verdict_group (negated : Bool) (ts : List Test) :
    (Factor.group negated ts).verdict like row
      = (Junction.ofNegated negated).combineAll (ts.map fun t => t.verdict like row) := by
  cases negated <;> rfl

theorem Factor.proper_group {negated : Bool} {ts : List Test} (some_test : ts ≠ [])
    (proper : ∀ t ∈ ts, t.Proper) : (Factor.group negated ts).Proper := by
  cases negated <;> exact ⟨some_test, proper⟩

namespace Test

variable (like row)

theorem verdict_equals {c : Column} {v : Value} (negated : Bool)
    (same : (row.value c).kind = v.kind) :
    (equals negated c v).verdict like row = some (decide (row.value c = v) != negated) := by
  cases negated <;> simp [equals, Test.verdict, Relation.verdict, same]

theorem verdict_likes {c : Column} {s : String} (negated : Bool) (pattern : String)
    (text : row.value c = .text s) :
    (likes negated c (.text pattern)).verdict like row = some (like s pattern != negated) := by
  cases negated <;> simp [likes, Test.verdict, Relation.verdict, text]

theorem verdict_member {α : Type} {c : Column} (negated : Bool) (f : α → Value) (xs : List α)
    (same : ∀ x, (row.value c).kind = (f x).kind) :
    (member c negated (xs.map f)).verdict like row
      = some ((xs.any fun x => decide (row.value c = f x)) != negated) := by
  have each : ∀ x, Relation.equal.verdict like (row.value c) (f x)
      = some ((decide (row.value c = f x)) != false) := by
    intro x
    simp [Relation.verdict, same x]
  simp only [Test.verdict, List.map_map, Function.comp_def, each]
  rw [show Junction.any = Junction.ofNegated false from rfl, Junction.combineAll_negated]
  simp

end Test

/-! ## Filters side by side -/

namespace Filter.Selects

/-- No filter lets every row pass. -/
theorem nil : Filter.Selects like [] fun _ => True :=
  ⟨by simp, fun _ => ⟨true, rfl, by simp⟩⟩

/-- A filter of one factor. -/
theorem one {x : Factor} {wanted : Row → Prop} (proper : x.Proper)
    (verdict : ∀ row, ∃ b, x.verdict like row = some b ∧ (b = true ↔ wanted row)) :
    Filter.Selects like [x] wanted := by
  refine ⟨fun y hy => List.mem_singleton.mp hy ▸ proper, fun row => ?_⟩
  obtain ⟨b, hb, wants⟩ := verdict row
  exact ⟨b, (Junction.combine_neutral .all _).trans hb, wants⟩

/-- **Filters side by side** select what both select. -/
theorem append {f g : Filter} {p q : Row → Prop} (hf : Filter.Selects like f p)
    (hg : Filter.Selects like g q) : Filter.Selects like (f ++ g) fun row => p row ∧ q row := by
  refine ⟨fun x hx => (List.mem_append.mp hx).elim (hf.proper x) (hg.proper x), fun row => ?_⟩
  obtain ⟨a, ha, wants⟩ := hf.verdict row
  obtain ⟨b, hb, wants'⟩ := hg.verdict row
  refine ⟨a && b, ?_, ?_⟩
  · unfold Filter.verdict at *
    rw [List.map_append, Junction.combineAll_append, ha, hb]
    rfl
  · rw [Bool.and_eq_true, wants, wants']

/-- The same filter for an equivalent wish. -/
theorem congr {f : Filter} {p q : Row → Prop} (h : Filter.Selects like f p)
    (same : ∀ row, p row ↔ q row) : Filter.Selects like f q := by
  refine ⟨h.proper, fun row => ?_⟩
  obtain ⟨b, hb, wants⟩ := h.verdict row
  exact ⟨b, hb, wants.trans (same row)⟩

end Filter.Selects

end Sql

/-! ## The dimensions of a request -/

namespace Request

variable {like : String → String → Bool} (r : Request)

theorem selects_identity (some_id : r.identities ≠ []) :
    Filter.Selects like r.identityFilter r.AsksIdentity := by
  unfold identityFilter
  rw [if_neg (by simpa using some_id)]
  refine .one (Factor.proper_group (by simp) (by simpa [Test.Proper] using some_id)) fun row => ?_
  refine ⟨r.identities.any (fun i => decide (row.identity = i)) != r.negateIdentities, ?_,
    negated_iff.trans (iff_congr ?_ Iff.rfl)⟩
  · have member := Test.verdict_member like row (c := .identity)
      r.negateIdentities Value.bytes r.identities fun _ => rfl
    rw [Factor.verdict_group, List.map_singleton, member]
    simp only [Row.value, Value.bytes.injEq, Junction.combineAll_cons]
    exact Junction.combine_neutral _ _
  · simp

/-- The tests of the names, those for exact names taken together, say whether one of them fits. -/
theorem verdict_nameTests (row : Row) :
    (Factor.group r.negateNames r.nameTests).verdict like row
      = some (((Token.exact r.names).any (fun t => decide (row.name = t))
          || (Token.patterns r.names).any fun p => like row.name p) != r.negateNames) := by
  have exact_names : (Junction.ofNegated r.negateNames).combineAll
      ((if (Token.exact r.names).isEmpty then []
        else [Test.member .name r.negateNames ((Token.exact r.names).map .text)]).map
          fun t => t.verdict like row)
      = some ((Token.exact r.names).any (fun t => decide (row.name = t)) != r.negateNames) := by
    cases h : Token.exact r.names with
    | nil => cases r.negateNames <;> rfl
    | cons t ts =>
      have member := Test.verdict_member like row (c := .name)
        r.negateNames Value.text (t :: ts) fun _ => rfl
      rw [List.isEmpty_cons, if_neg Bool.false_ne_true, List.map_singleton, member]
      simp only [Row.value, Value.text.injEq, Junction.combineAll_cons]
      exact Junction.combine_neutral _ _
  have patterns : (Junction.ofNegated r.negateNames).combineAll
      (((Token.patterns r.names).map fun p => Test.likes r.negateNames .name (.text p)).map
        fun t => t.verdict like row)
      = some ((Token.patterns r.names).any (fun p => like row.name p) != r.negateNames) := by
    rw [List.map_map, ← Junction.combineAll_negated]
    congr 1
    exact List.map_congr_left fun p _ => Test.verdict_likes like row _ _ rfl
  -- The list of exact names is one test among those of the patterns.
  rw [Factor.verdict_group]
  unfold nameTests
  rw [List.map_append, Junction.combineAll_append, exact_names, patterns,
    Junction.combine_negated]

theorem proper_nameTests : ∀ t ∈ r.nameTests, t.Proper := by
  intro t ht
  rcases List.mem_append.mp ht with ht | ht
  · by_cases h : (Token.exact r.names).isEmpty
    · simp [h] at ht
    · simp only [h, Bool.false_eq_true, if_false, List.mem_singleton] at ht
      subst ht
      simpa [Test.Proper] using h
  · obtain ⟨p, -, rfl⟩ := List.mem_map.mp ht
    trivial

/-- Every name is exact or a pattern, so a request with names tests some. -/
theorem nameTests_ne_nil (some_name : r.names ≠ []) : r.nameTests ≠ [] := by
  obtain ⟨t, ts, names⟩ := List.exists_cons_of_ne_nil some_name
  unfold nameTests
  cases h : Token.isPattern t <;> simp [names, Token.exact, Token.patterns, h]

theorem selects_name : Filter.Selects like r.nameFilter (r.AsksName like) := by
  unfold nameFilter
  by_cases some_name : r.names = []
  · rw [if_pos (by simpa using some_name)]
    exact Filter.Selects.nil.congr fun row => ⟨fun _ h => absurd some_name h, fun _ => trivial⟩
  · rw [if_neg (by simpa using some_name)]
    refine .one (Factor.proper_group (r.nameTests_ne_nil some_name) r.proper_nameTests) fun row => ?_
    refine ⟨_, r.verdict_nameTests row, negated_iff.trans ?_⟩
    have fits : ((Token.exact r.names).any (fun t => decide (row.name = t))
          || (Token.patterns r.names).any fun p => like row.name p) = true
        ↔ ∃ t ∈ r.names, Token.Fits like t row.name := by
      simp only [Token.exact, Token.patterns, List.any_filter, Bool.or_eq_true, List.any_eq_true,
        Bool.and_eq_true, Bool.not_eq_true', decide_eq_true_eq, ← exists_or, Token.Fits]
      refine exists_congr fun t => ?_
      cases Token.isPattern t <;> simp
    rw [fits]
    exact ⟨fun h _ => h, fun h => h some_name⟩

theorem selects_host : Filter.Selects like r.hostFilter (r.AsksHost like) := by
  unfold hostFilter AsksHost
  rcases hosts : r.hostList with _ | ⟨h, hs⟩
  · exact Filter.Selects.nil.congr fun row => ⟨fun _ h => absurd rfl h, fun _ => trivial⟩
  · have asked : ∀ {p : Row → Prop}, (∀ row, p row ↔ (h :: hs ≠ [] → p row)) := fun row =>
      ⟨fun h _ => h, fun h => h (List.cons_ne_nil _ _)⟩
    refine Filter.Selects.congr ?_ asked
    by_cases pattern : Token.anyPattern (h :: hs)
    · simp only [pattern, if_true]
      refine .one (Factor.proper_group (by simp) (by simp [Test.likes, Test.Proper])) fun row => ?_
      refine ⟨((h :: hs).any fun h => like row.host h) != r.negateHosts, ?_, negated_iff.trans ?_⟩
      · rw [Factor.verdict_group, List.map_map, ← Junction.combineAll_negated]
        congr 1
        exact List.map_congr_left fun p _ => Test.verdict_likes like row _ _ rfl
      · rw [List.any_eq_true]
    · simp only [pattern, Bool.false_eq_true, if_false]
      -- A single host is compared with, several make a list.
      cases hs with
      | nil =>
        refine .one trivial fun row => ?_
        have equals := Test.verdict_equals like row (c := .host)
          (v := .text h) r.negateHosts rfl
        refine ⟨_, equals, negated_iff.trans ?_⟩
        simp [Row.value]
      | cons h' hs =>
        refine .one (List.cons_ne_nil _ _) fun row => ?_
        have member := Test.verdict_member like row (c := .host)
          r.negateHosts Value.text (h :: h' :: hs) fun _ => rfl
        refine ⟨_, member, negated_iff.trans (iff_congr ?_ Iff.rfl)⟩
        simp only [List.any_eq_true, decide_eq_true_eq, Row.value, Value.text.injEq]

/-- One token tested against a text column. -/
theorem selects_token {c : Column} {value : Row → String} (token : String)
    (text : ∀ row, Row.value row c = .text (value row)) :
    Filter.Selects like [.one (tokenTest c token)] fun row => Token.Fits like token (value row) := by
  unfold tokenTest Token.Fits
  by_cases pattern : Token.isPattern token
  · simp only [pattern, if_true]
    refine .one trivial fun row => ⟨_, Test.verdict_likes like row false token (text row), ?_⟩
    simp
  · simp only [pattern, Bool.false_eq_true, if_false]
    refine .one trivial fun row => ?_
    have equals := Test.verdict_equals like row (v := .text token) false
      (by rw [text row]; rfl)
    refine ⟨_, equals, ?_⟩
    simp [text row]

theorem selects_app : Filter.Selects like r.appFilter (r.AsksApp like) := by
  unfold appFilter AsksApp
  cases r.app with
  | none => exact Filter.Selects.nil.congr fun row => by simp
  | some app => exact (selects_token app fun _ => rfl).congr fun row => by simp

theorem selects_instance : Filter.Selects like r.instanceFilter (r.AsksInstance like) := by
  unfold instanceFilter AsksInstance
  cases r.instanceId with
  | none => exact Filter.Selects.nil.congr fun row => by simp
  | some i =>
    by_cases bare : i = Token.wildcard.toString
    · -- The bare wildcard writes nothing, and nothing is asked of it.
      simp only [bare, if_true]
      exact Filter.Selects.nil.congr fun row => by simp
    · simp only [bare, if_false]
      refine (selects_token i fun _ => rfl).congr fun row => ⟨?_, fun h => h i rfl bare⟩
      intro fits j same _
      rw [Option.some.inj same] at fits
      exact fits

theorem selects_window : Filter.Selects like r.windowFilter r.AsksTime := by
  refine .append ?_ ?_
  · cases r.start with
    | none => exact Filter.Selects.nil.congr fun row => by simp
    | some t => exact .one trivial fun row => ⟨_, rfl, by simp⟩
  · cases r.finish with
    | none => exact Filter.Selects.nil.congr fun row => by simp
    | some t => exact .one trivial fun row => ⟨_, rfl, by simp⟩

/-! ## The views -/

theorem selects_attributes : Filter.Selects like r.attributeFilter (r.AsksAttributes like) :=
  ((r.selects_name.append r.selects_host).append r.selects_app).append r.selects_instance

theorem selects_series : Filter.Selects like r.seriesFilter (r.AsksSeries like) := by
  refine .append ?_ r.selects_window
  by_cases some_id : r.identities = []
  · simp only [some_id, List.isEmpty_nil, if_true]
    exact r.selects_attributes
  · simp only [List.isEmpty_iff, some_id, if_false]
    exact r.selects_identity some_id

theorem selects_metadata (target : MetadataTarget) :
    Filter.Selects like (r.metadataFilter target) fun row => r.AsksMetadata like row target := by
  cases target with
  | metric => exact (r.selects_name.append r.selects_app).append r.selects_instance
  | host => exact r.selects_host

theorem selects_lookup (identity : Bytes) :
    Filter.Selects like (r.lookupFilter identity) fun row => r.AsksLookup row identity := by
  refine Filter.Selects.append (f := [.one (.equals false .identity (.bytes identity))]) ?_
    r.selects_window
  refine .one trivial fun row => ?_
  have equals := Test.verdict_equals like row (c := .identity)
    (v := .bytes identity) false rfl
  refine ⟨_, equals, ?_⟩
  simp [Row.value]

/-- **What the clauses say.**  The clause of every view but a ranking is silent or one condition and
    one only, and lets pass exactly the rows that the request asks for, whatever LIKE is taken to
    be. -/
theorem clause_decides (like : String → String → Bool) (r : Request) :
    (r.clause .series).Decides like (r.AsksSeries like)
      ∧ (r.clause .transient).Decides like (r.AsksTransient like)
      ∧ (∀ target, (r.clause (.metadata target)).Decides like
          fun row => r.AsksMetadata like row target)
      ∧ ∀ identity, (r.clause (.lookup identity)).Decides like
          fun row => r.AsksLookup row identity :=
  ⟨r.selects_series.clause, (r.selects_attributes.append r.selects_window).clause,
    fun target => (r.selects_metadata target).clause,
    fun identity => (r.selects_lookup identity).clause⟩

end Request

end Rollup
