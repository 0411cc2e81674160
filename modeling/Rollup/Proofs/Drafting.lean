/-
  Requests told by what was said of them.

  A draft is written down setting by setting.  `Request.told` says what request comes of it without
  following the draft: on each field the last word, asking for every row if that was ever asked, and
  the columns to order by as they were first named.  Then the kind is chosen among what was said
  last: a count to rank by, else transient names if there are any, else nothing special.

  The crux is that `Request.told` looks at each field by itself (`Setting.said`), so that settings
  of different fields may change places, and building a request in between leaves no trace.
-/
import Rollup.Request.Draft

namespace Rollup

/-! ## What is said on a field -/

namespace Setting

/-- The fields of a draft, one for each way of setting something. -/
inductive Field
  | names
  | hosts
  | app
  | instanceId
  | start
  | finish
  | granularity
  | limit
  | unlimited
  | fetchSize
  | grouped
  | orderBy
  | identities
  | negateNames
  | negateHosts
  | negateIdentities
  | statement
  | count
  | ascending
  | statistic
  | transientNames
  deriving DecidableEq

/-- What can be said on a field. -/
abbrev Field.Value : Field → Type
  | names | hosts | transientNames => List String
  | app | instanceId | orderBy | statement => String
  | start | finish | limit | fetchSize => Int
  | granularity => Granularity
  | unlimited => Unit
  | grouped | negateNames | negateHosts | negateIdentities | ascending => Bool
  | identities => List Bytes
  | count => Nat
  | statistic => Statistic

/-- The field that a setting is on. -/
def field : Setting → Field
  | names _ => .names
  | hosts _ => .hosts
  | app _ => .app
  | instanceId _ => .instanceId
  | start _ => .start
  | finish _ => .finish
  | granularity _ => .granularity
  | limit _ => .limit
  | unlimited => .unlimited
  | fetchSize _ => .fetchSize
  | grouped _ => .grouped
  | orderBy _ => .orderBy
  | identities _ => .identities
  | negateNames _ => .negateNames
  | negateHosts _ => .negateHosts
  | negateIdentities _ => .negateIdentities
  | statement _ => .statement
  | count _ => .count
  | ascending _ => .ascending
  | statistic _ => .statistic
  | transientNames _ => .transientNames

/-- What it says there. -/
def value : (x : Setting) → x.field.Value
  | names v | hosts v | transientNames v => v
  | app v | instanceId v | orderBy v | statement v => v
  | start v | finish v | limit v | fetchSize v => v
  | granularity v => v
  | unlimited => ()
  | grouped v | negateNames v | negateHosts v | negateIdentities v | ascending v => v
  | identities v => v
  | count v => v
  | statistic v => v

/-- What a setting says on a field, if that is the one it is on. -/
def on? (f : Field) (x : Setting) : Option f.Value :=
  if same : x.field = f then some (same ▸ x.value) else none

/-- All that settings say on a field, from the first to the last. -/
def said (f : Field) (settings : List Setting) : List f.Value := settings.filterMap (on? f)

/-- The last word on a field. -/
def last (f : Field) (settings : List Setting) : Option f.Value := (said f settings).getLast?

end Setting

namespace Request

open Setting (said last)

/-- The kind of the request: what was last said decides. -/
def toldKind (settings : List Setting) : Kind :=
  match last .count settings with
  | some count =>
    .ranked
      { count, ascending := (last .ascending settings).getD false
        statistic := last .statistic settings }
  | none =>
    match (last .transientNames settings).getD [] with
    | [] => .plain
    | name :: names => .transient (name :: names)

/-- The hosts of the request: every host, if transient metrics are asked of none. -/
def toldHosts : Kind → Option (List String) → Option (List String)
  | .transient _, none | .transient _, some [] => some ["%"]
  | _, hosts => hosts

/-- The request that was told of in settings. -/
def told (settings : List Setting) : Request where
  kind := toldKind settings
  sharedNames := (last .names settings).getD []
  hosts := toldHosts (toldKind settings) (last .hosts settings)
  givenApp := last .app settings
  givenInstance := last .instanceId settings
  givenStart := last .start settings
  givenFinish := last .finish settings
  granularity := last .granularity settings
  givenLimit := last .limit settings
  unlimited := !(said .unlimited settings).isEmpty
  fetchSize := last .fetchSize settings
  grouped := (last .grouped settings).getD false
  orderBy := (said .orderBy settings).eraseDups
  identities := (last .identities settings).getD []
  negateNames := (last .negateNames settings).getD false
  negateHosts := (last .negateHosts settings).getD false
  negateIdentities := (last .negateIdentities settings).getD false
  statement := last .statement settings

end Request

/-! ## One more setting -/

namespace Setting

variable {f : Field} {x : Setting}

theorem on?_of_ne (other : x.field ≠ f) : x.on? f = none := dif_neg other

theorem said_append (f : Field) (xs ys : List Setting) :
    said f (xs ++ ys) = said f xs ++ said f ys :=
  List.filterMap_append

theorem said_singleton (f : Field) (x : Setting) : said f [x] = (x.on? f).toList := by
  unfold said
  rw [List.filterMap_cons, List.filterMap_nil]
  cases x.on? f <;> rfl

/-- What is said with one more setting. -/
theorem said_concat (f : Field) (settings : List Setting) (x : Setting) :
    said f (settings ++ [x]) = said f settings ++ (x.on? f).toList := by
  rw [said_append, said_singleton]

/-- A setting is the last word on its field. -/
theorem last_concat (f : Field) (settings : List Setting) (x : Setting) :
    last f (settings ++ [x]) = (x.on? f).or (last f settings) := by
  unfold last
  rw [said_concat, List.getLast?_append]
  cases x.on? f <;> rfl

/-- Settings of two fields may change places. -/
theorem said_swap {a b : Setting} (apart : a.field ≠ b.field) (f : Field) (xs ys : List Setting) :
    said f (xs ++ a :: b :: ys) = said f (xs ++ b :: a :: ys) := by
  have pair : ∀ x y : Setting, said f (xs ++ x :: y :: ys)
      = said f xs ++ ((x.on? f).toList ++ (y.on? f).toList) ++ said f ys := by
    intro x y
    rw [said_append, ← List.singleton_append, said_append, ← List.singleton_append (l := ys),
      said_append, said_singleton, said_singleton]
    simp only [List.append_assoc]
  rw [pair, pair]
  -- One of the two says nothing on the field.
  by_cases on_a : a.field = f
  · rw [on?_of_ne fun on_b => apart (on_a.trans on_b.symm)]
    simp
  · rw [on?_of_ne on_a]
    simp

end Setting

namespace Draft

open Setting (said last)

/-- Adding a column at the end, unless it is there, is keeping the first of each. -/
theorem insertLast_eraseDups (columns : List String) (c : String) :
    insertLast columns.eraseDups c = (columns ++ [c]).eraseDups := by
  have more : [c].removeAll columns = if c ∈ columns then [] else [c] := by
    by_cases known : c ∈ columns <;> simp [List.removeAll, known]
  unfold insertLast
  rw [List.eraseDups_append, more]
  by_cases known : c ∈ columns
  · simp [known]
  · simp [known, List.eraseDups_cons]

/-- The draft by what was said. -/
def told (settings : List Setting) : Draft where
  names := (last .names settings).getD []
  hosts := last .hosts settings
  app := last .app settings
  instanceId := last .instanceId settings
  start := last .start settings
  finish := last .finish settings
  granularity := last .granularity settings
  limit := last .limit settings
  unlimited := !(said .unlimited settings).isEmpty
  fetchSize := last .fetchSize settings
  grouped := (last .grouped settings).getD false
  orderBy := (said .orderBy settings).eraseDups
  identities := (last .identities settings).getD []
  negateNames := (last .negateNames settings).getD false
  negateHosts := (last .negateHosts settings).getD false
  negateIdentities := (last .negateIdentities settings).getD false
  statement := last .statement settings
  count := last .count settings
  ascending := (last .ascending settings).getD false
  statistic := last .statistic settings
  transientNames := (last .transientNames settings).getD []

/-- One more setting is one more word. -/
theorem set_told (settings : List Setting) (x : Setting) :
    (told settings).set x = told (settings ++ [x]) := by
  cases x <;>
    simp [told, set, Setting.last_concat, Setting.said_concat, Setting.on?, Setting.field,
      Setting.value, insertLast_eraseDups]

/-- What is said later is added to what was said before. -/
theorem setAll_told (xs ys : List Setting) : (told xs).setAll ys = told (xs ++ ys) := by
  induction ys generalizing xs with
  | nil => rw [List.append_nil]; rfl
  | cons y ys ih =>
    show ((told xs).set y).setAll ys = _
    rw [set_told, ih, List.append_assoc]
    rfl

/-- Saying the same again changes nothing. -/
theorem set_set (d : Draft) (x : Setting) : (d.set x).set x = d.set x := by
  cases x with
  | orderBy column =>
    have known : insertLast (insertLast d.orderBy column) column = insertLast d.orderBy column := by
      unfold insertLast
      by_cases known : column ∈ d.orderBy <;> simp [known]
    simp only [set, known]
  | _ => rfl

end Draft

namespace Request

open Setting (said last)

/-- **A request is told by what was said of it.** -/
theorem ofSettings_eq (settings : List Setting) : ofSettings settings = told settings := by
  have kind : (Draft.told settings).kind = toldKind settings := by
    simp only [Draft.kind, Draft.told, toldKind]
    cases last .count settings with
    | some count => rfl
    | none => cases (last .transientNames settings).getD [] <;> rfl
  have hosts (d : Draft) (kind : Kind) : d.hostsFor kind = toldHosts kind d.hosts := by
    unfold Draft.hostsFor toldHosts
    cases kind with
    | transient names => rcases d.hosts with _ | _ | _ <;> rfl
    | plain | ranked _ | metadata _ => rfl
  have draft : Draft.blank.setAll settings = Draft.told settings := Draft.setAll_told [] settings
  unfold ofSettings Draft.build
  rw [draft, kind, hosts]
  rfl

/-- It depends on nothing but what is said on each field. -/
theorem told_congr {xs ys : List Setting} (same : ∀ f, said f xs = said f ys) :
    told xs = told ys := by
  have last_same : ∀ f, last f xs = last f ys := fun f => congrArg List.getLast? (same f)
  unfold told toldKind
  simp only [same, last_same]

/-- Transient metrics are asked for by name, and only if nothing is to be ranked. -/
theorem toldKind_transient {settings : List Setting} {names : List String}
    (kind : toldKind settings = .transient names) :
    last .count settings = none ∧ last .transientNames settings = some names ∧ names ≠ [] := by
  unfold toldKind at kind
  cases count : last .count settings with
  | some count => simp [count] at kind
  | none =>
    rcases given : last .transientNames settings with _ | _ | ⟨name, rest⟩
    · simp [count, given] at kind
    · simp [count, given] at kind
    · obtain rfl : name :: rest = names := by simpa [count, given] using kind
      exact ⟨rfl, rfl, List.cons_ne_nil _ _⟩

/-- They are asked of some host, of every one if need be. -/
theorem toldHosts_transient {names : List String} (hosts : Option (List String)) :
    ((toldHosts (.transient names) hosts).getD []) ≠ []
      ∧ (hosts.getD [] = [] → toldHosts (.transient names) hosts = some ["%"]) := by
  rcases hosts with _ | _ | ⟨host, hosts⟩ <;> simp [toldHosts]

/-- A request for transient metrics has names and hosts. -/
theorem transient_told {settings : List Setting} {names : List String}
    (kind : (told settings).kind = .transient names) :
    names ≠ [] ∧ (told settings).hostList ≠ [] := by
  have kind : toldKind settings = .transient names := kind
  refine ⟨(toldKind_transient kind).2.2, ?_⟩
  show (toldHosts (toldKind settings) (last .hosts settings)).getD [] ≠ []
  rw [kind]
  exact (toldHosts_transient _).1

end Request

/-! ## Requests built on the way -/

namespace Draft

/-- What is done with a draft: one more setting, or building the request of a copy. -/
inductive Act
  | set (x : Setting)
  | build
  deriving DecidableEq

/-- The requests that are built along the way. -/
def run (d : Draft) : List Act → List Request
  | [] => []
  | .set x :: acts => run (d.set x) acts
  | .build :: acts => d.build :: run d acts

/-- The settings among some acts. -/
def Act.settings (acts : List Act) : List Setting :=
  acts.filterMap fun
    | .set x => some x
    | .build => none

theorem run_append (d : Draft) (xs ys : List Act) :
    d.run (xs ++ ys) = d.run xs ++ (d.setAll (Act.settings xs)).run ys := by
  induction xs generalizing d with
  | nil => rfl
  | cons act xs ih =>
    cases act with
    | set x => exact ih (d.set x)
    | build => exact congrArg (List.cons d.build) (ih d)

theorem length_run (d : Draft) (acts : List Act) : (d.run acts).length = acts.count .build := by
  induction acts generalizing d with
  | nil => rfl
  | cons act acts ih =>
    cases act with
    | set x => simp [run, ih]
    | build => simp [run, ih]

/-- **A copy is built of what was set before**, whatever was built before or is set after. -/
theorem run_build (xs ys : List Act) :
    (blank.run (xs ++ .build :: ys))[xs.count .build]?
      = some (Request.ofSettings (Act.settings xs)) := by
  rw [run_append, ← length_run blank xs, List.getElem?_append_right (Nat.le_refl _), Nat.sub_self]
  rfl

open Request (ofSettings) in
/-- **The last word on each field counts.**  After any of its settings a draft builds the request
    that they tell of, and whatever was built of copies before does not matter.  Settings of two
    fields may change places, and saying the same twice in a row is saying it once.  And a request
    for transient metrics, however it was drafted, has names and hosts. -/
theorem run_told :
    (∀ (settings : List Setting) (n : Nat),
        ofSettings (settings.take n) = Request.told (settings.take n))
      ∧ (∀ xs ys : List Act, (blank.run (xs ++ .build :: ys))[xs.count .build]?
        = some (Request.told (Act.settings xs)))
      ∧ (∀ (xs ys : List Setting) (a b : Setting), a.field ≠ b.field →
        ofSettings (xs ++ a :: b :: ys) = ofSettings (xs ++ b :: a :: ys))
      ∧ (∀ (xs ys : List Setting) (a : Setting),
        ofSettings (xs ++ a :: a :: ys) = ofSettings (xs ++ a :: ys))
      ∧ ∀ (settings : List Setting) (names : List String),
        (ofSettings settings).kind = .transient names →
          names ≠ [] ∧ (ofSettings settings).hostList ≠ [] := by
  refine ⟨fun settings n => Request.ofSettings_eq _, fun xs ys => ?built,
    fun xs ys a b apart => ?swap, fun xs ys a => ?twice, fun settings names kind => ?transient⟩
  case built =>
    rw [run_build, Request.ofSettings_eq]
  case swap =>
    rw [Request.ofSettings_eq, Request.ofSettings_eq]
    exact Request.told_congr fun f => Setting.said_swap apart f xs ys
  case twice =>
    unfold ofSettings setAll
    rw [List.foldl_append, List.foldl_append, List.foldl_cons, List.foldl_cons, List.foldl_cons,
      set_set]
  case transient =>
    rw [Request.ofSettings_eq] at kind ⊢
    exact Request.transient_told kind

/-- Names and hosts are given in either order, the hosts are taken back, and a column is named
    twice: transient metrics are asked of every host, whether or not a copy was built before. -/
theorem run_told_transient :
    Request.ofSettings
        [.hosts ["h1"], .transientNames ["t"], .orderBy "UUID", .orderBy "UUID", .hosts []]
      = Request.ofSettings [.transientNames ["t"], .hosts ["h1"], .orderBy "UUID", .hosts []]
      ∧ (blank.run [.set (.transientNames ["t"]), .build, .set (.hosts []), .build])[1]?
        = some { kind := .transient ["t"], hosts := some ["%"] }
      ∧ ["t"] ≠ []
      ∧ (Request.ofSettings [.transientNames ["t"], .hosts []]).hostList ≠ [] := by
  obtain ⟨-, built, swap, twice, transient⟩ := run_told
  have apart : (Setting.hosts ["h1"]).field ≠ (Setting.transientNames ["t"]).field := by decide
  refine ⟨?_, built [.set (.transientNames ["t"]), .build, .set (.hosts [])] [],
    transient [.transientNames ["t"], .hosts []] ["t"] (by decide)⟩
  exact (swap [] _ _ _ apart).trans
    (twice [.transientNames ["t"], .hosts ["h1"]] [.hosts []] (.orderBy "UUID"))

end Draft

end Rollup
