/-
  Which environments are settings, and of what.

  An environment is accepted if it is readable and gives no figure below one where a figure must
  be positive.  The settings then have the figures that are given, and the standard ones where none
  is; except that the default limit follows the result limit and is one at least, and that a fetch
  size is only kept if it is positive.  Otherwise the first problem is reported: of the entries in
  their order, and if all of them can be read, of the figures in the order of `examined`.

  The crux is to look at settings as one figure for each quantity (`figure?`), which they are but
  for the join: what is given and what is settled then are told apart quantity by quantity.
-/
import Rollup.Proofs.Environment

namespace Rollup

open Text.Numeral (Denotes)

namespace Settings

/-! ## Settings by their figures -/

/-- The figure of a quantity; only a fetch size may be missing. -/
def figure? (s : Settings) : Quantity → Option Int
  | .resultLimit => some s.resultLimit
  | .defaultLimit => some s.defaultLimit
  | .fetchSize => s.defaultFetchSize
  | .hostSecondInterval => some s.hostIntervals.second
  | .clusterSecondInterval => some s.clusterIntervals.second
  | .hostMinuteInterval => some s.hostIntervals.minute
  | .clusterMinuteInterval => some s.clusterIntervals.minute
  | .hostSecondRetention => some s.hostRetention.seconds
  | .hostMinuteRetention => some s.hostRetention.minutes
  | .hostHourRetention => some s.hostRetention.hours
  | .hostDayRetention => some s.hostRetention.days
  | .clusterSecondRetention => some s.clusterRetention.seconds
  | .clusterMinuteRetention => some s.clusterRetention.minutes
  | .clusterHourRetention => some s.clusterRetention.hours
  | .clusterDayRetention => some s.clusterRetention.days

/-- The settings with given figures. -/
def ofFigures (figure? : Quantity → Option Int) (sortMergeJoin : Bool) : Settings :=
  let figure q := (figure? q).getD 0
  { resultLimit := figure .resultLimit
    defaultLimit := figure .defaultLimit
    defaultFetchSize := figure? .fetchSize
    sortMergeJoin
    hostIntervals :=
      { second := figure .hostSecondInterval, minute := figure .hostMinuteInterval }
    clusterIntervals :=
      { second := figure .clusterSecondInterval, minute := figure .clusterMinuteInterval }
    hostRetention :=
      { seconds := figure .hostSecondRetention, minutes := figure .hostMinuteRetention
        hours := figure .hostHourRetention, days := figure .hostDayRetention }
    clusterRetention :=
      { seconds := figure .clusterSecondRetention, minutes := figure .clusterMinuteRetention
        hours := figure .clusterHourRetention, days := figure .clusterDayRetention } }

/-- Settings are their figures and whether to join. -/
theorem eq_ofFigures (s : Settings) : s = ofFigures s.figure? s.sortMergeJoin := rfl

/-! ## What an environment settles -/

/-- What an environment gives for a quantity: nothing, or an integer. -/
inductive Gives (e : Environment) (q : Quantity) : Option Int → Prop
  | nothing (none_given : e.given (.quantity q) = []) : Gives e q none
  | integer {value : String} {n : Int} (given : value ∈ e.given (.quantity q))
    (denotes : Denotes value.toList n) : Gives e q (some n)

/-- The figure that a quantity has then. -/
def settled (resultLimit : Int) (given : Option Int) : Quantity → Option Int
  | .defaultLimit => some (max 1 (given.getD resultLimit))
  | .fetchSize => given.filter fun n => 0 < n
  | q => given.or (standard.figure? q)

/-- The settings are those that the environment asks for. -/
structure Sets (e : Environment) (s : Settings) : Prop where
  figures : ∀ q, ∃ given, Gives e q given ∧ s.figure? q = settled s.resultLimit given q
  join : (e.given .sortMergeJoin = [] ∧ s.sortMergeJoin = standard.sortMergeJoin)
    ∨ toString s.sortMergeJoin ∈ e.given .sortMergeJoin

/-- The quantities that must be positive, in the order in which they are examined. -/
def examined : List Quantity :=
  [.resultLimit, .hostSecondInterval, .clusterSecondInterval, .hostMinuteInterval,
    .clusterMinuteInterval]

/-- No integer below one is given for a quantity. -/
def Positive (e : Environment) (q : Quantity) : Prop :=
  ∀ value ∈ e.given (.quantity q), ∀ n, Denotes value.toList n → 1 ≤ n

/-- The environments that are accepted. -/
structure Valid (e : Environment) : Prop where
  readable : Readable e
  positive : ∀ q ∈ examined, Positive e q

/-- The first problem of any other environment. -/
inductive Rejects (e : Environment) : Problem → Prop
  | reading {p : Problem} (spoiled : Spoils e p) : Rejects e p
  | figure {before after : List Quantity} {q : Quantity} (readable : Readable e)
    (order : examined = before ++ q :: after) (earlier : ∀ q' ∈ before, Positive e q')
    (here : ¬ Positive e q) : Rejects e (.notPositive q)

/-- Settings that can be worked with. -/
structure Sound (s : Settings) : Prop where
  resultLimit : 1 ≤ s.resultLimit
  defaultLimit : 1 ≤ s.defaultLimit
  second : ∀ scope, 1 ≤ (s.intervals scope).second
  minute : ∀ scope, 1 ≤ (s.intervals scope).minute
  fetchSize : ∀ n, s.defaultFetchSize = some n → 1 ≤ n

/-! ## What is given is one thing -/

section Unique

variable {e : Environment} {q : Quantity}

theorem Readable.eq_of_given (readable : Readable e) {v : Variable} {value value' : String}
    (given : value ∈ e.given v) (given' : value' ∈ e.given v) : value = value' := by
  have once := readable.once v
  match e.given v, once, given, given' with
  | [only], _, given, given' =>
    exact (List.mem_singleton.mp given).trans (List.mem_singleton.mp given').symm

/-- A readable environment gives one thing for a quantity. -/
theorem Readable.gives_unique (readable : Readable e) {given given' : Option Int}
    (gives : Gives e q given) (gives' : Gives e q given') : given = given' := by
  cases gives with
  | nothing none_given =>
    cases gives' with
    | nothing _ => rfl
    | integer mem _ =>
      rw [none_given] at mem
      exact absurd mem List.not_mem_nil
  | integer mem denotes =>
    cases gives' with
    | nothing none_given =>
      rw [none_given] at mem
      exact absurd mem List.not_mem_nil
    | integer mem' denotes' =>
      rw [← readable.eq_of_given mem mem'] at denotes'
      rw [denotes.value, denotes'.value]

/-- A quantity that is given nothing is not given anything below one, and one that is given an
    integer is given nothing below one just if that is not. -/
theorem Readable.positive_iff (readable : Readable e) {given : Option Int}
    (gives : Gives e q given) : Positive e q ↔ ∀ n, given = some n → 1 ≤ n := by
  constructor
  · rintro positive n rfl
    cases gives with
    | integer mem denotes => exact positive _ mem n denotes
  · intro above value mem n denotes
    exact above n (readable.gives_unique gives (.integer mem denotes))

theorem toString_bool_injective {b b' : Bool} (same : toString b = toString b') : b = b' := by
  cases b <;> cases b' <;> simp_all [toString]

/-- An environment asks for one settings only. -/
theorem Sets.unique {s s' : Settings} (readable : Readable e) (sets : Sets e s)
    (sets' : Sets e s') : s = s' := by
  have settled_alike (same : s.resultLimit = s'.resultLimit) (q : Quantity) :
      s.figure? q = s'.figure? q := by
    obtain ⟨given, gives, figure⟩ := sets.figures q
    obtain ⟨given', gives', figure'⟩ := sets'.figures q
    rw [figure, figure', readable.gives_unique gives gives', same]
  have resultLimit : s.resultLimit = s'.resultLimit := by
    obtain ⟨given, gives, figure⟩ := sets.figures .resultLimit
    obtain ⟨given', gives', figure'⟩ := sets'.figures .resultLimit
    obtain rfl := readable.gives_unique gives gives'
    exact Option.some.inj (figure.trans figure'.symm)
  have join : s.sortMergeJoin = s'.sortMergeJoin := by
    obtain ⟨none_given, standard⟩ | given := sets.join
    · obtain ⟨-, standard'⟩ | given' := sets'.join
      · exact standard.trans standard'.symm
      · rw [none_given] at given'
        exact absurd given' List.not_mem_nil
    · obtain ⟨none_given, -⟩ | given' := sets'.join
      · rw [none_given] at given
        exact absurd given List.not_mem_nil
      · exact toString_bool_injective (readable.eq_of_given given given')
  rw [s.eq_ofFigures, s'.eq_ofFigures, join]
  exact congrArg (ofFigures · _) (funext (settled_alike resultLimit))

end Unique

/-! ## What is read is settled -/

/-- The integer of a reading. -/
def Reading.integer? : Reading → Option Int
  | integer _ n => some n
  | sortMergeJoin _ => none

/-- The truth value of a reading. -/
def Reading.truth? : Reading → Option Bool
  | integer _ _ => none
  | sortMergeJoin on => some on

theorem integer?_eq (readings : List Reading) (q : Quantity) :
    integer? readings q = (recorded readings (.quantity q)).bind Reading.integer? := by
  unfold integer? recorded
  induction readings with
  | nil => rfl
  | cons r readings ih =>
    rw [List.findSome?_cons, List.find?_cons, ih]
    cases r with
    | sortMergeJoin on => rfl
    | integer q' n =>
      by_cases same : q' = q
      · simp [same, Reading.subject, Reading.integer?]
      · have other : ((Reading.integer q' n).subject == .quantity q) = false :=
          beq_false_of_ne fun one => same (Variable.quantity.inj one)
        simp only [other, if_neg same]

theorem join?_eq (readings : List Reading) :
    join? readings = (recorded readings .sortMergeJoin).bind Reading.truth? := by
  unfold join? recorded
  induction readings with
  | nil => rfl
  | cons r readings ih =>
    rw [List.findSome?_cons, List.find?_cons, ih]
    cases r <;> rfl

/-- The figures of readings are settled by the integers that were read. -/
theorem figure?_ofReadings (readings : List Reading) (q : Quantity) :
    (ofReadings readings).figure? q
      = settled (ofReadings readings).resultLimit (integer? readings q) q := by
  cases q with
  | defaultLimit | fetchSize => rfl
  | _ => exact (Option.or_some ..).symm

section Records

variable {e : Environment} {readings : List Reading}

/-- The integers of a record are those that are given. -/
theorem Records.gives (records : Records readings e) (q : Quantity) :
    Gives e q (integer? readings q) := by
  rw [integer?_eq]
  obtain ⟨none_given, record⟩ | ⟨value, r, given, was_read, record⟩ := records (.quantity q)
  · rw [record]
    exact .nothing none_given
  · rw [record]
    cases Variable.read_eq_ok.mp was_read with
    | integer denotes _ => exact .integer (given ▸ List.mem_singleton_self value) denotes

/-- The settings of a record are those that the environment asks for. -/
theorem Records.sets (records : Records readings e) : Sets e (ofReadings readings) := by
  refine ⟨fun q => ⟨integer? readings q, records.gives q, figure?_ofReadings readings q⟩, ?_⟩
  · show (_ ∧ (join? readings).getD standard.sortMergeJoin = _)
      ∨ toString ((join? readings).getD standard.sortMergeJoin) ∈ _
    rw [join?_eq]
    obtain ⟨none_given, record⟩ | ⟨value, r, given, was_read, record⟩ := records .sortMergeJoin
    · rw [record]
      exact .inl ⟨none_given, rfl⟩
    · rw [record, given]
      cases Variable.read_eq_ok.mp was_read with
      | truth on word => exact .inr (List.mem_singleton.mpr word.symm)

end Records

/-! ## The examination -/

/-- A quantity whose figure is below one. -/
def isWanting (s : Settings) (q : Quantity) : Bool := (s.figure? q).any fun n => n < 1

/-- The examination ends with the first quantity that is wanting. -/
theorem checked_eq (s : Settings) :
    s.checked
      = match examined.find? s.isWanting with
        | some q => .error (.notPositive q)
        | none => .ok s := by
  have figures : s.mustBePositive = examined.map fun q => (q, (s.figure? q).getD 0) := rfl
  have wanting : examined.find? (fun q => decide ((s.figure? q).getD 0 < 1))
      = examined.find? s.isWanting := rfl
  unfold checked
  rw [figures, List.find?_map, Function.comp_def, wanting]
  cases examined.find? s.isWanting <;> rfl

/-- Readings that pass the examination make settings that can be worked with. -/
theorem sound_of_passed {readings : List Reading}
    (passed : ∀ q ∈ examined, ¬ (ofReadings readings).isWanting q = true) :
    (ofReadings readings).Sound := by
  generalize limit : ofReadings readings = s at passed
  have positive {q : Quantity} {n : Int} (mem : q ∈ examined) (figure : s.figure? q = some n) :
      1 ≤ n := by
    have enough := passed q mem
    rw [isWanting, figure] at enough
    simpa using enough
  refine ⟨?_, ?_, fun scope => ?_, fun scope => ?_, fun n kept => ?_⟩
  · exact positive (q := .resultLimit) (by decide) rfl
  · rw [← limit]
    exact Int.le_max_left 1 _
  · cases scope with
    | perHost => exact positive (q := .hostSecondInterval) (by decide) rfl
    | cluster => exact positive (q := .clusterSecondInterval) (by decide) rfl
  · cases scope with
    | perHost => exact positive (q := .hostMinuteInterval) (by decide) rfl
    | cluster => exact positive (q := .clusterMinuteInterval) (by decide) rfl
  · rw [← limit] at kept
    exact of_decide_eq_true (Option.filter_eq_some_iff.mp kept).2

/-- A quantity that is examined has the figure that is given, or else one that is positive. -/
theorem settled_examined {q : Quantity} (mem : q ∈ examined) :
    ∃ otherwise, 1 ≤ otherwise
      ∧ ∀ resultLimit given, settled resultLimit given q = some (given.getD otherwise) := by
  simp only [examined, List.mem_cons, List.not_mem_nil, or_false] at mem
  obtain rfl | rfl | rfl | rfl | rfl := mem
  all_goals
    refine ⟨_, ?_, fun _ _ => Option.or_some ..⟩
    decide

section Accepted

variable {e : Environment} {readings : List Reading}

/-- A figure is wanting just if it is given so. -/
theorem Records.isWanting_iff (records : Records readings e) {q : Quantity} (mem : q ∈ examined) :
    (ofReadings readings).isWanting q = true ↔ ¬ Positive e q := by
  obtain ⟨otherwise, positive, settles⟩ := settled_examined mem
  rw [records.readable.positive_iff (records.gives q), isWanting, figure?_ofReadings, settles]
  cases integer? readings q with
  | none => simpa using positive
  | some n => simp

theorem Records.valid_iff (records : Records readings e) :
    Valid e ↔ ∀ q ∈ examined, ¬ (ofReadings readings).isWanting q = true := by
  constructor
  · intro valid q mem wanting
    exact (records.isWanting_iff mem).mp wanting (valid.positive q mem)
  · intro passed
    refine ⟨records.readable, fun q mem => ?_⟩
    exact Classical.not_not.mp (mt (records.isWanting_iff mem).mpr (passed q mem))

/-- The first figure that is wanting is the first that is given below one. -/
theorem Records.first_wanting_iff (records : Records readings e) {q : Quantity} :
    examined.find? (ofReadings readings).isWanting = some q
      ↔ ∃ before after, examined = before ++ q :: after ∧ (∀ q' ∈ before, Positive e q')
        ∧ ¬ Positive e q := by
  rw [List.find?_eq_some_iff_append]
  constructor
  · rintro ⟨wanting, before, after, order, enough⟩
    refine ⟨before, after, order, fun q' earlier => ?_, ?_⟩
    · have mem : q' ∈ examined := order ▸ List.mem_append_left _ earlier
      have passed := enough q' earlier
      rw [Bool.not_eq_true', ← Bool.not_eq_true, records.isWanting_iff mem] at passed
      exact Classical.not_not.mp passed
    · have mem : q ∈ examined := order ▸ List.mem_append_right _ List.mem_cons_self
      exact (records.isWanting_iff mem).mp wanting
  · rintro ⟨before, after, order, earlier, here⟩
    have mem : q ∈ examined := order ▸ List.mem_append_right _ List.mem_cons_self
    refine ⟨(records.isWanting_iff mem).mpr here, before, after, order, fun q' first => ?_⟩
    have mem : q' ∈ examined := order ▸ List.mem_append_left _ first
    rw [Bool.not_eq_true', ← Bool.not_eq_true, records.isWanting_iff mem]
    exact Classical.not_not.mpr (earlier q' first)

/-- What was read is examined. -/
theorem ofEnvironment_of_read (all_read : readOnto [] e = .ok readings) :
    ofEnvironment e = (ofReadings readings).checked := by
  unfold ofEnvironment
  rw [all_read]
  rfl

theorem ofEnvironment_of_spoiled {p : Problem} (spoiled : Spoils e p) :
    ofEnvironment e = .error p := by
  unfold ofEnvironment
  rw [readOnto_eq_error.mpr spoiled]
  rfl

/-- **An accepted environment** is valid, and the settings are those that it asks for. -/
theorem ofEnvironment_eq_ok {s : Settings} : ofEnvironment e = .ok s ↔ Valid e ∧ Sets e s := by
  constructor
  · intro accepted
    cases all_read : readOnto [] e with
    | error p =>
      have rejected := ofEnvironment_of_spoiled (readOnto_eq_error.mp all_read)
      exact nomatch accepted.symm.trans rejected
    | ok readings =>
      have records := records_of_readOnto all_read
      rw [ofEnvironment_of_read all_read, checked_eq] at accepted
      cases found : examined.find? (ofReadings readings).isWanting with
      | some q =>
        rw [found] at accepted
        exact nomatch accepted
      | none =>
        rw [found] at accepted
        obtain rfl := Except.ok.inj accepted
        exact ⟨records.valid_iff.mpr (List.find?_eq_none.mp found), records.sets⟩
  · rintro ⟨valid, sets⟩
    obtain ⟨readings, all_read, records⟩ := readOnto_of_readable valid.readable
    have passed := List.find?_eq_none.mpr (records.valid_iff.mp valid)
    rw [ofEnvironment_of_read all_read, checked_eq, passed]
    exact congrArg Except.ok (records.sets.unique valid.readable sets)

/-- Every valid environment is accepted. -/
theorem ofEnvironment_of_valid (valid : Valid e) : ∃ s, ofEnvironment e = .ok s := by
  obtain ⟨readings, -, records⟩ := readOnto_of_readable valid.readable
  exact ⟨_, ofEnvironment_eq_ok.mpr ⟨valid, records.sets⟩⟩

/-- Accepted settings can be worked with. -/
theorem sound_of_accepted {s : Settings} (accepted : ofEnvironment e = .ok s) : s.Sound := by
  obtain ⟨valid, sets⟩ := ofEnvironment_eq_ok.mp accepted
  obtain ⟨readings, -, records⟩ := readOnto_of_readable valid.readable
  rw [sets.unique valid.readable records.sets]
  exact sound_of_passed (records.valid_iff.mp valid)

/-- **A rejected environment** has the problem that is reported for its first. -/
theorem ofEnvironment_eq_error {p : Problem} : ofEnvironment e = .error p ↔ Rejects e p := by
  constructor
  · intro rejected
    cases all_read : readOnto [] e with
    | error p' =>
      have spoiled := readOnto_eq_error.mp all_read
      obtain rfl := Except.error.inj (rejected.symm.trans (ofEnvironment_of_spoiled spoiled))
      exact .reading spoiled
    | ok readings =>
      have records := records_of_readOnto all_read
      rw [ofEnvironment_of_read all_read, checked_eq] at rejected
      cases found : examined.find? (ofReadings readings).isWanting with
      | none =>
        rw [found] at rejected
        exact nomatch rejected
      | some q =>
        rw [found] at rejected
        obtain rfl := Except.error.inj rejected
        obtain ⟨before, after, order, earlier, here⟩ := records.first_wanting_iff.mp found
        exact .figure records.readable order earlier here
  · intro rejects
    cases rejects with
    | reading spoiled => exact ofEnvironment_of_spoiled spoiled
    | figure readable order earlier here =>
      obtain ⟨readings, all_read, records⟩ := readOnto_of_readable readable
      have found := records.first_wanting_iff.mpr ⟨_, _, order, earlier, here⟩
      rw [ofEnvironment_of_read all_read, checked_eq, found]

end Accepted

/-! ## The order of an environment -/

/-- The same entries in another order, with names in other letter cases. -/
def Reorders (e e' : Environment) : Prop :=
  (e.map fun (name, value) => (Text.lowercase name, value)).Perm
    (e'.map fun (name, value) => (Text.lowercase name, value))

/-- To each variable it gives the same values, in some order. -/
theorem Reorders.given {e e' : Environment} (reorders : Reorders e e') (v : Variable) :
    (e.given v).Perm (e'.given v) := by
  have lowered (e : Environment) : e.given v
      = (e.map fun (name, value) => (Text.lowercase name, value)).filterMap
        fun (name, value) => if name = v.key then some value else none := by
    rw [List.filterMap_map]
    rfl
  rw [lowered e, lowered e']
  exact reorders.filterMap _

section Alike

variable {e e' : Environment}

theorem Valid.of_given (alike : ∀ v, e'.given v = e.given v) (valid : Valid e) : Valid e' := by
  refine ⟨⟨fun v => ?_, fun v => ?_⟩, fun q mem => ?_⟩
  · rw [alike]
    exact valid.readable.once v
  · rw [alike]
    exact valid.readable.admitted v
  · unfold Positive
    rw [alike]
    exact valid.positive q mem

theorem Sets.of_given {s : Settings} (alike : ∀ v, e'.given v = e.given v) (sets : Sets e s) :
    Sets e' s := by
  refine ⟨fun q => ?_, ?_⟩
  · obtain ⟨given, gives, figure⟩ := sets.figures q
    refine ⟨given, ?_, figure⟩
    cases gives with
    | nothing none_given => exact .nothing ((alike _).trans none_given)
    | integer mem denotes =>
      rw [← alike] at mem
      exact .integer mem denotes
  · rw [alike]
    exact sets.join

/-- **Order and letter case** change nothing for an accepted environment. -/
theorem Reorders.accepted {s : Settings} (reorders : Reorders e e')
    (accepted : ofEnvironment e = .ok s) : ofEnvironment e' = .ok s := by
  obtain ⟨valid, sets⟩ := ofEnvironment_eq_ok.mp accepted
  have alike : ∀ v, e'.given v = e.given v := by
    intro v
    have once := valid.readable.once v
    have perm := reorders.given v
    match e.given v, once, perm with
    | [], _, perm => exact perm.nil_eq.symm
    | [value], _, perm => exact List.perm_singleton.mp perm.symm
  exact ofEnvironment_eq_ok.mpr ⟨valid.of_given alike, sets.of_given alike⟩

end Alike

/-! ## Settings from the environment -/

/-- **Which environments are accepted, and what for.**  An environment is accepted just if it is
    valid, and then for the settings that it asks for.  These can be worked with, and are the same
    in any order of the entries and with names in any letter case.  Any other environment is
    rejected for the first thing wrong with it. -/
theorem ofEnvironment_settles (e : Environment) :
    ((∃ s, ofEnvironment e = .ok s) ↔ Valid e)
      ∧ (∀ s, ofEnvironment e = .ok s ↔ Valid e ∧ Sets e s)
      ∧ (∀ s, ofEnvironment e = .ok s →
        s.Sound ∧ ∀ e', Reorders e e' → ofEnvironment e' = .ok s)
      ∧ ∀ p, ofEnvironment e = .error p ↔ Rejects e p := by
  refine ⟨⟨?_, ofEnvironment_of_valid⟩, fun s => ofEnvironment_eq_ok, fun s accepted => ?_,
    fun p => ofEnvironment_eq_error⟩
  · rintro ⟨s, accepted⟩
    exact (ofEnvironment_eq_ok.mp accepted).1
  · exact ⟨sound_of_accepted accepted, fun e' reorders => reorders.accepted accepted⟩

/-- A result limit with a sign and leading zeros, a fetch size below one, and a foreign variable. -/
def signed : Environment :=
  [("metrics_Result_Limit", "+0100"), ("PATH", "x"), ("METRICS_FETCH_SIZE", "-5")]

/-- The default limit follows the result limit and the fetch size is dropped, also if the entries
    come in another order.  A limit met for the second time is reported, although its value is
    none either. -/
theorem ofEnvironment_settles_signed :
    Valid signed
      ∧ ofEnvironment
          [("METRICS_FETCH_SIZE", "-5"), ("Path", "x"), ("METRICS_RESULT_LIMIT", "+0100")]
        = .ok { standard with resultLimit := 100, defaultLimit := 100 }
      ∧ Sound { standard with resultLimit := 100, defaultLimit := 100 }
      ∧ Rejects [("METRICS_RESULT_LIMIT", "1"), ("metrics_result_limit", "x")]
        (.duplicate (.quantity .resultLimit)) := by
  obtain ⟨accepted, -, same, -⟩ := ofEnvironment_settles signed
  obtain ⟨-, -, -, rejected⟩ := ofEnvironment_settles
    [("METRICS_RESULT_LIMIT", "1"), ("metrics_result_limit", "x")]
  have settings : ofEnvironment signed
      = .ok { standard with resultLimit := 100, defaultLimit := 100 } := by rfl
  obtain ⟨sound, reordered⟩ := same _ settings
  refine ⟨accepted.mp ⟨_, settings⟩, reordered _ ?_, sound, (rejected _).mp rfl⟩
  unfold Reorders
  decide +kernel

end Settings

end Rollup
