/-
  Reading back what was serialized.

  A value is sent as its kind and its payload, a plan as a record of what it holds.  Here both are
  read again, field by field and by the names of the fields.  Nothing is lost: what is read is what
  was sent, and so two plans have the same text only if they hold the same.

  The crux is that each field has a reader of its own.  A payload is read as its kind says, so that
  bytes cannot be mistaken for the text that they are written as; and a field that was left out is
  told from one with any value.
-/
import Rollup.Spelling
import Rollup.Proofs.Base64
import Rollup.Proofs.Json
import Rollup.Proofs.Replanning

namespace Rollup

/-! ## Parts of documents -/

namespace Document

/-- The value of a field. -/
def at? (d : Document) (key : String) : Option Document :=
  match d with
  | record fields => fields.lookup key
  | _ => none

def text? : Document → Option String
  | text value => some value
  | _ => none

def integer? : Document → Option Int
  | number digits 0 => some digits
  | _ => none

def items? : Document → Option (List Document)
  | list items => some items
  | _ => none

/-- Reads a field that may have been left out. -/
def optional? {α : Type} (read : Document → Option α) : Option Document → Option (Option α)
  | none => some none
  | some d => (read d).map some

end Document

/-! ## Values -/

namespace Value

/-- The name by which a kind is sent. -/
def Kind.tag : Kind → String
  | bytes => "bytes"
  | text => "text"
  | integer => "big_int"

/-- All kinds. -/
def Kind.all : List Kind := [.bytes, .text, .integer]

/-- The kind of a name. -/
def Kind.ofTag? (tag : String) : Option Kind := all.find? fun k => k.tag == tag

theorem Kind.ofTag?_tag (k : Kind) : ofTag? k.tag = some k := by
  cases k <;> decide +kernel

/-- Reads the payload of a kind. -/
def ofPayload? (payload : Document) : Kind → Option Value
  | .bytes => (payload.text?.bind Text.Base64.decode).map bytes
  | .text => payload.text?.map text
  | .integer => payload.integer?.map integer

/-- Reads a value. -/
def ofDocument? (d : Document) : Option Value := do
  let tag ← (← d.at? "t").text?
  let kind ← Kind.ofTag? tag
  ofPayload? (← d.at? "v") kind

/-- The payload of a value. -/
def payload : Value → Document
  | bytes value => .text (Text.Base64.encode value)
  | text value => .text value
  | integer value => .integer value

theorem at?_tag (v : Value) : v.document.at? "t" = some (.text v.kind.tag) := by
  cases v <;> rfl

theorem at?_payload (v : Value) : v.document.at? "v" = some v.payload := by
  cases v <;> rfl

theorem ofPayload?_payload (v : Value) : ofPayload? v.payload v.kind = some v := by
  cases v with
  | bytes value =>
    show (Text.Base64.decode (Text.Base64.encode value)).map bytes = _
    rw [Text.Base64.decode_encode]
    rfl
  | text value => rfl
  | integer value => rfl

/-- **A value is read back**, in whatever order its fields stand. -/
theorem ofDocument?_eq {v : Value} {d : Document} (fields : ∀ key, d.at? key = v.document.at? key) :
    ofDocument? d = some v := by
  unfold ofDocument?
  rw [fields "t", fields "v", at?_tag, at?_payload]
  show (Kind.ofTag? v.kind.tag).bind (ofPayload? v.payload) = _
  rw [Kind.ofTag?_tag]
  exact v.ofPayload?_payload

theorem document_injective {v w : Value} (same : v.document = w.document) : v = w := by
  have read : ofDocument? v.document = some w := ofDocument?_eq fun _ => by rw [same]
  exact Option.some.inj ((ofDocument?_eq fun _ => rfl).symm.trans read)

theorem mapM_ofDocument? (vs : List Value) : (vs.map document).mapM ofDocument? = some vs := by
  induction vs with
  | nil => rfl
  | cons v vs ih =>
    have head : ofDocument? v.document = some v := ofDocument?_eq fun _ => rfl
    rw [List.map_cons, List.mapM_cons, head, ih]
    rfl

end Value

/-! ## Plans -/

/-- The table of a name. -/
def Table.ofName? (name : String) : Option Table := all.find? fun t => t.name == name

theorem Table.ofName?_name (t : Table) : ofName? t.name = some t := by
  have each : ∀ t ∈ all, ofName? t.name = some t := by decide +kernel
  exact each t t.mem_all

namespace Plan

/-- Reads what a plan holds. -/
def Content.ofDocument? (d : Document) : Option Content := do
  let text ← (← d.at? "sql").text?
  let items ← (← d.at? "binds").items?
  let values ← items.mapM Value.ofDocument?
  let fetchSize ← Document.optional? Document.integer? (d.at? "fetch_size")
  let granularity ← Document.optional? Granularity.ofDocument? (d.at? "precision")
  let table ← (← (d.at? "table")).text?.bind Table.ofName?
  some { text, values, fetchSize, granularity, table }

section Fields

variable (p : Plan)

theorem at?_fetchSize : p.document.at? "fetch_size" = p.fetchSize.map .integer := by
  unfold document
  cases p.fetchSize <;> cases p.granularity <;> rfl

theorem at?_granularity : p.document.at? "precision" = p.granularity.map Granularity.document := by
  unfold document
  cases p.fetchSize <;> cases p.granularity <;> rfl

theorem at?_table : p.document.at? "table" = some (.text p.table.name) := by
  unfold document
  cases p.fetchSize <;> cases p.granularity <;> rfl

end Fields

variable {p q : Plan}

/-- **A plan is read back**, in whatever order its fields stand. -/
theorem ofDocument?_eq {d : Document} (fields : ∀ key, d.at? key = p.document.at? key) :
    Content.ofDocument? d = some p.content := by
  have text : p.document.at? "sql" = some (.text p.text) := rfl
  have values : p.document.at? "binds" = some (.list (p.values.map Value.document)) := rfl
  have fetchSize : Document.optional? Document.integer? (p.fetchSize.map .integer)
      = some p.fetchSize := by
    cases p.fetchSize <;> rfl
  have granularity :
      Document.optional? Granularity.ofDocument? (p.granularity.map Granularity.document)
        = some p.granularity := by
    cases p.granularity with
    | none => rfl
    | some g => exact congrArg (Option.map some) g.ofDocument?_document
  unfold Content.ofDocument?
  rw [fields "sql", fields "binds", fields "fetch_size", fields "precision", fields "table", text,
    values, p.at?_fetchSize, p.at?_granularity, p.at?_table, fetchSize, granularity]
  simp only [Option.bind_eq_bind, Option.bind_some, Document.text?, Document.items?,
    Value.mapM_ofDocument?, Table.ofName?_name]
  rfl

/-- Plans with the same document hold the same. -/
theorem content_of_document (same : p.document = q.document) : p.content = q.content := by
  have read : Content.ofDocument? p.document = some q.content := ofDocument?_eq fun _ => by rw [same]
  exact Option.some.inj ((ofDocument?_eq fun _ => rfl).symm.trans read)

/-- **Nothing is lost** of a plan that is sent.  Two plans have the same JSON text just if they agree
    in text, values, fetch size, granularity and table; and from the document of a plan these are
    read back, in whatever order its fields stand.  Two lists of values have the same text only if
    they are the same: the tag of a value tells its kind, bytes of any number are read back from
    their Base64, and whatever their payloads look like, values of different kinds differ. -/
theorem document_lossless :
    (∀ p q : Plan, p.document.json = q.document.json ↔
        p.text = q.text ∧ p.values = q.values ∧ p.fetchSize = q.fetchSize
          ∧ p.granularity = q.granularity ∧ p.table = q.table)
      ∧ (∀ (p : Plan) (d : Document), (∀ key, d.at? key = p.document.at? key) →
          Content.ofDocument? d = some p.content)
      ∧ (∀ vs ws : List Value,
          (Document.list (vs.map Value.document)).json = (Document.list (ws.map Value.document)).json
            ↔ vs = ws)
      ∧ (∀ (v : Value) (d : Document), (∀ key, d.at? key = v.document.at? key) →
          Value.ofDocument? d = some v)
      ∧ (∀ v w : Value, v.document.at? "t" = w.document.at? "t" ↔ v.kind = w.kind)
      ∧ (∀ (text : String) (bytes : Bytes),
          Text.Base64.decode text = some bytes ↔ Text.Base64.encode bytes = text)
      ∧ ∀ (bytes : Bytes) (text : String) (n : Int),
          (Value.bytes bytes).document.json ≠ (Value.text text).document.json
            ∧ (Value.bytes bytes).document.json ≠ (Value.integer n).document.json
            ∧ (Value.text text).document.json ≠ (Value.integer n).document.json := by
  have values_differ {v w : Value} (differ : v ≠ w) : v.document.json ≠ w.document.json :=
    fun same => differ (Value.document_injective (Document.json_injective same))
  refine ⟨fun p q => ⟨fun same => ?apart, fun same => ?alike⟩, fun p d => ofDocument?_eq,
    fun vs ws => ⟨fun same => ?list, fun same => by rw [same]⟩, fun v d => Value.ofDocument?_eq,
    fun v w => ⟨fun same => ?tag, fun same => ?kind⟩, fun _ _ => Text.Base64.decode_eq_some,
    fun bytes text n => ⟨values_differ nofun, values_differ nofun, values_differ nofun⟩⟩
  case apart =>
    have content := content_of_document (Document.json_injective same)
    exact ⟨congrArg Content.text content, congrArg Content.values content,
      congrArg Content.fetchSize content, congrArg Content.granularity content,
      congrArg Content.table content⟩
  case alike =>
    obtain ⟨text, values, fetchSize, granularity, table⟩ := same
    unfold document
    rw [text, values, fetchSize, granularity, table]
  case list =>
    have items := Document.list.inj (Document.json_injective same)
    exact List.map_injective_iff.mpr (fun _ _ => Value.document_injective) items
  case tag =>
    rw [v.at?_tag, w.at?_tag] at same
    have tags : v.kind.tag = w.kind.tag := Document.text.inj (Option.some.inj same)
    have read := Value.Kind.ofTag?_tag v.kind
    rw [tags, Value.Kind.ofTag?_tag] at read
    exact (Option.some.inj read).symm
  case kind => rw [v.at?_tag, w.at?_tag, same]

example :
    (Document.list ([.bytes [0xde, 0xad], .text "cpu_user", .integer 1000000].map Value.document)).json
      = "[\x7b\"t\":\"bytes\",\"v\":\"3q0=\"\x7d,\x7b\"t\":\"text\",\"v\":\"cpu_user\"\x7d,"
        ++ "\x7b\"t\":\"big_int\",\"v\":1000000\x7d]" := by
  decide +kernel

end Plan

end Rollup
