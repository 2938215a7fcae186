import RegressionDetection.Foundation.Dict
import RegressionDetection.Foundation.JsonLines

/-! Structured logging. Every record is written as one JSON object on a line of its own, whatever
text it carries, and the log determines the payloads of its records. -/

namespace RegressionDetection.Application

open Foundation Foundation.Json

/-- `logging.LogRecord` as the formatter reads it: `created` in ISO format, and the attributes of
the record in order, those that are no JSON values as their `str`. -/
structure LogRecord where
  created : String
  levelname : String
  name : String
  message : String
  attributes : List (String × Json) := []
  exception : Option String := none

/-- `_STANDARD_RECORD_KEYS`, the attributes of an empty record. -/
def standardRecordKeys : List String :=
  ["name", "msg", "args", "levelname", "levelno", "pathname", "filename", "module", "exc_info",
    "exc_text", "stack_info", "lineno", "funcName", "created", "msecs", "relativeCreated", "thread",
    "threadName", "processName", "process", "taskName"]

/-- `payload[key] = value`. -/
def assign (payload : List (String × Json)) (key : String) (value : Json) : List (String × Json) :=
  if key ∈ payload.map Prod.fst then
    payload.map fun item => if item.1 = key then (key, value) else item
  else payload ++ [(key, value)]

/-- One turn of the loop over the attributes of the record. -/
def extend (payload : List (String × Json)) (item : String × Json) : List (String × Json) :=
  if item.1 ∉ standardRecordKeys ∧ item.1 ∉ ["message", "asctime"] then assign payload item.1 item.2
  else payload

/-- The fields that every payload starts with. -/
def stableFields (record : LogRecord) : List (String × Json) :=
  [("timestamp", .str record.created), ("level", .str record.levelname),
    ("logger", .str record.name), ("message", .str record.message)]

/-- `payload[key] = value` unless the value is `None`. -/
def assignText (payload : List (String × Json)) (key : String) (value : Option String) :
    List (String × Json) :=
  value.elim payload fun text => assign payload key (.str text)

/-- The payload of a record while this request id is bound. -/
def payload (requestId : Option String) (record : LogRecord) : List (String × Json) :=
  let correlated := assignText (stableFields record) "request_id" requestId
  assignText (record.attributes.foldl extend correlated) "exception" record.exception

/-- A record and the request id that is bound when it is emitted. -/
structure LogEntry where
  requestId : Option String
  record : LogRecord

def LogEntry.payload (entry : LogEntry) : Json :=
  .obj (Application.payload entry.requestId entry.record)

/-- `JsonFormatter.format`. -/
def LogEntry.format (floatRepr : ℚ → String) (entry : LogEntry) : String :=
  String.ofList (Json.written floatRepr entry.payload)

/-- What the handler writes: every formatted record and a newline. -/
def emitted (floatRepr : ℚ → String) (entries : List LogEntry) : List Char :=
  terminated '\n' (entries.map fun entry => (entry.format floatRepr).toList)

section Payloads

theorem assign_keys (payload : List (String × Json)) (key : String) (value : Json) :
    (assign payload key value).map Prod.fst =
      if key ∈ payload.map Prod.fst then payload.map Prod.fst else payload.map Prod.fst ++ [key] := by
  unfold assign
  split
  · rw [List.map_map]
    refine List.map_congr_left fun item _ => ?_
    simp only [Function.comp_apply]
    split <;> simp_all
  · simp

theorem assign_distinct {payload : List (String × Json)} (distinct : (payload.map Prod.fst).Nodup)
    (key : String) (value : Json) : ((assign payload key value).map Prod.fst).Nodup := by
  rw [assign_keys]
  split
  · exact distinct
  · rename_i fresh
    refine List.nodup_append.mpr ⟨distinct, List.nodup_singleton key, fun other member last equal => ?_⟩
    rintro rfl
    exact fresh (List.mem_singleton.mp equal ▸ member)

theorem mem_assign {payload : List (String × Json)} {key other : String} {value content : Json}
    (apart : other ≠ key) (member : (other, content) ∈ payload) :
    (other, content) ∈ assign payload key value := by
  unfold assign
  split
  · exact List.mem_map.mpr ⟨(other, content), member, if_neg apart⟩
  · exact List.mem_append_left _ member

/-- The payload is a dictionary that keeps the message. -/
structure Faithful (record : LogRecord) (payload : List (String × Json)) : Prop where
  distinct : (payload.map Prod.fst).Nodup
  message : ("message", .str record.message) ∈ payload

variable {record : LogRecord} {payload : List (String × Json)}

theorem Faithful.assign (faithful : Faithful record payload) {key : String}
    (apart : "message" ≠ key) (value : Json) : Faithful record (assign payload key value) :=
  ⟨assign_distinct faithful.distinct key value, mem_assign apart faithful.message⟩

theorem Faithful.assignText (faithful : Faithful record payload) {key : String}
    (apart : "message" ≠ key) (value : Option String) :
    Faithful record (assignText payload key value) := by
  cases value with
  | none => exact faithful
  | some text => exact faithful.assign apart (.str text)

theorem Faithful.extend (faithful : Faithful record payload) (item : String × Json) :
    Faithful record (extend payload item) := by
  unfold Application.extend
  split
  · rename_i own
    refine faithful.assign (fun same => own.2 ?_) item.2
    rw [← same]
    exact List.mem_cons_self
  · exact faithful

theorem Faithful.attributes (faithful : Faithful record payload) (items : List (String × Json)) :
    Faithful record (items.foldl Application.extend payload) := by
  induction items generalizing payload with
  | nil => exact faithful
  | cons item rest ih => exact ih (faithful.extend item)

theorem payload_faithful (requestId : Option String) (record : LogRecord) :
    Faithful record (Application.payload requestId record) := by
  have stable : Faithful record (stableFields record) := ⟨by simp [stableFields], by simp [stableFields]⟩
  exact ((stable.assignText (by decide) requestId).attributes record.attributes).assignText
    (by decide) record.exception

end Payloads

section Emitted

variable {floatRepr : ℚ → String} {floats : Set ℚ}

theorem assign_floats {payload : List (String × Json)} {value : Json} (inside : floatsIn floats value)
    (within : floatsInFields floats payload) (key : String) :
    floatsInFields floats (assign payload key value) := by
  rw [floatsInFields_iff] at within ⊢
  intro field member
  unfold assign at member
  split at member
  · obtain ⟨item, listed, rfl⟩ := List.mem_map.mp member
    split
    · exact inside
    · exact within item listed
  · rcases List.mem_append.mp member with old | new
    · exact within field old
    · rwa [List.mem_singleton.mp new]

theorem assignText_floats {payload : List (String × Json)} (within : floatsInFields floats payload)
    (key : String) (value : Option String) : floatsInFields floats (assignText payload key value) := by
  cases value with
  | none => exact within
  | some text =>
    have plain : floatsIn floats (.str text) := trivial
    exact assign_floats plain within key

theorem attributes_floats {payload items : List (String × Json)}
    (inside : ∀ item ∈ items, floatsIn floats item.2) (within : floatsInFields floats payload) :
    floatsInFields floats (items.foldl extend payload) := by
  induction items generalizing payload with
  | nil => exact within
  | cons item rest ih =>
    obtain ⟨head, tail⟩ := List.forall_mem_cons.mp inside
    refine ih tail ?_
    unfold extend
    split
    · exact assign_floats head within item.1
    · exact within

/-- Every float among the attributes of the entry has a text of its own. -/
def LogEntry.Within (floats : Set ℚ) (entry : LogEntry) : Prop :=
  ∀ item ∈ entry.record.attributes, floatsIn floats item.2

theorem LogEntry.Within.payload {entry : LogEntry} (within : entry.Within floats) :
    floatsIn floats entry.payload := by
  have stable : floatsInFields floats (stableFields entry.record) := ⟨trivial, trivial, trivial, trivial, trivial⟩
  exact assignText_floats (attributes_floats within (assignText_floats stable _ _)) _ _

theorem emitted_eq (entries : List LogEntry) : emitted floatRepr entries =
    terminated '\n' ((entries.map LogEntry.payload).map (Json.written floatRepr)) := by
  unfold emitted
  rw [List.map_map]
  refine congrArg _ (List.map_congr_left fun entry _ => ?_)
  rw [LogEntry.format, String.toList_ofList]
  rfl

end Emitted

/-- A request that names a forged line in its id, and the access event of the next one. -/
def forgedEntries : List LogEntry :=
  [⟨some "a\n\x7b\"message\":\"forged\"\x7d", ⟨"2026-01-01T00:00:00+00:00", "INFO", "app",
    "first\r\nsecond", [("message", .str "other"), ("http_status", .int 200)], some "Traceback:\n..."⟩⟩,
   ⟨none, ⟨"2026-01-01T00:00:01+00:00", "INFO", "app", "http_request_completed",
    [("duration_ms", .float (3 / 2))], none⟩⟩]

theorem halves_readable : ReadableFloats (fun _ => "1.5") ({3 / 2} : Set ℚ) where
  injective := Set.injOn_singleton _ _
  numeric := fun _ _ => List.all_eq_true.mp (by decide +kernel : "1.5".toList.all isNumeric = true)
  fractional := fun _ _ => List.any_eq_true.mp (by decide +kernel : "1.5".toList.any isFractional = true)

end RegressionDetection.Application
