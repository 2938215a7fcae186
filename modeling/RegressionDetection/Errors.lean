import RegressionDetection.Foundation.Dict
import RegressionDetection.Foundation.Python

/-! The exceptions the modelled code raises, with their texts. -/

namespace RegressionDetection

open Foundation

inductive PyError where
  | valueError (text : String)
  /-- A pydantic `ValidationError`, which is a `ValueError`. -/
  | validationError (text : String)
  /-- `LimitExceededError`, a `ValueError`. -/
  | limitExceeded (code message : String)
  /-- `IdempotencyConflictError`, a `ValueError`. -/
  | idempotencyConflict (key : String)
  | keyError (key : String)
  | zeroDivision
  /-- `LookupError` of the run repository. -/
  | runMissing (runId : String)
  | integrityError
  | noResultFound
  /-- An exception of a library that no caller in the package handles. -/
  | external (name : String)
deriving DecidableEq

/-- Whether `except ValueError` catches the exception. -/
def PyError.isValueError : PyError → Bool
  | .valueError _ | .validationError _ | .limitExceeded _ _ | .idempotencyConflict _ => true
  | _ => false

/-- `str(exc)`; the database and library exceptions carry no modelled text. -/
def PyError.text (runtime : Runtime) : PyError → String
  | .valueError text | .validationError text | .limitExceeded _ text => text
  | .idempotencyConflict key => "Idempotency key " ++ pyRepr runtime.printable key ++
      " was used with a different request body"
  | .keyError key => pyRepr runtime.printable key
  | .zeroDivision => "division by zero"
  | .runMissing runId => "Run " ++ pyRepr runtime.printable runId ++ " does not exist"
  | .integrityError | .noResultFound => ""
  | .external name => name

@[simp] theorem PyError.text_valueError (runtime : Runtime) (text : String) :
    (PyError.valueError text).text runtime = text := rfl

@[simp] theorem PyError.text_validationError (runtime : Runtime) (text : String) :
    (PyError.validationError text).text runtime = text := rfl

/-- `dict(entries)[key]`. -/
def getItem (entries : List (String × α)) (key : String) : Except PyError α :=
  match lookup entries key with
  | some value => .ok value
  | none => .error (.keyError key)

theorem getItem_eq_ok {entries : List (String × α)} {key : String} {value : α} :
    getItem entries key = .ok value ↔ lookup entries key = some value := by
  unfold getItem
  cases lookup entries key <;> simp

theorem getItem_of_mem {entries : List (String × α)} {key : String} {value : α}
    (distinct : (entries.map Prod.fst).Nodup) (member : (key, value) ∈ entries) :
    getItem entries key = .ok value :=
  getItem_eq_ok.mpr (lookup_of_mem distinct member)

theorem getItem_returns {entries : List (String × α)} {key : String}
    (present : key ∈ entries.map Prod.fst) : ∃ value, getItem entries key = .ok value := by
  obtain ⟨value, found⟩ := exists_lookup present
  exact ⟨value, getItem_eq_ok.mpr found⟩

theorem getItem_eq_error {entries : List (String × α)} {key : String} {error : PyError} :
    getItem entries key = .error error ↔ key ∉ entries.map Prod.fst ∧ error = .keyError key := by
  unfold getItem
  cases found : lookup entries key with
  | none => simp [lookup_eq_none_iff.mp found, eq_comm]
  | some value =>
    have present : key ∈ entries.map Prod.fst := List.mem_map.mpr ⟨_, mem_of_lookup found, rfl⟩
    simp [present]

end RegressionDetection
