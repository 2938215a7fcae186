import RegressionDetection.Foundation.Dict
import RegressionDetection.Foundation.Json

/-! Decoding of typed values from JSON: members by name with defaults, unknown members
refused, and the place of a refusal as the path that leads to it. -/

namespace RegressionDetection.Foundation

universe u

/-- Member names and positions from the root to a value. -/
abbrev Location := List String

abbrev Decoder (α : Type u) := Json → Except Location α

/-- The decoder reads back what the encoder writes for the value. -/
def Decoder.Reads {α : Type u} (decode : Decoder α) (encode : α → Json) (value : α) : Prop :=
  decode (encode value) = .ok value

namespace Decoding

variable {α : Type u}

/-- A refusal below a member or a position. -/
def within (name : String) (outcome : Except Location α) : Except Location α :=
  outcome.mapError (List.cons name)

def string : Decoder String
  | .str text => .ok text
  | _ => .error []

/-- Every value, as it is. -/
def anything : Decoder Json := fun value => .ok value

/-- The members of an object, as they are. -/
def mapping : Decoder (List (String × Json))
  | .obj members => .ok members
  | _ => .error []

/-- One of finitely many texts. -/
def choice (meaning : String → Option α) : Decoder α
  | .str text =>
    match meaning text with
    | some value => .ok value
    | none => .error []
  | _ => .error []

def nullable (decode : Decoder α) : Decoder (Option α)
  | .null => .ok none
  | value => (decode value).map some

/-- The items from one position on. -/
def itemsFrom (decode : Decoder α) : Nat → List Json → Except Location (List α)
  | _, [] => .ok []
  | position, value :: rest => do
    let first ← within (toString position) (decode value)
    let others ← itemsFrom decode (position + 1) rest
    return first :: others

def items (decode : Decoder α) : Decoder (List α)
  | .arr values => itemsFrom decode 0 values
  | _ => .error []

/-- An object with members of the given names only. -/
def record (names : List String) (build : List (String × Json) → Except Location α) : Decoder α
  | .obj members =>
    match members.find? (fun member => decide (member.1 ∉ names)) with
    | some extra => .error [extra.1]
    | none => build members
  | _ => .error []

/-- A required member. -/
def field (decode : Decoder α) (members : List (String × Json)) (name : String) :
    Except Location α :=
  match lookup members name with
  | some value => within name (decode value)
  | none => .error [name]

/-- A member with a default. -/
def fieldOr (default : α) (decode : Decoder α) (members : List (String × Json)) (name : String) :
    Except Location α :=
  match lookup members name with
  | some value => within name (decode value)
  | none => .ok default

section Reading

variable {decode : Decoder α} {encode : α → Json} {members : List (String × Json)}
  {name : String} {value : α}

theorem field_ok (written : lookup members name = some (encode value))
    (reads : decode.Reads encode value) : field decode members name = .ok value := by
  unfold Decoder.Reads at reads
  simp [field, written, within, reads, Except.mapError]

theorem fieldOr_ok {default : α} (written : lookup members name = some (encode value))
    (reads : decode.Reads encode value) : fieldOr default decode members name = .ok value := by
  unfold Decoder.Reads at reads
  simp [fieldOr, written, within, reads, Except.mapError]

theorem items_reads {values : List α} (reads : ∀ value ∈ values, decode.Reads encode value) :
    (items decode).Reads (fun values => .arr (values.map encode)) values := by
  have each (position : Nat) : itemsFrom decode position (values.map encode) = .ok values := by
    induction values generalizing position with
    | nil => rfl
    | cons first rest ih =>
      have own := reads first List.mem_cons_self
      have others := ih (fun value later => reads value (List.mem_cons_of_mem _ later))
        (position + 1)
      unfold Decoder.Reads at own
      simp [itemsFrom, own, within, Except.mapError, others, bind, Except.bind, pure, Except.pure]
  exact each 0

theorem nullable_reads {value : Option α} (proper : ∀ content, encode content ≠ .null)
    (reads : ∀ content ∈ value, decode.Reads encode content) :
    (nullable decode).Reads (fun value => (value.map encode).getD .null) value := by
  unfold Decoder.Reads
  cases value with
  | none => rfl
  | some content =>
    have own := reads content rfl
    unfold Decoder.Reads at own
    change nullable decode (encode content) = .ok (some content)
    unfold nullable
    split
    · rename_i absent
      exact absurd absent (proper content)
    · rw [own]
      rfl

/-- An object of known members is built from them. -/
theorem record_obj {names : List String} {build : List (String × Json) → Except Location α}
    (known : ∀ member ∈ members, member.1 ∈ names) :
    record names build (.obj members) = build members := by
  have none : members.find? (fun member => decide (member.1 ∉ names)) = none := by
    rw [List.find?_eq_none]
    intro member listed
    simp [known member listed]
  rw [record, none]

end Reading

end Decoding

end RegressionDetection.Foundation
