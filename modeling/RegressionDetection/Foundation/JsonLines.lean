import RegressionDetection.Foundation.JsonText

/-! A stream of JSON texts, each ended by a newline. No text contains a control character,
whatever its strings are, so the stream is cut at its newlines into the texts again. -/

namespace RegressionDetection.Foundation

open Json

section Lines

variable {α : Type*} [DecidableEq α] {mark : α}

/-- The texts one after the other, each ended by the mark. -/
def terminated (mark : α) (texts : List (List α)) : List α := texts.flatMap (· ++ [mark])

/-- What stands between the marks. -/
def cutAt (mark : α) : List α → List (List α)
  | [] => []
  | c :: rest =>
    if c = mark then [] :: cutAt mark rest
    else
      match cutAt mark rest with
      | [] => [[c]]
      | text :: texts => (c :: text) :: texts

theorem cutAt_append {text : List α} (clean : mark ∉ text) (rest : List α) :
    cutAt mark (text ++ mark :: rest) = text :: cutAt mark rest := by
  induction text with
  | nil => simp [cutAt]
  | cons c text ih =>
    obtain ⟨plain, later⟩ := not_or.mp (List.mem_cons.not.mp clean)
    rw [List.cons_append, cutAt, if_neg (Ne.symm plain), ih later]

theorem cutAt_terminated {texts : List (List α)} (clean : ∀ text ∈ texts, mark ∉ text) :
    cutAt mark (terminated mark texts) = texts := by
  induction texts with
  | nil => rfl
  | cons text rest ih =>
    have head := clean text List.mem_cons_self
    have tail := ih fun other member => clean other (List.mem_cons_of_mem _ member)
    have split : terminated mark (text :: rest) = text ++ mark :: terminated mark rest := by
      simp [terminated]
    rw [split, cutAt_append head, tail]

end Lines

/-- No control character: neither a newline nor an escape sequence of a terminal. -/
def Printable (text : List Char) : Prop := ∀ c ∈ text, 32 ≤ c.toNat

instance : DecidablePred Printable := List.decidableBAll fun c : Char => 32 ≤ c.toNat

section Texts

theorem Printable.append {first second : List Char} (left : Printable first)
    (right : Printable second) : Printable (first ++ second) := by
  intro c member
  exact (List.mem_append.mp member).elim (left c) (right c)

theorem Printable.cons {c : Char} {text : List Char} (head : 32 ≤ c.toNat) (tail : Printable text) :
    Printable (c :: text) :=
  List.forall_mem_cons.mpr ⟨head, tail⟩

theorem Printable.no_newline {text : List Char} (printable : Printable text) : '\n' ∉ text := by
  intro member
  exact absurd (printable '\n' member) (by decide)

theorem printable_of_numeric {text : List Char} (numeric : ∀ c ∈ text, isNumeric c = true) :
    Printable text := by
  intro c member
  have kinds := numeric c member
  simp only [isNumeric, Bool.or_eq_true, beq_iff_eq] at kinds
  rcases kinds with (((digit | rfl) | rfl) | rfl) | rfl
  · exact (by decide : 32 ≤ 48).trans (Char.isDigit_iff_toNat.mp digit).1
  all_goals decide

private theorem escapes_printable : ∀ n : Fin 32,
    Printable (['\\', 'u'] ++ hexWidth 4 n.val) := by decide

theorem escapeChar_printable (c : Char) : Printable (escapeChar c) := by
  have short (d : Char) (code : 32 ≤ d.toNat) : Printable ['\\', d] :=
    .cons (by decide) (.cons code fun _ none => (by cases none))
  unfold escapeChar
  split
  · exact short _ (by decide)
  split
  · exact short _ (by decide)
  split
  · exact short _ (by decide)
  split
  · exact short _ (by decide)
  split
  · exact short _ (by decide)
  split
  · exact short _ (by decide)
  split
  · exact short _ (by decide)
  split
  · rename_i control
    exact escapes_printable ⟨c.toNat, control⟩
  · rename_i plain
    exact .cons (not_lt.mp plain) fun _ none => by cases none

theorem quoted_printable (text : String) : Printable (quoted text).toList := by
  intro c member
  rw [toList_quoted, List.mem_cons, List.mem_append, List.mem_singleton, List.mem_flatMap] at member
  rcases member with rfl | ⟨d, _, escaped⟩ | rfl
  · decide
  · exact escapeChar_printable d c escaped
  · decide

theorem enclosed_printable {close : Char} (shown : 32 ≤ close.toNat) {texts : List (List Char)}
    (printable : ∀ text ∈ texts, Printable text) : Printable (enclosed close texts) := by
  have later (rest : List (List Char)) (within : ∀ text ∈ rest, Printable text) :
      Printable (followed close rest) := by
    induction rest with
    | nil => exact .cons shown fun _ none => by cases none
    | cons text rest ih =>
      obtain ⟨head, tail⟩ := List.forall_mem_cons.mp within
      exact .cons (by decide) (head.append (ih tail))
  cases texts with
  | nil => exact .cons shown fun _ none => by cases none
  | cons text rest =>
    obtain ⟨head, tail⟩ := List.forall_mem_cons.mp printable
    exact head.append (later rest tail)

variable {floatRepr : ℚ → String} {floats : Set ℚ}

mutual

/-- The text of a value has no control characters. -/
theorem written_printable (readable : ReadableFloats floatRepr floats) :
    ∀ a : Json, floatsIn floats a → Printable (written floatRepr a)
  | .null, _ => (by decide : Printable ['n', 'u', 'l', 'l'])
  | .bool true, _ => (by decide : Printable ['t', 'r', 'u', 'e'])
  | .bool false, _ => (by decide : Printable ['f', 'a', 'l', 's', 'e'])
  | .int _, _ => printable_of_numeric fun _ member => (int_isNumeric member).1
  | .float value, inside => printable_of_numeric (readable.numeric value inside)
  | .str value, _ => quoted_printable value
  | .arr items, inside =>
    .cons (by decide) (enclosed_printable (by decide) (writtenItems_printable readable items inside))
  | .obj fields, inside =>
    .cons (by decide) (enclosed_printable (by decide) (writtenFields_printable readable fields inside))

theorem writtenItems_printable (readable : ReadableFloats floatRepr floats) :
    ∀ items : List Json, floatsInItems floats items →
      ∀ text ∈ writtenItems floatRepr items, Printable text
  | [], _ => fun _ none => by cases none
  | item :: rest, inside => List.forall_mem_cons.mpr
    ⟨written_printable readable item inside.1, writtenItems_printable readable rest inside.2⟩

theorem writtenFields_printable (readable : ReadableFloats floatRepr floats) :
    ∀ fields : List (String × Json), floatsInFields floats fields →
      ∀ text ∈ writtenFields floatRepr fields, Printable text
  | [], _ => fun _ none => by cases none
  | (key, value) :: rest, inside => List.forall_mem_cons.mpr
    ⟨(quoted_printable key).append (.cons (by decide) (written_printable readable value inside.1)),
      writtenFields_printable readable rest inside.2⟩

end

/-- A stream of texts, each on a line of its own, is cut at its newlines into them. -/
theorem cutAt_written (readable : ReadableFloats floatRepr floats) {values : List Json}
    (inside : ∀ value ∈ values, floatsIn floats value) :
    cutAt '\n' (terminated '\n' (values.map (written floatRepr))) = values.map (written floatRepr) := by
  refine cutAt_terminated fun text member => ?_
  obtain ⟨value, listed, rfl⟩ := List.mem_map.mp member
  exact (written_printable readable value (inside value listed)).no_newline

/-- The values are determined by the stream of their texts. -/
theorem lines_injective (readable : ReadableFloats floatRepr floats) {first second : List Json}
    (insideFirst : ∀ value ∈ first, floatsIn floats value)
    (insideSecond : ∀ value ∈ second, floatsIn floats value)
    (same : terminated '\n' (first.map (written floatRepr)) =
      terminated '\n' (second.map (written floatRepr))) : first = second := by
  have texts : first.map (written floatRepr) = second.map (written floatRepr) := by
    rw [← cutAt_written readable insideFirst, same, cutAt_written readable insideSecond]
  clear same
  induction first generalizing second with
  | nil => exact (List.map_eq_nil_iff.mp texts.symm).symm
  | cons value rest ih =>
    cases second with
    | nil => cases texts
    | cons other others =>
      obtain ⟨head, tail⟩ := List.cons.inj texts
      obtain ⟨valueIn, restIn⟩ := List.forall_mem_cons.mp insideFirst
      obtain ⟨otherIn, othersIn⟩ := List.forall_mem_cons.mp insideSecond
      rw [written_injective readable valueIn otherIn head, ih restIn othersIn tail]

end Texts

end RegressionDetection.Foundation
