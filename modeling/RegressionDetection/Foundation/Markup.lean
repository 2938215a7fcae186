import Mathlib.Data.List.Basic
import Mathlib.Data.String.Basic

/-! The characters that shape an HTML document, and escaping. A text is plain when it
has none of them, and concatenation keeps their sequence. -/

namespace RegressionDetection.Foundation

/-- The characters that open, close or alter a tag or an attribute. -/
def isMark (c : Char) : Bool := c == '<' || c == '>' || c == '"' || c == '\''

/-- The sequence of these characters in a document. -/
def marks (text : String) : List Char := text.toList.filter isMark

/-- How `html.escape` with `quote=True` writes one character. -/
def escapeMark (c : Char) : List Char :=
  if c = '&' then "&amp;".toList
  else if c = '<' then "&lt;".toList
  else if c = '>' then "&gt;".toList
  else if c = '"' then "&quot;".toList
  else if c = '\'' then "&#x27;".toList
  else [c]

/-- `html.escape(text, quote=True)`. -/
def htmlEscape (text : String) : String := String.ofList (text.toList.flatMap escapeMark)

example : htmlEscape "<a b='c'>" = "&lt;a b=&#x27;c&#x27;&gt;" := by decide

section Marks

@[simp] theorem marks_append (first second : String) :
    marks (first ++ second) = marks first ++ marks second := by
  simp [marks]

@[simp] theorem marks_empty : marks "" = [] := rfl

private theorem escapeMark_plain (c : Char) : (escapeMark c).filter isMark = [] := by
  unfold escapeMark
  repeat' split
  all_goals first
    | decide
    | simp_all [isMark]

/-- An escaped text shapes nothing. -/
@[simp] theorem marks_htmlEscape (text : String) : marks (htmlEscape text) = [] := by
  simp only [marks, htmlEscape, String.toList_ofList, List.filter_flatMap, escapeMark_plain]
  simp

/-- A text over an alphabet without marks is plain. -/
theorem marks_of_alphabet {alphabet : Char → Bool} {text : String}
    (apart : ∀ c, alphabet c = true → isMark c = false)
    (within : ∀ c ∈ text.toList, alphabet c = true) : marks text = [] := by
  refine List.filter_eq_nil_iff.mpr fun c member => ?_
  simp [apart c (within c member)]

theorem marks_intercalate {separator : String} (plain : marks separator = []) (texts : List String) :
    marks (separator.intercalate texts) = texts.flatMap marks := by
  induction texts with
  | nil => simp [marks]
  | cons text rest ih =>
    cases rest with
    | nil => simp
    | cons next rest =>
      rw [String.intercalate_cons_cons, marks_append, marks_append, plain, ih]
      simp

/-- Rows that pair up with the same marks give tables with the same marks. -/
theorem marks_intercalate_map {α β : Type*} {R : α → β → Prop} {f : α → String} {g : β → String}
    {separator : String} (plain : marks separator = []) {first : List α} {second : List β}
    (pairs : List.Forall₂ R first second) (each : ∀ a b, R a b → marks (f a) = marks (g b)) :
    marks (separator.intercalate (first.map f)) = marks (separator.intercalate (second.map g)) := by
  rw [marks_intercalate plain, marks_intercalate plain]
  induction pairs with
  | nil => rfl
  | cons related _ ih => simp [each _ _ related, ih]

end Marks

end RegressionDetection.Foundation
