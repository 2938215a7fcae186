import Mathlib.Data.Set.Function
import RegressionDetection.Foundation.JsonOrder

/-! Canonical JSON text determines its value: every text is uniquely readable, so
two values have one text exactly when they are alike. -/

namespace RegressionDetection.Foundation

namespace Json

section Strings

/-- The first character of an escaped text, and what follows it. -/
def readEscape : List Char → Option (Char × List Char)
  | '\\' :: 'u' :: _ :: _ :: high :: low :: rest => do
    let highValue ← hexValue high
    let lowValue ← hexValue low
    return (Char.ofNat (16 * highValue + lowValue), rest)
  | '\\' :: c :: rest =>
    match c with
    | 'n' => some ('\n', rest)
    | 'r' => some ('\r', rest)
    | 't' => some ('\t', rest)
    | 'b' => some (Char.ofNat 8, rest)
    | 'f' => some (Char.ofNat 12, rest)
    | c => some (c, rest)
  | c :: rest => some (c, rest)
  | [] => none

private theorem hexWidth_control : ∀ n : Fin 32, hexWidth 4 n.val =
    ['0', '0', hexDigit (n.val / 16), hexDigit (n.val % 16)] ∧
    hexValue (hexDigit (n.val / 16)) = some (n.val / 16) ∧
    hexValue (hexDigit (n.val % 16)) = some (n.val % 16) := by decide

/-- A character reads back from its own escape. -/
theorem readEscape_escapeChar (c : Char) (rest : List Char) :
    readEscape (escapeChar c ++ rest) = some (c, rest) := by
  unfold escapeChar
  split
  · subst_vars; rfl
  split
  · subst_vars; rfl
  split
  · subst_vars; rfl
  split
  · subst_vars; rfl
  split
  · subst_vars; rfl
  split
  · rename_i backspace
    have code : Char.ofNat c.toNat = c := Char.ofNat_toNat c
    rw [backspace] at code
    simpa [readEscape] using code
  split
  · rename_i feed
    have code : Char.ofNat c.toNat = c := Char.ofNat_toNat c
    rw [feed] at code
    simpa [readEscape] using code
  split
  · rename_i control
    obtain ⟨text, high, low⟩ := hexWidth_control ⟨c.toNat, control⟩
    dsimp only at text high low
    have whole : 16 * (c.toNat / 16) + c.toNat % 16 = c.toNat := by omega
    rw [text]
    simp [readEscape, high, low, whole]
  · rename_i _ backslash _ _ _ _ _ _
    simp [readEscape, backslash]

/-- The escape of a character does not begin with the closing quote. -/
theorem escapeChar_head (c : Char) : ∃ first rest, escapeChar c = first :: rest ∧ first ≠ '"' := by
  unfold escapeChar
  split
  · exact ⟨_, _, rfl, by decide⟩
  · rename_i plain
    repeat' split
    all_goals first
      | exact ⟨_, _, rfl, by decide⟩
      | exact ⟨_, _, rfl, plain⟩

/-- The characters of a quoted text and what follows it are determined. -/
theorem escaped_reads {first second : List Char} {rest other : List Char}
    (same : first.flatMap escapeChar ++ '"' :: rest = second.flatMap escapeChar ++ '"' :: other) :
    first = second ∧ rest = other := by
  have closes (c : Char) (chars tail : List Char) (left : List Char) :
      '"' :: left ≠ escapeChar c ++ chars.flatMap escapeChar ++ tail := by
    obtain ⟨head, others, text, plain⟩ := escapeChar_head c
    rw [text]
    exact fun equal => plain (List.cons.inj equal).1.symm
  induction first generalizing second with
  | nil =>
    cases second with
    | nil => exact ⟨rfl, (List.cons.inj same).2⟩
    | cons d second => exact absurd (by simpa using same) (closes d second ('"' :: other) rest)
  | cons c first ih =>
    cases second with
    | nil => exact absurd (by simpa using same.symm) (closes c first ('"' :: rest) other)
    | cons d second =>
      simp only [List.flatMap_cons, List.append_assoc] at same
      have read := congrArg readEscape same
      rw [readEscape_escapeChar, readEscape_escapeChar] at read
      obtain ⟨rfl, later⟩ := Prod.mk.inj (Option.some.inj read)
      obtain ⟨rfl, tail⟩ := ih later
      exact ⟨rfl, tail⟩

theorem toList_quoted (text : String) :
    (quoted text).toList = '"' :: (text.toList.flatMap escapeChar ++ ['"']) := String.toList_ofList

theorem quoted_reads {first second : String} {rest other : List Char}
    (same : (quoted first).toList ++ rest = (quoted second).toList ++ other) :
    first = second ∧ rest = other := by
  rw [toList_quoted, toList_quoted] at same
  simp only [List.cons_append, List.append_assoc, List.nil_append, List.cons.injEq, true_and] at same
  obtain ⟨chars, tail⟩ := escaped_reads same
  exact ⟨String.toList_inj.mp chars, tail⟩

end Strings

section Numbers

/-- A character of a printed number. -/
def isNumeric (c : Char) : Bool :=
  c.isDigit || c == '-' || c == '+' || c == '.' || c == 'e'

/-- The mark that tells a float from an integer. -/
def isFractional (c : Char) : Bool := c == '.' || c == 'e'

/-- What `float.__repr__` guarantees for the finite floats: different texts for different
values, and never the text of an integer. -/
structure ReadableFloats (floatRepr : ℚ → String) (floats : Set ℚ) : Prop where
  injective : Set.InjOn floatRepr floats
  numeric : ∀ value ∈ floats, ∀ c ∈ (floatRepr value).toList, isNumeric c = true
  fractional : ∀ value ∈ floats, ∃ c ∈ (floatRepr value).toList, isFractional c = true

theorem ReadableFloats.ne_nil {floatRepr : ℚ → String} {floats : Set ℚ}
    (readable : ReadableFloats floatRepr floats) {value : ℚ} (listed : value ∈ floats) :
    (floatRepr value).toList ≠ [] := by
  obtain ⟨c, member, _⟩ := readable.fractional value listed
  exact List.ne_nil_of_mem member

/-- What follows a number does not continue it. -/
def Delimited (rest : List Char) : Prop := ∀ c ∈ rest.head?, isNumeric c = false

theorem delimited_nil : Delimited [] := by simp [Delimited]

theorem delimited_cons {c : Char} {rest : List Char} (ends : isNumeric c = false) :
    Delimited (c :: rest) := by simpa [Delimited] using ends

/-- A number and what follows it are determined by their text. -/
theorem numeric_reads {first second rest other : List Char}
    (numericFirst : ∀ c ∈ first, isNumeric c = true)
    (numericSecond : ∀ c ∈ second, isNumeric c = true)
    (endsFirst : Delimited rest) (endsSecond : Delimited other)
    (same : first ++ rest = second ++ other) : first = second ∧ rest = other := by
  have stops {tail : List Char} (ends : Delimited tail) : tail.takeWhile isNumeric = [] := by
    cases tail with
    | nil => rfl
    | cons c tail => simp [ends c (by simp)]
  have read := congrArg (List.takeWhile isNumeric) same
  rw [List.takeWhile_append_of_pos numericFirst, List.takeWhile_append_of_pos numericSecond,
    stops endsFirst, stops endsSecond, List.append_nil, List.append_nil] at read
  subst read
  exact ⟨rfl, List.append_cancel_left same⟩

theorem toList_int (value : Int) : (toString value).toList =
    if 0 ≤ value then Nat.toDigits 10 value.toNat else '-' :: Nat.toDigits 10 (-value).toNat := by
  rw [Int.toString_eq_repr, Int.repr_eq_if]
  split <;> simp

private theorem digit_isNumeric {n : Nat} {c : Char} (member : c ∈ Nat.toDigits 10 n) :
    isNumeric c = true ∧ isFractional c = false ∧ c ≠ '-' := by
  have digit := Nat.isDigit_of_mem_toDigits (by decide) (by decide) member
  have plain (d : Char) (other : d.isDigit = false) : c ≠ d := by
    rintro rfl
    simp [digit] at other
  refine ⟨by simp [isNumeric, digit], ?_, plain '-' (by decide)⟩
  simp [isFractional, plain '.' (by decide), plain 'e' (by decide)]

theorem int_isNumeric {value : Int} {c : Char} (member : c ∈ (toString value).toList) :
    isNumeric c = true ∧ isFractional c = false := by
  rw [toList_int] at member
  split at member
  · exact ⟨(digit_isNumeric member).1, (digit_isNumeric member).2.1⟩
  · rcases List.mem_cons.mp member with rfl | digit
    · decide
    · exact ⟨(digit_isNumeric digit).1, (digit_isNumeric digit).2.1⟩

private theorem toDigits_injective {m n : Nat} (same : Nat.toDigits 10 m = Nat.toDigits 10 n) :
    m = n := by
  have read := congrArg (fun digits => Nat.ofDigitChars 10 digits 0) same
  simpa using read

/-- Integers with one decimal text are equal. -/
theorem int_text_injective {m n : Int} (same : (toString m).toList = (toString n).toList) :
    m = n := by
  have unsigned (a b : Nat) (rest : List Char) : Nat.toDigits 10 a ≠ '-' :: rest := by
    intro equal
    have dash : '-' ∈ Nat.toDigits 10 a := by simp [equal]
    exact (digit_isNumeric dash).2.2 rfl
  rw [toList_int, toList_int] at same
  split at same <;> split at same
  · have value := toDigits_injective same
    omega
  · exact absurd same (unsigned _ 0 _)
  · exact absurd same.symm (unsigned _ 0 _)
  · have value := toDigits_injective (List.cons.inj same).2
    omega

end Numbers

section Lists

variable {α : Type*}

/-- The further texts of a list, each after a comma, and the closing bracket. -/
def followed (close : Char) : List (List Char) → List Char
  | [] => [close]
  | text :: rest => ',' :: (text ++ followed close rest)

/-- The texts of a list between commas, and the closing bracket. -/
def enclosed (close : Char) : List (List Char) → List Char
  | [] => [close]
  | text :: rest => text ++ followed close rest

theorem intercalate_enclosed (close : Char) (texts : List (List Char)) :
    [','].intercalate texts ++ [close] = enclosed close texts := by
  have later (text : List Char) (rest : List (List Char)) :
      [','].intercalate (text :: rest) ++ [close] = text ++ followed close rest := by
    induction rest generalizing text with
    | nil => simp [followed]
    | cons next rest ih =>
      rw [List.intercalate_cons_cons, followed, ← ih next]
      simp
  cases texts with
  | nil => rfl
  | cons text rest => exact later text rest

/-- An element and what follows it are determined by their text. -/
def Reads (write : α → List Char) (within : α → Prop) (a : α) : Prop :=
  ∀ b, within b → ∀ {rest other : List Char}, Delimited rest → Delimited other →
    write a ++ rest = write b ++ other → a = b ∧ rest = other

variable {write : α → List Char} {within : α → Prop} {close : Char}

theorem followed_delimited (ends : isNumeric close = false) (texts : List (List Char))
    (rest : List Char) : Delimited (followed close texts ++ rest) := by
  cases texts with
  | nil => exact delimited_cons ends
  | cons text texts => exact delimited_cons (by decide)

theorem followed_reads (ends : isNumeric close = false) (comma : close ≠ ',')
    {first second : List α} (reads : ∀ a ∈ first, Reads write within a)
    (inside : ∀ b ∈ second, within b) {rest other : List Char}
    (same : followed close (first.map write) ++ rest = followed close (second.map write) ++ other) :
    first = second ∧ rest = other := by
  induction first generalizing second with
  | nil =>
    cases second with
    | nil => exact ⟨rfl, (List.cons.inj same).2⟩
    | cons b second => exact absurd (List.cons.inj same).1 comma
  | cons a first ih =>
    cases second with
    | nil => exact absurd (List.cons.inj same).1.symm comma
    | cons b second =>
      simp only [List.map_cons, followed, List.cons_append, List.append_assoc, List.cons.injEq,
        true_and] at same
      obtain ⟨rfl, later⟩ := reads a (by simp) b (inside b (by simp))
        (followed_delimited ends _ _) (followed_delimited ends _ _) same
      obtain ⟨rfl, tail⟩ := ih (fun a member => reads a (List.mem_cons_of_mem _ member))
        (fun b member => inside b (List.mem_cons_of_mem _ member)) later
      exact ⟨rfl, tail⟩

/-- A list and what follows its closing bracket are determined by their text. -/
theorem enclosed_reads (ends : isNumeric close = false) (comma : close ≠ ',')
    (opens : ∀ a, within a → ∃ head text, write a = head :: text ∧ head ≠ close)
    {first second : List α} (reads : ∀ a ∈ first, Reads write within a)
    (own : ∀ a ∈ first, within a) (inside : ∀ b ∈ second, within b) {rest other : List Char}
    (same : enclosed close (first.map write) ++ rest = enclosed close (second.map write) ++ other) :
    first = second ∧ rest = other := by
  have starts (a : α) (legal : within a) (tail left : List Char) :
      close :: left ≠ write a ++ tail := by
    obtain ⟨head, text, shown, different⟩ := opens a legal
    rw [shown]
    exact fun equal => different (List.cons.inj equal).1.symm
  cases first with
  | nil =>
    cases second with
    | nil => exact ⟨rfl, (List.cons.inj same).2⟩
    | cons b second =>
      simp only [List.map_nil, List.map_cons, enclosed, List.append_assoc] at same
      exact absurd same (starts b (inside b (by simp)) _ rest)
  | cons a first =>
    cases second with
    | nil =>
      simp only [List.map_nil, List.map_cons, enclosed, List.append_assoc] at same
      exact absurd same.symm (starts a (own a (by simp)) _ other)
    | cons b second =>
      simp only [List.map_cons, enclosed, List.append_assoc] at same
      obtain ⟨rfl, later⟩ := reads a (by simp) b (inside b (by simp))
        (followed_delimited ends _ _) (followed_delimited ends _ _) same
      obtain ⟨rfl, tail⟩ := followed_reads ends comma
        (fun a member => reads a (List.mem_cons_of_mem _ member))
        (fun b member => inside b (List.mem_cons_of_mem _ member)) later
      exact ⟨rfl, tail⟩

end Lists

section Values

mutual

/-- The compact text of a value, its objects in the order of their own keys. -/
def written (floatRepr : ℚ → String) : Json → List Char
  | .null => ['n', 'u', 'l', 'l']
  | .bool true => ['t', 'r', 'u', 'e']
  | .bool false => ['f', 'a', 'l', 's', 'e']
  | .int value => (toString value).toList
  | .float value => (floatRepr value).toList
  | .str value => (quoted value).toList
  | .arr items => '[' :: enclosed ']' (writtenItems floatRepr items)
  | .obj fields => '\x7b' :: enclosed '\x7d' (writtenFields floatRepr fields)

def writtenItems (floatRepr : ℚ → String) : List Json → List (List Char)
  | [] => []
  | item :: rest => written floatRepr item :: writtenItems floatRepr rest

def writtenFields (floatRepr : ℚ → String) : List (String × Json) → List (List Char)
  | [] => []
  | (key, value) :: rest =>
    ((quoted key).toList ++ ':' :: written floatRepr value) :: writtenFields floatRepr rest

end

/-- One member of an object. -/
def writtenField (floatRepr : ℚ → String) (field : String × Json) : List Char :=
  (quoted field.1).toList ++ ':' :: written floatRepr field.2

theorem writtenItems_eq (floatRepr : ℚ → String) (items : List Json) :
    writtenItems floatRepr items = items.map (written floatRepr) := by
  induction items with
  | nil => rfl
  | cons item rest ih => simp [writtenItems, ih]

theorem writtenFields_eq (floatRepr : ℚ → String) (fields : List (String × Json)) :
    writtenFields floatRepr fields = fields.map (writtenField floatRepr) := by
  induction fields with
  | nil => rfl
  | cons field rest ih => simp [writtenFields, writtenField, ih]

mutual

/-- Every float inside the value is one of these. -/
def floatsIn (floats : Set ℚ) : Json → Prop
  | .float value => value ∈ floats
  | .arr items => floatsInItems floats items
  | .obj fields => floatsInFields floats fields
  | _ => True

def floatsInItems (floats : Set ℚ) : List Json → Prop
  | [] => True
  | item :: rest => floatsIn floats item ∧ floatsInItems floats rest

def floatsInFields (floats : Set ℚ) : List (String × Json) → Prop
  | [] => True
  | (_, value) :: rest => floatsIn floats value ∧ floatsInFields floats rest

end

mutual

def decideFloatsIn (floats : Set ℚ) [DecidablePred (· ∈ floats)] :
    ∀ value : Json, Decidable (floatsIn floats value)
  | .null => isTrue trivial
  | .bool _ => isTrue trivial
  | .int _ => isTrue trivial
  | .float value => inferInstanceAs (Decidable (value ∈ floats))
  | .str _ => isTrue trivial
  | .arr items => decideFloatsInItems floats items
  | .obj fields => decideFloatsInFields floats fields

def decideFloatsInItems (floats : Set ℚ) [DecidablePred (· ∈ floats)] :
    ∀ items : List Json, Decidable (floatsInItems floats items)
  | [] => isTrue trivial
  | item :: rest =>
    have := decideFloatsIn floats item
    have := decideFloatsInItems floats rest
    inferInstanceAs (Decidable (floatsIn floats item ∧ floatsInItems floats rest))

def decideFloatsInFields (floats : Set ℚ) [DecidablePred (· ∈ floats)] :
    ∀ fields : List (String × Json), Decidable (floatsInFields floats fields)
  | [] => isTrue trivial
  | (_, value) :: rest =>
    have := decideFloatsIn floats value
    have := decideFloatsInFields floats rest
    inferInstanceAs (Decidable (floatsIn floats value ∧ floatsInFields floats rest))

end

instance (floats : Set ℚ) [DecidablePred (· ∈ floats)] : DecidablePred (floatsIn floats) :=
  decideFloatsIn floats

theorem floatsInItems_iff {floats : Set ℚ} {items : List Json} :
    floatsInItems floats items ↔ ∀ item ∈ items, floatsIn floats item := by
  induction items with
  | nil => simp [floatsInItems]
  | cons item rest ih => simp [floatsInItems, ih]

theorem floatsInFields_iff {floats : Set ℚ} {fields : List (String × Json)} :
    floatsInFields floats fields ↔ ∀ field ∈ fields, floatsIn floats field.2 := by
  induction fields with
  | nil => simp [floatsInFields]
  | cons field rest ih => simp [floatsInFields, ih]

/-- What the first character of a text says about its value. -/
inductive Shape where
  | null
  | bool
  | number
  | str
  | arr
  | obj
  | other
deriving DecidableEq

def shape : Json → Shape
  | .null => .null
  | .bool _ => .bool
  | .int _ => .number
  | .float _ => .number
  | .str _ => .str
  | .arr _ => .arr
  | .obj _ => .obj

theorem shape_ne_other (a : Json) : a.shape ≠ .other := by
  cases a <;> simp [shape]

def headShape (c : Char) : Shape :=
  if isNumeric c then .number
  else if c = 'n' then .null
  else if c = 't' ∨ c = 'f' then .bool
  else if c = '"' then .str
  else if c = '[' then .arr
  else if c = '\x7b' then .obj
  else .other

/-- The shape of a value is seen at the first character of its text. -/
theorem written_shape {floatRepr : ℚ → String} {floats : Set ℚ}
    (readable : ReadableFloats floatRepr floats) {a : Json} (inside : floatsIn floats a) :
    ∃ head text, written floatRepr a = head :: text ∧ headShape head = a.shape := by
  cases a with
  | null => exact ⟨_, _, rfl, by decide⟩
  | bool value => cases value <;> exact ⟨_, _, rfl, by decide⟩
  | int value =>
    obtain ⟨head, text, shown⟩ : ∃ head text, (toString value).toList = head :: text := by
      rw [toList_int]
      split
      · exact List.exists_cons_of_ne_nil Nat.toDigits_ne_nil
      · exact ⟨_, _, rfl⟩
    have member : head ∈ (toString value).toList := by
      rw [shown]
      exact List.mem_cons_self
    have numeric := (int_isNumeric member).1
    exact ⟨head, text, shown, by simp [headShape, numeric, shape]⟩
  | float value =>
    obtain ⟨head, text, shown⟩ := List.exists_cons_of_ne_nil (readable.ne_nil inside)
    have numeric := readable.numeric value inside head (by simp [shown])
    exact ⟨head, text, shown, by simp [headShape, numeric, shape]⟩
  | str value =>
    exact ⟨_, _, toList_quoted value, rfl⟩
  | arr items => exact ⟨_, _, rfl, rfl⟩
  | obj fields => exact ⟨_, _, rfl, rfl⟩

theorem shape_eq_of_written {floatRepr : ℚ → String} {floats : Set ℚ}
    (readable : ReadableFloats floatRepr floats) {a b : Json} (insideFirst : floatsIn floats a)
    (insideSecond : floatsIn floats b) {rest other : List Char}
    (same : written floatRepr a ++ rest = written floatRepr b ++ other) : a.shape = b.shape := by
  obtain ⟨head, text, shown, first⟩ := written_shape readable insideFirst
  obtain ⟨head', text', shown', second⟩ := written_shape readable insideSecond
  rw [shown, shown'] at same
  rw [← first, ← second, (List.cons.inj same).1]

/-- What a value promises about its text: it, and what follows it, can be read back. -/
def Readable (floatRepr : ℚ → String) (floats : Set ℚ) : Json → Prop :=
  Reads (written floatRepr) (floatsIn floats)

theorem number_readable {floatRepr : ℚ → String} {floats : Set ℚ}
    (readable : ReadableFloats floatRepr floats) {a : Json} (number : a.shape = .number)
    (inside : floatsIn floats a) : Readable floatRepr floats a := by
  have numeric {b : Json} (sort : b.shape = .number) (within : floatsIn floats b) :
      ∀ c ∈ written floatRepr b, isNumeric c = true := by
    cases b with
    | int value => exact fun c member => (int_isNumeric member).1
    | float value => exact readable.numeric value within
    | _ => simp [shape] at sort
  intro b within rest other ends endsOther same
  have sort : b.shape = .number := by
    rw [← number]
    exact (shape_eq_of_written readable inside within same).symm
  obtain ⟨text, tail⟩ := numeric_reads (numeric number inside) (numeric sort within) ends endsOther same
  refine ⟨?_, tail⟩
  have apart {m : Int} {value : ℚ} (listed : value ∈ floats) :
      (toString m).toList ≠ (floatRepr value).toList := by
    intro equal
    obtain ⟨c, member, fraction⟩ := readable.fractional value listed
    have plain := (int_isNumeric (equal ▸ member)).2
    simp [plain] at fraction
  cases a with
  | int m =>
    cases b with
    | int n => exact congrArg Json.int (int_text_injective text)
    | float value => exact absurd text (apart within)
    | _ => simp [shape] at sort
  | float value =>
    cases b with
    | int n => exact absurd text.symm (apart inside)
    | float value' =>
      exact congrArg Json.float (readable.injective inside within (String.toList_inj.mp text))
    | _ => simp [shape] at sort
  | _ => simp [shape] at number

/-- A member of an object is read back with its value. -/
theorem field_reads {floatRepr : ℚ → String} {floats : Set ℚ} {field : String × Json}
    (value : Readable floatRepr floats field.2) :
    Reads (writtenField floatRepr) (fun field => floatsIn floats field.2) field := by
  intro other within rest left ends endsOther same
  simp only [writtenField, List.append_assoc] at same
  obtain ⟨key, text⟩ := quoted_reads same
  obtain ⟨content, tail⟩ := value other.2 within ends endsOther (List.cons.inj text).2
  exact ⟨Prod.ext key content, tail⟩

mutual

/-- Every value is read back from its text. -/
theorem readable_value {floatRepr : ℚ → String} {floats : Set ℚ}
    (readable : ReadableFloats floatRepr floats) :
    ∀ a : Json, floatsIn floats a → Readable floatRepr floats a
  | .null, inside => by
    intro b within rest other _ _ same
    have sort := shape_eq_of_written readable inside within same
    cases b with
    | null => exact ⟨rfl, List.append_cancel_left same⟩
    | _ => simp [shape] at sort
  | .bool value, inside => by
    intro b within rest other _ _ same
    have sort := shape_eq_of_written readable inside within same
    cases b with
    | bool other => cases value <;> cases other <;> simp_all [written]
    | _ => simp [shape] at sort
  | .int _, inside => number_readable readable rfl inside
  | .float _, inside => number_readable readable rfl inside
  | .str value, inside => by
    intro b within rest other _ _ same
    have sort := shape_eq_of_written readable inside within same
    cases b with
    | str value' =>
      obtain ⟨text, tail⟩ := quoted_reads same
      exact ⟨congrArg Json.str text, tail⟩
    | _ => simp [shape] at sort
  | .arr items, inside => by
    intro b within rest other _ _ same
    have sort := shape_eq_of_written readable inside within same
    cases b with
    | arr items' =>
      have own : ∀ item ∈ items, floatsIn floats item := floatsInItems_iff.mp inside
      have others : ∀ item ∈ items', floatsIn floats item := floatsInItems_iff.mp within
      have opens (item : Json) (legal : floatsIn floats item) :
          ∃ head text, written floatRepr item = head :: text ∧ head ≠ ']' := by
        obtain ⟨head, text, shown, sort⟩ := written_shape readable legal
        refine ⟨head, text, shown, ?_⟩
        rintro rfl
        exact item.shape_ne_other sort.symm
      simp only [written, writtenItems_eq, List.cons_append, List.cons.injEq, true_and] at same
      obtain ⟨content, tail⟩ := enclosed_reads (by decide) (by decide) opens
        (readable_items readable items own) own others same
      exact ⟨congrArg Json.arr content, tail⟩
    | _ => simp [shape] at sort
  | .obj fields, inside => by
    intro b within rest other _ _ same
    have sort := shape_eq_of_written readable inside within same
    cases b with
    | obj fields' =>
      have own : ∀ field ∈ fields, floatsIn floats field.2 := floatsInFields_iff.mp inside
      have others : ∀ field ∈ fields', floatsIn floats field.2 := floatsInFields_iff.mp within
      have opens (field : String × Json) (_ : floatsIn floats field.2) :
          ∃ head text, writtenField floatRepr field = head :: text ∧ head ≠ '\x7d' := by
        rw [writtenField, toList_quoted]
        exact ⟨_, _, rfl, by decide⟩
      simp only [written, writtenFields_eq, List.cons_append, List.cons.injEq, true_and] at same
      obtain ⟨content, tail⟩ := enclosed_reads (by decide) (by decide) opens
        (fun field member => field_reads (readable_fields readable fields own field member))
        own others same
      exact ⟨congrArg Json.obj content, tail⟩
    | _ => simp [shape] at sort

theorem readable_items {floatRepr : ℚ → String} {floats : Set ℚ}
    (readable : ReadableFloats floatRepr floats) : ∀ items : List Json,
    (∀ item ∈ items, floatsIn floats item) → ∀ item ∈ items, Readable floatRepr floats item
  | [], _ => by simp
  | item :: rest, inside => by
    rw [List.forall_mem_cons] at inside ⊢
    exact ⟨readable_value readable item inside.1, readable_items readable rest inside.2⟩

theorem readable_fields {floatRepr : ℚ → String} {floats : Set ℚ}
    (readable : ReadableFloats floatRepr floats) : ∀ fields : List (String × Json),
    (∀ field ∈ fields, floatsIn floats field.2) → ∀ field ∈ fields, Readable floatRepr floats field.2
  | [], _ => by simp
  | (key, value) :: rest, inside => by
    rw [List.forall_mem_cons] at inside ⊢
    exact ⟨readable_value readable value inside.1, readable_fields readable rest inside.2⟩

end

/-- Texts of values with ordered keys agree exactly when the values do. -/
theorem written_injective {floatRepr : ℚ → String} {floats : Set ℚ}
    (readable : ReadableFloats floatRepr floats) {a b : Json} (insideFirst : floatsIn floats a)
    (insideSecond : floatsIn floats b) (same : written floatRepr a = written floatRepr b) :
    a = b := by
  have whole : written floatRepr a ++ [] = written floatRepr b ++ [] := by rw [same]
  exact (readable_value readable a insideFirst b insideSecond delimited_nil delimited_nil whole).1

end Values

section Canonical

variable {floatRepr : ℚ → String} {floats : Set ℚ}

theorem dumpsItems_eq (items : List Json) :
    dumpsItems floatRepr items = items.map (dumps floatRepr) := by
  induction items with
  | nil => rfl
  | cons item rest ih => simp [dumpsItems, ih]

theorem dumpsFields_eq (fields : List (String × Json)) : dumpsFields floatRepr fields =
    fields.map (fun field => (field.1, dumps floatRepr field.2)) := by
  induction fields with
  | nil => rfl
  | cons field rest ih => simp [dumpsFields, ih]

theorem sortedItems_eq (items : List Json) : sortedItems items = items.map sorted := by
  induction items with
  | nil => rfl
  | cons item rest ih => simp [sortedItems, ih]

/-- Sorting by key commutes with rewriting the values. -/
private theorem insertionSort_values {α β : Type*} (change : α → β) (fields : List (String × α)) :
    (fields.map (fun field => (field.1, change field.2))).insertionSort (fun a b => a.1 ≤ b.1) =
      (fields.insertionSort (fun a b => a.1 ≤ b.1)).map (fun field => (field.1, change field.2)) := by
  symm
  apply List.map_insertionSort
  exact fun _ _ _ _ => Iff.rfl

mutual

/-- `json.dumps` writes the value with its keys in order. -/
theorem toList_dumps : ∀ a : Json, (dumps floatRepr a).toList = written floatRepr (sorted a)
  | .null => by simp [dumps, written, sorted]
  | .bool value => by cases value <;> simp [dumps, written, sorted]
  | .int _ => rfl
  | .float _ => rfl
  | .str _ => rfl
  | .arr items => by
    have texts : (dumpsItems floatRepr items).map String.toList =
        writtenItems floatRepr (sortedItems items) := by
      rw [dumpsItems_eq, writtenItems_eq, sortedItems_eq, List.map_map, List.map_map]
      exact List.map_congr_left (toList_dumps_items items)
    simp only [dumps, sorted, written, String.toList_append, String.toList_intercalate, texts,
      ← intercalate_enclosed]
    rfl
  | .obj fields => by
    have texts : ((dumpsFields floatRepr fields).insertionSort (fun a b => a.1 ≤ b.1)).map
          (fun field => (quoted field.1 ++ ":" ++ field.2).toList) =
        writtenFields floatRepr ((sortedFields fields).insertionSort (fun a b => a.1 ≤ b.1)) := by
      rw [dumpsFields_eq, writtenFields_eq, sortedFields_eq, insertionSort_values,
        insertionSort_values, List.map_map, List.map_map]
      refine List.map_congr_left fun field member => ?_
      have value := toList_dumps_fields fields field ((List.mem_insertionSort _).mp member)
      simp [writtenField, value]
    simp only [dumps, joinFields, sorted, written, String.toList_append, String.toList_intercalate,
      List.map_map, Function.comp_def, ← intercalate_enclosed, ← texts]
    rfl

theorem toList_dumps_items : ∀ items : List Json, ∀ item ∈ items,
    (dumps floatRepr item).toList = written floatRepr (sorted item)
  | [] => by simp
  | item :: rest => by
    rw [List.forall_mem_cons]
    exact ⟨toList_dumps item, toList_dumps_items rest⟩

theorem toList_dumps_fields : ∀ fields : List (String × Json), ∀ field ∈ fields,
    (dumps floatRepr field.2).toList = written floatRepr (sorted field.2)
  | [] => by simp
  | (_, value) :: rest => by
    rw [List.forall_mem_cons]
    exact ⟨toList_dumps value, toList_dumps_fields rest⟩

end

mutual

theorem floatsIn_sorted : ∀ {a : Json}, floatsIn floats a → floatsIn floats (sorted a)
  | .null, inside => inside
  | .bool _, inside => inside
  | .int _, inside => inside
  | .float _, inside => inside
  | .str _, inside => inside
  | .arr items, inside => floatsIn_sortedItems inside
  | .obj fields, inside => by
    have members := floatsIn_sortedFields inside
    simp only [sorted, floatsIn, floatsInFields_iff, List.mem_insertionSort] at members ⊢
    exact members

theorem floatsIn_sortedItems : ∀ {items : List Json}, floatsInItems floats items →
    floatsInItems floats (sortedItems items)
  | [], inside => inside
  | _ :: _, inside => ⟨floatsIn_sorted inside.1, floatsIn_sortedItems inside.2⟩

theorem floatsIn_sortedFields : ∀ {fields : List (String × Json)}, floatsInFields floats fields →
    floatsInFields floats (sortedFields fields)
  | [], inside => inside
  | (_, _) :: _, inside => ⟨floatsIn_sorted inside.1, floatsIn_sortedFields inside.2⟩

end

theorem dumps_eq_of_sorted (floatRepr : ℚ → String) {a b : Json} (same : sorted a = sorted b) :
    dumps floatRepr a = dumps floatRepr b := by
  rw [← String.toList_inj, toList_dumps, toList_dumps, same]

/-- Values have one canonical text exactly when they have one normal form. -/
theorem dumps_eq_iff_sorted (readable : ReadableFloats floatRepr floats) {a b : Json}
    (insideFirst : floatsIn floats a) (insideSecond : floatsIn floats b) :
    dumps floatRepr a = dumps floatRepr b ↔ sorted a = sorted b := by
  refine ⟨fun same => ?_, dumps_eq_of_sorted floatRepr⟩
  rw [← String.toList_inj, toList_dumps, toList_dumps] at same
  exact written_injective readable (floatsIn_sorted insideFirst) (floatsIn_sorted insideSecond) same

end Canonical

end Json

end RegressionDetection.Foundation
