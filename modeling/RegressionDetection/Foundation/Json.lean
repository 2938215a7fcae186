import Mathlib.Algebra.Order.Ring.Rat
import Mathlib.Data.List.Sort
import Mathlib.Data.String.Basic
import RegressionDetection.Foundation.Text

/-! JSON values with finite numbers, and Python's compact `json.dumps` with
sorted keys. Objects keep the order of their keys, as a `dict` does. -/

namespace RegressionDetection.Foundation

inductive Json where
  | null
  | bool (value : Bool)
  | int (value : Int)
  | float (value : ℚ)
  | str (value : String)
  | arr (items : List Json)
  | obj (fields : List (String × Json))

namespace Json

mutual

/-- Structural equality, as a computation. -/
def same : Json → Json → Bool
  | .null, .null => true
  | .bool a, .bool b => a == b
  | .int a, .int b => a == b
  | .float a, .float b => decide (a = b)
  | .str a, .str b => a == b
  | .arr a, .arr b => sameItems a b
  | .obj a, .obj b => sameFields a b
  | _, _ => false

def sameItems : List Json → List Json → Bool
  | [], [] => true
  | a :: as, b :: bs => same a b && sameItems as bs
  | _, _ => false

def sameFields : List (String × Json) → List (String × Json) → Bool
  | [], [] => true
  | (k, a) :: as, (l, b) :: bs => k == l && same a b && sameFields as bs
  | _, _ => false

end

mutual

theorem eq_of_same : ∀ {a b : Json}, same a b = true → a = b
  | .null, b, h => by cases b <;> simp_all [same]
  | .bool _, b, h => by cases b <;> simp_all [same]
  | .int _, b, h => by cases b <;> simp_all [same]
  | .float _, b, h => by cases b <;> simp_all [same]
  | .str _, b, h => by cases b <;> simp_all [same]
  | .arr items, b, h => by
    cases b with
    | arr others => exact congrArg Json.arr (eq_of_sameItems (by simpa [same] using h))
    | _ => simp [same] at h
  | .obj fields, b, h => by
    cases b with
    | obj others => exact congrArg Json.obj (eq_of_sameFields (by simpa [same] using h))
    | _ => simp [same] at h

theorem eq_of_sameItems : ∀ {a b : List Json}, sameItems a b = true → a = b
  | [], b, h => by cases b <;> simp_all [sameItems]
  | _ :: _, [], h => by simp [sameItems] at h
  | a :: as, b :: bs, h => by
    simp only [sameItems, Bool.and_eq_true] at h
    rw [eq_of_same h.1, eq_of_sameItems h.2]

theorem eq_of_sameFields : ∀ {a b : List (String × Json)}, sameFields a b = true → a = b
  | [], b, h => by cases b <;> simp_all [sameFields]
  | _ :: _, [], h => by simp [sameFields] at h
  | (k, a) :: as, (l, b) :: bs, h => by
    simp only [sameFields, Bool.and_eq_true, beq_iff_eq] at h
    rw [h.1.1, eq_of_same h.1.2, eq_of_sameFields h.2]

end

mutual

theorem same_self : ∀ a : Json, same a a = true
  | .null => rfl
  | .bool _ => by simp [same]
  | .int _ => by simp [same]
  | .float _ => by simp [same]
  | .str _ => by simp [same]
  | .arr items => by simpa [same] using sameItems_self items
  | .obj fields => by simpa [same] using sameFields_self fields

theorem sameItems_self : ∀ a : List Json, sameItems a a = true
  | [] => rfl
  | a :: as => by simp [sameItems, same_self a, sameItems_self as]

theorem sameFields_self : ∀ a : List (String × Json), sameFields a a = true
  | [] => rfl
  | (_, a) :: as => by simp [sameFields, same_self a, sameFields_self as]

end

instance : DecidableEq Json := fun a b =>
  decidable_of_iff (same a b = true) ⟨eq_of_same, fun h => h ▸ same_self a⟩

/-- The escapes of a JSON string literal with `ensure_ascii=False`. -/
def escapeChar (c : Char) : List Char :=
  if c = '"' then ['\\', '"']
  else if c = '\\' then ['\\', '\\']
  else if c = '\n' then ['\\', 'n']
  else if c = '\r' then ['\\', 'r']
  else if c = '\t' then ['\\', 't']
  else if c.toNat = 8 then ['\\', 'b']
  else if c.toNat = 12 then ['\\', 'f']
  else if c.toNat < 32 then ['\\', 'u'] ++ hexWidth 4 c.toNat
  else [c]

def quoted (text : String) : String :=
  String.ofList ('"' :: (text.toList.flatMap escapeChar ++ ['"']))

/-- Rendered members of an object, in key order. -/
def joinFields (fields : List (String × String)) : String :=
  ",".intercalate ((fields.insertionSort (fun a b => a.1 ≤ b.1)).map
    (fun field => quoted field.1 ++ ":" ++ field.2))

mutual

/-- `json.dumps(value, ensure_ascii=False, sort_keys=True, separators=(",", ":"))`;
`floatRepr` is `float.__repr__`. -/
def dumps (floatRepr : ℚ → String) : Json → String
  | .null => "null"
  | .bool true => "true"
  | .bool false => "false"
  | .int value => toString value
  | .float value => floatRepr value
  | .str value => quoted value
  | .arr items => "[" ++ ",".intercalate (dumpsItems floatRepr items) ++ "]"
  | .obj fields => "\x7b" ++ joinFields (dumpsFields floatRepr fields) ++ "\x7d"

def dumpsItems (floatRepr : ℚ → String) : List Json → List String
  | [] => []
  | item :: rest => dumps floatRepr item :: dumpsItems floatRepr rest

def dumpsFields (floatRepr : ℚ → String) : List (String × Json) → List (String × String)
  | [] => []
  | (key, value) :: rest => (key, dumps floatRepr value) :: dumpsFields floatRepr rest

end

example : dumps (fun _ => "0.5") (.obj [("b", .arr [.null, .float (1 / 2)]), ("a", .int (-3))]) =
    "\x7b\"a\":-3,\"b\":[null,0.5]\x7d" := by decide +kernel

/-- The escapes of a JSON string literal with `ensure_ascii=True`: beyond ASCII a code
unit of UTF-16 at a time. -/
def escapeAscii (c : Char) : List Char :=
  if c.toNat < 127 then escapeChar c
  else if c.toNat ≤ 0xffff then ['\\', 'u'] ++ hexWidth 4 c.toNat
  else
    let offset := c.toNat - 0x10000
    ['\\', 'u'] ++ hexWidth 4 (0xd800 + offset / 1024) ++
      ['\\', 'u'] ++ hexWidth 4 (0xdc00 + offset % 1024)

def quotedAscii (text : String) : String :=
  String.ofList ('"' :: (text.toList.flatMap escapeAscii ++ ['"']))

mutual

/-- `json.dumps(value)`. -/
def dumpsAscii (floatRepr : ℚ → String) : Json → String
  | .null => "null"
  | .bool true => "true"
  | .bool false => "false"
  | .int value => toString value
  | .float value => floatRepr value
  | .str value => quotedAscii value
  | .arr items => "[" ++ ", ".intercalate (dumpsAsciiItems floatRepr items) ++ "]"
  | .obj fields => "\x7b" ++ ", ".intercalate (dumpsAsciiFields floatRepr fields) ++ "\x7d"

def dumpsAsciiItems (floatRepr : ℚ → String) : List Json → List String
  | [] => []
  | item :: rest => dumpsAscii floatRepr item :: dumpsAsciiItems floatRepr rest

def dumpsAsciiFields (floatRepr : ℚ → String) : List (String × Json) → List String
  | [] => []
  | (key, value) :: rest =>
    (quotedAscii key ++ ": " ++ dumpsAscii floatRepr value) :: dumpsAsciiFields floatRepr rest

end

example : dumpsAscii (fun _ => "0.5") (.obj [("b", .arr [.null, .str "✅"]), ("a", .str "😀\n")]) =
    "\x7b\"b\": [null, \"\\u2705\"], \"a\": \"\\ud83d\\ude00\\n\"\x7d" := by decide +kernel

theorem length_escapeChar (c : Char) : (escapeChar c).length ≤ 6 := by
  unfold escapeChar
  repeat' split
  all_goals simp [length_hexWidth]

/-- A surrogate pair is the longest escape. -/
theorem length_escapeAscii (c : Char) : (escapeAscii c).length ≤ 12 := by
  have short := length_escapeChar c
  unfold escapeAscii
  repeat' split
  · omega
  · simp [length_hexWidth]
  · simp [length_hexWidth]

theorem length_quotedAscii (text : String) :
    (quotedAscii text).length ≤ 12 * text.length + 2 := by
  have grows (chars : List Char) : (chars.flatMap escapeAscii).length ≤ 12 * chars.length := by
    induction chars with
    | nil => simp
    | cons c rest ih =>
      have own := length_escapeAscii c
      simp only [List.flatMap_cons, List.length_append, List.length_cons]
      omega
  have body := grows text.toList
  rw [String.length_toList] at body
  simp only [quotedAscii, String.length_ofList, List.length_cons, List.length_append,
    List.length_nil]
  omega

end Json

end RegressionDetection.Foundation
