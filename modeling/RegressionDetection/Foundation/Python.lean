import RegressionDetection.Foundation.Json

/-! What the Python runtime contributes: the Unicode tables, the printing of
floats and SHA-256. Each is a parameter with the bounds its documentation gives. -/

namespace RegressionDetection.Foundation

/-- A character of a lower-case hexadecimal digest. -/
def isLowerHex (c : Char) : Bool := ('0' ≤ c && c ≤ '9') || ('a' ≤ c && c ≤ 'f')

/-- The text of a SHA-256 digest: `^[a-f0-9]{64}$`. -/
structure HexDigest where
  text : String
  sized : text.length = 64
  lowerHex : text.toList.all isLowerHex = true
deriving DecidableEq

theorem HexDigest.ext_text {first second : HexDigest} (same : first.text = second.text) :
    first = second := by
  cases first
  cases second
  cases same
  rfl

/-- `"0" * 64`. -/
def HexDigest.zero : HexDigest where
  text := "0000000000000000000000000000000000000000000000000000000000000000"
  sized := by decide
  lowerHex := by decide

/-- `uuid4().hex`. -/
structure Uuid where
  text : String
  sized : text.length = 32
  lowerHex : text.toList.all isLowerHex = true
deriving DecidableEq

theorem Uuid.no_underscore (uuid : Uuid) : '_' ∉ uuid.text.toList := by
  intro member
  have digit := List.all_eq_true.mp uuid.lowerHex '_' member
  exact absurd digit (by decide)

structure Runtime where
  /-- The value of a decimal digit of any script. -/
  decimal : Char → Option Nat
  /-- `str.isprintable` on one character beyond ASCII. -/
  printable : Char → Bool
  /-- `float.__repr__`: at most 17 digits, sign, point and exponent. -/
  floatRepr : ℚ → String
  floatRepr_short : ∀ value, (floatRepr value).length ≤ 24
  /-- `sha256(text.encode()).hexdigest()`. -/
  sha256 : String → HexDigest

/-- An interpreter with ASCII tables only, for evaluation. -/
def Runtime.ascii : Runtime where
  decimal c := if '0' ≤ c ∧ c ≤ '9' then some (c.toNat - '0'.toNat) else none
  printable _ := false
  floatRepr value := if value = 0 then "0.0" else "1.0"
  floatRepr_short value := by split <;> decide
  sha256 _ := HexDigest.zero

end RegressionDetection.Foundation
