import Mathlib.Algebra.Group.Nat.Defs
import Mathlib.Data.List.DropRight
import RegressionDetection.Foundation.Text

/-! `int(text)` on the texts of HTTP headers, whose characters are those of Latin-1: white space
around, a sign, and decimal digits with single underscores between them. -/

namespace RegressionDetection.Foundation

/-- The white space that `int` skips. -/
def isIntSpace (c : Char) : Bool := isAsciiSpace c || c.toNat = 0x85 || c.toNat = 0xa0

/-- The digits of a literal, whose underscores each stand between two of them. -/
def literalDigits : List Char → Option (List Char)
  | [] => none
  | [c] => if c.isDigit then some [c] else none
  | c :: '_' :: rest => if c.isDigit then (literalDigits rest).map (c :: ·) else none
  | c :: rest => if c.isDigit then (literalDigits rest).map (c :: ·) else none

/-- `sys.get_int_max_str_digits()`. -/
def maxStrDigits : Nat := 4300

/-- The value of an unsigned literal. -/
def literalValue (text : List Char) : Option Nat :=
  (literalDigits text).bind fun digits =>
    if digits.length ≤ maxStrDigits then some (Nat.ofDigitChars 10 digits 0) else none

/-- The value of a literal with an optional sign. -/
def signedValue : List Char → Option Int
  | '-' :: rest => (literalValue rest).map fun value => -(value : Int)
  | '+' :: rest => (literalValue rest).map Int.ofNat
  | rest => (literalValue rest).map Int.ofNat

/-- `int(text)`, or `none` where it raises `ValueError`. -/
def pythonInt (text : String) : Option Int :=
  signedValue ((text.toList.dropWhile isIntSpace).rdropWhile isIntSpace)

section Decimals

theorem literalDigits_of_digits {text : List Char} (some : text ≠ [])
    (digits : ∀ c ∈ text, c.isDigit = true) : literalDigits text = .some text := by
  induction text with
  | nil => exact absurd rfl some
  | cons c rest ih =>
    obtain ⟨head, tail⟩ := List.forall_mem_cons.mp digits
    cases rest with
    | nil => simp [literalDigits, head]
    | cons d rest =>
      have plain : d ≠ '_' := fun same => absurd (tail d List.mem_cons_self) (by rw [same]; decide)
      have later := ih (List.cons_ne_nil d rest) tail
      rw [literalDigits, if_pos head, later, Option.map_some]
      · exact List.cons_ne_nil d rest
      · exact fun others same => plain (List.cons.inj same).1

/-- The digits of a number are no space, sign or underscore. -/
theorem isIntSpace_of_digit {c : Char} (digit : c.isDigit = true) : isIntSpace c = false := by
  have bounds : 48 ≤ c.toNat ∧ c.toNat ≤ 57 := Char.isDigit_iff_toNat.mp digit
  have space : isAsciiSpace c = false := by
    unfold isAsciiSpace
    simp only [Bool.or_eq_false_iff, decide_eq_false_iff_not, Bool.and_eq_false_iff]
    refine ⟨fun same => absurd (same ▸ digit) (by decide), .inr fun within => ?_⟩
    have below : c.toNat ≤ '\r'.toNat := within
    exact absurd (bounds.1.trans below) (by decide)
  unfold isIntSpace
  rw [space]
  simp only [Bool.false_or, Bool.or_eq_false_iff, decide_eq_false_iff_not]
  omega

theorem trimmed_of_digits {text : List Char} (digits : ∀ c ∈ text, c.isDigit = true) :
    (text.dropWhile isIntSpace).rdropWhile isIntSpace = text := by
  have plain : ∀ c ∈ text, isIntSpace c = false := fun c member => isIntSpace_of_digit (digits c member)
  have front : text.dropWhile isIntSpace = text := by
    cases text with
    | nil => rfl
    | cons c rest => exact List.dropWhile_cons_of_neg (by simp [plain c List.mem_cons_self])
  rw [front, List.rdropWhile_eq_self_iff]
  intro some
  simp [plain _ (List.getLast_mem some)]

theorem signedValue_of_digits {text : List Char} (digits : ∀ c ∈ text, c.isDigit = true) :
    signedValue text = (literalValue text).map Int.ofNat := by
  unfold signedValue
  split
  · exact absurd (digits '-' List.mem_cons_self) (by decide)
  · exact absurd (digits '+' List.mem_cons_self) (by decide)
  · rfl

/-- A number is read back from its decimal text, unless it has too many digits. -/
theorem pythonInt_decimal (n : Nat) :
    pythonInt (toString n) = if n < 10 ^ maxStrDigits then some (n : Int) else none := by
  have digits : ∀ c ∈ Nat.toDigits 10 n, c.isDigit = true :=
    fun c member => Nat.isDigit_of_mem_toDigits (by decide) (by decide) member
  have text : (toString n).toList = Nat.toDigits 10 n := Nat.toList_repr
  have sized := @Nat.length_toDigits_le_iff 10 n maxStrDigits (by decide) (by decide)
  rw [pythonInt, text, trimmed_of_digits digits, signedValue_of_digits digits, literalValue,
    literalDigits_of_digits Nat.toDigits_ne_nil digits, Option.bind_some]
  split
  · rename_i short
    rw [if_pos (sized.mp short), Nat.ofDigitChars_ten_toDigits]
    rfl
  · rename_i long
    rw [if_neg fun below => long (sized.mpr below)]
    rfl

end Decimals

end RegressionDetection.Foundation
