import Mathlib.Data.Int.Log
import Mathlib.Data.Rat.Floor
import RegressionDetection.Foundation.JsonText
import RegressionDetection.Foundation.Markup

/-! Python's `format` of finite numbers: fixed point, percent, general format, signs and
thousands. None of its texts has a character that shapes a document. -/

namespace RegressionDetection.Foundation

open Json

section Formats

/-- The nearest integer, ties to the even one. -/
def roundHalfEven (value : ℚ) : ℤ :=
  let below := value.floor
  if value - below < 1 / 2 then below
  else if 1 / 2 < value - below then below + 1
  else if below % 2 = 0 then below
  else below + 1

/-- A number without its sign, rounded to a fixed number of places. -/
def unsignedFixed (places : Nat) (size : ℚ) : String :=
  let scaled := (roundHalfEven (size * 10 ^ places)).toNat
  if places = 0 then toString scaled
  else toString (scaled / 10 ^ places) ++ "." ++
    String.ofList ((toString (scaled % 10 ^ places)).toList.leftpad places '0')

/-- The sign; `explicit` is the `+` of a format specification. -/
def signText (explicit : Bool) (value : ℚ) : String :=
  if value < 0 then "-" else if explicit then "+" else ""

/-- `.{places}f`. -/
def fixedText (explicit : Bool) (places : Nat) (value : ℚ) : String :=
  signText explicit value ++ unsignedFixed places |value|

/-- `.{places}%`. -/
def percentText (explicit : Bool) (places : Nat) (value : ℚ) : String :=
  fixedText explicit places (value * 100) ++ "%"

example : fixedText false 1 (49 / 4) = "12.2" ∧ fixedText true 1 (-1 / 100) = "-0.0" ∧
    percentText true 2 (7 / 8) = "+87.50%" := by decide +kernel

/-- Six significant digits of a positive number, and its decimal exponent. -/
def significant (size : ℚ) : Nat × ℤ :=
  let power := Int.log 10 size
  let digits := (roundHalfEven (size / 10 ^ (power - 5))).toNat
  if digits = 10 ^ 6 then (10 ^ 5, power + 1) else (digits, power)

def trimZeros (digits : List Char) : List Char :=
  (digits.reverse.dropWhile (fun c => c == '0')).reverse

/-- Digits around a point, which goes with an empty fraction. -/
def pointed (whole fraction : List Char) : List Char :=
  match trimZeros fraction with
  | [] => whole
  | fraction => whole ++ '.' :: fraction

/-- Significant digits in fixed point or with an exponent of two digits at least. -/
def generalDigits (digits : List Char) (power : ℤ) : List Char :=
  if power < -4 ∨ 6 ≤ power then
    pointed (digits.take 1) (digits.drop 1) ++ 'e' :: (if power < 0 then '-' else '+') ::
      (toString power.natAbs).toList.leftpad 2 '0'
  else if power < 0 then
    pointed ['0'] (List.replicate (power.natAbs - 1) '0' ++ digits)
  else pointed (digits.take (power.toNat + 1)) (digits.drop (power.toNat + 1))

/-- `g`. -/
def generalText (explicit : Bool) (value : ℚ) : String :=
  if value = 0 then signText explicit value ++ "0"
  else
    let (digits, power) := significant |value|
    signText explicit value ++ String.ofList (generalDigits (toString digits).toList power)

example : generalText true (123456789 / 10) = "+1.23457e+07" ∧
    generalText true (-1 / 800) = "-0.00125" ∧ generalText true 250 = "+250" := by decide +kernel

/-- Digits from the last one on, a comma after every three. -/
def groupDigits : List Char → List Char
  | a :: b :: c :: d :: rest => a :: b :: c :: ',' :: groupDigits (d :: rest)
  | digits => digits

/-- `format(n, ",")`. -/
def grouped (n : Nat) : String :=
  String.ofList (groupDigits (toString n).toList.reverse).reverse

example : grouped 1234567 = "1,234,567" := by decide

/-- `str(flag)`. -/
def flagText (flag : Bool) : String := if flag then "True" else "False"

end Formats

section Plain

theorem not_isMark_of_isNumeric {c : Char} (numeric : isNumeric c = true) : isMark c = false := by
  have apart (d : Char) (other : isNumeric d = false) : c ≠ d := by
    rintro rfl
    simp [other] at numeric
  simp [isMark, apart '<' (by decide), apart '>' (by decide), apart '"' (by decide),
    apart '\'' (by decide)]

theorem marks_int (n : ℤ) : marks (toString n) = [] :=
  marks_of_alphabet (fun _ => not_isMark_of_isNumeric) fun _ member => (int_isNumeric member).1

theorem marks_nat (n : Nat) : marks (toString n) = [] := marks_int n

/-- The form in which `simp` meets it. -/
@[simp] theorem marks_natRepr (n : Nat) : marks n.repr = [] := marks_nat n

/-- The digits of a number shape nothing, in any order and with any padding. -/
private theorem nat_plain (n : Nat) : ∀ c ∈ (toString n).toList, isMark c = false := by
  intro c member
  have digit : c ∈ (toString (n : ℤ)).toList := member
  exact not_isMark_of_isNumeric (int_isNumeric digit).1

private theorem marks_ofList {chars : List Char} (plain : ∀ c ∈ chars, isMark c = false) :
    marks (String.ofList chars) = [] := by
  simpa [marks] using plain

private theorem leftpad_plain {chars : List Char} (width : Nat)
    (plain : ∀ c ∈ chars, isMark c = false) : ∀ c ∈ chars.leftpad width '0', isMark c = false := by
  intro c member
  rcases List.mem_append.mp member with padding | digit
  · rw [List.eq_of_mem_replicate padding]
    decide
  · exact plain c digit

@[simp] theorem marks_signText (explicit : Bool) (value : ℚ) : marks (signText explicit value) = [] := by
  unfold signText
  split
  · decide
  · cases explicit <;> decide

@[simp] theorem marks_unsignedFixed (places : Nat) (size : ℚ) : marks (unsignedFixed places size) = [] := by
  unfold unsignedFixed
  split
  · exact marks_nat _
  · have point : marks "." = [] := by decide
    rw [marks_append, marks_append, marks_nat, point, marks_ofList (leftpad_plain places (nat_plain _))]
    rfl

@[simp] theorem marks_fixedText (explicit : Bool) (places : Nat) (value : ℚ) :
    marks (fixedText explicit places value) = [] := by
  simp [fixedText]

@[simp] theorem marks_percentText (explicit : Bool) (places : Nat) (value : ℚ) :
    marks (percentText explicit places value) = [] := by
  have sign : marks "%" = [] := by decide
  simp [percentText, sign]

private theorem pointed_plain {whole fraction : List Char} (plainWhole : ∀ c ∈ whole, isMark c = false)
    (plainFraction : ∀ c ∈ fraction, isMark c = false) :
    ∀ c ∈ pointed whole fraction, isMark c = false := by
  have trimmed : ∀ c ∈ trimZeros fraction, isMark c = false := by
    intro c member
    have kept := (List.dropWhile_sublist _).subset (List.mem_reverse.mp member)
    exact plainFraction c (List.mem_reverse.mp kept)
  unfold pointed
  split
  · exact plainWhole
  · rename_i rest _
    intro c member
    rcases List.mem_append.mp member with own | later
    · exact plainWhole c own
    · rcases List.mem_cons.mp later with rfl | digit
      · decide
      · exact trimmed c digit

private theorem generalDigits_plain {digits : List Char} (plain : ∀ c ∈ digits, isMark c = false)
    (power : ℤ) : ∀ c ∈ generalDigits digits power, isMark c = false := by
  have before (n : Nat) : ∀ c ∈ digits.take n, isMark c = false :=
    fun c member => plain c (List.mem_of_mem_take member)
  have after (n : Nat) : ∀ c ∈ digits.drop n, isMark c = false :=
    fun c member => plain c (List.mem_of_mem_drop member)
  unfold generalDigits
  split
  · intro c member
    rcases List.mem_append.mp member with mantissa | exponent
    · exact pointed_plain (before 1) (after 1) c mantissa
    · simp only [List.mem_cons] at exponent
      rcases exponent with rfl | rfl | digit
      · decide
      · split <;> decide
      · exact leftpad_plain 2 (nat_plain _) c digit
  · split
    · refine pointed_plain (by simp [isMark]) fun c member => ?_
      rcases List.mem_append.mp member with zero | digit
      · rw [List.eq_of_mem_replicate zero]
        decide
      · exact plain c digit
    · exact pointed_plain (before _) (after _)

@[simp] theorem marks_generalText (explicit : Bool) (value : ℚ) :
    marks (generalText explicit value) = [] := by
  unfold generalText
  split
  · have zero : marks "0" = [] := by decide
    simp [zero]
  · rw [marks_append, marks_signText, marks_ofList (generalDigits_plain (nat_plain _) _)]
    rfl

private theorem groupDigits_plain {digits : List Char} (plain : ∀ c ∈ digits, isMark c = false) :
    ∀ c ∈ groupDigits digits, isMark c = false := by
  fun_induction groupDigits digits with
  | case1 a b c d rest ih =>
    have later := ih fun e member => plain e (by simp only [List.mem_cons] at member ⊢; tauto)
    intro e member
    simp only [List.mem_cons] at member
    rcases member with rfl | rfl | rfl | rfl | digit
    · exact plain _ (by simp)
    · exact plain _ (by simp)
    · exact plain _ (by simp)
    · decide
    · exact later e digit
  | case2 => exact plain

@[simp] theorem marks_grouped (n : Nat) : marks (grouped n) = [] := by
  have plain : ∀ c ∈ groupDigits (toString n).toList.reverse, isMark c = false :=
    groupDigits_plain fun c member => nat_plain n c (List.mem_reverse.mp member)
  exact marks_ofList fun c member => plain c (List.mem_reverse.mp member)

@[simp] theorem marks_flagText (flag : Bool) : marks (flagText flag) = [] := by
  cases flag <;> decide

end Plain

end RegressionDetection.Foundation
