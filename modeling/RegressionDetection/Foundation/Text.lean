import Mathlib.Data.List.Basic
import Mathlib.Data.List.TakeWhile

/-! Python's string and bytes methods on character lists: prefixes, bounded
splitting, hexadecimal bytes and `repr`. -/

namespace RegressionDetection.Foundation

/-- `str.removeprefix`, with `none` when `str.startswith` is false. -/
def dropPrefix? (lead : List Char) (text : List Char) : Option (List Char) :=
  if lead.isPrefixOf text then some (text.drop lead.length) else none

theorem dropPrefix?_append (lead text : List Char) : dropPrefix? lead (lead ++ text) = some text := by
  simp [dropPrefix?]

/-- `str.split(sep, limit)` for a one-character separator. -/
def splitMax (sep : Char) : Nat → List Char → List (List Char)
  | 0, text => [text]
  | limit + 1, text =>
    match text.dropWhile (fun c => c != sep) with
    | [] => [text]
    | _ :: rest => text.takeWhile (fun c => c != sep) :: splitMax sep limit rest

theorem splitMax_append (sep : Char) (limit : Nat) {head : List Char} (clean : sep ∉ head)
    (rest : List Char) :
    splitMax sep (limit + 1) (head ++ sep :: rest) = head :: splitMax sep limit rest := by
  have plain : ∀ c ∈ head, (c != sep) = true := by
    intro c member
    have other : c ≠ sep := fun same => clean (same ▸ member)
    simpa using other
  rw [splitMax, List.dropWhile_append_of_pos plain, List.takeWhile_append_of_pos plain]
  simp

/-- One hexadecimal digit, lower case. -/
def hexDigit (n : Nat) : Char :=
  if n < 10 then Char.ofNat ('0'.toNat + n) else Char.ofNat ('a'.toNat + (n - 10))

def hexValue (c : Char) : Option Nat :=
  if '0' ≤ c ∧ c ≤ '9' then some (c.toNat - '0'.toNat)
  else if 'a' ≤ c ∧ c ≤ 'f' then some (c.toNat - 'a'.toNat + 10)
  else if 'A' ≤ c ∧ c ≤ 'F' then some (c.toNat - 'A'.toNat + 10)
  else none

/-- `bytes.hex`. -/
def toHex (bytes : List UInt8) : List Char :=
  bytes.flatMap (fun byte => [hexDigit (byte.toNat / 16), hexDigit (byte.toNat % 16)])

/-- The ASCII whitespace that `bytes.fromhex` skips between two bytes. -/
def isAsciiSpace (c : Char) : Bool := c = ' ' || ('\t' ≤ c && c ≤ '\r')

/-- `bytes.fromhex`; `none` is its ValueError. -/
def fromHex : List Char → Option (List UInt8)
  | [] => some []
  | [c] => if isAsciiSpace c then some [] else none
  | high :: low :: rest =>
    if isAsciiSpace high then fromHex (low :: rest)
    else
      match hexValue high, hexValue low with
      | some h, some l => (fromHex rest).map (fun bytes => UInt8.ofNat (16 * h + l) :: bytes)
      | _, _ => none

private theorem hexDigit_reads : ∀ n : Fin 16,
    hexValue (hexDigit n) = some n.val ∧ isAsciiSpace (hexDigit n) = false ∧ hexDigit n ≠ ':' := by
  decide

/-- Bytes read back from their own hexadecimal text. -/
theorem fromHex_toHex (bytes : List UInt8) : fromHex (toHex bytes) = some bytes := by
  induction bytes with
  | nil => rfl
  | cons byte rest ih =>
    have bound := byte.toNat_lt
    obtain ⟨highValue, highSpace, _⟩ := hexDigit_reads ⟨byte.toNat / 16, by omega⟩
    obtain ⟨lowValue, _, _⟩ := hexDigit_reads ⟨byte.toNat % 16, by omega⟩
    have rebuilt : 16 * (byte.toNat / 16) + byte.toNat % 16 = byte.toNat := by omega
    have body : toHex (byte :: rest) =
        hexDigit (byte.toNat / 16) :: hexDigit (byte.toNat % 16) :: toHex rest := rfl
    rw [body, fromHex]
    simp [highValue, highSpace, lowValue, ih, rebuilt]

/-- Hexadecimal text never contains the separator of a stored digest. -/
theorem colon_not_mem_toHex (bytes : List UInt8) : ':' ∉ toHex bytes := by
  intro member
  obtain ⟨byte, _, digit⟩ := List.mem_flatMap.mp member
  have bound := byte.toNat_lt
  have high := (hexDigit_reads ⟨byte.toNat / 16, by omega⟩).2.2
  have low := (hexDigit_reads ⟨byte.toNat % 16, by omega⟩).2.2
  rcases List.mem_cons.mp digit with same | same
  · exact high same.symm
  · exact low (List.mem_singleton.mp same).symm

/-- Fixed-width hexadecimal of a code point, as in a `repr` escape. -/
def hexWidth : Nat → Nat → List Char
  | 0, _ => []
  | width + 1, n => hexWidth width (n / 16) ++ [hexDigit (n % 16)]

theorem length_hexWidth (width n : Nat) : (hexWidth width n).length = width := by
  induction width generalizing n with
  | zero => rfl
  | succ width ih => simp [hexWidth, ih]

/-- How `repr` writes one character inside the given quote. -/
def reprChar (printable : Char → Bool) (quote : Char) (c : Char) : List Char :=
  if c = quote || c = '\\' then ['\\', c]
  else if c = '\t' then ['\\', 't']
  else if c = '\n' then ['\\', 'n']
  else if c = '\r' then ['\\', 'r']
  else if c.toNat < 32 || c.toNat = 127 then ['\\', 'x'] ++ hexWidth 2 c.toNat
  else if c.toNat < 127 || printable c then [c]
  else if c.toNat ≤ 0xff then ['\\', 'x'] ++ hexWidth 2 c.toNat
  else if c.toNat ≤ 0xffff then ['\\', 'u'] ++ hexWidth 4 c.toNat
  else ['\\', 'U'] ++ hexWidth 8 c.toNat

/-- `repr(str)`; `printable` is `str.isprintable` beyond ASCII. -/
def pyRepr (printable : Char → Bool) (text : String) : String :=
  let quote := if '\'' ∈ text.toList ∧ '"' ∉ text.toList then '"' else '\''
  String.ofList (quote :: (text.toList.flatMap (reprChar printable quote) ++ [quote]))

private theorem reprChar_length_pos (printable : Char → Bool) (quote c : Char) :
    1 ≤ (reprChar printable quote c).length := by
  unfold reprChar
  repeat' split
  all_goals simp

/-- Quoting never shortens a text. -/
theorem length_pyRepr (printable : Char → Bool) (text : String) :
    text.length + 2 ≤ (pyRepr printable text).length := by
  have grows (quote : Char) (chars : List Char) :
      chars.length ≤ (chars.flatMap (reprChar printable quote)).length := by
    induction chars with
    | nil => simp
    | cons c rest ih =>
      have own := reprChar_length_pos printable quote c
      simp only [List.flatMap_cons, List.length_append, List.length_cons]
      omega
  have body := grows (if '\'' ∈ text.toList ∧ '"' ∉ text.toList then '"' else '\'') text.toList
  simp only [pyRepr, String.length_ofList, List.length_cons, List.length_append,
    List.length_nil]
  rw [String.length_toList] at body
  omega

example : pyRepr (fun _ => true) "it's" = "\"it's\"" := by decide

end RegressionDetection.Foundation
