/-
# Texts

The operations on texts that the endpoints write durations with and read them
back: replacing a part, splitting, and reading whole numbers.
-/

import Goveling.Math.DigitText
import Goveling.Python.Builtins

namespace Goveling.Python

open Goveling.Math

/-- The characters of a text after a replacement from left to right. A part that was
found is skipped before the search goes on. -/
def replaceChars (part new : List Char) : ℕ → List Char → List Char
  | _, [] => []
  | skip + 1, _ :: rest => replaceChars part new skip rest
  | 0, c :: rest =>
      if part.isPrefixOf (c :: rest) then new ++ replaceChars part new (part.length - 1) rest
      else c :: replaceChars part new 0 rest

/-- `text.replace(part, new)` for a part that is not empty. -/
def replaceText (text part new : String) : String :=
  String.ofList (replaceChars part.toList new.toList 0 text.toList)

example : replaceText "1h30min" "min" "" = "1h30" := by decide +kernel

/-- `text.split()`. -/
def splitBlanks (text : String) : List String :=
  ((text.toList.splitOnP Char.isWhitespace).filter fun part => part ≠ []).map String.ofList

/-- `text.strip()`. -/
def stripText (text : String) : String :=
  String.ofList
    (((text.toList.dropWhile Char.isWhitespace).reverse.dropWhile Char.isWhitespace).reverse)

/-- The whole number that a text stands for. -/
def wholeNumber? : List Char → Option ℤ
  | '-' :: digits => (numberOf digits).map fun n : ℕ => -(n : ℤ)
  | '+' :: digits => (numberOf digits).map fun n : ℕ => (n : ℤ)
  | digits => (numberOf digits).map fun n : ℕ => (n : ℤ)

/-- `int(text)` for a text without blanks and underscores. -/
def intOfText (text : String) : Except PyError ℤ :=
  match wholeNumber? text.toList with
  | some number => .ok number
  | none => .error (.valueError ("invalid literal for int() with base 10: '" ++ text ++ "'"))

/-- The number that a text with or without decimals stands for. -/
def decimalNumber? (text : List Char) : Option ℚ :=
  match text.splitOn '.' with
  | [whole] => (numberOf whole).map fun n : ℕ => (n : ℚ)
  | [whole, decimals] => do
      let n ← numberOf whole
      let d ← numberOf decimals
      some (n + d / 10 ^ decimals.length)
  | _ => none

/-- `float(text)` for a text without a sign, blanks or an exponent. -/
def floatOfText (text : String) : Except PyError ℚ :=
  match decimalNumber? text.toList with
  | some number => .ok number
  | none => .error (.valueError ("could not convert string to float: '" ++ text ++ "'"))

/-- Digits, which single underscores may part. -/
def digitPart? (text : List Char) : Option (List Char) :=
  let parts := text.splitOn '_'
  if parts.all fun part => part ≠ [] && part.all Char.isDigit then some parts.flatten else none

/-- Digits that may be missing. -/
def optionalDigits? : List Char → Option (List Char)
  | [] => some []
  | text => digitPart? text

/-- The number that stands before an exponent. -/
def mantissa? (text : List Char) : Option ℚ := do
  let (whole, decimals) ←
    match text.splitOn '.' with
    | [whole] => some (whole, [])
    | [whole, decimals] => some (whole, decimals)
    | _ => none
  let wholeDigits ← optionalDigits? whole
  let decimalDigits ← optionalDigits? decimals
  let number ← numberOf (wholeDigits ++ decimalDigits)
  return number / 10 ^ decimalDigits.length

/-- The factor that a sign stands for, and what follows it. -/
def signOf : List Char → ℤ × List Char
  | '-' :: rest => (-1, rest)
  | '+' :: rest => (1, rest)
  | text => (1, text)

/-- `float(text)` of a text with a finite value. -/
def finiteFloat? (text : String) : Option ℚ :=
  let (sign, unsigned) := signOf (stripText text).toList
  match (unsigned.map Char.toLower).splitOn 'e' with
  | [number] => (mantissa? number).map fun value => sign * value
  | [number, exponent] => do
      let value ← mantissa? number
      let (direction, power) := signOf exponent
      let steps ← digitPart? power >>= numberOf
      return sign * value * 10 ^ (direction * steps)
  | _ => none

example : finiteFloat? " -1_2.5e-1" = some (-5 / 4) := by decide +kernel

/-- `int(number)` cuts the decimals off. -/
def truncated (number : ℚ) : ℤ := if 0 ≤ number then ⌊number⌋ else ⌈number⌉

/-- `text.lower()` for the letters of ASCII. -/
def lowerText (text : String) : String := String.ofList (text.toList.map Char.toLower)

/-! ## Texts of digits -/

theorem truncated_of_nonneg {number : ℚ} (hnonneg : 0 ≤ number) : truncated number = ⌊number⌋ :=
  if_pos hnonneg

/-- A text of digits has no other characters. -/
theorem not_mem_toDigits {c : Char} (hc : c.isDigit = false) (n : ℕ) :
    c ∉ Nat.toDigits 10 n := by
  intro hmem
  rw [Nat.isDigit_of_mem_toDigits (by decide) (by decide) hmem] at hc
  cases hc

theorem toList_toString (n : ℕ) : (toString n).toList = Nat.toDigits 10 n := by
  rw [Nat.toString_eq_ofList_toDigits, String.toList_ofList]

theorem toList_zeroPadded {width n : ℕ} (hpos : 0 < width) (hn : n < 10 ^ width) :
    (zeroPadded width n).toList = paddedDigits width n := by
  unfold zeroPadded
  rw [String.toList_ofList, Nat.toString_eq_ofList_toDigits, String.toList_ofList,
    leftpad_toDigits hpos hn]

theorem not_mem_zeroPadded {c : Char} (hc : c.isDigit = false) (width n : ℕ) :
    c ∉ (zeroPadded width n).toList := by
  unfold zeroPadded
  rw [String.toList_ofList, toList_toString, List.leftpad, List.mem_append, not_or]
  refine ⟨?_, not_mem_toDigits hc n⟩
  intro hmem
  rw [List.eq_of_mem_replicate hmem] at hc
  exact absurd hc (by decide)

theorem wholeNumber?_toDigits (n : ℕ) : wholeNumber? (Nat.toDigits 10 n) = some (n : ℤ) := by
  have hread : (numberOf (Nat.toDigits 10 n)).map (fun n : ℕ => (n : ℤ)) = some (n : ℤ) := by
    rw [numberOf_toDigits]
    rfl
  unfold wholeNumber?
  split
  · rename_i digits hdigits
    exact absurd (hdigits ▸ List.mem_cons_self) (not_mem_toDigits (c := '-') rfl n)
  · rename_i digits hdigits
    exact absurd (hdigits ▸ List.mem_cons_self) (not_mem_toDigits (c := '+') rfl n)
  · exact hread

/-- A whole number is read back from its text. -/
theorem intOfText_toString (n : ℕ) : intOfText (toString n) = .ok (n : ℤ) := by
  unfold intOfText
  rw [toList_toString, wholeNumber?_toDigits]

/-- The text of a whole number, also of a negative one, is read back. -/
theorem wholeNumber?_toString (number : ℤ) :
    wholeNumber? (toString number).toList = some number := by
  cases number with
  | ofNat n =>
      show wholeNumber? (toString n).toList = _
      rw [toList_toString, wholeNumber?_toDigits]
      rfl
  | negSucc n =>
      show wholeNumber? ("-" ++ toString (n + 1)).toList = _
      rw [String.toList_append, toList_toString]
      show (numberOf (Nat.toDigits 10 (n + 1))).map (fun n : ℕ => -(n : ℤ)) = _
      rw [numberOf_toDigits]
      rfl

/-- A text with another character than digits and a sign is no whole number. -/
theorem wholeNumber?_eq_none_of_mem {c : Char} (hdigit : c.isDigit = false) (hminus : c ≠ '-')
    (hplus : c ≠ '+') {text : List Char} (hmem : c ∈ text) : wholeNumber? text = none := by
  unfold wholeNumber?
  split
  · have hrest := (List.mem_cons.mp hmem).resolve_left hminus
    rw [numberOf_eq_none_of_mem hdigit hrest]
    rfl
  · have hrest := (List.mem_cons.mp hmem).resolve_left hplus
    rw [numberOf_eq_none_of_mem hdigit hrest]
    rfl
  · rw [numberOf_eq_none_of_mem hdigit hmem]
    rfl

theorem toString_injective {first second : ℤ} (htexts : toString first = toString second) :
    first = second := by
  have hread := congrArg (fun text : String => wholeNumber? text.toList) htexts
  simpa only [wholeNumber?_toString, Option.some.injEq] using hread

/-- The text of a number has no other characters than digits and a sign. -/
theorem not_mem_toString {c : Char} (hdigit : c.isDigit = false) (hsign : c ≠ '-') (number : ℤ) :
    c ∉ (toString number).toList := by
  cases number with
  | ofNat n =>
      show c ∉ (toString n).toList
      rw [toList_toString]
      exact not_mem_toDigits hdigit n
  | negSucc n =>
      show c ∉ ("-" ++ toString (n + 1)).toList
      rw [String.toList_append, toList_toString, List.mem_append, not_or]
      exact ⟨by simpa using hsign, not_mem_toDigits hdigit (n + 1)⟩

/-- Texts that end in different numbers are different. -/
theorem append_toString_inj (stem : String) {first second : ℕ}
    (htexts : stem ++ toString first = stem ++ toString second) : first = second := by
  have hnumbers := congrArg intOfText ((String.append_right_inj stem).mp htexts)
  rw [intOfText_toString, intOfText_toString] at hnumbers
  exact Int.ofNat_inj.mp (Except.ok.inj hnumbers)

/-- A single character is part of a text if it occurs in it. -/
theorem textIn_singleton {c : Char} {text : String} :
    textIn (String.ofList [c]) text = true ↔ c ∈ text.toList := by
  rw [textIn_iff, String.toList_ofList]
  constructor
  · rintro ⟨before, after, heq⟩
    rw [← heq]
    simp
  · intro hmem
    obtain ⟨before, after, heq⟩ := List.append_of_mem hmem
    exact ⟨before, after, by simp [heq]⟩

/-- What does not contain the first character of a part is not replaced. -/
theorem replaceChars_append {first : Char} {part new text : List Char} (hfirst : first ∉ text)
    (rest : List Char) :
    replaceChars (first :: part) new 0 (text ++ rest) =
      text ++ replaceChars (first :: part) new 0 rest := by
  induction text with
  | nil => rfl
  | cons c text ih =>
      rw [List.mem_cons, not_or] at hfirst
      have hno : (first :: part).isPrefixOf (c :: (text ++ rest)) = false := by
        simp [List.isPrefixOf, beq_eq_false_iff_ne.mpr hfirst.1]
      rw [List.cons_append, List.cons_append, ← ih hfirst.2]
      simp only [replaceChars, hno, Bool.false_eq_true, if_false]

end Goveling.Python
