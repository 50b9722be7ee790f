/-
# Numbers read from values

`float(value)` takes texts as well as numbers. A text may stand for an infinite number or
for `nan`, which have no exact value.
-/

import Goveling.Python.Text
import Goveling.Python.Value

namespace Goveling.Python

/-- The texts of numbers that are not finite. -/
def nonFiniteTexts : List String :=
  ["inf", "infinity", "nan", "+inf", "+infinity", "+nan", "-inf", "-infinity", "-nan"]

/-- `float(text)`, where an infinite number or `nan` has no value. -/
def floatText (text : String) : Except PyError (Option ℚ) :=
  match finiteFloat? text with
  | some number => .ok number
  | none =>
      if lowerText (stripText text) ∈ nonFiniteTexts then .ok none
      else .error (.valueError ("could not convert string to float: '" ++ text ++ "'"))

/-- `float(value)`. -/
def toFloat (value : PyVal) : Except PyError (Option ℚ) :=
  match value, value.number? with
  | .str text, _ => floatText text
  | _, some number => .ok number
  | _, none => .error (.typeError
      ("float() argument must be a string or a real number, not '" ++ value.typeName ++ "'"))

/-- A number is its own `float`. -/
theorem toFloat_of_number {value : PyVal} {number : ℚ} (hnumber : value.number? = some number) :
    toFloat value = .ok (some number) := by
  cases value <;> simp_all [toFloat, PyVal.number?]

end Goveling.Python
