/-
# JSON values

The values that Python's `json` reads and writes, with the conversions `str`, `int` and `float`.
What a conversion does with a value depends on the kind of the value; how digits are read and
printed is a parameter, because no result here depends on it.
-/

import Wolt.Python.Dict
import Mathlib.Algebra.Order.Ring.Rat

namespace Wolt.Python

/-- A Python `float`. -/
inductive PythonFloat
  | finite (value : ℚ)
  | infinite (negative : Bool)
  | nan
  deriving DecidableEq

/-- `low <= x <= high`, which no NaN satisfies. -/
def PythonFloat.isBetween (low high : ℚ) : PythonFloat → Bool
  | finite value => low ≤ value && value ≤ high
  | infinite _ | nan => false

/-- A JSON value. -/
inductive Value
  | null
  | bool (value : Bool)
  | int (value : ℤ)
  | float (value : PythonFloat)
  | string (text : Text)
  | array (items : List Value)
  | object (items : List (Text × Value))

/-- The exceptions of a conversion. -/
inductive ConversionError
  | typeError
  | valueError
  | overflowError
  deriving DecidableEq

/-- How CPython reads and prints digits. -/
structure Conversions where
  /-- `str(value)` of a value that is not a text. -/
  print : Value → Text
  /-- `int(text)`, if it is accepted. -/
  readInt : Text → Option ℤ
  /-- `float(text)`, if it is accepted. -/
  readFloat : Text → Option PythonFloat
  /-- `float(n)` of an integer, if it is not too large. -/
  round : ℤ → Option ℚ

namespace Conversions

variable (conversions : Conversions)

/-- `str(value)`. -/
def str : Value → Text
  | .string text => text
  | value => conversions.print value

/-- `int(value)`. A float is cut towards zero. -/
def int : Value → Except ConversionError ℤ
  | .int value => .ok value
  | .bool value => .ok value.toNat
  | .float (.finite value) => .ok (value.num.tdiv value.den)
  | .float (.infinite _) => .error .overflowError
  | .float .nan => .error .valueError
  | .string text => (conversions.readInt text).elim (.error .valueError) .ok
  | .null | .array _ | .object _ => .error .typeError

/-- `float(value)`. -/
def float : Value → Except ConversionError PythonFloat
  | .float value => .ok value
  | .int value => (conversions.round value).elim (.error .overflowError) fun x => .ok (.finite x)
  | .bool value => .ok (.finite value.toNat)
  | .string text => (conversions.readFloat text).elim (.error .valueError) .ok
  | .null | .array _ | .object _ => .error .typeError

end Conversions

end Wolt.Python
