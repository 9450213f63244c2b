/-!
# Faults of numbers

Arithmetic and the reading and writing of numbers fail in a few ways, whatever the numbers are
for.
-/

namespace FlowDeck

inductive NumberFault where
  /-- An infinite length has no place on the grid of the page. -/
  | infinite
  /-- Nor has one that is no number. -/
  | undefined
  | tooLarge
  | lengthTooLarge
  | dividedByZero
  | tooManyDigits (count : Nat)
  | tooLong
  | blank
  deriving DecidableEq, Repr

def NumberFault.message : NumberFault → String
  | .infinite => "cannot convert float infinity to integer"
  | .undefined => "cannot convert float NaN to integer"
  | .tooLarge => "int too large to convert to float"
  | .lengthTooLarge => "integer division result too large for a float"
  | .dividedByZero => "float division by zero"
  | .tooManyDigits count =>
    s!"Exceeds the limit (4300 digits) for integer string conversion: value has {count} digits; "
      ++ "use sys.set_int_max_str_digits() to increase the limit"
  | .tooLong =>
    "Exceeds the limit (4300 digits) for integer string conversion; "
      ++ "use sys.set_int_max_str_digits() to increase the limit"
  | .blank => "a number was left blank"

end FlowDeck
