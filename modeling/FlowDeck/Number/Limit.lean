import FlowDeck.Number.Fault
import FlowDeck.Number.Rounding

/-!
# The length of integers in text

Integers of more than 4300 digits are neither read from a text nor written into one. Zeros in
front count when they are read; signs never do.
-/

namespace FlowDeck.Number

/-- The most digits that an integer has in a text. -/
def maxDigits : Nat := 4300

def checkDigits (count : Nat) : Except NumberFault Unit :=
  if count ≤ maxDigits then .ok () else .error (.tooManyDigits count)

def checkLength (n : Int) : Except NumberFault Unit :=
  if n.natAbs < tenTo maxDigits then .ok () else .error .tooLong

end FlowDeck.Number
