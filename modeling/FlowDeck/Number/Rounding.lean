/-!
# Rounding a quotient

One rule rounds everywhere: to the nearest integer, a half to the even one.
-/

namespace FlowDeck.Number

def twoTo (n : Nat) : Nat := Nat.pow 2 n

def tenTo (n : Nat) : Nat := Nat.pow 10 n

/-- The integer nearest to `n / d`; a half goes to the even neighbour. -/
def roundDiv (n : Int) (d : Nat) : Int :=
  let q := n / (d : Int)
  let r := n % (d : Int)
  if 2 * r < d then q
  else if (d : Int) < 2 * r then q + 1
  else if q % 2 = 0 then q
  else q + 1

end FlowDeck.Number
