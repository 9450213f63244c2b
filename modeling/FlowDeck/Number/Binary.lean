import FlowDeck.Number.Rounding

/-!
# Doubles as exact numbers

A finite double is an integer times a power of two. `Binary.decode` reads it off the bits and
`Binary.nearest?` goes the other way, from any quotient to the double next to it; what is
rounded, printed or read elsewhere passes through these two and is exact in between.
-/

namespace FlowDeck.Number

inductive Binary where
  /-- The number `coefficient * 2 ^ exponent`, negated if `negative`. -/
  | finite (negative : Bool) (coefficient : Nat) (exponent : Int)
  | infinite (negative : Bool)
  | undefined

namespace Binary

def decode (x : Float) : Binary :=
  let bits := x.toBits.toNat
  let negative := twoTo 63 ≤ bits
  let field : Nat := bits / twoTo 52 % twoTo 11
  let fraction := bits % twoTo 52
  if field = 2047 then
    if fraction = 0 then .infinite negative else .undefined
  else if field = 0 then .finite negative fraction (-1074)
  else .finite negative (twoTo 52 + fraction) ((field : Int) - 1075)

def quotient (coefficient : Nat) (exponent : Int) : Nat × Nat :=
  (coefficient * twoTo exponent.toNat, twoTo (-exponent).toNat)

/-- The double nearest to `n / d`, a half to the even one; none beyond the largest. -/
def nearestAbs? (n d : Nat) : Option Float :=
  if n = 0 then some 0
  else
    -- The unit leaves 53 bits before the point, fewer only among the smallest numbers.
    let above : Int := n.log2 - d.log2
    let atLeast (e : Int) : Bool := d * twoTo e.toNat ≤ n * twoTo (-e).toNat
    let top := if atLeast above then above else above - 1
    let unit := max (top - 52) (-1074)
    let q := (roundDiv (n * twoTo (-unit).toNat) (d * twoTo unit.toNat)).toNat
    let bits := if q < twoTo 52 then q else (unit + 1075).toNat * twoTo 52 + (q - twoTo 52)
    if bits < 2047 * twoTo 52 then some (Float.ofBits bits.toUInt64) else none

def nearest? (n : Int) (d : Nat) : Option Float :=
  if n < 0 then (nearestAbs? n.natAbs d).map (- ·) else nearestAbs? n.natAbs d

end Binary

/-- The double nearest to `digits * 10 ^ power`, an infinity beyond the largest. -/
def ofDecimal (digits : Nat) (power : Int) : Float :=
  if digits = 0 then 0
  else
    -- Powers far outside the range of doubles are not computed.
    let bits : Int := digits.log2
    if 400 < power + bits * 30 / 100 then 1 / 0
    else if power + (bits + 1) * 31 / 100 < -400 then 0
    else
      (Binary.nearestAbs? (digits * tenTo power.toNat) (tenTo (-power).toNat)).getD (1 / 0)

/-- The number rounded to `places` decimals, as the double nearest to the result. -/
def roundPlaces (places : Nat) (x : Float) : Float :=
  match Binary.decode x with
  | .finite negative coefficient exponent =>
    let (n, d) := Binary.quotient coefficient exponent
    let scaled := (roundDiv (n * tenTo places) d).toNat
    let rounded := (Binary.nearestAbs? scaled (tenTo places)).getD x
    if negative then -rounded else rounded
  | _ => x

end FlowDeck.Number
