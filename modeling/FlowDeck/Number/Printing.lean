import FlowDeck.Number.Binary

/-!
# Printing numbers

Two forms of a double: with a fixed number of decimals, and with the fewest digits that read
back as the same double.
-/

namespace FlowDeck.Number

def signed (negative : Bool) (s : String) : String :=
  if negative then "-" ++ s else s

def padLeft (width : Nat) (s : String) : String :=
  String.ofList (List.replicate (width - s.length) '0') ++ s

/-- The number with `places` decimals, correctly rounded. A negative number keeps its sign even
where all its digits are zeros. -/
def fixed (places : Nat) (x : Float) : String :=
  match Binary.decode x with
  | .finite negative coefficient exponent =>
    let (n, d) := Binary.quotient coefficient exponent
    let scaled := (roundDiv (n * tenTo places) d).toNat
    let whole := toString (scaled / tenTo places)
    let decimals := padLeft places (toString (scaled % tenTo places))
    signed negative (if places = 0 then whole else whole ++ "." ++ decimals)
  | .infinite negative => signed negative "inf"
  | .undefined => "nan"

/-- The least power of ten above `n / d`, searched around the binary estimate. -/
def decimalPoint (n d : Nat) : Int :=
  let estimate : Int := ((n.log2 : Int) - d.log2) * 30103 / 100000 - 1
  let below (p : Int) : Bool := n * tenTo (-p).toNat < d * tenTo p.toNat
  (([0, 1, 2, 3].map fun (k : Int) => estimate + k).find? below).getD estimate

/-- The digits and the power of ten of the shortest decimal that reads back as the double
`coefficient * 2 ^ exponent`, nearest to it among those of its length, a half to the even one. -/
def shortest (coefficient : Nat) (exponent : Int) : Nat × Int :=
  -- In quarters of the last place, so that the ends of the interval are whole.
  let (n, d) := Binary.quotient 1 (exponent - 2)
  let value := 4 * coefficient * n
  let low :=
    if coefficient = twoTo 52 ∧ -1074 < exponent then (4 * coefficient - 1) * n
    else (4 * coefficient - 2) * n
  let high := (4 * coefficient + 2) * n
  let point := decimalPoint value d
  let attempt (length : Nat) : Option (Nat × Int) :=
    let power := point - length
    let up := tenTo power.toNat * d
    let down := tenTo (-power).toNat
    let readsBack (digits : Nat) : Bool :=
      if coefficient % 2 = 0 then low * down ≤ digits * up && digits * up ≤ high * down
      else low * down < digits * up && digits * up < high * down
    let lower := value * down / up
    let upper := lower + 1
    let aboveLower := value * down - lower * up
    let belowUpper := upper * up - value * down
    let lowerFirst := aboveLower < belowUpper ∨ aboveLower = belowUpper ∧ lower % 2 = 0
    let order := if lowerFirst then [lower, upper] else [upper, lower]
    (order.find? readsBack).map fun digits => (digits, power)
  ((List.range 17).findSome? fun k => attempt (k + 1)).getD (coefficient, exponent)

/-- The digits without zeros at their end, the power raised to match. -/
def dropZeros (digits : Nat) (power : Int) : Nat × Int :=
  if digits % 10 = 0 ∧ digits ≠ 0 then dropZeros (digits / 10) (power + 1)
  else (digits, power)
termination_by digits

/-- The fewest digits that read back. Numbers from a ten-thousandth up to ten to the sixteenth
are written out, always with a decimal; all others with an exponent of at least two digits. -/
def text (x : Float) : String :=
  match Binary.decode x with
  | .infinite negative => signed negative "inf"
  | .undefined => "nan"
  | .finite negative 0 _ => signed negative "0.0"
  | .finite negative coefficient exponent =>
    let (long, longPower) := shortest coefficient exponent
    let (digits, power) := dropZeros long longPower
    let row := toString digits
    let point := power + row.length
    signed negative <|
      if -4 < point ∧ point ≤ 16 then
        if 0 ≤ power then row ++ String.ofList (List.replicate power.toNat '0') ++ ".0"
        else if 0 < point then
          let cut := point.toNat
          String.ofList (row.toList.take cut) ++ "." ++ String.ofList (row.toList.drop cut)
        else "0." ++ String.ofList (List.replicate (-point).toNat '0') ++ row
      else
        let mantissa :=
          match row.toList with
          | first :: second :: rest => String.ofList (first :: '.' :: second :: rest)
          | _ => row
        let scale := point - 1
        let mark := if scale < 0 then "e-" else "e+"
        mantissa ++ mark ++ padLeft 2 (toString scale.natAbs)

end FlowDeck.Number
