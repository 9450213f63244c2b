import FlowDeck.Number.Reading

/-!
# Colours

Colours are written as three or six hexadecimal digits after a number sign.
-/

namespace FlowDeck

structure Rgb where
  red : Int
  green : Int
  blue : Int
  deriving DecidableEq, Repr

/-- The value of a hexadecimal digit: a decimal digit of any script or one of six letters. -/
def hexDigit? (c : Char) : Option Nat :=
  if 'a' ≤ c ∧ c ≤ 'f' then some (c.toNat - 'a'.toNat + 10)
  else if 'A' ≤ c ∧ c ≤ 'F' then some (c.toNat - 'A'.toNat + 10)
  else Text.digit? c

/-- A component: hexadecimal digits, which may have a sign in front and blanks around. -/
def component? (s : List Char) : Option Int :=
  let (negative, digits) := Number.takeSign (Number.trimBlanks s)
  if digits.isEmpty then none
  else
    (digits.mapM hexDigit?).map fun values =>
      let value : Nat := values.foldl (fun n d => 16 * n + d) 0
      if negative then -(value : Int) else value

namespace Rgb

/-- The six digits of a colour, those of the short form twice. -/
def sixDigits (s : List Char) : List Char :=
  if s.length = 3 then s.flatMap fun c => [c, c] else s

def read? (text : String) : Option Rgb :=
  match sixDigits ((Text.strip text.toList).dropWhile (· == '#')) with
  | [a, b, c, d, e, f] => do
    return ⟨← component? [a, b], ← component? [c, d], ← component? [e, f]⟩
  | _ => none

def isDrawable (colour : Rgb) : Bool :=
  [colour.red, colour.green, colour.blue].all fun n => 0 ≤ n && n ≤ 255

def hex (colour : Rgb) : String :=
  let digits (n : Int) : List Char :=
    [Nat.digitChar (n.toNat / 16), Nat.digitChar (n.toNat % 16)].map Char.toUpper
  String.ofList ([colour.red, colour.green, colour.blue].flatMap digits)

end Rgb

end FlowDeck
