import FlowDeck.Number.Binary
import FlowDeck.Number.Limit
import FlowDeck.Text.Blank
import FlowDeck.Text.Digit

/-!
# Reading numbers

Numbers as users type them: blanks around, a sign, digits of any script, and single underscores
between digits.
-/

namespace FlowDeck.Number

open FlowDeck.Text

/-- White space around a number. The four separators below the space are none. -/
def isNumberBlank (c : Char) : Bool :=
  isBlank c && !(28 ≤ c.toNat && c.toNat ≤ 31)

def trimBlanks (s : List Char) : List Char :=
  trim isNumberBlank s

/-- The text without its underscores, if each stands between two digits. -/
def dropUnderscores? : List Char → Option (List Char)
  | [] => some []
  | ['_'] => none
  | c :: '_' :: d :: rest =>
    if isDigit c && isDigit d then (dropUnderscores? (d :: rest)).map (c :: ·) else none
  | c :: rest => if c = '_' then none else (dropUnderscores? rest).map (c :: ·)

/-- The sign in front, true for minus, and what follows it. -/
def takeSign : List Char → Bool × List Char
  | '-' :: rest => (true, rest)
  | '+' :: rest => (false, rest)
  | rest => (false, rest)

def takeDigits (s : List Char) : List Char × List Char :=
  (s.takeWhile isDigit, s.dropWhile isDigit)

def readSigned? (s : List Char) : Option Int :=
  let (negative, digits) := takeSign s
  if digits.isEmpty || !digits.all isDigit then none
  else some (if negative then -(number digits : Int) else number digits)

def readInt? (s : List Char) : Option Int :=
  (dropUnderscores? (trimBlanks s)).bind fun s =>
    if (takeSign s).2.length ≤ maxDigits then readSigned? s else none

def readExponent? : List Char → Option Int
  | [] => some 0
  | c :: rest => if c = 'e' ∨ c = 'E' then readSigned? rest else none

/-- A number without a sign: digits, a point with more digits, an exponent. There is a digit
before the point or after it. -/
def readMagnitude? (s : List Char) : Option Float :=
  let (whole, rest) := takeDigits s
  let (decimals, rest) :=
    match rest with
    | '.' :: rest => takeDigits rest
    | _ => ([], rest)
  if whole.isEmpty && decimals.isEmpty then none
  else
    (readExponent? rest).map fun exponent =>
      ofDecimal (number (whole ++ decimals)) (exponent - decimals.length)

def readWord? (s : List Char) : Option Float :=
  let word := String.ofList (s.map Char.toLower)
  if word = "inf" ∨ word = "infinity" then some (1 / 0)
  else if word = "nan" then some (0 / 0)
  else none

def readFloat? (s : List Char) : Option Float :=
  (dropUnderscores? (trimBlanks s)).bind fun s =>
    let (negative, rest) := takeSign s
    let magnitude := (readWord? rest).or (readMagnitude? rest)
    magnitude.map fun x => if negative then -x else x

end FlowDeck.Number
