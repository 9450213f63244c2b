import FlowDeck.Number.Limit
import FlowDeck.Text.Digit

/-!
# Levels and numbers

The identifier of a node is a level in capitals, one level for each depth of the hierarchy, and
a number among its siblings. Depths run through `A` to `Z`, then `ZA` to `ZZ`, then `ZZA` and
so on.
-/

namespace FlowDeck

def rootLevel : String := "A"

def isLevelLetter (c : Char) : Bool :=
  'A' ≤ c && c ≤ 'Z'

/-- The letters in front of an identifier. -/
def levelOf (id : String) : String :=
  String.ofList (id.toList.takeWhile isLevelLetter)

def dropLineEnd (s : List Char) : List Char :=
  if s.getLast? = some '\n' then s.dropLast else s

/-- The letters and the digits of an identifier that consists of the two. -/
def idParts? (id : String) : Option (List Char × List Char) :=
  let letters := id.toList.takeWhile isLevelLetter
  let digits := dropLineEnd (id.toList.dropWhile isLevelLetter)
  if letters.isEmpty || digits.isEmpty || !digits.all Text.isDigit then none
  else some (letters, digits)

def splitId? (id : String) : Option (String × Nat) :=
  (idParts? id).map fun (letters, digits) => (String.ofList letters, Text.number digits)

/-- The level below `level`: its last letter moves on, and after `Z` a letter is added. What has
no level is above the roots. -/
def nextLevel (level : String) : String :=
  match level.toList.getLast? with
  | none => rootLevel
  | some last =>
    if 'A' ≤ last && last < 'Z' then
      String.ofList (level.toList.dropLast ++ [Char.ofNat (last.toNat + 1)])
    else level ++ "A"

def levelDepth (level : String) : Int :=
  match level.toList.getLast? with
  | none => -1
  | some last => 26 * (level.toList.length - 1) + last.toNat - 'A'.toNat

def siblingId (level : String) (number : Int) : String :=
  level ++ toString number

def siblingIds (level : String) (count start : Int) : List String :=
  (List.range count.toNat).map fun (i : Nat) => siblingId level (start + i)

def numberAt? (level id : String) : Option Nat :=
  (splitId? id).bind fun (other, number) => if other = level then some number else none

/-- The number for the next sibling: one more than the highest in use, so that a number is not
given again while a later one is in use. -/
def nextNumber (level : String) (ids : List String) : Nat :=
  (ids.filterMap (numberAt? level)).foldl max 0 + 1

/-- The number for the next root: the least that is not in use. -/
def freeRootNumber (ids : List String) : Nat :=
  let used := ids.filterMap (numberAt? rootLevel)
  let candidates := (List.range (used.length + 1)).map (· + 1)
  (candidates.find? fun n => !used.contains n).getD 1

def freeRootId (ids : List String) : String :=
  siblingId rootLevel (freeRootNumber ids)

/-! ## Within the length of numbers

The functions above are about numbers of any length. These fail where a number is too long to be
read or to be written. -/

/-- The number of an identifier, if it has one, is short enough to be read. -/
def checkId (id : String) : Except NumberFault Unit :=
  match idParts? id with
  | some (_, digits) => Number.checkDigits digits.length
  | none => .ok ()

def readId (id : String) : Except NumberFault (Option (String × Nat)) := do
  checkId id
  return splitId? id

def readNextNumber (level : String) (ids : List String) : Except NumberFault Nat := do
  ids.forM checkId
  return nextNumber level ids

def readFreeRootId (ids : List String) : Except NumberFault String := do
  ids.forM checkId
  return freeRootId ids

/-- Identifiers with consecutive numbers. The first and the last number are the longest. -/
def writeSiblingIds (level : String) (count start : Int) : Except NumberFault (List String) := do
  if 0 < count then
    Number.checkLength start
    Number.checkLength (start + count - 1)
  return siblingIds level count start

def furtherIds (level : String) (count : Int) (used : List String) :
    Except NumberFault (List String) := do
  writeSiblingIds level count (← readNextNumber level used)

def furtherId (level : String) (used : List String) : Except NumberFault String := do
  let number ← readNextNumber level used
  Number.checkLength number
  return siblingId level number

end FlowDeck
