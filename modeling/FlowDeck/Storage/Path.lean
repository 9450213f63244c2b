/-!
# Paths

A path is read without empty parts and without parts that stay in place, so `./a//b` is `a/b`.
-/

namespace FlowDeck

structure Path where
  /-- The slashes in front of a path from the root: one, or two where there are exactly two. -/
  root : String
  parts : List String
  deriving DecidableEq, Repr

namespace Path

def rootOf (s : List Char) : String :=
  match s.takeWhile (· == '/') with
  | [] => ""
  | ['/', '/'] => "//"
  | _ => "/"

def ofText (s : String) : Path where
  root := rootOf s.toList
  parts := ((s.toList.splitOn '/').map String.ofList).filter fun part => part ≠ "" ∧ part ≠ "."

def text (p : Path) : String :=
  if p.root = "" ∧ p.parts.isEmpty then "." else p.root ++ String.intercalate "/" p.parts

def name (p : Path) : String :=
  p.parts.getLast?.getD ""

/-- No file and no directory is at a path with a null character in it. -/
def hasNull (p : Path) : Bool :=
  p.text.toList.contains '\x00'

def parent (p : Path) : Path :=
  { p with parts := p.parts.dropLast }

/-- A file name without its suffix, and the suffix: the last point and what follows it, unless
nothing stands before it or after it. -/
def splitSuffix (name : String) : String × String :=
  let tail := (name.toList.reverse.takeWhile (· != '.')).reverse
  let stem := name.toList.take (name.toList.length - tail.length - 1)
  if '.' ∉ name.toList ∨ tail = [] ∨ stem = [] then (name, "")
  else (String.ofList stem, String.ofList ('.' :: tail))

def suffix (p : Path) : String :=
  (splitSuffix p.name).2

def withSuffix (p : Path) (suffix : String) : Path :=
  { p with parts := p.parent.parts ++ [(splitSuffix p.name).1 ++ suffix] }

def start (p : Path) : Path where
  root := if p.root = "" then "" else "/"
  parts := []

/-- A place that is not inside of where it begins: that place itself, or one above it. -/
def isAbove (place : Path) : Bool :=
  place.parts.all (· == "..")

/-- The place one part further on. Going up from the root stays there. -/
def step (place : Path) (part : String) : Path :=
  if part ≠ ".." ∨ place.isAbove ∧ place.root = "" then
    { place with parts := place.parts ++ [part] }
  else if place.isAbove then place
  else place.parent

end Path

end FlowDeck
