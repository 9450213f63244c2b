import FlowDeck.Hierarchy.Descriptor
import FlowDeck.Text.Blank
import FlowDeck.Text.Scan

/-!
# Descriptors as text

A descriptor is stored as one line of text, `graph[A1|B2](TD)[C3][D1,D2:LR]`: the chain, the
layout, the identifier and the children, a child with a colon before its layout. The layout
with its parentheses may be missing, which stands for the default layout; a root that declares
none is written in this short form.
-/

namespace FlowDeck

namespace Record

open FlowDeck.Text (upTo? after?)

def opening : List Char := "graph[".toList

/-- A bracketed part in front, and what follows it. -/
def bracketed? (s : List Char) : Option (List Char × List Char) :=
  (after? ['['] s).bind (upTo? ']')

/-- The parts of a record as they are written, before any of them is read. -/
structure Parts where
  chain : List Char
  layout : Option (List Char)
  current : List Char
  children : List Char

/-- The layout in parentheses, if there is one, and what follows it. -/
def layoutPart? (s : List Char) : Option (Option (List Char) × List Char) :=
  match s with
  | '(' :: rest => (upTo? ')' rest).map fun (layout, rest) => (some layout, rest)
  | _ => some (none, s)

def parts? (s : List Char) : Option Parts := do
  let (chain, s) ← (after? opening s).bind (upTo? ']')
  let (layout, s) ← layoutPart? s
  let (current, s) ← bracketed? s
  let (children, s) ← bracketed? s
  if s.isEmpty then some ⟨chain, layout, current, children⟩ else none

def plain (s : List Char) : String :=
  String.ofList (Text.strip s)

def beforeColon (s : List Char) : List Char :=
  s.takeWhile (· != ':')

def afterColon (s : List Char) : List Char :=
  (s.dropWhile (· != ':')).drop 1

/-- The identifiers of a chain. A colon and what follows it do not belong to one. -/
def readChain (s : List Char) : List String :=
  ((s.splitOn '|').map fun piece => plain (beforeColon piece)).filter (· ≠ "")

/-- A layout token, empty for any other text. -/
def readToken (s : List Char) : String :=
  if plain s ∈ Layout.tokens then plain s else ""

def readChild? (s : List Char) : Option ChildRef :=
  let id := plain (beforeColon s)
  if id = "" then none else some ⟨id, readToken (afterColon s)⟩

def readChildren (s : List Char) : List ChildRef :=
  (s.splitOn ',').filterMap readChild?

/-- The declared layout: the default where the part is missing, else a token or nothing. -/
def readLayout? : Option (List Char) → Option String
  | none => some defaultLayout.token
  | some s => if plain s = "" ∨ plain s ∈ Layout.tokens then some (plain s) else none

def Parts.read? (p : Parts) : Option Descriptor := do
  let layout ← readLayout? p.layout
  if plain p.current = "" then none
  else some ⟨plain p.current, readChain p.chain, layout, readChildren p.children⟩

def childText (c : ChildRef) : List Char :=
  if c.layout = "" then c.id.toList else c.id.toList ++ ':' :: c.layout.toList

def chainText (chain : List String) : List Char :=
  ['|'].intercalate (chain.map (·.toList))

def childrenText (children : List ChildRef) : List Char :=
  [','].intercalate (children.map childText)

/-- The layout in parentheses; a root without one has no such part. -/
def layoutText (d : Descriptor) : List Char :=
  if d.isRoot ∧ d.layout = "" then [] else '(' :: d.layout.toList ++ [')']

end Record

namespace Descriptor

/-- Text that is meant as a descriptor, well-formed or not. -/
def looksLike (text : String) : Bool :=
  Record.opening.isPrefixOf (Text.strip text.toList)

def read? (text : String) : Option Descriptor :=
  (Record.parts? (Text.strip text.toList)).bind Record.Parts.read?

def render (d : Descriptor) : String :=
  String.ofList (Record.opening ++ Record.chainText d.chain ++ ']' :: Record.layoutText d
    ++ '[' :: d.current.toList ++ ']' :: '[' :: Record.childrenText d.children ++ [']'])

end Descriptor

end FlowDeck
