import FlowDeck.Command.Root

/-!
# What a command has created

The parts that all commands which draw nodes or connectors have in common.
-/

namespace FlowDeck

/-- What a command has created: nodes with their identifiers, and connectors. Pairs that could
not be joined are kept as well. -/
structure Creation where
  parent : ShapeId
  created : List ShapeId := []
  childIds : List String := []
  edges : List ShapeId := []
  skipped : List (ShapeId × ShapeId) := []
  deriving DecidableEq, Repr

def Creation.isComplete (c : Creation) : Bool :=
  c.skipped.isEmpty

def gapOr (given : Option (Measure Float)) (styled : Int) : Measure Float :=
  given.getD (.whole styled)

/-- A gap as it is shown: whole pixels without decimals. -/
def Measure.text : Measure Float → String
  | .whole pixels => toString pixels
  | .exact pixels => Number.text pixels
  | .blank => ""

namespace Edit

def joinChild (desk : Desk) (c : Creation) (child : ShapeId) (sideOfParent sideOfChild : Side)
    (style : EdgeStyle) : Edit Creation := do
  match ← join desk c.parent child sideOfParent sideOfChild style with
  | some edge => return { c with edges := c.edges ++ [edge] }
  | none => return { c with skipped := c.skipped ++ [(c.parent, child)] }

end Edit

end FlowDeck
