import FlowDeck.Hierarchy.Outline
import FlowDeck.Plane.Side

/-!
# Refusals

A command is refused when the shapes it is given, or the room they leave, do not allow it.
-/

namespace FlowDeck

inductive Refusal where
  | notOnSlide (node : Option ShapeId)
  | noDescriptor
  | unknownDirection (name : String)
  | unknownLayout (text : String)
  | rootHasNoSiblings
  | parentNotFound
  | noCells
  | sameShape
  | unknownOrientation
  | childIsAncestor
  | notAChild (id parent : String)
  | noSize (node : ShapeId)
  | noRoomBetween (gap : String)
  | gridTooSmall
  | tooManyColumns (row : Nat)
  deriving DecidableEq, Repr

namespace Refusal

/-- Refusals for want of room. All others are about the shapes that were chosen. -/
def isGeometric : Refusal → Bool
  | .noSize _ | .noRoomBetween _ | .gridTooSmall | .tooManyColumns _ => true
  | _ => false

def message : Refusal → String
  | .notOnSlide (some node) => s!"❌ Shape {node} is not on this slide"
  | .notOnSlide none => "❌ Shape None is not on this slide"
  | .noDescriptor =>
    "❌ Selected shape must have a graph ID. Please create it as part of a flowchart first."
  | .unknownDirection name =>
    let names := String.intercalate ", " (Side.all.map Side.name)
    s!"❌ Unknown direction '{name}'. Use one of: {names}"
  | .unknownLayout text =>
    let tokens := String.intercalate ", " Layout.tokens
    s!"❌ Unknown layout '{text}'. Use one of: {tokens}"
  | .rootHasNoSiblings => "❌ Cannot create sibling for root shapes."
  | .parentNotFound => "❌ Could not find parent shape. The hierarchy may be broken."
  | .noCells => "❌ Please provide at least one row with one cell"
  | .sameShape => "❌ Please select two different shapes."
  | .unknownOrientation => "❌ Orientation must be 'horizontal' or 'vertical'"
  | .childIsAncestor => "❌ The child shape is already an ancestor of the parent shape."
  | .notAChild id parent => s!"❌ {id} is not a child of {parent}"
  | .noSize node => s!"❌ Shape {node} has no size; can not place children around it"
  | .noRoomBetween gap => s!"❌ Gap {gap} leaves no room between children"
  | .gridTooSmall => "❌ Parent shape is too small for the specified layout."
  | .tooManyColumns row => s!"❌ Row {row} has too many columns for the available width"

end Refusal

end FlowDeck
