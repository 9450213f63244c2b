import FlowDeck.Arrange.Stack
import FlowDeck.Command.Creation

/-!
# Creating children

Children are drawn beside their parent in its kind and size, numbered after those that are there,
entered in the parent's descriptor and joined with it.
-/

namespace FlowDeck

variable {α : Type} [Scalar α]

def hasSize (parent : Box α) : Bool :=
  !(parent.width ≤ Scalar.ofInt 0 || parent.height ≤ Scalar.ofInt 0)

/-- A gap must not take more than the size of the parent along the stack. -/
def leavesRoom (parent : Box α) (direction : Side) (gap : α) : Bool :=
  !(parent.sizeAlong direction + gap ≤ Scalar.ofInt 0)

/-- The children of a parent at the level below it. -/
def childrenBelow (outline : Outline) (parent : Descriptor) : Outline :=
  (outline.children parent).filter fun entry => entry.2.level == nextLevel parent.level

def childCorners (parent : Box α) (existing : List (Box α)) (direction : Side)
    (gap : Measure α) (count : Nat) : Except NumberFault (List (Point α)) :=
  if existing.isEmpty then
    firstCorners parent direction gap count parent.width parent.height
  else furtherCorners existing direction gap count

/-- The identifiers of new children: their numbers follow the highest that the parent lists or
that a child has. -/
def newChildIds (parent : Descriptor) (existing : Outline) (count : Int) :
    Except NumberFault (List String) :=
  furtherIds (nextLevel parent.level) count (parent.childIds ++ existing.map (·.2.current))

namespace Command

open Edit

def requireSide (name : String) : Edit Side :=
  match Side.ofName? (Text.upper name) with
  | some side => return side
  | none => refuse (.unknownDirection name)

/-- Draws one child and stores its descriptor. A label of blanks is none. -/
def drawChild (desk : Desk) (kind : String) (box : Box Float) (label : String)
    (d : Descriptor) : Edit ShapeId := do
  let child ← drawShapeAt desk kind box
  if Text.strip label.toList ≠ [] then setText desk child label
  store child d
  return child

/-- Creates children at a side of a node. Labels, if there are any, give their number. -/
def createChildren (desk : Desk) (node : Option ShapeId) (direction : String) (count : Int)
    (gap : Option (Measure Float)) (labels : List String) (edge : Option EdgeStyle) :
    Edit Creation := do
  let node ← requireNode node
  let direction ← requireSide direction
  let count := if labels.isEmpty then count else labels.length
  let gap := gapOr gap desk.style.nodeGap
  if count ≤ 0 then
    note .info "ℹ️ Nothing to create"
    return { parent := node }
  let parentBox ← box node
  if !hasSize parentBox then refuse (.noSize node)
  if !leavesRoom parentBox direction (← ofNumber gap.toScalar) then
    refuse (.noRoomBetween gap.text)
  let parent ← typed node
  let existing := childrenBelow (← outline) parent
  let existingBoxes ← boxes (existing.map (·.1))
  let corners ← ofNumber (childCorners parentBox existingBoxes direction gap count.toNat)
  let ids ← ofNumber (newChildIds parent existing count)
  let kind := (← shape node).kind
  let created ← (corners.zip ids).zipIdx.mapM fun ((corner, id), i) =>
    drawChild desk kind ⟨corner.x, corner.y, parentBox.width, parentBox.height⟩
      (labels.getD i "") { current := id, chain := parent.chainBelow, layout := parent.layout }
  store node (parent.attach (ids.map fun id => { id }))
  let style := edge.getD desk.style.edge
  let creation ← created.foldlM
    (fun c child => joinChild desk c child direction direction.opposite style)
    { parent := node, created, childIds := ids }
  let list := String.intercalate ", " ids
  note .info s!"✅ Created {created.length} child(ren) of {parent.current}: {list}"
  return creation

end Command

end FlowDeck
