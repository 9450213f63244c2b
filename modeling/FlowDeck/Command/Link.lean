import FlowDeck.Command.Children

/-!
# Joining shapes

Two shapes are joined by a connector alone, or are made parent and child as well.
-/

namespace FlowDeck

/-- Whether the second of two nodes becomes the parent: it is the only one with a descriptor, or
it is nearer to the root. -/
def secondIsParent (first second : Option Descriptor) : Bool :=
  match first, second with
  | none, some _ => true
  | some first, some second => levelDepth second.level < levelDepth first.level
  | _, none => false

/-- The identifier of a child below a new parent. It keeps the one it has where that is at the
right level and no other child has it, else it gets the next number. -/
def linkedId (parent : Descriptor) (child : Option Descriptor) (pageChildren : Outline)
    (node : ShapeId) : Except NumberFault String :=
  let level := nextLevel parent.level
  let others := (pageChildren.filter fun entry => entry.1 != node).map (·.2.current)
  let linked := pageChildren.any fun entry => entry.1 == node
  let keeps (d : Descriptor) : Bool :=
    d.level == level && !others.contains d.current
      && (linked || !parent.childIds.contains d.current)
  match child.filter keeps with
  | some d => .ok d.current
  | none => furtherId level (parent.childIds ++ others)

namespace Command

open Edit

def requireTwo (a b : Option ShapeId) : Edit (ShapeId × ShapeId) := do
  let a ← requireNode a
  let b ← requireNode b
  if a = b then refuse .sameShape
  return (a, b)

def requireOrientation (name : String) : Edit Orientation :=
  match Orientation.ofName? name with
  | some orientation => return orientation
  | none => refuse .unknownOrientation

/-- Joins two nodes, along the axis on which they are further apart if none is given. Their
descriptors stay as they are. -/
def connect (desk : Desk) (a b : Option ShapeId) (orientation : Option String)
    (edge : Option EdgeStyle) : Edit (Option ShapeId) := do
  let (a, b) ← requireTwo a b
  let centerA := (← box a).center
  let centerB := (← box b).center
  let orientation ←
    match orientation with
    | none => pure (orientationBetween centerA centerB)
    | some name => requireOrientation name
  let (sideA, sideB) := facingSides centerA centerB orientation
  join desk a b sideA sideB (edge.getD desk.style.edge)

/-- Makes two nodes parent and child, and joins them. The descendants of the child stay as they
are. -/
def link (desk : Desk) (a b : Option ShapeId) (edge : Option EdgeStyle) : Edit Creation := do
  let (a, b) ← requireTwo a b
  let (parentNode, childNode) :=
    if secondIsParent (← descriptor? a) (← descriptor? b) then (b, a) else (a, b)
  if let some d ← descriptor? parentNode then
    if ((← outline).ancestors parentNode d).contains childNode then refuse .childIsAncestor
  let parent ← typed parentNode
  let outline ← outline
  let child := outline.lookup childNode
  let id ← ofNumber (linkedId parent child (outline.children parent) childNode)
  if let some d := child then
    if d.current ≠ id then
      note .info s!"🔁 Renumbered {d.current} to {id} under {parent.current}"
  let grandchildren := (child.map (·.children)).getD []
  store childNode ⟨id, parent.chainBelow, parent.layout, grandchildren⟩
  store parentNode (parent.attach [⟨id, ""⟩])
  let layout ← orFault (Layout.read (some (← layoutBelow parentNode)))
  let orientation := if layout.isHorizontal then .horizontal else .vertical
  let (sideOfParent, sideOfChild) :=
    facingSides (← box parentNode).center (← box childNode).center orientation
  let creation ← joinChild desk { parent := parentNode, childIds := [id] } childNode
    sideOfParent sideOfChild (edge.getD desk.style.edge)
  note .info s!"✅ Linked {id} under {parent.current}"
  return creation

end Command

end FlowDeck
