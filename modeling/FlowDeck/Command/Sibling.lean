import FlowDeck.Command.Children

/-!
# Creating a sibling

A sibling is drawn after the last of the children of its parent. It gets the layout that the
parent prescribes for the given node, else the one in effect below the parent.
-/

namespace FlowDeck

def siblingLayout (outline : Outline) (parent d : Descriptor) : String :=
  match (parent.child? d.current).filter (·.layout ≠ "") with
  | some ref => ref.layout
  | none => outline.layout parent

/-- The children of the parent at the level of a node, the node among them in any case. -/
def siblingsOf (outline : Outline) (parent : Descriptor) (node : ShapeId) (d : Descriptor) :
    Outline :=
  let siblings := (outline.children parent).filter fun entry => entry.2.level == d.level
  if siblings.any fun entry => entry.1 == node then siblings else siblings ++ [(node, d)]

def newSiblingId (parent d : Descriptor) (siblings : Outline) : Except NumberFault String :=
  furtherId d.level (parent.childIds ++ siblings.map (·.2.current))

namespace Command

open Edit

def createSibling (desk : Desk) (node : Option ShapeId) (gap : Option (Measure Float))
    (edge : Option EdgeStyle) : Edit Creation := do
  let (node, d) ← requireDescriptor node
  if d.isRoot then refuse .rootHasNoSiblings
  let outline ← outline
  match outline.parent? d with
  | none => refuse .parentNotFound
  | some (parentNode, parent) =>
    let layout := siblingLayout outline parent d
    let direction := (← orFault (Layout.read (some layout))).direction
    let siblings := siblingsOf outline parent node d
    let siblingBoxes ← boxes (siblings.map (·.1))
    let gap := gapOr gap desk.style.nodeGap
    let corners ← ofNumber (furtherCorners siblingBoxes direction gap 1)
    let id ← ofNumber (newSiblingId parent d siblings)
    let size ← box node
    let kind := (← shape node).kind
    let created ← corners.mapM fun corner =>
      drawChild desk kind ⟨corner.x, corner.y, size.width, size.height⟩ ""
        { current := id, chain := d.chain, layout }
    store parentNode (parent.attach [⟨id, layout⟩])
    let style := edge.getD desk.style.edge
    let creation ← created.foldlM
      (fun c child => joinChild desk c child direction direction.opposite style)
      { parent := parentNode, created, childIds := [id] }
    note .info s!"✅ Created sibling {id} next to {d.current}"
    return creation

end Command

end FlowDeck
