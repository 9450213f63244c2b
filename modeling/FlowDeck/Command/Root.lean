import FlowDeck.Deck.Drawing
import FlowDeck.Deck.Memo

/-!
# Roots

A node without a descriptor becomes a root of its own before anything is hung below it. Roots
have the least number that no other root has.
-/

namespace FlowDeck

def freshRoot (outline : Outline) (node : ShapeId) : Except NumberFault Descriptor := do
  let roots := outline.filter fun (other, d) => other != node && d.level == rootLevel
  return { current := ← readFreeRootId (roots.map (·.2.current)) }

namespace Edit

def requireNode (node : Option ShapeId) : Edit ShapeId := do
  match node with
  | none => refuse (.notOnSlide none)
  | some id => if (← slide).hasNode id then return id else refuse (.notOnSlide (some id))

def requireDescriptor (node : Option ShapeId) : Edit (ShapeId × Descriptor) := do
  let id ← requireNode node
  match ← descriptor? id with
  | some d => return (id, d)
  | none => refuse .noDescriptor

def plantRoot (node : ShapeId) : Edit Descriptor := do
  let root ← ofNumber (freshRoot (← outline) node)
  store node root
  note .info s!"🌱 Shape {node} is now root {root.current}"
  return root

/-- The descriptor of a node as the page keeps it; a node without one becomes a root. What is
not a node has none even then. -/
def ensureDescriptor (node : ShapeId) : Edit (Option Descriptor) := do
  match (← outline).lookup node with
  | some d => return some d
  | none =>
    let _ ← plantRoot node
    return (← outline).lookup node

def typed (node : ShapeId) : Edit Descriptor := do
  match ← ensureDescriptor node with
  | some d => return d
  | none => throw (.noShape (some node))

/-- The layout in effect below a shape; the default if it has no descriptor. -/
def layoutIn (outline : Outline) (node : ShapeId) : Edit String := do
  match outline.lookup node with
  | some d => return outline.layout d
  | none =>
    match ← descriptor? node with
    | some d => return outline.layout d
    | none => return defaultLayout.token

def layoutBelow (node : ShapeId) : Edit String := do
  layoutIn (← outline) node

/-- Removes the descriptor of a shape, and gives what was there. -/
def clearMemo (node : ShapeId) : Edit String := do
  let previous ← memo node
  setMemo node ""
  if previous ≠ "" then note .info s!"🧹 Cleared relationship data from shape {node}"
  return previous

end Edit

namespace Command

open Edit

def initRoot (node : Option ShapeId) : Edit Descriptor := do
  let id ← requireNode node
  match ← descriptor? id with
  | some d =>
    if d.isRoot then
      note .info s!"ℹ️ Shape {id} is already root {d.current}"
      return d
    else plantRoot id
  | none => plantRoot id

end Command

end FlowDeck
