import FlowDeck.Arrange.Flow
import FlowDeck.Command.Root

/-!
# Reading and setting descriptors

Reports about the hierarchy of a page, and the commands that change single descriptors.
-/

namespace FlowDeck

def textOr (text word : String) : String :=
  if text = "" then word else text

def ChildRef.text (c : ChildRef) : String :=
  String.ofList (Record.childText c)

def describe (text : String) : String :=
  match Descriptor.read? text with
  | some d =>
    let children := String.intercalate ", " (d.children.map ChildRef.text)
    String.intercalate "\n" [
      s!"📊 Graph ID:\n{text}",
      "├─ Parent: " ++ textOr d.chainKey "(root)",
      "├─ Layout: " ++ textOr d.layout "(inherited)",
      "├─ Current: " ++ d.current,
      "└─ Children: " ++ textOr children "(none)"]
  | none =>
    if text ≠ "" then s!"📊 Graph ID:\n{text}\n(unparsable)"
    else "No Graph ID found. This shape may not be part of a flowchart."

namespace Command

open Edit

def describe (node : Option ShapeId) : Edit String := do
  return FlowDeck.describe (← memo (← requireNode node))

/-- Removes the descriptor of a node. Others may go on referring to it. -/
def clear (node : Option ShapeId) : Edit String := do
  clearMemo (← requireNode node)

/-- A layout token, empty for none. -/
def requireLayout (text : Option String) : Edit String := do
  let token := Text.upper (Record.plain (text.getD "").toList)
  if token ≠ "" ∧ token ∉ Layout.tokens then refuse (.unknownLayout (text.getD ""))
  return token

/-- Declares the layout of a node; none means that it is inherited. -/
def setLayout (node : Option ShapeId) (layout : Option String) : Edit Descriptor := do
  let (node, d) ← requireDescriptor node
  let d := { d with layout := ← requireLayout layout }
  store node d
  return d

def setChildLayout (node : Option ShapeId) (child : String) (layout : Option String) :
    Edit Descriptor := do
  let (node, d) ← requireDescriptor node
  if (d.child? child).isNone then refuse (.notAChild child d.current)
  let d := d.withChildLayout child (← requireLayout layout)
  store node d
  return d

def shownLayoutOf (node : ShapeId) (children : List ShapeId) : Edit Layout := do
  let layout := shownLayout (← box node) (← boxes children)
  note .debug s!"📐 Detected layout {layout.token} from {children.length} sibling(s)"
  return layout

/-- One line about a node: its children's layout as declared and as they stand. -/
def analyzeNode (outline : Outline) (node : ShapeId) (d : Descriptor) : Edit String := do
  let indent := String.join (d.chain.map fun _ => "  ")
  let line := s!"{indent}{d.current} (shape {node})"
  let children := outline.children d
  if children.isEmpty then return line
  let shown ← shownLayoutOf node (children.map (·.1))
  let declared := outline.layout d
  let mark := if shown.token ≠ declared then " ⚠️" else ""
  return s!"{line} layout {declared}, looks like {shown.token}{mark}"

def analyze : Edit String := do
  let slide ← slide
  let outline ← outline
  if outline.isEmpty then return "No flowchart shapes found on this slide."
  let nodes := slide.nodes.length
  let edges := slide.edges.length
  let head := s!"📊 {nodes} shape(s), {outline.length} in flowcharts, {edges} connector(s)"
  let lines ← outline.mapM fun (node, d) => analyzeNode outline node d
  return String.intercalate "\n" (head :: lines)

end Command

end FlowDeck
