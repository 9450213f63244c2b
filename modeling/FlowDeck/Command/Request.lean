import FlowDeck.Command.Cells
import FlowDeck.Command.Inspect
import FlowDeck.Command.Link
import FlowDeck.Command.Scope
import FlowDeck.Command.Sibling

/-!
# Requests

A request is a command with what it is given. It says what a user asks for; whether the page
allows it shows when it is performed.
-/

namespace FlowDeck

inductive Request where
  | initRoot (node : Option ShapeId)
  | createChildren (node : Option ShapeId) (direction : String) (count : Int)
      (gap : Option (Measure Float)) (labels : List String) (edge : Option EdgeStyle)
  | createSibling (node : Option ShapeId) (gap : Option (Measure Float)) (edge : Option EdgeStyle)
  | split (node : Option ShapeId) (rows : List (List String))
      (padding paddingTop gap : Option (Measure Float))
  | connect (a b : Option ShapeId) (orientation : Option String) (edge : Option EdgeStyle)
  | link (a b : Option ShapeId) (edge : Option EdgeStyle)
  | select (scope : Scope) (node : Option ShapeId)
  | describe (node : Option ShapeId)
  | clear (node : Option ShapeId)
  | setLayout (node : Option ShapeId) (layout : Option String)
  | setChildLayout (node : Option ShapeId) (child : String) (layout : Option String)
  | analyze

/-- Performs a request. What it answers is dropped. -/
def Request.perform (desk : Desk) : Request → Edit Unit
  | .initRoot node => do let _ ← Command.initRoot node
  | .createChildren node direction count gap labels edge => do
    let _ ← Command.createChildren desk node direction count gap labels edge
  | .createSibling node gap edge => do let _ ← Command.createSibling desk node gap edge
  | .split node rows padding paddingTop gap => do
    let _ ← Command.split desk node rows padding paddingTop gap
  | .connect a b orientation edge => do let _ ← Command.connect desk a b orientation edge
  | .link a b edge => do let _ ← Command.link desk a b edge
  | .select scope node => do let _ ← Command.selectScope scope node
  | .describe node => do let _ ← Command.describe node
  | .clear node => do let _ ← Command.clear node
  | .setLayout node layout => do let _ ← Command.setLayout node layout
  | .setChildLayout node child layout => do let _ ← Command.setChildLayout node child layout
  | .analyze => do let _ ← Command.analyze

end FlowDeck
