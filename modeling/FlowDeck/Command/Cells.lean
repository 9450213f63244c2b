import FlowDeck.Arrange.Grid
import FlowDeck.Command.Creation

/-!
# Splitting a shape into cells

The cells of a grid are plain shapes without descriptors. They are drawn only if all of them
have room.
-/

namespace FlowDeck

/-- Whether all rows have height and all their cells width; otherwise the refusal. -/
def checkGrid {α : Type} [Scalar α] (parent : Box α) (room : GridRoom α) (columns : List Int) :
    Except NumberFault (Option Refusal) := do
  if (← rowHeight parent room columns.length) ≤ Scalar.ofInt 0 then return some .gridTooSmall
  let narrow ← columns.zipIdx.findM? fun (count, _) => do
    return decide ((← columnWidth parent room count) ≤ Scalar.ofInt 0)
  return narrow.map fun (_, i) => .tooManyColumns (i + 1)

namespace Command

open Edit

/-- Draws one cell. Blanks around its label are dropped. -/
def drawCell (desk : Desk) (label : String) (cell : Box Float) : Edit ShapeId := do
  let node ← drawShapeAt desk desk.style.nodeKind cell
  let label := Text.strip label.toList
  if label ≠ [] then setText desk node (String.ofList label)
  return node

def split (desk : Desk) (node : Option ShapeId) (rows : List (List String))
    (padding paddingTop gap : Option (Measure Float)) : Edit (List (List ShapeId)) := do
  let node ← requireNode node
  let rows := rows.filter (· ≠ [])
  if rows = [] then refuse .noCells
  let parent ← box node
  let room : GridRoom Float := {
    padding := gapOr padding desk.style.gridPadding
    paddingTop := gapOr paddingTop desk.style.gridPaddingTop
    gap := gapOr gap desk.style.gridGap }
  let columns := rows.map fun row => (row.length : Int)
  if let some refusal ← ofNumber (checkGrid parent room columns) then refuse refusal
  let cells ← ofNumber (gridCells parent room columns)
  let created ← (rows.zip cells).mapM fun (labels, boxes) =>
    (labels.zip boxes).mapM fun (label, cell) => drawCell desk label cell
  let count := created.flatten.length
  note .info s!"✅ Split shape {node} into {count} cell(s) over {created.length} row(s)"
  return created

end Command

end FlowDeck
