import FlowDeck.Plane.Box

/-!
# Grids of cells

A grid fills a box, less a padding on all sides. The upper padding is given by itself, as it
leaves room for a label. All rows have one height, and each row has columns of its own.
-/

namespace FlowDeck

variable {α : Type} [Scalar α]

/-- The part that each of `count` equal parts takes of `available`, with gaps between them. -/
def share (available : α) (gap : Measure α) (count : Int) : Except NumberFault α := do
  let gaps ← gap.times (count - 1)
  let parts ← Scalar.ofInt? count
  if count = 0 then throw .dividedByZero
  return (available - gaps) / parts

/-- The room around and between the cells of a grid. -/
structure GridRoom (α : Type) where
  padding : Measure α
  paddingTop : Measure α
  gap : Measure α

def rowHeight (parent : Box α) (room : GridRoom α) (rows : Int) : Except NumberFault α := do
  let above ← room.paddingTop.toScalar
  let below ← room.padding.toScalar
  share (parent.height - above - below) room.gap rows

def columnWidth (parent : Box α) (room : GridRoom α) (columns : Int) : Except NumberFault α := do
  share (parent.width - (← room.padding.times 2)) room.gap columns

def rowCells (parent : Box α) (room : GridRoom α) (height : α) (row : Nat) (columns : Int) :
    Except NumberFault (List (Box α)) := do
  let width ← columnWidth parent room columns
  let gap ← room.gap.toScalar
  let top := parent.top + (← room.paddingTop.toScalar) + Scalar.ofInt row * (height + gap)
  let left := parent.left + (← room.padding.toScalar)
  return (List.range columns.toNat).map fun (column : Nat) =>
    ⟨left + Scalar.ofInt column * (width + gap), top, width, height⟩

/-- The cells of a grid, row by row; `columns` has the number of columns of each row. -/
def gridCells (parent : Box α) (room : GridRoom α) (columns : List Int) :
    Except NumberFault (List (List (Box α))) :=
  if columns.isEmpty then .ok []
  else do
    let height ← rowHeight parent room columns.length
    (columns.zipIdx).mapM fun (count, row) => rowCells parent room height row count

end FlowDeck
