import FlowDeck.Plane.Box

/-!
# Stacks of children

Children stand beside their parent in a row or a column. The first ones are centred on the
parent; later ones continue from the last of those that are there, so that an order that was
arranged by hand stays.

Nothing is checked here: a gap may be negative, and then boxes overlap or run backwards.
-/

namespace FlowDeck

variable {α : Type} [Scalar α]

def stackExtent (count : Nat) (size : α) (gap : Measure α) : Except NumberFault α := do
  let sizes := (← Scalar.ofInt? count) * size
  return sizes + (← gap.times (count - 1))

/-- How far the first of the boxes is from the near end of the parent, so that boxes of this
extent are centred on it. -/
def stackOffset (extent parentSize : α) : α :=
  -(extent - parentSize) / Scalar.ofInt 2

def cornerBeside (parent : Box α) (direction : Side) (gap width height along : α) : Point α :=
  match direction with
  | .top => ⟨parent.left + along, parent.top - height - gap⟩
  | .bottom => ⟨parent.left + along, parent.bottom + gap⟩
  | .right => ⟨parent.right + gap, parent.top + along⟩
  | .left => ⟨parent.left - width - gap, parent.top + along⟩

def firstCorners (parent : Box α) (direction : Side) (gap : Measure α) (count : Nat)
    (width height : α) : Except NumberFault (List (Point α)) := do
  let size := if direction.isHorizontal then height else width
  let offset := stackOffset (← stackExtent count size gap) (parent.sizeAlong direction)
  let gap ← gap.toScalar
  return (List.range count).map fun (i : Nat) =>
    cornerBeside parent direction gap width height (offset + Scalar.ofInt i * (size + gap))

def Box.stacked (b : Box α) (direction : Side) : α :=
  if direction.isHorizontal then b.top else b.left

/-- The box that is last in the stack; of several at the same place the last in the list. -/
def lastStacked (direction : Side) (first : Box α) (others : List (Box α)) : Box α :=
  others.foldl (fun last b => if b.stacked direction < last.stacked direction then last else b)
    first

def stepFrom (last : Box α) (direction : Side) (gap : α) (steps : Nat) : Point α :=
  let step := Scalar.ofInt steps * (last.sizeAlong direction + gap)
  if direction.isHorizontal then ⟨last.left, last.top + step⟩ else ⟨last.left + step, last.top⟩

def furtherCorners (existing : List (Box α)) (direction : Side) (gap : Measure α) (count : Nat) :
    Except NumberFault (List (Point α)) :=
  match existing with
  | [] => .ok []
  | first :: others => do
    let gap ← gap.toScalar
    let last := lastStacked direction first others
    return (List.range count).map fun (i : Nat) => stepFrom last direction gap (i + 1)

end FlowDeck
