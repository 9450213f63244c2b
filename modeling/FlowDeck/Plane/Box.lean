import FlowDeck.Plane.Scalar
import FlowDeck.Plane.Side

/-!
# Points and boxes

The vertical axis points down: the top of a box is its least vertical coordinate. The page
keeps whole grid units, of which a pixel has 9525.
-/

namespace FlowDeck

structure Point (α : Type) where
  x : α
  y : α
  deriving DecidableEq, Repr

structure Box (α : Type) where
  x : α
  y : α
  width : α
  height : α
  deriving DecidableEq, Repr

namespace Box

variable {α : Type} [Scalar α]

def left (b : Box α) : α := b.x

def top (b : Box α) : α := b.y

def right (b : Box α) : α := b.x + b.width

def bottom (b : Box α) : α := b.y + b.height

def center (b : Box α) : Point α :=
  ⟨b.x + b.width / Scalar.ofInt 2, b.y + b.height / Scalar.ofInt 2⟩

/-- The extent along the axis on which children at `side` are stacked. -/
def sizeAlong (b : Box α) (side : Side) : α :=
  if side.isHorizontal then b.height else b.width

end Box

def unitsPerPixel : Nat := 9525

def pixels {α : Type} [Scalar α] (units : Int) : Except NumberFault α :=
  match Scalar.ofRatio? units unitsPerPixel with
  | some x => .ok x
  | none => .error .lengthTooLarge

def Box.pixels {α : Type} [Scalar α] (b : Box Int) : Except NumberFault (Box α) := do
  return ⟨← FlowDeck.pixels b.x, ← FlowDeck.pixels b.y, ← FlowDeck.pixels b.width,
    ← FlowDeck.pixels b.height⟩

/-- A length in pixels, on the grid: the nearest unit, a half to the even one. -/
def units (pixels : Float) : Except NumberFault Int :=
  match Number.Binary.decode (pixels * Float.ofNat unitsPerPixel) with
  | .finite negative coefficient exponent =>
    let (n, d) := Number.Binary.quotient coefficient exponent
    .ok (Number.roundDiv (if negative then -(n : Int) else n) d)
  | .infinite _ => .error .infinite
  | .undefined => .error .undefined

/-- A whole number of pixels is a whole number of units, whatever its size. -/
def Measure.units : Measure Float → Except NumberFault Int
  | .whole pixels => .ok (pixels * unitsPerPixel)
  | .exact pixels => FlowDeck.units pixels
  | .blank => .error .blank

end FlowDeck
