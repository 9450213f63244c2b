import FlowDeck.Hierarchy.Descriptor
import FlowDeck.Plane.Box

/-!
# The layout that boxes show

Children spread most along the axis on which they are stacked, so the layout runs along the
other one, towards the side on which they are. Where the spread does not tell, the way from the
parent to the middle of the children does.
-/

namespace FlowDeck

variable {α : Type} [Scalar α]

def mean (xs : List α) : α :=
  Scalar.sum xs / Scalar.ofInt xs.length

def variance (xs : List α) : α :=
  let middle := mean xs
  mean (xs.map fun x => (x - middle) * (x - middle))

/-- Numbers that are equal up to a hundred-millionth and a hundred-thousandth of the second one.
An infinity is close to itself only, and what is no number to nothing. -/
def isClose (x y : α) : Bool :=
  let tolerance := Scalar.ofInt 1 / Scalar.ofInt 100000000
    + Scalar.ofInt 1 / Scalar.ofInt 100000 * Scalar.abs y
  let isFinite := y - y ≤ Scalar.ofInt 0
  (Scalar.abs (x - y) ≤ tolerance && isFinite) || (x ≤ y && y ≤ x)

def shownLayout (parent : Box α) (children : List (Box α)) : Layout :=
  if children.isEmpty then defaultLayout
  else
    let xs := children.map fun b => b.center.x
    let ys := children.map fun b => b.center.y
    let right := mean xs - parent.center.x
    let down := mean ys - parent.center.y
    let spreadX := variance xs
    let spreadY := variance ys
    let horizontal :=
      if 1 < children.length && !isClose spreadX spreadY then spreadX < spreadY
      else Scalar.abs down ≤ Scalar.abs right
    if horizontal then
      if Scalar.ofInt 0 ≤ right then .leftToRight else .rightToLeft
    else if Scalar.ofInt 0 ≤ down then .topDown
    else .bottomUp

end FlowDeck
