import FlowDeck.Number.Binary
import FlowDeck.Number.Fault

/-!
# Scalars

Coordinates are computed by formulas over any `Scalar`. The editor computes with doubles; over
the rational numbers the same formulas are exact, which is where their geometry is studied.
-/

namespace FlowDeck

/-- Numbers that lengths and positions are computed with. -/
class Scalar (α : Type) extends Add α, Sub α, Mul α, Div α, Neg α, LT α, LE α where
  decidableLT : DecidableLT α
  decidableLE : DecidableLE α
  ofInt : Int → α
  /-- The scalar nearest to a quotient, none beyond the largest. -/
  ofRatio? : Int → Nat → Option α

attribute [reducible, instance] Scalar.decidableLT Scalar.decidableLE

namespace Scalar

instance : Scalar Float where
  decidableLT := inferInstance
  decidableLE := inferInstance
  ofInt := Float.ofInt
  ofRatio? := Number.Binary.nearest?

instance : Scalar Rat where
  decidableLT := inferInstance
  decidableLE := inferInstance
  ofInt n := n
  ofRatio? n d := some (n / d)

variable {α : Type} [Scalar α]

def abs (x : α) : α :=
  if x < ofInt 0 then -x else x

def max (x y : α) : α :=
  if x < y then y else x

def sum (xs : List α) : α :=
  xs.foldl (· + ·) (ofInt 0)

def ofInt? (n : Int) : Except NumberFault α :=
  match ofRatio? n 1 with
  | some x => .ok x
  | none => .error .tooLarge

end Scalar

/-- A length as it was given: a whole number of pixels, any other number of them, or left blank,
which fails where the length is needed. -/
inductive Measure (α : Type) where
  | whole (pixels : Int)
  | exact (pixels : α)
  | blank

namespace Measure

variable {α : Type} [Scalar α]

def toScalar : Measure α → Except NumberFault α
  | .whole pixels => Scalar.ofInt? pixels
  | .exact pixels => .ok pixels
  | .blank => .error .blank

/-- The length taken several times. A whole length is multiplied before it is rounded. -/
def times (m : Measure α) (n : Int) : Except NumberFault α :=
  match m with
  | .whole pixels => Scalar.ofInt? (pixels * n)
  | .exact pixels => (Scalar.ofInt? n).map fun n => pixels * n
  | .blank => .error .blank

end Measure

end FlowDeck
