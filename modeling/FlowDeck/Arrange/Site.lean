import FlowDeck.Plane.Box

/-!
# Connection sites

Connectors end at the sites of a shape, which lie evenly on the ellipse inside its box and are
counted against the clock.
-/

namespace FlowDeck

/-- The angle of the first site, in degrees. Four sites and one begin at the top, eight and two
half-way to it, so that with eight the second is at the top. -/
def firstSiteAngle (count : Nat) : Float :=
  if count = 2 ∨ count = 8 then 45 else 90

/-- The cosines and sines at the angles of the sites that kinds of shapes have, as doubles. -/
def bearings : List (Float × Point Float) := [
  (45, ⟨0.7071067811865476, 0.7071067811865475⟩),
  (90, ⟨6.123233995736766e-17, 1.0⟩),
  (135, ⟨-0.7071067811865475, 0.7071067811865476⟩),
  (150, ⟨-0.8660254037844387, 0.49999999999999994⟩),
  (180, ⟨-1.0, 1.2246467991473532e-16⟩),
  (210, ⟨-0.8660254037844386, -0.5000000000000001⟩),
  (225, ⟨-0.7071067811865477, -0.7071067811865475⟩),
  (270, ⟨-1.8369701987210297e-16, -1.0⟩),
  (315, ⟨0.7071067811865474, -0.7071067811865477⟩),
  (330, ⟨0.8660254037844384, -0.5000000000000004⟩),
  (360, ⟨1.0, -2.4492935982947064e-16⟩),
  (390, ⟨0.8660254037844386, 0.5⟩)]

/-- The cosine and the sine of an angle in degrees. -/
def bearing (degrees : Float) : Point Float :=
  match bearings.find? fun entry => entry.1 == degrees with
  | some (_, direction) => direction
  | none =>
    let angle := degrees * (3.141592653589793 / 180)
    ⟨angle.cos, angle.sin⟩

/-- The sites of a box, to four decimals. -/
def sites (b : Box Float) (count : Nat) : List (Point Float) :=
  (List.range count).map fun (i : Nat) =>
    let direction := bearing (firstSiteAngle count + Float.ofNat i * 360 / Float.ofNat count)
    let center := b.center
    ⟨Number.roundPlaces 4 (center.x + b.width / 2 * direction.x),
      Number.roundPlaces 4 (center.y - b.height / 2 * direction.y)⟩

/-- The sites that face the sides of a shape with this many sites, where that is laid down. -/
def siteTable? (count : Nat) : Option (Side → Nat) :=
  match count with
  | 8 => some fun | .top => 1 | .left => 3 | .bottom => 5 | .right => 7
  | 4 => some fun | .top => 0 | .left => 1 | .bottom => 2 | .right => 3
  | 2 => some fun | .top => 0 | .right => 0 | .left => 1 | .bottom => 1
  | 1 => some fun _ => 0
  | _ => none

/-- The site to use on a side: the one that faces it, else the first, if there is any. -/
def pickSite? (count : Nat) (side : Side) : Option Nat :=
  if count = 0 then none
  else
    match siteTable? count with
    | some table => some (table side)
    | none => some 0

inductive Orientation where
  | horizontal
  | vertical
  deriving DecidableEq, Repr

def Orientation.name : Orientation → String
  | .horizontal => "horizontal"
  | .vertical => "vertical"

def Orientation.ofName? (s : String) : Option Orientation :=
  [Orientation.horizontal, .vertical].find? fun o => o.name == s

variable {α : Type} [Scalar α]

def facingSides (a b : Point α) : Orientation → Side × Side
  | .horizontal => if Scalar.ofInt 0 < b.x - a.x then (.right, .left) else (.left, .right)
  | .vertical => if Scalar.ofInt 0 < b.y - a.y then (.bottom, .top) else (.top, .bottom)

/-- The axis along which two points are further apart; the vertical one if there is none. -/
def orientationBetween (a b : Point α) : Orientation :=
  if Scalar.abs (b.y - a.y) < Scalar.abs (b.x - a.x) then .horizontal else .vertical

end FlowDeck
