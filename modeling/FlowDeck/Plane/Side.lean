/-!
# Sides and layouts

A layout says on which side of a parent its children are; siblings are stacked along the axis
that does not cross that side.
-/

namespace FlowDeck

inductive Side where
  | top
  | right
  | bottom
  | left
  deriving DecidableEq, Repr

namespace Side

def all : List Side := [.top, .right, .bottom, .left]

def name : Side → String
  | .top => "TOP"
  | .right => "RIGHT"
  | .bottom => "BOTTOM"
  | .left => "LEFT"

def ofName? (s : String) : Option Side :=
  all.find? fun side => side.name == s

def opposite : Side → Side
  | .top => .bottom
  | .right => .left
  | .bottom => .top
  | .left => .right

def isHorizontal : Side → Bool
  | .left | .right => true
  | .top | .bottom => false

end Side

/-- Where children are: to the right, to the left, below or above. -/
inductive Layout where
  | leftToRight
  | rightToLeft
  | topDown
  | bottomUp
  deriving DecidableEq, Repr

namespace Layout

def all : List Layout := [.leftToRight, .rightToLeft, .topDown, .bottomUp]

def token : Layout → String
  | .leftToRight => "LR"
  | .rightToLeft => "RL"
  | .topDown => "TD"
  | .bottomUp => "DT"

def tokens : List String := all.map token

def ofToken? (s : String) : Option Layout :=
  all.find? fun layout => layout.token == s

/-- The side of the parent on which the children are. -/
def direction : Layout → Side
  | .leftToRight => .right
  | .rightToLeft => .left
  | .topDown => .bottom
  | .bottomUp => .top

def isHorizontal (layout : Layout) : Bool :=
  layout.direction.isHorizontal

end Layout

end FlowDeck
