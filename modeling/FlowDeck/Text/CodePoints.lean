/-!
# Sets of code points

A set with few gaps is kept as the sorted code points at which membership changes: the first
member, the first code point after it that is no member, and so on.
-/

namespace FlowDeck.Text

/-- A set of code points, by the sorted points where membership changes. -/
structure CodePoints where
  turns : Array Nat

/-- A code point is a member iff an odd number of turns is at or below it. -/
def CodePoints.contains (s : CodePoints) (c : Char) : Bool :=
  s.turns.foldl (fun inside turn => if turn ≤ c.toNat then !inside else inside) false

end FlowDeck.Text
