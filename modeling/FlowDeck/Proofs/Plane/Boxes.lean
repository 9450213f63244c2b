import FlowDeck.Arrange.Stack
import Mathlib.Algebra.BigOperators.Group.List.Basic
import Mathlib.Algebra.Order.Field.Basic
import Mathlib.Algebra.Order.Ring.Rat
import Mathlib.Algebra.Order.Group.Unbundled.Abs
import Mathlib.Data.Set.Basic
import Mathlib.Tactic.Linarith

/-!
# Boxes with exact coordinates

Over the rational numbers the formulas for places mean what they say. Boxes are apart if they have no inner
point in common; it is enough that one ends, along a stack or across it, before the other begins.
-/

namespace FlowDeck

/-! ## Exact numbers -/

namespace Scalar

theorem ofInt_exact (n : Int) : (ofInt n : ℚ) = n := rfl

theorem ofInt?_exact (n : Int) : ofInt? n = .ok (n : ℚ) := by
  rw [ofInt?]
  simp [ofRatio?]

theorem abs_exact (x : ℚ) : Scalar.abs x = |x| := by
  unfold Scalar.abs
  split
  · next negative => exact (abs_of_neg negative).symm
  · next negative => exact (abs_of_nonneg (not_lt.1 negative)).symm

theorem sum_exact (xs : List ℚ) : Scalar.sum xs = xs.sum :=
  List.sum_eq_foldl.symm

end Scalar

/-- Whole or not, a length is multiplied as the number that it is. -/
theorem Measure.times_exact {m : Measure ℚ} {x : ℚ} (h : m.toScalar = .ok x) (n : Int) : m.times n = .ok (x * n) := by
  cases m with
  | whole pixels =>
    rw [toScalar, Scalar.ofInt?_exact] at h
    rw [times, Scalar.ofInt?_exact, ← Except.ok.inj h, Int.cast_mul]
  | exact pixels =>
    rw [times, Scalar.ofInt?_exact, ← Except.ok.inj h]
    rfl
  | blank => cases h

namespace Box

variable {a b : Box ℚ} {side : Side}

theorem right_exact (b : Box ℚ) : b.right = b.x + b.width := rfl

theorem bottom_exact (b : Box ℚ) : b.bottom = b.y + b.height := rfl

/-! ## Boxes that are apart -/

structure Solid (b : Box ℚ) : Prop where
  width : 0 < b.width
  height : 0 < b.height

def interior (b : Box ℚ) : Set (Point ℚ) :=
  {p | (b.left < p.x ∧ p.x < b.right) ∧ b.top < p.y ∧ p.y < b.bottom}

def Apart (a b : Box ℚ) : Prop :=
  ∀ p ∈ a.interior, p ∉ b.interior

theorem Apart.symm (h : a.Apart b) : b.Apart a :=
  fun p inB inA => h p inA inB

/-- Two stretches of positive length have an inner point in common unless one ends before the other begins. -/
theorem exists_between_stretches {l r l' r' : ℚ} (h : l < r) (h' : l' < r') (meet : l < r') (meet' : l' < r) :
    ∃ x, (l < x ∧ x < r) ∧ l' < x ∧ x < r' := by
  obtain ⟨x, hx, hx'⟩ := exists_between (max_lt (lt_min h meet) (lt_min meet' h'))
  obtain ⟨hl, hl'⟩ := max_lt_iff.1 hx
  obtain ⟨hr, hr'⟩ := lt_min_iff.1 hx'
  exact ⟨x, ⟨hl, hr⟩, hl', hr'⟩

theorem apart_of_left (h : a.right ≤ b.left) : a.Apart b := by
  rintro p ⟨⟨-, inA⟩, -⟩ ⟨⟨inB, -⟩, -⟩
  exact absurd (inA.trans_le h) inB.not_gt

theorem apart_of_above (h : a.bottom ≤ b.top) : a.Apart b := by
  rintro p ⟨-, -, inA⟩ ⟨-, inB, -⟩
  exact absurd (inA.trans_le h) inB.not_gt

theorem apart_iff (ha : a.Solid) (hb : b.Solid) :
    a.Apart b ↔ (a.right ≤ b.left ∨ b.right ≤ a.left) ∨ a.bottom ≤ b.top ∨ b.bottom ≤ a.top := by
  constructor
  · intro apart
    by_contra meet
    push Not at meet
    obtain ⟨⟨hx, hx'⟩, hy, hy'⟩ := meet
    obtain ⟨x, inX, inX'⟩ := exists_between_stretches (lt_add_of_pos_right a.x ha.width)
      (lt_add_of_pos_right b.x hb.width) hx' hx
    obtain ⟨y, inY, inY'⟩ := exists_between_stretches (lt_add_of_pos_right a.y ha.height)
      (lt_add_of_pos_right b.y hb.height) hy' hy
    exact apart ⟨x, y⟩ ⟨inX, inY⟩ ⟨inX', inY'⟩
  · rintro ((h | h) | h | h)
    · exact apart_of_left h
    · exact (apart_of_left h).symm
    · exact apart_of_above h
    · exact (apart_of_above h).symm

/-! ## Along a stack and across it -/

def reach (b : Box ℚ) (side : Side) : ℚ :=
  b.stacked side + b.sizeAlong side

/-- Where a box begins on the other axis. -/
def across (b : Box ℚ) (side : Side) : ℚ :=
  if side.isHorizontal then b.left else b.top

theorem Solid.sizeAlong (h : b.Solid) (side : Side) : 0 < b.sizeAlong side := by
  cases side
  · exact h.width
  · exact h.height
  · exact h.width
  · exact h.height

theorem apart_of_reach (side : Side) (h : a.reach side ≤ b.stacked side) : a.Apart b := by
  cases side
  · exact apart_of_left h
  · exact apart_of_above h
  · exact apart_of_left h
  · exact apart_of_above h

/-- Boxes that begin at one place across the stack are apart only if one ends before the other begins. -/
theorem apart_iff_reach (ha : a.Solid) (hb : b.Solid) (level : a.across side = b.across side)
    (before : a.stacked side ≤ b.stacked side) : a.Apart b ↔ a.reach side ≤ b.stacked side := by
  refine ⟨fun apart => ?_, apart_of_reach side⟩
  have onward : ¬b.reach side ≤ a.stacked side := by
    have := hb.sizeAlong side
    rw [reach]
    linarith
  have wideA : ¬a.right ≤ a.left := not_le.2 (lt_add_of_pos_right a.x ha.width)
  have wideB : ¬b.right ≤ b.left := not_le.2 (lt_add_of_pos_right b.x hb.width)
  have highA : ¬a.bottom ≤ a.top := not_le.2 (lt_add_of_pos_right a.y ha.height)
  have highB : ¬b.bottom ≤ b.top := not_le.2 (lt_add_of_pos_right b.y hb.height)
  rw [apart_iff ha hb] at apart
  cases side with
  | top | bottom =>
    have top : a.top = b.top := level
    rw [← top] at apart highB
    exact (apart.resolve_right (not_or.2 ⟨highA, highB⟩)).resolve_right onward
  | left | right =>
    have left : a.left = b.left := level
    rw [← left] at apart wideB
    exact (apart.resolve_left (not_or.2 ⟨wideA, wideB⟩)).resolve_right onward

def clearance (a b : Box ℚ) : Side → ℚ
  | .top => a.top - b.bottom
  | .bottom => b.top - a.bottom
  | .right => b.left - a.right
  | .left => a.left - b.right

theorem apart_of_clearance (h : 0 ≤ a.clearance b side) : a.Apart b := by
  cases side
  · exact (apart_of_above (sub_nonneg.1 h)).symm
  · exact apart_of_left (sub_nonneg.1 h)
  · exact apart_of_above (sub_nonneg.1 h)
  · exact (apart_of_left (sub_nonneg.1 h)).symm

end Box

end FlowDeck
