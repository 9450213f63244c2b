import FlowDeck.Arrange.Flow
import FlowDeck.Proofs.Arrange.Stacking
import Mathlib.Algebra.Order.BigOperators.Group.List
import Mathlib.Tactic.Positivity

/-!
# The layout that a row shows

The boxes of a row have their middle half-way along it and no spread across it. So a row that is centred on the
parent, to one side of it, shows the layout that has the children on this side, however short the row is.
-/

namespace FlowDeck

variable {parent first : Box ℚ} {children : List (Box ℚ)} {side : Side} {gap : Measure ℚ}
variable {g start step width height : ℚ} {count : ℕ}

/-! ## Mean and variance -/

theorem mean_exact (xs : List ℚ) : mean xs = xs.sum / xs.length := by
  rw [mean, Scalar.sum_exact]
  rfl

theorem sum_progression (start step : ℚ) (count : ℕ) :
    ((List.range count).map fun (i : ℕ) => start + i * step).sum = count * (start + (count - 1) * step / 2) := by
  induction count with
  | zero => simp
  | succ n ih =>
    rw [List.sum_range_succ, ih, Nat.cast_succ]
    ring

/-- The mean of evenly spaced numbers is half-way between the first and the last of them. -/
theorem mean_progression (hcount : 1 ≤ count) (start step : ℚ) :
    mean ((List.range count).map fun (i : ℕ) => start + i * step) = start + (count - 1) * step / 2 := by
  have some : (count : ℚ) ≠ 0 := Nat.cast_ne_zero.2 (Nat.one_le_iff_ne_zero.1 hcount)
  rw [mean_exact, sum_progression, List.length_map, List.length_range, mul_div_cancel_left₀ _ some]

theorem mean_nonneg {xs : List ℚ} (h : ∀ x ∈ xs, 0 ≤ x) : 0 ≤ mean xs := by
  rw [mean_exact]
  exact div_nonneg (List.sum_nonneg h) xs.length.cast_nonneg

theorem variance_nonneg (xs : List ℚ) : 0 ≤ variance xs := by
  refine mean_nonneg fun y hy => ?_
  obtain ⟨x, -, rfl⟩ := List.mem_map.1 hy
  exact mul_self_nonneg (x - mean xs)

theorem mean_const (hcount : 1 ≤ count) (x : ℚ) : mean ((List.range count).map fun _ => x) = x := by
  simpa using mean_progression hcount x 0

theorem variance_const (hcount : 1 ≤ count) (x : ℚ) : variance ((List.range count).map fun _ => x) = 0 := by
  rw [variance, mean_const hcount, List.map_map]
  exact (mean_const hcount ((x - x) * (x - x))).trans (by rw [sub_self, mul_zero])

/-- Two exact numbers are close if they differ by no more than the tolerance. -/
theorem isClose_iff (x y : ℚ) : isClose x y ↔ |x - y| ≤ 1 / 100000000 + 1 / 100000 * |y| := by
  have written : isClose x y = (decide (|x - y| ≤ 1 / 100000000 + 1 / 100000 * |y|) && decide (y - y ≤ 0) ||
      decide (x ≤ y) && decide (y ≤ x)) := by
    rw [← Scalar.abs_exact, ← Scalar.abs_exact]
    rfl
  rw [written, Bool.or_eq_true, Bool.and_eq_true, Bool.and_eq_true, decide_eq_true_iff, decide_eq_true_iff,
    decide_eq_true_iff, decide_eq_true_iff, sub_self, and_iff_left le_rfl, or_iff_left_iff_imp]
  rintro ⟨le, ge⟩
  rw [le_antisymm le ge, sub_self, abs_zero]
  positivity

/-! ## Where the middle is -/

namespace Box

def middle (b : Box ℚ) (side : Side) : ℚ :=
  if side.isHorizontal then b.center.y else b.center.x

def level (b : Box ℚ) (side : Side) : ℚ :=
  if side.isHorizontal then b.center.x else b.center.y

theorem middle_exact (b : Box ℚ) (side : Side) : b.middle side = b.stacked side + b.sizeAlong side / 2 := by
  cases side <;> rfl

theorem level_moved (b : Box ℚ) (side : Side) (way : ℚ) : (b.moved side way).level side = b.level side := by
  cases side <;> rfl

def LiesTo (b : Box ℚ) (side : Side) (level : ℚ) : Prop :=
  match side with
  | .right | .bottom => b.level side < level
  | .left | .top => level < b.level side

theorem liesTo_of_clearance {a b : Box ℚ} (ha : a.Solid) (hb : b.Solid) (h : 0 ≤ a.clearance b side) :
    a.LiesTo side (b.level side) := by
  have := ha.width
  have := ha.height
  have := hb.width
  have := hb.height
  cases side with
  | right =>
    have clear : 0 ≤ b.x - (a.x + a.width) := h
    exact (by linarith : a.x + a.width / 2 < b.x + b.width / 2)
  | bottom =>
    have clear : 0 ≤ b.y - (a.y + a.height) := h
    exact (by linarith : a.y + a.height / 2 < b.y + b.height / 2)
  | left =>
    have clear : 0 ≤ a.x - (b.x + b.width) := h
    exact (by linarith : b.x + b.width / 2 < a.x + a.width / 2)
  | top =>
    have clear : 0 ≤ a.y - (b.y + b.height) := h
    exact (by linarith : b.y + b.height / 2 < a.y + a.height / 2)

end Box

/-! ## The layout that is shown -/

/-- Whether so many boxes, with these spreads on two axes and these ways from the parent, flow along the first
axis. -/
def FlowsAlong (count : ℕ) (spread spread' way way' : ℚ) : Prop :=
  if 1 < count && !isClose spread spread' then spread < spread' else |way'| ≤ |way|

instance (count : ℕ) (spread spread' way way' : ℚ) : Decidable (FlowsAlong count spread spread' way way') := by
  unfold FlowsAlong
  infer_instance

/-- Boxes flow along the axis on which they are level. -/
theorem flowsAlong_of_level {spread : ℚ} (nonneg : 0 ≤ spread) (way : ℚ) : FlowsAlong count 0 spread way 0 := by
  unfold FlowsAlong
  split
  · next spreads =>
    refine nonneg.lt_of_ne fun none => ?_
    have close : isClose (0 : ℚ) 0 := (isClose_iff 0 0).2 (by norm_num)
    simp [← none, close] at spreads
  · rw [abs_zero]
    exact abs_nonneg way

theorem not_flowsAlong_of_level {spread way : ℚ} (nonneg : 0 ≤ spread) (away : way ≠ 0) :
    ¬FlowsAlong count spread 0 0 way := by
  unfold FlowsAlong
  split
  · exact not_lt.2 nonneg
  · rw [abs_zero, not_le]
    exact abs_pos.2 away

theorem shownLayout_exact (some : children ≠ []) :
    let xs := children.map (·.center.x)
    let ys := children.map (·.center.y)
    shownLayout parent children =
      if FlowsAlong children.length (variance xs) (variance ys) (mean xs - parent.center.x) (mean ys - parent.center.y)
      then if 0 ≤ mean xs - parent.center.x then .leftToRight else .rightToLeft
      else if 0 ≤ mean ys - parent.center.y then .topDown else .bottomUp := by
  rw [shownLayout, if_neg (by simpa using some)]
  simp only [FlowsAlong, ← Scalar.abs_exact]
  rfl

/-- Boxes whose middles are level beside the parent, and centred on it along the stack, show the layout of that
side. -/
theorem direction_shownLayout (some : children ≠ [])
    (centred : mean (children.map (·.middle side)) = parent.middle side)
    (level : variance (children.map (·.level side)) = 0)
    (beside : parent.LiesTo side (mean (children.map (·.level side)))) :
    (shownLayout parent children).direction = side := by
  rw [shownLayout_exact some]
  cases side with
  | right =>
    have ahead : 0 < mean (children.map (·.center.x)) - parent.center.x := sub_pos.2 beside
    have flat : variance (children.map (·.center.x)) = 0 := level
    have even : mean (children.map (·.center.y)) - parent.center.y = 0 := sub_eq_zero.2 centred
    rw [flat, even, if_pos (flowsAlong_of_level (variance_nonneg _) _), if_pos ahead.le]
    rfl
  | left =>
    have ahead : mean (children.map (·.center.x)) - parent.center.x < 0 := sub_neg.2 beside
    have flat : variance (children.map (·.center.x)) = 0 := level
    have even : mean (children.map (·.center.y)) - parent.center.y = 0 := sub_eq_zero.2 centred
    rw [flat, even, if_pos (flowsAlong_of_level (variance_nonneg _) _), if_neg ahead.not_ge]
    rfl
  | bottom =>
    have ahead : 0 < mean (children.map (·.center.y)) - parent.center.y := sub_pos.2 beside
    have flat : variance (children.map (·.center.y)) = 0 := level
    have even : mean (children.map (·.center.x)) - parent.center.x = 0 := sub_eq_zero.2 centred
    rw [flat, even, if_neg (not_flowsAlong_of_level (variance_nonneg _) ahead.ne'), if_pos ahead.le]
    rfl
  | top =>
    have ahead : mean (children.map (·.center.y)) - parent.center.y < 0 := sub_neg.2 beside
    have flat : variance (children.map (·.center.y)) = 0 := level
    have even : mean (children.map (·.center.x)) - parent.center.x = 0 := sub_eq_zero.2 centred
    rw [flat, even, if_neg (not_flowsAlong_of_level (variance_nonneg _) ahead.ne), if_neg ahead.not_ge]
    rfl

theorem middle_row (hcount : 1 ≤ count) :
    mean ((row first side step count).map (·.middle side)) = first.middle side + (count - 1) * step / 2 := by
  rw [← mean_progression hcount, row, List.map_map]
  congr 1
  refine List.map_congr_left fun i _ => ?_
  rw [Function.comp_apply, Box.middle_exact, Box.middle_exact, Box.stacked_moved, Box.sizeAlong_moved]
  ring

theorem level_row :
    (row first side step count).map (·.level side) = (List.range count).map fun _ => first.level side := by
  rw [row, List.map_map]
  exact List.map_congr_left fun i _ => Box.level_moved first side _

/-- The first children of a parent show the layout of the side on which they are placed. -/
theorem shownLayout_firstCorners (hp : parent.Solid) (side : Side) (hg : gap.toScalar = .ok g) (nonneg : 0 ≤ g)
    (hcount : 1 ≤ count) (hw : 0 < width) (hh : 0 < height) :
    ∃ corners, firstCorners parent side gap count width height = .ok corners ∧ corners.length = count ∧
      (shownLayout parent (boxesAt corners width height)).direction = side := by
  obtain ⟨corners, hcorners, boxes⟩ :=
    firstCorners_row parent side hg count width height
  have length : (boxesAt corners width height).length = count := by rw [boxes, length_row]
  refine ⟨corners, hcorners, by rwa [boxesAt, List.length_map] at length, direction_shownLayout ?_ ?_ ?_ ?_⟩
  · exact List.ne_nil_of_length_pos (length ▸ hcount)
  · rw [boxes, middle_row hcount, Box.middle_exact, Box.middle_exact, stacked_leader, stackOffset_exact]
    ring
  · rw [boxes, level_row, variance_const hcount]
  · have constant : mean ((List.range count).map fun _ => (leader parent side g count width height).level side) =
        (leader parent side g count width height).level side := mean_const hcount _
    rw [boxes, level_row, constant]
    exact Box.liesTo_of_clearance hp (solid_leader parent side g count hw hh) (clearance_leader.symm ▸ nonneg)

/-- The spreads of this group are too close to each other to tell the axes apart. -/
theorem shownLayout_firstCorners_tiny :
    ∃ corners,
      firstCorners (⟨3, 5, 1 / 100, 1 / 100⟩ : Box ℚ) .left (.whole 0) 2 (1 / 20000) (1 / 10000) = .ok corners ∧
      corners.length = 2 ∧
      (shownLayout ⟨3, 5, 1 / 100, 1 / 100⟩ (boxesAt corners (1 / 20000) (1 / 10000))).direction = .left := by
  have solid : (⟨3, 5, 1 / 100, 1 / 100⟩ : Box ℚ).Solid := ⟨by decide +kernel, by decide +kernel⟩
  have gap : (Measure.whole 0 : Measure ℚ).toScalar = .ok 0 := by decide +kernel
  exact shownLayout_firstCorners solid .left gap le_rfl (by decide) (by decide +kernel) (by decide +kernel)

end FlowDeck
