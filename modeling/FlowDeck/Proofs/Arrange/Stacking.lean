import FlowDeck.Proofs.Plane.Boxes
import Mathlib.Data.List.Chain
import Mathlib.Data.List.Range
import Mathlib.Tactic.Ring

/-!
# Rows of boxes

Children of one size are placed in a row: each is as far from the one before as the row steps. The first
children of a parent step by their size and the gap, so they keep apart, and the row is centred on the parent
and one gap away from it (`firstCorners_beside`).
-/

namespace FlowDeck

def boxesAt {α : Type} (corners : List (Point α)) (width height : α) : List (Box α) :=
  corners.map fun corner => ⟨corner.x, corner.y, width, height⟩

variable {parent first : Box ℚ} {side : Side} {gap : Measure ℚ} {g step width height : ℚ} {count : ℕ}

/-! ## Moving along the stack -/

namespace Box

def moved (b : Box ℚ) (side : Side) (way : ℚ) : Box ℚ :=
  if side.isHorizontal then { b with y := b.y + way } else { b with x := b.x + way }

variable (b : Box ℚ) (side : Side) (way : ℚ)

@[simp] theorem width_moved : (b.moved side way).width = b.width := by cases side <;> rfl

@[simp] theorem height_moved : (b.moved side way).height = b.height := by cases side <;> rfl

@[simp] theorem stacked_moved : (b.moved side way).stacked side = b.stacked side + way := by cases side <;> rfl

@[simp] theorem across_moved : (b.moved side way).across side = b.across side := by cases side <;> rfl

@[simp] theorem sizeAlong_moved : (b.moved side way).sizeAlong side = b.sizeAlong side := by cases side <;> rfl

@[simp] theorem reach_moved : (b.moved side way).reach side = b.reach side + way := by
  rw [reach, reach, stacked_moved, sizeAlong_moved]
  ring

@[simp] theorem clearance_moved (a : Box ℚ) : a.clearance (b.moved side way) side = a.clearance b side := by
  cases side <;> rfl

@[simp] theorem moved_zero : b.moved side 0 = b := by
  cases side <;> simp [moved]

@[simp] theorem moved_moved (way' : ℚ) : (b.moved side way).moved side way' = b.moved side (way + way') := by
  cases side <;> simp [moved, add_assoc, Side.isHorizontal]

variable {b}

theorem Solid.moved (h : b.Solid) : (b.moved side way).Solid :=
  ⟨by simpa using h.width, by simpa using h.height⟩

end Box

/-! ## Rows -/

def row (first : Box ℚ) (side : Side) (step : ℚ) (count : ℕ) : List (Box ℚ) :=
  (List.range count).map fun (i : ℕ) => first.moved side (i * step)

theorem mem_row {b : Box ℚ} : b ∈ row first side step count ↔ ∃ i < count, first.moved side ((i : ℕ) * step) = b := by
  simp [row]

theorem length_row : (row first side step count).length = count := by
  rw [row, List.length_map, List.length_range]

theorem head?_row (h : 1 ≤ count) : (row first side step count).head? = some first := by
  rw [row, List.head?_map, List.head?_range, if_neg (Nat.one_le_iff_ne_zero.1 h)]
  simp

theorem getLast?_row (h : 1 ≤ count) :
    (row first side step count).getLast? = some (first.moved side ((count - 1) * step)) := by
  rw [row, List.getLast?_map, List.getLast?_range, if_neg (Nat.one_le_iff_ne_zero.1 h), Option.map_some,
    Nat.cast_pred h]

theorem isChain_row {R : Box ℚ → Box ℚ → Prop}
    (h : ∀ i : ℕ, R (first.moved side (i * step)) (first.moved side (i * step + step))) :
    (row first side step count).IsChain R := by
  rw [row, List.isChain_map, List.isChain_range]
  intro i _
  rw [Nat.cast_succ, add_mul, one_mul]
  exact h i

/-- A row is apart from what ends before it begins. -/
theorem apart_row {last : Box ℚ} (hstep : 0 ≤ step) (h : last.reach side ≤ first.stacked side) :
    ∀ b ∈ row first side step count, last.Apart b := by
  intro b hb
  obtain ⟨i, -, rfl⟩ := mem_row.1 hb
  refine Box.apart_of_reach side (h.trans ?_)
  rw [Box.stacked_moved]
  exact le_add_of_nonneg_right (mul_nonneg i.cast_nonneg hstep)

theorem pairwise_apart_row (hstep : 0 ≤ step) (h : first.sizeAlong side ≤ step) :
    (row first side step count).Pairwise Box.Apart := by
  refine List.pairwise_map.2 (List.pairwise_lt_range.imp fun {i j} hij => Box.apart_of_reach side ?_)
  have steps : (i + 1 : ℚ) * step ≤ j * step := mul_le_mul_of_nonneg_right (mod_cast hij) hstep
  rw [Box.reach_moved, Box.stacked_moved, Box.reach]
  linarith

/-- The boxes of a row keep apart exactly if the step takes them past their size, or there is one of them. -/
theorem pairwise_apart_row_iff (solid : first.Solid) (hstep : 0 ≤ step) :
    (row first side step count).Pairwise Box.Apart ↔ count ≤ 1 ∨ first.sizeAlong side ≤ step := by
  constructor
  · intro apart
    refine or_iff_not_imp_left.2 fun several => ?_
    have two : 0 < 1 ∧ 1 < (row first side step count).length := ⟨Nat.one_pos, by rw [length_row]; omega⟩
    have neighbours := List.pairwise_iff_getElem.1 apart 0 1 (two.1.trans two.2) two.2 two.1
    simp only [row, List.getElem_map, List.getElem_range, Nat.cast_zero, zero_mul, Nat.cast_one, one_mul,
      Box.moved_zero] at neighbours
    rw [Box.apart_iff_reach solid (solid.moved side step) (Box.across_moved first side step).symm
      (by rw [Box.stacked_moved]; exact le_add_of_nonneg_right hstep), Box.reach, Box.stacked_moved] at neighbours
    exact le_of_add_le_add_left neighbours
  · rintro (few | far)
    · refine List.pairwise_iff_getElem.2 fun i j _ hj hij => ?_
      rw [length_row] at hj
      omega
    · exact pairwise_apart_row hstep far

/-! ## The first children of a parent -/

def leader (parent : Box ℚ) (side : Side) (gap : ℚ) (count : ℕ) (width height : ℚ) : Box ℚ :=
  let size := if side.isHorizontal then height else width
  let offset := stackOffset (count * size + gap * (count - 1)) (parent.sizeAlong side)
  let corner := cornerBeside parent side gap width height offset
  ⟨corner.x, corner.y, width, height⟩

theorem stacked_leader : (leader parent side g count width height).stacked side = parent.stacked side +
    stackOffset (count * (leader parent side g count width height).sizeAlong side + g * (count - 1))
      (parent.sizeAlong side) := by
  cases side <;> rfl

theorem clearance_leader : parent.clearance (leader parent side g count width height) side = g := by
  cases side with
  | top => exact (by ring : parent.y - (parent.y - height - g + height) = g)
  | bottom => exact (by ring : parent.y + parent.height + g - (parent.y + parent.height) = g)
  | left => exact (by ring : parent.x - (parent.x - width - g + width) = g)
  | right => exact (by ring : parent.x + parent.width + g - (parent.x + parent.width) = g)

theorem stackOffset_exact (extent parentSize : ℚ) : stackOffset extent parentSize = -(extent - parentSize) / 2 := rfl

/-- The first children are a row that steps by their size and the gap. -/
theorem firstCorners_row (parent : Box ℚ) (side : Side) (hg : gap.toScalar = .ok g) (count : ℕ) (width height : ℚ) :
    ∃ corners, firstCorners parent side gap count width height = .ok corners ∧
      boxesAt corners width height = row (leader parent side g count width height) side
        ((leader parent side g count width height).sizeAlong side + g) count := by
  have extent (size : ℚ) : stackExtent count size gap = .ok (count * size + g * (count - 1)) := by
    rw [stackExtent, Scalar.ofInt?_exact, Measure.times_exact hg]
    simp [bind, Except.bind, pure, Except.pure]
  refine ⟨_, by rw [firstCorners, extent, hg]; rfl, ?_⟩
  rw [boxesAt, List.map_map, row]
  refine List.map_congr_left fun i _ => ?_
  cases side <;> simp [cornerBeside, leader, Box.moved, Box.sizeAlong, Side.isHorizontal, Scalar.ofInt_exact, add_assoc]

/-- The boxes beside a parent: the group is centred on the parent along the stack, each box follows the one
before after a gap, all begin at one place across the stack, and all are a gap away from the parent. -/
structure Beside (parent : Box ℚ) (side : Side) (gap : ℚ) (boxes : List (Box ℚ)) : Prop where
  centred : ∀ first ∈ boxes.head?, ∀ last ∈ boxes.getLast?,
    (first.stacked side - parent.stacked side) + (last.stacked side - parent.stacked side) + last.sizeAlong side =
      parent.sizeAlong side
  spaced : boxes.IsChain fun b next =>
    next.stacked side - b.stacked side = b.sizeAlong side + gap ∧ next.across side = b.across side
  clear : ∀ b ∈ boxes, parent.clearance b side = gap

theorem beside_row (parent : Box ℚ) (side : Side) (g width height : ℚ) (hcount : 1 ≤ count) :
    Beside parent side g (row (leader parent side g count width height) side
      ((leader parent side g count width height).sizeAlong side + g) count) where
  centred := by
    rw [head?_row hcount, getLast?_row hcount]
    rintro _ ⟨⟩ _ ⟨⟩
    rw [Box.stacked_moved, Box.sizeAlong_moved, stacked_leader, stackOffset_exact]
    ring
  spaced := isChain_row fun i => by
    rw [Box.stacked_moved, Box.stacked_moved, Box.sizeAlong_moved, Box.across_moved, Box.across_moved]
    exact ⟨by ring, rfl⟩
  clear b hb := by
    obtain ⟨i, -, rfl⟩ := mem_row.1 hb
    rw [Box.clearance_moved, clearance_leader]

theorem solid_leader (parent : Box ℚ) (side : Side) (g : ℚ) (count : ℕ) (hw : 0 < width) (hh : 0 < height) :
    (leader parent side g count width height).Solid :=
  ⟨hw, hh⟩

/-- The first children of a parent, which are as large as it unless a size is given, stand beside it; with a gap
that is not negative they keep apart from each other and from the parent. -/
theorem firstCorners_beside (parent : Box ℚ) (side : Side) (hg : gap.toScalar = .ok g) (hcount : 1 ≤ count)
    (size : Option (ℚ × ℚ)) :
    let extent := size.getD (parent.width, parent.height)
    ∃ corners, firstCorners parent side gap count extent.1 extent.2 = .ok corners ∧ corners.length = count ∧
      Beside parent side g (boxesAt corners extent.1 extent.2) ∧
      (0 ≤ g → 0 < extent.1 → 0 < extent.2 → (boxesAt corners extent.1 extent.2).Pairwise Box.Apart ∧
        ∀ b ∈ boxesAt corners extent.1 extent.2, parent.Apart b) := by
  intro extent
  obtain ⟨corners, hcorners, boxes⟩ := firstCorners_row parent side hg count extent.1 extent.2
  have length : (boxesAt corners extent.1 extent.2).length = count := by rw [boxes, length_row]
  have beside := beside_row parent side g extent.1 extent.2 hcount
  rw [← boxes] at beside
  refine ⟨corners, hcorners, by rwa [boxesAt, List.length_map] at length, beside, fun nonneg hw hh => ⟨?_, ?_⟩⟩
  · have positive := (solid_leader parent side g count hw hh).sizeAlong side
    rw [boxes]
    exact pairwise_apart_row (add_nonneg positive.le nonneg) (le_add_of_nonneg_right nonneg)
  · exact fun b hb => Box.apart_of_clearance ((beside.clear b hb).symm ▸ nonneg)

theorem firstCorners_beside_smaller :
    ∃ corners, firstCorners (⟨100, 100, 160, 60⟩ : Box ℚ) .left (.whole 20) 3 100 40 = .ok corners ∧
      corners = [⟨-20, 50⟩, ⟨-20, 110⟩, ⟨-20, 170⟩] ∧
      Beside ⟨100, 100, 160, 60⟩ .left 20 (boxesAt corners 100 40) ∧
      (boxesAt corners 100 40).Pairwise Box.Apart := by
  have gap : (Measure.whole 20 : Measure ℚ).toScalar = .ok 20 := by decide +kernel
  have several : 1 ≤ 3 := by decide
  obtain ⟨corners, found, -, beside, apart⟩ :=
    firstCorners_beside ⟨100, 100, 160, 60⟩ .left gap several (some (100, 40))
  have drawn : firstCorners (⟨100, 100, 160, 60⟩ : Box ℚ) .left (.whole 20) 3 100 40 =
      .ok [⟨-20, 50⟩, ⟨-20, 110⟩, ⟨-20, 170⟩] := by decide +kernel
  exact ⟨corners, found, Except.ok.inj (found.symm.trans drawn), beside,
    (apart (by decide +kernel) (by decide +kernel) (by decide +kernel)).1⟩

end FlowDeck
