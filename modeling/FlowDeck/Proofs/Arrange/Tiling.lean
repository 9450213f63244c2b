import FlowDeck.Command.Cells
import FlowDeck.Proofs.Arrange.Stacking
import Mathlib.Data.List.Forall2
import Mathlib.Tactic.FieldSimp

/-!
# Grids that fill a box

Equal parts and the gaps between them make up the room that they share. So the cells of a row end where the
room for them ends, whatever their number, and the rows end where the room for rows ends. A grid that passes
its check lies within the paddings, and its cells keep apart (`gridCells_tiles`).
-/

namespace FlowDeck

variable {parent : Box ℚ} {room : GridRoom ℚ} {gap : Measure ℚ} {p t g : ℚ} {columns : List Int}

/-! ## What comes to a result -/

theorem ok_bind {α β ε : Type} (a : α) (f : α → Except ε β) : (Except.ok a >>= f) = f a := rfl

theorem mapM_eq_ok {α β ε : Type} {f : α → Except ε β} {xs : List α} (value : α → β)
    (h : ∀ x ∈ xs, f x = .ok (value x)) : xs.mapM f = .ok (xs.map value) := by
  induction xs with
  | nil => rfl
  | cons x xs ih =>
    rw [List.mapM_cons, h x List.mem_cons_self, ih fun y hy => h y (List.mem_cons_of_mem x hy)]
    rfl

theorem findM?_eq_ok {α ε : Type} {f : α → Except ε Bool} {xs : List α} (value : α → Bool)
    (h : ∀ x ∈ xs, f x = .ok (value x)) : xs.findM? f = .ok (xs.find? value) := by
  induction xs with
  | nil => rfl
  | cons x xs ih =>
    rw [List.findM?, h x List.mem_cons_self, ih fun y hy => h y (List.mem_cons_of_mem x hy), List.find?_cons]
    cases value x <;> rfl

/-! ## Equal parts -/

structure GridRoom.Measures (room : GridRoom ℚ) (padding paddingTop gap : ℚ) : Prop where
  padding : room.padding.toScalar = .ok padding
  paddingTop : room.paddingTop.toScalar = .ok paddingTop
  gap : room.gap.toScalar = .ok gap

def part (available gap : ℚ) (count : Int) : ℚ :=
  (available - gap * (count - 1)) / count

theorem share_eq_part (hg : gap.toScalar = .ok g) {count : Int} (some : count ≠ 0) (available : ℚ) :
    share available gap count = .ok (part available g count) := by
  rw [share, Measure.times_exact hg, Scalar.ofInt?_exact]
  simp only [bind, Except.bind, if_neg some]
  rw [part, Int.cast_sub, Int.cast_one]
  rfl

/-- The last of the parts ends where the room for them ends. -/
theorem part_fills {count : Int} (some : count ≠ 0) (available gap : ℚ) :
    (count - 1) * (part available gap count + gap) + part available gap count = available := by
  have nonzero : (count : ℚ) ≠ 0 := Int.cast_ne_zero.2 some
  rw [part]
  field_simp
  ring

/-- What is not the last of the parts ends before the last one does. -/
theorem part_within {available gap : ℚ} {count : Int} {i : ℕ} (nonneg : 0 ≤ gap) (long : 0 < part available gap count)
    (h : (i : Int) < count) : i * (part available gap count + gap) + part available gap count ≤ available := by
  have earlier : (i : ℚ) ≤ count - 1 := le_sub_iff_add_le.2 (mod_cast h)
  have steps := mul_le_mul_of_nonneg_right earlier (add_nonneg long.le nonneg)
  have fills := part_fills (by omega : count ≠ 0) available gap
  linarith

def rowPart (parent : Box ℚ) (padding paddingTop gap : ℚ) (rows : Int) : ℚ :=
  part (parent.height - paddingTop - padding) gap rows

def columnPart (parent : Box ℚ) (padding gap : ℚ) (columns : Int) : ℚ :=
  part (parent.width - padding * 2) gap columns

section
variable (measures : room.Measures p t g)
include measures

theorem rowHeight_exact {rows : Int} (some : rows ≠ 0) :
    rowHeight parent room rows = .ok (rowPart parent p t g rows) := by
  rw [rowHeight, measures.paddingTop, measures.padding]
  exact share_eq_part measures.gap some _

theorem columnWidth_exact {count : Int} (some : count ≠ 0) :
    columnWidth parent room count = .ok (columnPart parent p g count) := by
  rw [columnWidth, Measure.times_exact measures.padding]
  exact share_eq_part measures.gap some _

/-- The check is refused for the rows, or for the first of them with cells that are not wide enough. -/
theorem checkGrid_exact (some : columns ≠ []) (positive : ∀ count ∈ columns, 1 ≤ count) :
    checkGrid parent room columns = .ok (if rowPart parent p t g columns.length ≤ 0 then .some .gridTooSmall
      else (columns.zipIdx.find? fun (count, _) => columnPart parent p g count ≤ 0).map
        fun (_, i) => .tooManyColumns (i + 1)) := by
  have rows : (columns.length : Int) ≠ 0 := mod_cast (List.length_pos_of_ne_nil some).ne'
  rw [checkGrid, rowHeight_exact measures rows, ok_bind,
    findM?_eq_ok fun (count, _) => decide (columnPart parent p g count ≤ 0)]
  · by_cases low : rowPart parent p t g columns.length ≤ 0
    · rw [if_pos low]
      exact if_pos low
    · rw [if_neg low]
      exact if_neg low
  · intro (count, i) hx
    have several : count ≠ 0 := by
      have := positive count (List.fst_mem_of_mem_zipIdx hx)
      omega
    dsimp only
    rw [columnWidth_exact measures several]
    rfl

/-- The check passes only if the rows are high enough and the cells of each row wide enough. -/
theorem of_checkGrid (some : columns ≠ []) (positive : ∀ count ∈ columns, 1 ≤ count)
    (check : checkGrid parent room columns = .ok none) :
    0 < rowPart parent p t g columns.length ∧ ∀ count ∈ columns, 0 < columnPart parent p g count := by
  rw [checkGrid_exact measures some positive] at check
  have passed := Except.ok.inj check
  split at passed
  · cases passed
  · next high =>
    refine ⟨not_le.1 high, fun count hcount => ?_⟩
    obtain ⟨i, hi⟩ := List.mem_iff_getElem?.1 hcount
    have wide := List.find?_eq_none.1 (Option.map_eq_none_iff.1 passed) (count, i) (List.mem_zipIdx_iff_getElem?.2 hi)
    simpa using wide

end

/-! ## Rows of cells -/

def gridRow (parent : Box ℚ) (padding paddingTop gap height : ℚ) (count : Int) (r : ℕ) : List (Box ℚ) :=
  row ⟨parent.x + padding, parent.y + paddingTop + r * (height + gap), columnPart parent padding gap count, height⟩
    .bottom (columnPart parent padding gap count + gap) count.toNat

variable {height : ℚ} {count : Int} {r : ℕ} {cell : Box ℚ}

theorem rowCells_exact (measures : room.Measures p t g) (some : count ≠ 0) (height : ℚ) (r : ℕ) :
    rowCells parent room height r count = .ok (gridRow parent p t g height count r) := by
  rw [rowCells, columnWidth_exact measures some, measures.gap, measures.paddingTop, measures.padding]
  rfl

theorem mem_gridRow : cell ∈ gridRow parent p t g height count r ↔ ∃ i < count.toNat,
    ⟨parent.x + p + (i : ℕ) * (columnPart parent p g count + g), parent.y + t + r * (height + g),
      columnPart parent p g count, height⟩ = cell :=
  mem_row

theorem length_gridRow (h : 0 ≤ count) : ((gridRow parent p t g height count r).length : Int) = count := by
  rw [gridRow, length_row, Int.toNat_of_nonneg h]

theorem getLast?_gridRow (h : 1 ≤ count) : (gridRow parent p t g height count r).getLast? =
    some ⟨parent.x + p + (count - 1) * (columnPart parent p g count + g), parent.y + t + r * (height + g),
      columnPart parent p g count, height⟩ := by
  have cast : ((count.toNat : ℕ) : ℚ) = count := by
    rw [← Int.cast_natCast, Int.toNat_of_nonneg (by omega)]
  rw [gridRow, getLast?_row (by omega), cast]
  rfl

/-! ## Where the cells are -/

theorem top_of_mem_gridRow (h : cell ∈ gridRow parent p t g height count r) :
    cell.top = parent.y + t + r * (height + g) := by
  obtain ⟨i, -, rfl⟩ := mem_gridRow.1 h
  rfl

theorem bottom_of_mem_gridRow (h : cell ∈ gridRow parent p t g height count r) :
    cell.bottom = parent.y + t + (r * (height + g) + height) := by
  obtain ⟨i, -, rfl⟩ := mem_gridRow.1 h
  exact add_assoc _ _ _

/-- A box within another one that is shrunk by a padding, and by one of its own above. -/
def Box.Within (cell parent : Box ℚ) (padding paddingTop : ℚ) : Prop :=
  (parent.left + padding ≤ cell.left ∧ cell.right ≤ parent.right - padding) ∧
    parent.top + paddingTop ≤ cell.top ∧ cell.bottom ≤ parent.bottom - padding

theorem within_of_mem_gridRow (nonneg : 0 ≤ g) (high : 0 < height) (wide : 0 < columnPart parent p g count)
    (fits : r * (height + g) + height ≤ parent.height - t - p) (h : cell ∈ gridRow parent p t g height count r) :
    cell.Within parent p t := by
  have downward : 0 ≤ r * (height + g) := mul_nonneg r.cast_nonneg (add_nonneg high.le nonneg)
  refine ⟨?_, ?_, ?_⟩
  · obtain ⟨i, hi, rfl⟩ := mem_gridRow.1 h
    have columnsFit : i * (columnPart parent p g count + g) + columnPart parent p g count ≤ parent.width - p * 2 :=
      part_within nonneg wide (by omega)
    have rightward : 0 ≤ i * (columnPart parent p g count + g) := mul_nonneg i.cast_nonneg (add_nonneg wide.le nonneg)
    rw [Box.right_exact, Box.right_exact, Box.left, Box.left]
    constructor <;> linarith
  · rw [top_of_mem_gridRow h, Box.top]
    linarith
  · rw [bottom_of_mem_gridRow h, Box.bottom_exact]
    linarith

/-- The last cell of a row ends where the padding begins. -/
theorem right_of_getLast?_gridRow (hcount : 1 ≤ count) (h : cell ∈ (gridRow parent p t g height count r).getLast?) :
    cell.right = parent.right - p := by
  have fills : (count - 1) * (columnPart parent p g count + g) + columnPart parent p g count = parent.width - p * 2 :=
    part_fills (by omega) _ g
  rw [getLast?_gridRow hcount] at h
  cases h
  rw [Box.right_exact, Box.right_exact]
  linarith

/-- Cells are apart from those of the rows below. -/
theorem apart_gridRow {count' : Int} {r' : ℕ} {below : Box ℚ} (nonneg : 0 ≤ g) (high : 0 < height) (h : r < r')
    (hcell : cell ∈ gridRow parent p t g height count r) (hbelow : below ∈ gridRow parent p t g height count' r') :
    cell.Apart below := by
  have steps : (r + 1 : ℚ) * (height + g) ≤ r' * (height + g) :=
    mul_le_mul_of_nonneg_right (mod_cast h) (add_nonneg high.le nonneg)
  refine Box.apart_of_above ?_
  rw [bottom_of_mem_gridRow hcell, top_of_mem_gridRow hbelow]
  linarith

/-! ## The rows of a grid -/

def gridRows (parent : Box ℚ) (padding paddingTop gap height : ℚ) (columns : List Int) : List (List (Box ℚ)) :=
  columns.zipIdx.map fun (count, r) => gridRow parent padding paddingTop gap height count r

theorem gridCells_exact (measures : room.Measures p t g) (some : columns ≠ [])
    (positive : ∀ count ∈ columns, 1 ≤ count) :
    gridCells parent room columns = .ok (gridRows parent p t g (rowPart parent p t g columns.length) columns) := by
  have rows : (columns.length : Int) ≠ 0 := mod_cast (List.length_pos_of_ne_nil some).ne'
  rw [gridCells, if_neg (by simpa using some), rowHeight_exact measures rows]
  refine mapM_eq_ok _ fun (count, r) hx => rowCells_exact measures ?_ _ _
  have := positive count (List.fst_mem_of_mem_zipIdx hx)
  omega

theorem mem_gridRows {cells : List (Box ℚ)} (h : cells ∈ gridRows parent p t g height columns) :
    ∃ count ∈ columns, ∃ r < columns.length, gridRow parent p t g height count r = cells := by
  obtain ⟨⟨count, r⟩, hx, rfl⟩ := List.mem_map.1 h
  exact ⟨count, List.fst_mem_of_mem_zipIdx hx, r, List.snd_lt_of_mem_zipIdx hx, rfl⟩

theorem counts_gridRows (positive : ∀ count ∈ columns, 1 ≤ count) :
    List.Forall₂ (fun count cells => (cells.length : Int) = count) columns
      (gridRows parent p t g height columns) := by
  have counted : List.Forall₂
      (fun (count : Int) (x : Int × ℕ) => ((gridRow parent p t g height x.1 x.2).length : Int) = count)
      (columns.zipIdx.map Prod.fst) columns.zipIdx :=
    List.forall₂_map_left_iff.2 (List.forall₂_same.2 fun x hx =>
      length_gridRow (Int.le_of_lt (positive x.1 (List.fst_mem_of_mem_zipIdx hx))))
  rw [List.zipIdx_map_fst] at counted
  exact List.forall₂_map_right_iff.2 counted

/-- Cells of one row keep apart, and so do those of different rows, which come from above to below. -/
theorem pairwise_apart_gridRows (nonneg : 0 ≤ g) (high : 0 < height)
    (wide : ∀ count ∈ columns, 0 < columnPart parent p g count) :
    (gridRows parent p t g height columns).flatten.Pairwise Box.Apart := by
  have indices : (columns.zipIdx.map Prod.snd).Pairwise (· < ·) := by
    rw [List.zipIdx_map_snd]
    exact List.pairwise_lt_range' 1
  have downward : columns.zipIdx.Pairwise fun a b => a.2 < b.2 := List.pairwise_map.1 indices
  refine List.pairwise_flatten.2 ⟨fun cells hcells => ?_, List.pairwise_map.2 (downward.imp fun lower => ?_)⟩
  · obtain ⟨count, hcount, r, -, rfl⟩ := mem_gridRows hcells
    exact pairwise_apart_row (add_nonneg (wide count hcount).le nonneg) (le_add_of_nonneg_right nonneg)
  · exact fun cell hcell below hbelow => apart_gridRow nonneg high lower hcell hbelow

/-- The rows are the cells of a grid with so many columns each, which fills the box within the paddings. -/
structure Tiles (parent : Box ℚ) (padding paddingTop : ℚ) (columns : List Int) (rows : List (List (Box ℚ))) :
    Prop where
  counts : List.Forall₂ (fun count cells => (cells.length : Int) = count) columns rows
  solid : ∀ cells ∈ rows, ∀ cell ∈ cells, cell.Solid
  within : ∀ cells ∈ rows, ∀ cell ∈ cells, cell.Within parent padding paddingTop
  apart : rows.flatten.Pairwise Box.Apart
  rowsEnd : ∀ cells ∈ rows, ∀ last ∈ cells.getLast?, last.right = parent.right - padding
  gridEnds : ∀ cells ∈ rows.getLast?, ∀ cell ∈ cells, cell.bottom = parent.bottom - padding

theorem tiles_gridRows (nonneg : 0 ≤ g) (some : columns ≠ []) (positive : ∀ count ∈ columns, 1 ≤ count)
    (high : 0 < rowPart parent p t g columns.length) (wide : ∀ count ∈ columns, 0 < columnPart parent p g count) :
    Tiles parent p t columns (gridRows parent p t g (rowPart parent p t g columns.length) columns) where
  counts := counts_gridRows positive
  solid cells hcells cell hcell := by
    obtain ⟨count, hcount, r, -, rfl⟩ := mem_gridRows hcells
    obtain ⟨i, -, rfl⟩ := mem_gridRow.1 hcell
    exact ⟨wide count hcount, high⟩
  within cells hcells cell hcell := by
    obtain ⟨count, hcount, r, hr, rfl⟩ := mem_gridRows hcells
    exact within_of_mem_gridRow nonneg high (wide count hcount) (part_within nonneg high (mod_cast hr)) hcell
  apart := pairwise_apart_gridRows nonneg high wide
  rowsEnd cells hcells last hlast := by
    obtain ⟨count, hcount, r, -, rfl⟩ := mem_gridRows hcells
    exact right_of_getLast?_gridRow (positive count hcount) hlast
  gridEnds := by
    rw [gridRows, List.getLast?_map, List.getLast?_zipIdx, Option.map_map]
    intro cells hcells cell hcell
    obtain ⟨_, -, rfl⟩ := Option.mem_map.1 hcells
    have rows : 0 < columns.length := List.length_pos_of_ne_nil some
    have several : (columns.length : Int) ≠ 0 := mod_cast rows.ne'
    have fills := part_fills several (parent.height - t - p) g
    rw [Int.cast_natCast] at fills
    rw [bottom_of_mem_gridRow hcell, zero_add, Nat.cast_pred rows, rowPart, fills, Box.bottom_exact]
    ring

/-- The cells of a grid that passes its check fill the box within the paddings. -/
theorem gridCells_tiles (measures : room.Measures p t g) (nonneg : 0 ≤ g) (some : columns ≠ [])
    (positive : ∀ count ∈ columns, 1 ≤ count) (check : checkGrid parent room columns = .ok none) :
    ∃ rows, gridCells parent room columns = .ok rows ∧ Tiles parent p t columns rows := by
  obtain ⟨high, wide⟩ := of_checkGrid measures some positive check
  exact ⟨_, gridCells_exact measures some positive, tiles_gridRows nonneg some positive high wide⟩

theorem gridCells_tiles_uneven :
    checkGrid (⟨0, 0, 320, 240⟩ : Box ℚ) ⟨.whole 10, .whole 30, .whole 10⟩ [2, 3] = .ok none ∧
      ∃ rows, gridCells (⟨0, 0, 320, 240⟩ : Box ℚ) ⟨.whole 10, .whole 30, .whole 10⟩ [2, 3] = .ok rows ∧
        Tiles ⟨0, 0, 320, 240⟩ 10 30 [2, 3] rows := by
  have check : checkGrid (⟨0, 0, 320, 240⟩ : Box ℚ) ⟨.whole 10, .whole 30, .whole 10⟩ [2, 3] = .ok none := by
    decide +kernel
  have measures : (⟨.whole 10, .whole 30, .whole 10⟩ : GridRoom ℚ).Measures 10 30 10 :=
    ⟨by decide +kernel, by decide +kernel, by decide +kernel⟩
  exact ⟨check, gridCells_tiles measures (by decide +kernel) (by decide) (by decide) check⟩

end FlowDeck
