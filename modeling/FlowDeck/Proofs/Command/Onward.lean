import FlowDeck.Proofs.Command.Numbering
import FlowDeck.Proofs.Command.Placing

/-!
# Which way new nodes go on

New nodes beside others go on from the last of these, and step by its size and the gap. The gap is checked against
the size of the parent when children are created, and against nothing when a sibling is. So a gap that takes more
than the size of the last node is not found out, and the new nodes go back (`placing_goesOn_iff`).
-/

namespace FlowDeck

open Slide Edit

variable {side : Side} {gap : Measure ℚ} {g : ℚ} {sl : Slide} {node : ShapeId} {d parent : Descriptor}

/-- All of the boxes are further along the stack than those that were there, and each is further than those before
it. -/
structure GoesOn (side : Side) (existing boxes : List (Box ℚ)) : Prop where
  past : ∀ b ∈ boxes, ∀ old ∈ existing, old.stacked side < b.stacked side
  onward : boxes.Pairwise fun a b => a.stacked side < b.stacked side

/-! ## Rows that go on -/

theorem LastIn.le {boxes : List (Box ℚ)} {last : Box ℚ} (h : LastIn side boxes last) :
    ∀ b ∈ boxes, b.stacked side ≤ last.stacked side := by
  obtain ⟨before, behind, rfl, hbefore, hbehind⟩ := h
  intro b hb
  rcases List.mem_append.1 hb with hb | hb
  · exact hbefore b hb
  · rcases List.mem_cons.1 hb with rfl | hb
    · exact le_rfl
    · exact (hbehind b hb).le

/-- A row that begins a step past the last of the others goes on from them exactly if it steps forward. -/
theorem goesOn_row_iff {existing : List (Box ℚ)} {last first : Box ℚ} {step : ℚ} {count : ℕ}
    (h : LastIn side existing last) (begins : first.stacked side = last.stacked side + step) (some : 1 ≤ count) :
    GoesOn side existing (row first side step count) ↔ 0 < step := by
  constructor
  · intro goes
    have mem : first ∈ row first side step count := List.mem_of_head? (head?_row some)
    have := goes.past first mem last h.mem
    linarith
  · intro forward
    constructor
    · intro b hb old hold
      obtain ⟨i, -, rfl⟩ := mem_row.1 hb
      have := h.le old hold
      have : (0 : ℚ) ≤ i * step := mul_nonneg i.cast_nonneg forward.le
      rw [Box.stacked_moved]
      linarith
    · refine List.pairwise_map.2 (List.pairwise_lt_range.imp fun {i j} hij => ?_)
      have : (i : ℚ) * step < j * step := mul_lt_mul_of_pos_right (mod_cast hij) forward
      rw [Box.stacked_moved, Box.stacked_moved]
      linarith

/-- Boxes that are planned after others go on from them exactly if the last of these is larger than the gap takes. -/
theorem goesOn_further_iff {existing : List (Box ℚ)} {corners : List (Point ℚ)} {count : ℕ}
    (hg : gap.toScalar = .ok g) (planned : furtherCorners existing side gap count = .ok corners)
    (some : existing ≠ []) (hcount : 1 ≤ count) (width height : ℚ) : ∃ last, LastIn side existing last ∧
      (GoesOn side existing (boxesAt corners width height) ↔ 0 < last.sizeAlong side + g) := by
  cases existing with
  | nil => exact absurd rfl some
  | cons first others =>
    obtain ⟨_, found, boxes⟩ := furtherCorners_row side hg count first others width height
    cases found.symm.trans planned
    have isLast := lastIn_lastStacked side first others
    generalize lastStacked side first others = last at isLast boxes
    refine ⟨last, isLast, ?_⟩
    rw [boxes]
    refine goesOn_row_iff isLast ?_ hcount
    rw [Box.stacked_moved]
    cases side <;> rfl

namespace Command

/-- A sibling that is created is drawn as it is planned, and the plan can be read exactly. -/
theorem createSibling_planned (desk : Desk) (node : ShapeId) {gap : Option (Measure Float)} (edge : Option EdgeStyle)
    {page after : Page} {c : Creation} (hgap : (gapOr gap desk.style.nodeGap).precise.toScalar = .ok g)
    (run : (createSibling desk (some node) gap edge).run.run page = (.ok c, after)) :
    ∃ d parentNode parent layout, page.slide.descriptorOf? node = some d ∧
      page.slide.outline.parent? d = some (parentNode, parent) ∧
      Layout.read (some (siblingLayout page.slide.outline parent d)) = .ok layout ∧
      (∃ plan : Plan Float,
        page.slide.PlansBeside node d parent layout.direction (gapOr gap desk.style.nodeGap) plan ∧
        List.Forall₂ (fun b id => ∃ s, after.slide.shape? id = some s ∧ b.OnGrid s.box) plan.boxes c.created) ∧
      ∃ plan : Plan ℚ,
        page.slide.PlansBeside node d parent layout.direction (gapOr gap desk.style.nodeGap).precise plan ∧
        plan.existing ≠ [] := by
  obtain ⟨node, d, parentNode, parent, s, given, hd, hparent, gets⟩ :=
    ((makes_createSibling_drawn desk (some node) gap edge).leads page rfl).ok run
  obtain rfl := Option.some.inj given
  obtain ⟨layout, drawn, kind, hlayout, planned, boxed⟩ := gets.placed
  obtain ⟨id, -, -, -, lines, hafter⟩ := gets.kept
  have there := Outline.mem_of_parent? hparent
  have ne : s.id ≠ parentNode := fun he => ne_nextId there (he ▸ gets.id)
  have here : after.slide.shape? s.id = some s := by
    rw [hafter]
    apply shape?_append
    rw [shape?_storing_other ne]
    exact shape?_front gets.id
  obtain ⟨size, hsize⟩ := planned.size.exact
  obtain ⟨existing, hexisting⟩ := exists_spans planned.existing
  have some : existing ≠ [] := by
    rintro rfl
    refine siblingsOf_ne_nil page.slide.outline parent node d ?_
    simpa using hexisting
  obtain ⟨corners, hcorners⟩ := exists_furtherCorners layout.direction hgap existing 1
  refine ⟨d, parentNode, parent, layout, hd, hparent, hlayout, ⟨drawn, planned, ?_⟩, ⟨size, existing, corners⟩,
    ⟨hsize, hexisting, hcorners⟩, some⟩
  rw [gets.created]
  generalize drawn.boxes = boxes at boxed ⊢
  cases boxed with
  | cons placed rest =>
    cases rest
    exact .cons ⟨s, here, placed.onGrid⟩ .nil

/-- New nodes are drawn as they are planned. Read exactly, the plan for the further children of a node goes on from
those that it has, and the plan for a sibling from all that are at its level, exactly if the last of these is larger
along the stack than the gap takes. Neither command asks for that. -/
theorem placing_goesOn_iff (desk : Desk) {gap : Option (Measure Float)} (edge : Option EdgeStyle) (page : Page)
    (hgap : (gapOr gap desk.style.nodeGap).precise.toScalar = .ok g) :
    (∀ node direction count labels c after, 1 ≤ asked count labels →
      (createChildren desk (some node) direction count gap labels edge).run.run page = (.ok c, after) →
      ∃ parent side, page.slide.TakenFor node parent ∧ Side.ofName? (Text.upper direction) = some side ∧
        (∃ plan : Plan Float,
          page.slide.Plans node parent side (gapOr gap desk.style.nodeGap) (asked count labels).toNat plan ∧
          List.Forall₂ (fun b id => ∃ s, after.slide.shape? id = some s ∧ b.OnGrid s.box) plan.boxes c.created) ∧
        ∃ plan : Plan ℚ,
          page.slide.Plans node parent side (gapOr gap desk.style.nodeGap).precise (asked count labels).toNat plan ∧
          (plan.existing ≠ [] → ∃ last, LastIn side plan.existing last ∧
            (GoesOn side plan.existing plan.boxes ↔ 0 < last.sizeAlong side + g))) ∧
    ∀ node c after, (createSibling desk (some node) gap edge).run.run page = (.ok c, after) →
      ∃ d parentNode parent layout, page.slide.descriptorOf? node = some d ∧
        page.slide.outline.parent? d = some (parentNode, parent) ∧
        Layout.read (some (siblingLayout page.slide.outline parent d)) = .ok layout ∧
        (∃ plan : Plan Float,
          page.slide.PlansBeside node d parent layout.direction (gapOr gap desk.style.nodeGap) plan ∧
          List.Forall₂ (fun b id => ∃ s, after.slide.shape? id = some s ∧ b.OnGrid s.box) plan.boxes c.created) ∧
        ∃ plan : Plan ℚ,
          page.slide.PlansBeside node d parent layout.direction (gapOr gap desk.style.nodeGap).precise plan ∧
          ∃ last, LastIn layout.direction plan.existing last ∧
            (GoesOn layout.direction plan.existing plan.boxes ↔ 0 < last.sizeAlong layout.direction + g) := by
  refine ⟨fun node direction count labels c after hcount run => ?_, fun node c after run => ?_⟩
  · obtain ⟨parent, side, taken, hside, drawn, plan, exactly, -⟩ :=
      createChildren_planned desk node direction edge hcount hgap run
    refine ⟨parent, side, taken, hside, drawn, plan, exactly, fun some => ?_⟩
    have corners := exactly.corners
    rw [childCorners, if_neg (by simpa using some)] at corners
    exact goesOn_further_iff hgap corners some (by omega) plan.size.width plan.size.height
  · obtain ⟨d, parentNode, parent, layout, hd, hparent, hlayout, drawn, plan, exactly, some⟩ :=
      createSibling_planned desk node edge hgap run
    refine ⟨d, parentNode, parent, layout, hd, hparent, hlayout, drawn, plan, exactly, ?_⟩
    exact goesOn_further_iff hgap exactly.corners some le_rfl plan.size.width plan.size.height

/-- Beside a low child a gap of forty pixels too few is taken, and both commands go back from it. -/
theorem placing_goesOn_iff_low :
    (∃ c after, ∃ plan : Plan ℚ,
      (createChildren Desk.bare (some 2) "RIGHT" 1 (some (.exact (-40))) [] none).run.run lowPage = (.ok c, after) ∧
        lowPage.slide.Plans 2 lowParent .right (Measure.precise (.exact (-40))) 1 plan ∧
        ¬GoesOn .right plan.existing plan.boxes) ∧
    ∃ c after, ∃ plan : Plan ℚ,
      (createSibling Desk.bare (some 3) (some (.exact (-40))) none).run.run lowPage = (.ok c, after) ∧
        lowPage.slide.PlansBeside 3 ⟨"B1", ["A1"], "LR", []⟩ lowParent .right (Measure.precise (.exact (-40))) plan ∧
        ¬GoesOn .right plan.existing plan.boxes := by
  have gap : (gapOr (some (.exact (-40))) Desk.bare.style.nodeGap).precise.toScalar = .ok (-40) := by decide +kernel
  obtain ⟨children, sibling⟩ := placing_goesOn_iff Desk.bare none lowPage gap
  have low : lowPage.slide.Spans 3 (⟨220, 60, 160, 20⟩ : Box ℚ) := ⟨_, rfl, by decide +kernel⟩
  have only {existing : List (Box ℚ)} (h : List.Forall₂ lowPage.slide.Spans [3] existing) :
      existing = [⟨220, 60, 160, 20⟩] := by
    cases h with
    | cons spans rest =>
      cases rest
      rw [spans.unique low]
  have back : ¬(0 : ℚ) < Box.sizeAlong ⟨220, 60, 160, 20⟩ Side.right + -40 := by decide +kernel
  constructor
  · have run : ((createChildren Desk.bare (some 2) "RIGHT" 1 (some (.exact (-40))) [] none).run.run lowPage).1 =
        .ok ⟨2, [4], ["B2"], [], [(2, 4)]⟩ := by decide +kernel
    have named : Side.ofName? (Text.upper "RIGHT") = some .right := by decide +kernel
    have stored : lowPage.slide.outline.lookup 2 = some lowParent := by decide +kernel
    have below : (childrenBelow lowPage.slide.outline lowParent).map (·.1) = [3] := by decide +kernel
    obtain ⟨parent, side, taken, hside, -, plan, planned, goes⟩ :=
      children 2 "RIGHT" 1 [] _ _ (by decide) (run_eq run)
    obtain rfl := taken.eq_of_lookup stored
    obtain rfl := Option.some.inj (named.symm.trans hside)
    have existing := only (below ▸ planned.existing)
    obtain ⟨last, isLast, iff⟩ := goes (by simp [existing])
    obtain rfl := List.mem_singleton.1 (existing ▸ isLast.mem)
    exact ⟨_, _, plan, run_eq run, planned, fun onward => back (iff.1 onward)⟩
  · have run : ((createSibling Desk.bare (some 3) (some (.exact (-40))) none).run.run lowPage).1 =
        .ok ⟨2, [4], ["B2"], [], [(2, 4)]⟩ := by decide +kernel
    have stored : lowPage.slide.descriptorOf? 3 = some ⟨"B1", ["A1"], "LR", []⟩ := by decide +kernel
    have above : lowPage.slide.outline.parent? ⟨"B1", ["A1"], "LR", []⟩ = some (2, lowParent) := by decide +kernel
    have laid : Layout.read (some (siblingLayout lowPage.slide.outline lowParent ⟨"B1", ["A1"], "LR", []⟩)) =
        .ok .leftToRight := by decide +kernel
    have beside : (siblingsOf lowPage.slide.outline lowParent 3 ⟨"B1", ["A1"], "LR", []⟩).map (·.1) = [3] := by
      decide +kernel
    obtain ⟨d, parentNode, parent, layout, hd, hparent, hlayout, -, plan, planned, last, isLast, iff⟩ :=
      sibling 3 _ _ (run_eq run)
    obtain rfl := Option.some.inj (stored.symm.trans hd)
    obtain ⟨-, rfl⟩ := Prod.mk.inj (Option.some.inj (above.symm.trans hparent))
    obtain rfl := Except.ok.inj (laid.symm.trans hlayout)
    have existing := only (beside ▸ planned.existing)
    obtain rfl := List.mem_singleton.1 (existing ▸ isLast.mem)
    exact ⟨_, _, plan, run_eq run, planned, fun onward => back (iff.1 onward)⟩

end Command

end FlowDeck
