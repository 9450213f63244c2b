import FlowDeck.Proofs.Arrange.Stacking
import FlowDeck.Proofs.Command.Offspring
import FlowDeck.Proofs.Number.Signs

/-!
# Where new children are placed

New children are as large as their parent. Where the parent has children, they go on from the last of these, and
step by its size and the gap. So they keep apart from it, but among themselves only if they are no larger along
the stack than they step (`createChildren_apart_iff`).
-/

namespace FlowDeck

open Slide Edit

variable {side : Side} {gap : Measure ℚ} {g : ℚ} {count : ℕ} {plan : Plan ℚ}
variable {sl start : Slide} {node id : ShapeId} {parent : Descriptor}

/-! ## The last of a stack -/

/-- The box that is furthest along the stack; of several that are, the last in the list. -/
def LastIn (side : Side) (boxes : List (Box ℚ)) (last : Box ℚ) : Prop :=
  ∃ before behind, boxes = before ++ last :: behind ∧ (∀ b ∈ before, b.stacked side ≤ last.stacked side) ∧
    ∀ b ∈ behind, b.stacked side < last.stacked side

theorem LastIn.mem {boxes : List (Box ℚ)} {last : Box ℚ} (h : LastIn side boxes last) : last ∈ boxes := by
  obtain ⟨before, behind, rfl, -⟩ := h
  exact List.mem_append_right _ List.mem_cons_self

theorem LastIn.concat {boxes : List (Box ℚ)} {last : Box ℚ} (h : LastIn side boxes last) (b : Box ℚ) :
    LastIn side (boxes ++ [b]) (if b.stacked side < last.stacked side then last else b) := by
  obtain ⟨before, behind, rfl, hbefore, hbehind⟩ := h
  split
  · next lower =>
    refine ⟨before, behind ++ [b], by simp, hbefore, fun x hx => ?_⟩
    rcases List.mem_append.1 hx with hx | hx
    · exact hbehind x hx
    · exact List.mem_singleton.1 hx ▸ lower
  · next further =>
    refine ⟨_, [], rfl, fun x hx => le_trans ?_ (not_lt.1 further), by simp⟩
    rcases List.mem_append.1 hx with hx | hx
    · exact hbefore x hx
    · rcases List.mem_cons.1 hx with rfl | hx
      · exact le_rfl
      · exact (hbehind x hx).le

theorem lastIn_lastStacked (side : Side) (first : Box ℚ) (others : List (Box ℚ)) :
    LastIn side (first :: others) (lastStacked side first others) := by
  have further (others : List (Box ℚ)) : ∀ seen last, LastIn side seen last →
      LastIn side (seen ++ others) (lastStacked side last others) := by
    induction others with
    | nil => exact fun seen last h => by rwa [List.append_nil]
    | cons b others ih =>
      intro seen last h
      have := ih (seen ++ [b]) _ (h.concat b)
      rwa [List.append_assoc] at this
  exact further others [first] first ⟨[], [], rfl, by simp, by simp⟩

/-! ## Going on from the last -/

theorem box_stepFrom (last : Box ℚ) (g : ℚ) (steps : ℕ) (width height : ℚ) :
    (⟨(stepFrom last side g steps).x, (stepFrom last side g steps).y, width, height⟩ : Box ℚ) =
      Box.moved ⟨last.x, last.y, width, height⟩ side (steps * (last.sizeAlong side + g)) := by
  cases side <;> rfl

/-- Further children are a row that steps by the size of the last one and the gap. -/
theorem furtherCorners_row (side : Side) (hg : gap.toScalar = .ok g) (count : ℕ) (first : Box ℚ) (others : List (Box ℚ))
    (width height : ℚ) :
    let last := lastStacked side first others
    let step := last.sizeAlong side + g
    ∃ corners, furtherCorners (first :: others) side gap count = .ok corners ∧
      boxesAt corners width height = row (Box.moved ⟨last.x, last.y, width, height⟩ side step) side step count := by
  intro last step
  refine ⟨_, by rw [furtherCorners, hg]; rfl, ?_⟩
  rw [boxesAt, List.map_map, row]
  refine List.map_congr_left fun i _ => ?_
  rw [Function.comp_apply, box_stepFrom, Box.moved_moved, Nat.cast_succ]
  exact congrArg _ (by ring)

theorem exists_furtherCorners (side : Side) (hg : gap.toScalar = .ok g) (existing : List (Box ℚ)) (count : ℕ) :
    ∃ corners, furtherCorners existing side gap count = .ok corners := by
  cases existing with
  | nil => exact ⟨[], rfl⟩
  | cons first others =>
    obtain ⟨corners, hcorners, -⟩ := furtherCorners_row side hg count first others 0 0
    exact ⟨corners, hcorners⟩

theorem exists_childCorners (hg : gap.toScalar = .ok g) (size : Box ℚ) (existing : List (Box ℚ)) :
    ∃ corners, childCorners size existing side gap count = .ok corners := by
  cases existing with
  | nil =>
    obtain ⟨corners, hcorners, -⟩ := firstCorners_row size side hg count size.width size.height
    exact ⟨corners, hcorners⟩
  | cons first others => exact exists_furtherCorners side hg (first :: others) count

/-- Boxes that are planned after others are apart from the last of these. They keep apart from each other exactly
if there is one of them, or they step past the size that they take. -/
theorem Plan.apart_iff (hg : gap.toScalar = .ok g) (nonneg : 0 ≤ g)
    (planned : childCorners plan.size plan.existing side gap count = .ok plan.corners) (sized : plan.size.Solid)
    (some : plan.existing ≠ []) (solid : ∀ b ∈ plan.existing, b.Solid) :
    ∃ last, LastIn side plan.existing last ∧ (∀ b ∈ plan.boxes, last.Apart b) ∧
      (plan.boxes.Pairwise Box.Apart ↔ count ≤ 1 ∨ plan.size.sizeAlong side ≤ last.sizeAlong side + g) := by
  obtain ⟨size, existing, corners⟩ := plan
  cases existing with
  | nil => exact absurd rfl some
  | cons first others =>
    obtain ⟨_, found, boxes⟩ := furtherCorners_row side hg count first others size.width size.height
    cases found.symm.trans planned
    have isLast := lastIn_lastStacked side first others
    generalize lastStacked side first others = last at isLast boxes
    have far := (solid last isLast.mem).sizeAlong side
    have step : 0 ≤ last.sizeAlong side + g := add_nonneg far.le nonneg
    let base : Box ℚ := ⟨last.x, last.y, size.width, size.height⟩
    have place : base.stacked side = last.stacked side := by cases side <;> rfl
    have extent : base.sizeAlong side = size.sizeAlong side := by cases side <;> rfl
    have drawn : Plan.boxes ⟨size, first :: others, corners⟩ = row (base.moved side (last.sizeAlong side + g)) side
        (last.sizeAlong side + g) count := boxes
    refine ⟨last, isLast, ?_, ?_⟩
    · rw [drawn]
      refine apart_row step ?_
      rw [Box.stacked_moved, place, Box.reach]
      linarith
    · have solid : base.Solid := ⟨sized.width, sized.height⟩
      rw [drawn, pairwise_apart_row_iff (solid.moved side _) step, Box.sizeAlong_moved, extent]

/-! ## Boxes read exactly -/

def Box.inPixels (b : Box Int) : Box ℚ :=
  ⟨b.x / unitsPerPixel, b.y / unitsPerPixel, b.width / unitsPerPixel, b.height / unitsPerPixel⟩

theorem Box.pixels_exact (b : Box Int) : b.pixels = .ok b.inPixels := rfl

theorem Box.solid_inPixels {b : Box Int} (width : 0 < b.width) (height : 0 < b.height) : b.inPixels.Solid := by
  have unit : (0 : ℚ) < unitsPerPixel := by decide +kernel
  exact ⟨div_pos (Int.cast_pos.2 width) unit, div_pos (Int.cast_pos.2 height) unit⟩

theorem Box.pixels_eq_ok {α : Type} [Scalar α] {b : Box Int} {p : Box α} (h : b.pixels = .ok p) :
    FlowDeck.pixels b.width = .ok p.width ∧ FlowDeck.pixels b.height = .ok p.height := by
  simp only [Box.pixels, bind, Except.bind] at h
  split at h
  · cases h
  split at h
  · cases h
  split at h
  · cases h
  next width hwidth =>
  split at h
  · cases h
  next height hheight =>
  cases h
  exact ⟨hwidth, hheight⟩

/-- What is found to have a size in doubles has a width and a height above zero. -/
theorem pos_of_hasSize {b : Box Int} {size : Box Float} (h : b.pixels = .ok size) (found : hasSize size) :
    0 < b.width ∧ 0 < b.height := by
  have zero : (Scalar.ofInt 0 : Float) = 0 := rfl
  obtain ⟨width, height⟩ := Box.pixels_eq_ok h
  simp only [hasSize, zero, Bool.not_eq_true', Bool.or_eq_false_iff, decide_eq_false_iff_not] at found
  exact ⟨pos_of_pixels width found.1, pos_of_pixels height found.2⟩

def Measure.precise : Measure Float → Measure ℚ
  | .whole pixels => .whole pixels
  | .exact pixels =>
    match Number.Binary.decode pixels with
    | .finite negative coefficient exponent =>
      let (n, d) := Number.Binary.quotient coefficient exponent
      .exact ((if negative then -(n : ℚ) else n) / d)
    | _ => .blank
  | .blank => .blank

namespace Slide

section
variable {α : Type} [Scalar α] {b b' : Box α}

theorem Spans.exact (h : sl.Spans id b) : ∃ b : Box ℚ, sl.Spans id b := by
  obtain ⟨s, hs, -⟩ := h
  exact ⟨_, s, hs, s.box.pixels_exact⟩

theorem Spans.unique (h : sl.Spans id b) (h' : sl.Spans id b') : b = b' := by
  obtain ⟨s, hs, hb⟩ := h
  obtain ⟨t, ht, hb'⟩ := h'
  obtain rfl := Option.some.inj (hs.symm.trans ht)
  exact Except.ok.inj (hb.symm.trans hb')

end

theorem Spans.solid {size : Box Float} {b : Box ℚ} (h : sl.Spans id size) (found : hasSize size) (hb : sl.Spans id b) :
    b.Solid := by
  obtain ⟨s, hs, hsize⟩ := h
  obtain rfl := hb.unique ⟨s, hs, s.box.pixels_exact⟩
  obtain ⟨width, height⟩ := pos_of_hasSize hsize found
  exact Box.solid_inPixels width height

/-! ## Plans on a slide -/

section
variable {α : Type} [Scalar α] {gap : Measure α} {plan plan' : Plan α}

/-- There is one plan for a request. -/
theorem Plans.unique (h : sl.Plans node parent side gap count plan) (h' : sl.Plans node parent side gap count plan') :
    plan = plan' := by
  obtain ⟨size, existing, corners⟩ := plan
  obtain ⟨size', existing', corners'⟩ := plan'
  obtain rfl : size = size' := h.size.unique h'.size
  have single : Relator.RightUnique (@Spans α _ sl) := fun _ _ _ => Spans.unique
  obtain rfl : existing = existing' := List.right_unique_forall₂' single h.existing h'.existing
  obtain rfl : corners = corners' := Except.ok.inj (h.corners.symm.trans h'.corners)
  rfl

/-- A node that becomes a root gets the children that are planned for it as it was. -/
theorem Plans.before (h : start.Plans node parent side gap count plan) (ht : sl.Typed node parent start) :
    sl.Plans node parent side gap count plan where
  size := ht.spans_iff.1 h.size
  existing := by
    have below : childrenBelow sl.outline parent = childrenBelow start.outline parent := by
      rw [childrenBelow, childrenBelow, ht.children]
    rw [below]
    exact h.existing.imp fun _ _ => ht.spans_iff.1
  corners := h.corners

end

/-- What is measured in doubles can be measured exactly. -/
theorem exists_spans {ids : List ShapeId} {boxes : List (Box Float)} (h : List.Forall₂ sl.Spans ids boxes) :
    ∃ boxes : List (Box ℚ), List.Forall₂ sl.Spans ids boxes := by
  induction h with
  | nil => exact ⟨[], .nil⟩
  | cons h _ ih =>
    obtain ⟨b, hb⟩ := h.exact
    obtain ⟨boxes, hboxes⟩ := ih
    exact ⟨b :: boxes, .cons hb hboxes⟩

/-- What is planned in doubles can be planned exactly. -/
theorem Plans.exact {planned : Measure Float} {drawn : Plan Float}
    (h : sl.Plans node parent side planned count drawn) (hg : gap.toScalar = .ok g) :
    ∃ plan : Plan ℚ, sl.Plans node parent side gap count plan := by
  obtain ⟨size, hsize⟩ := h.size.exact
  obtain ⟨existing, hexisting⟩ := exists_spans h.existing
  obtain ⟨corners, hcorners⟩ := exists_childCorners hg size existing
  exact ⟨⟨size, existing, corners⟩, hsize, hexisting, hcorners⟩

end Slide

namespace Command

/-- Children that are created are drawn as they are planned, and the plan can be read exactly. -/
theorem createChildren_planned (desk : Desk) (node : ShapeId) (direction : String) {gap : Option (Measure Float)}
    (edge : Option EdgeStyle) {count : Int} {labels : List String} {page after : Page} {c : Creation}
    (hcount : 1 ≤ asked count labels) (hgap : (gapOr gap desk.style.nodeGap).precise.toScalar = .ok g)
    (run : (createChildren desk (some node) direction count gap labels edge).run.run page = (.ok c, after)) :
    ∃ parent side, page.slide.TakenFor node parent ∧ Side.ofName? (Text.upper direction) = some side ∧
      (∃ plan : Plan Float,
        page.slide.Plans node parent side (gapOr gap desk.style.nodeGap) (asked count labels).toNat plan ∧
        List.Forall₂ (fun b id => ∃ s, after.slide.shape? id = some s ∧ b.OnGrid s.box) plan.boxes c.created) ∧
      ∃ plan : Plan ℚ,
        page.slide.Plans node parent side (gapOr gap desk.style.nodeGap).precise (asked count labels).toNat plan ∧
        plan.size.Solid := by
  obtain ⟨start, parent, side, drawn, t, kids, lines, given, typed, hside, found, planned, -, -, created, has, boxed⟩ :=
    ((makes_createChildren_placed desk (some node) direction gap labels edge hcount).leads page rfl).ok run
  obtain rfl := Option.some.inj given
  have planned := planned.before typed
  obtain ⟨plan, exactly⟩ := planned.exact hgap
  have sized := planned.size.solid found exactly.size
  refine ⟨parent, side, typed.takenFor, hside, ⟨drawn, planned, ?_⟩, plan, exactly, sized⟩
  have kept : ∀ kid ∈ kids, after.slide.shape? kid.id = some kid := fun kid hkid => has.shape_kid hkid
  have both := (List.forall₂_and_left _ _).2 ⟨kept, boxed.flip⟩
  rw [created]
  exact List.forall₂_map_right_iff.2 (both.flip.imp fun b kid h => ⟨kid, h.1, Shape.DrawnIn.onGrid h.2⟩)

/-- Children that are created on a node, for which there is a descriptor or which becomes a root, are drawn as they
are planned. Read exactly, the plan keeps them apart from the last of the children that the node had, and from
each other exactly if there is one new child, or the node is no larger along the stack than this last child and
the gap together. -/
theorem createChildren_apart_iff (desk : Desk) (node : ShapeId) (direction : String) {gap : Option (Measure Float)}
    (edge : Option EdgeStyle) {count : Int} {labels : List String} {page after : Page} {c : Creation}
    (hcount : 1 ≤ asked count labels) (hgap : (gapOr gap desk.style.nodeGap).precise.toScalar = .ok g) (nonneg : 0 ≤ g)
    (run : (createChildren desk (some node) direction count gap labels edge).run.run page = (.ok c, after)) :
    ∃ parent side, page.slide.TakenFor node parent ∧ Side.ofName? (Text.upper direction) = some side ∧
      (∃ plan : Plan Float,
        page.slide.Plans node parent side (gapOr gap desk.style.nodeGap) (asked count labels).toNat plan ∧
        List.Forall₂ (fun b id => ∃ s, after.slide.shape? id = some s ∧ b.OnGrid s.box) plan.boxes c.created) ∧
      ∃ plan : Plan ℚ,
        page.slide.Plans node parent side (gapOr gap desk.style.nodeGap).precise (asked count labels).toNat plan ∧
        (plan.existing ≠ [] → (∀ b ∈ plan.existing, b.Solid) →
          ∃ last, LastIn side plan.existing last ∧ (∀ b ∈ plan.boxes, last.Apart b) ∧
            (plan.boxes.Pairwise Box.Apart ↔
              asked count labels ≤ 1 ∨ plan.size.sizeAlong side ≤ last.sizeAlong side + g)) := by
  obtain ⟨parent, side, taken, hside, drawn, plan, exactly, sized⟩ :=
    createChildren_planned desk node direction edge hcount hgap run
  refine ⟨parent, side, taken, hside, drawn, plan, exactly, fun some solid => ?_⟩
  obtain ⟨last, isLast, clear, apart⟩ := plan.apart_iff hgap nonneg exactly.corners sized some solid
  refine ⟨last, isLast, clear, apart.trans (or_congr_left ?_)⟩
  omega

def lowPage : Page where
  slide := [
    { id := 2, name := "Rectangle 1", descr := some "graph[](LR)[A1][B1]",
      form := .figure "RECTANGLE" ⟨381000, 381000, 1524000, 571500⟩ none none {} },
    { id := 3, name := "Rectangle 2", descr := some "graph[A1](LR)[B1][]",
      form := .figure "RECTANGLE" ⟨2095500, 571500, 1524000, 190500⟩ none none {} }]

def lowParent : Descriptor := ⟨"A1", [], "LR", [⟨"B1", ""⟩]⟩

theorem plans_lowPage : lowPage.slide.Plans 2 lowParent .right (Measure.precise (.exact 20)) 2
    ⟨⟨40, 40, 160, 60⟩, [⟨220, 60, 160, 20⟩], [⟨220, 100⟩, ⟨220, 140⟩]⟩ := by
  have below : childrenBelow lowPage.slide.outline lowParent = [(3, ⟨"B1", ["A1"], "LR", []⟩)] := by decide +kernel
  refine ⟨⟨_, rfl, by decide +kernel⟩, ?_, by decide +kernel⟩
  rw [below]
  exact .cons ⟨_, rfl, by decide +kernel⟩ .nil

/-- New children that go on from a low child overlap. -/
theorem createChildren_apart_iff_low : ∃ c after, ∃ plan : Plan ℚ,
    (createChildren Desk.bare (some 2) "RIGHT" 2 (some (.exact 20)) [] none).run.run lowPage = (.ok c, after) ∧
      lowPage.slide.Plans 2 lowParent .right (Measure.precise (.exact 20)) 2 plan ∧
      plan.boxes = [⟨220, 100, 160, 60⟩, ⟨220, 140, 160, 60⟩] ∧ ¬plan.boxes.Pairwise Box.Apart := by
  have gap : (gapOr (some (.exact 20)) Desk.bare.style.nodeGap).precise.toScalar = .ok 20 := by decide +kernel
  have run : ((createChildren Desk.bare (some 2) "RIGHT" 2 (some (.exact 20)) [] none).run.run lowPage).1 =
      .ok ⟨2, [4, 5], ["B2", "B3"], [], [(2, 4), (2, 5)]⟩ := by decide +kernel
  have named : Side.ofName? (Text.upper "RIGHT") = some .right := by decide +kernel
  have stored : lowPage.slide.outline.lookup 2 = some lowParent := by decide +kernel
  obtain ⟨parent, side, taken, hside, -, plan, planned, apart⟩ :=
    createChildren_apart_iff Desk.bare 2 "RIGHT" none (by decide) gap (by decide +kernel) (run_eq run)
  obtain rfl := taken.eq_of_lookup stored
  obtain rfl := Option.some.inj (named.symm.trans hside)
  obtain rfl := planned.unique plans_lowPage
  have solid : ∀ b ∈ [(⟨220, 60, 160, 20⟩ : Box ℚ)], b.Solid :=
    List.forall_mem_singleton.2 ⟨by decide +kernel, by decide +kernel⟩
  obtain ⟨last, isLast, -, iff⟩ := apart (List.cons_ne_nil _ _) solid
  obtain rfl := List.mem_singleton.1 isLast.mem
  exact ⟨_, _, _, run_eq run, planned, rfl, fun h => absurd (iff.1 h) (by decide +kernel)⟩

end Command

end FlowDeck
