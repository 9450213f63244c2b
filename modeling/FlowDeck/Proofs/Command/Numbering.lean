import FlowDeck.Proofs.Command.Framing
import FlowDeck.Proofs.Command.Linking
import FlowDeck.Proofs.Command.Offspring

/-!
# The number of a sibling

A sibling is numbered on from what its parent lists and from the children of its parent at the level of the
given node. On any page this makes it new, as long as the given node has a level. An identifier without one
has no number either, so nothing counts for it, and all siblings of such a node are called `1`.
-/

namespace FlowDeck

open Slide Edit Record

variable {sl : Slide} {node parentNode : ShapeId} {d parent : Descriptor} {id level : String} {ids : List String}

/-! ## Numbers -/

theorem isLevel_level (h : d.level ≠ "") : IsLevel d.level :=
  ⟨h, isLevelLetter_of_mem_levelOf⟩

/-- Nothing has a number without a level. -/
theorem numberAt?_empty (id : String) : numberAt? "" id = none := by
  unfold numberAt? splitId? idParts?
  simp only
  split
  · rfl
  · next parted =>
    have letters : id.toList.takeWhile isLevelLetter ≠ [] := fun h => parted (by simp [h])
    simp [letters]

theorem nextNumber_empty (ids : List String) : nextNumber "" ids = 1 := by
  rw [nextNumber, List.filterMap_eq_nil_iff.2 fun id _ => numberAt?_empty id]
  rfl

theorem siblingsOf_ne_nil (outline : Outline) (parent : Descriptor) (node : ShapeId) (d : Descriptor) :
    siblingsOf outline parent node d ≠ [] := by
  unfold siblingsOf
  dsimp only
  split
  · next h =>
    intro empty
    simp [empty] at h
  · simp

/-- What is in use below the parent is counted, if it is at the level of the node. -/
theorem mem_counted {outline : Outline} (level : levelOf id = d.level)
    (h : id ∈ parent.childIds ++ (outline.children parent).map (·.2.current)) :
    id ∈ parent.childIds ++ (siblingsOf outline parent node d).map (·.2.current) := by
  rcases List.mem_append.1 h with listed | h
  · exact List.mem_append_left _ listed
  · obtain ⟨e, he, rfl⟩ := List.mem_map.1 h
    exact List.mem_append_right _ (List.mem_map_of_mem (mem_siblingsOf he level))

theorem siblingId_of_newSiblingId {siblings : Outline} (h : newSiblingId parent d siblings = .ok id) :
    id = siblingId d.level (nextNumber d.level (parent.childIds ++ siblings.map (·.2.current))) :=
  furtherId_eq h

/-- A new identifier is in use only where it has no level. -/
theorem newSiblingId_taken_iff {outline : Outline}
    (h : newSiblingId parent d (siblingsOf outline parent node d) = .ok id) :
    id ∈ parent.childIds ++ (outline.children parent).map (·.2.current) ↔
      d.level = "" ∧ "1" ∈ parent.childIds ++ (outline.children parent).map (·.2.current) := by
  have number := siblingId_of_newSiblingId h
  by_cases unleveled : d.level = ""
  · have one : id = "1" := by
      rw [number, unleveled, nextNumber_empty]
      decide
    simp only [one, unleveled, true_and]
  · simp only [unleveled, false_and, iff_false]
    intro taken
    have level : levelOf id = d.level := number ▸ levelOf_siblingId (isLevel_level unleveled)
    have counted : id ∈ parent.childIds ++ (siblingsOf outline parent node d).map (·.2.current) :=
      mem_counted level taken
    rw [number] at counted
    exact siblingId_not_mem (isLevel_level unleveled) le_rfl counted

theorem fitsChild_of_newSiblingId {siblings : Outline} {layout : String}
    (h : newSiblingId parent d siblings = .ok id) (hl : layout ∈ Layout.tokens) : FitsChild ⟨id, layout⟩ where
  id := siblingId_of_newSiblingId h ▸ fits_siblingId isLevelLetter_of_mem_levelOf (by decide)
  layout := .inr hl

/-! ## What becomes of the slide -/

namespace Slide



/-- All that a request for a sibling comes to: a node in front of the slide with the chain of the given node,
and its parent lists it. -/
structure HasSibling (sl : Slide) (node : ShapeId) (d : Descriptor) (parentNode : ShapeId) (parent : Descriptor)
    (id : String) (c : Creation) (after : Slide) : Prop where
  above : c.parent = parentNode
  created : c.created = [sl.nextId]
  childIds : c.childIds = [id]
  numbered : ∃ n, id = siblingId d.level (n : Nat) ∧
    NumbersOn d.level (parent.childIds ++ (siblingsOf sl.outline parent node d).map (·.2.current)) n
  kept : after.descriptorOf? sl.nextId = some ⟨id, d.chain, siblingLayout sl.outline parent d, []⟩
  listed : after.descriptorOf? parentNode = some (parent.attach [⟨id, siblingLayout sl.outline parent d⟩]).stored

structure PlansBeside {α : Type} [Scalar α] (sl : Slide) (node : ShapeId) (d parent : Descriptor) (side : Side)
    (gap : Measure α) (plan : Plan α) : Prop where
  size : sl.Spans node plan.size
  existing : List.Forall₂ sl.Spans ((siblingsOf sl.outline parent node d).map (·.1)) plan.existing
  corners : furtherCorners plan.existing side gap 1 = .ok plan.corners

/-- A sibling of the node has been drawn in front of the slide as it is planned, its parent lists it, and there are
connectors in front of it. -/
structure GetsSibling (sl : Slide) (node : ShapeId) (d : Descriptor) (parentNode : ShapeId) (parent : Descriptor)
    (gap : Measure Float) (s : Shape) (c : Creation) (after : Slide) : Prop where
  above : c.parent = parentNode
  created : c.created = [s.id]
  id : s.id = sl.nextId
  isNode : s.isNode
  kept : ∃ id, c.childIds = [id] ∧ newSiblingId parent d (siblingsOf sl.outline parent node d) = .ok id ∧
    s.memo = (⟨id, d.chain, siblingLayout sl.outline parent d, []⟩ : Descriptor).render ∧
    ∃ lines, after = (sl ++ [s]).storing parentNode (parent.attach [⟨id, siblingLayout sl.outline parent d⟩]) ++ lines
  placed : ∃ layout plan kind, Layout.read (some (siblingLayout sl.outline parent d)) = .ok layout ∧
    sl.PlansBeside node d parent layout.direction gap plan ∧ List.Forall₂ (fun b s => s.DrawnIn kind b) plan.boxes [s]

end Slide

namespace Command

/-- What comes of a request for a sibling that succeeds. -/
theorem makes_createSibling_drawn (desk : Desk) (given : Option ShapeId) (gap : Option (Measure Float))
    (edge : Option EdgeStyle) :
    Makes (createSibling desk given gap edge) sl
      (fun c after => ∃ node d parentNode parent s, given = some node ∧ sl.descriptorOf? node = some d ∧
        sl.outline.parent? d = some (parentNode, parent) ∧
        sl.GetsSibling node d parentNode parent (gapOr gap desk.style.nodeGap) s c after) fun _ => True := by
  refine asks_requireDescriptor?.followed trivial fun (node, d) ⟨hgiven, hd⟩ => .guard trivial ?_
  refine asks_outline.followed trivial fun outline ho => ?_
  subst ho
  split
  · exact makes_refuse trivial
  next parentNode parent hparent =>
  refine asks_orFault.followed trivial fun layout hlayout => ?_
  refine makes_boxes.followed (fun _ _ => trivial) fun existing hexisting => ?_
  refine asks_ofNumber.followed trivial fun corners hcorners => asks_ofNumber.followed trivial fun id hid => ?_
  refine asks_box.followed trivial fun size hsize => asks_shape?.followed trivial fun t _ => ?_
  have hcount : corners.length = 1 := by
    refine length_furtherCorners hcorners fun none => siblingsOf_ne_nil sl.outline parent node d ?_
    simpa [none] using hexisting
  obtain ⟨corner, rfl⟩ := List.length_eq_one_iff.1 hcount
  refine ((makes_mapM_singleton (makes_drawChild_figure desk t.kind _ "" _)).mono (fun _ _ h => h) fun _ h => h).bind
    fun created now h' => ?_
  obtain ⟨_, rfl, s, rfl, hs, rfl, hmemo, drawn⟩ := h'
  refine .stored trivial ?_
  refine (makes_joinChildren_joined desk _ _ _ _ _ rfl rfl).bind fun joined after h => ?_
  obtain ⟨lines, rfl, rfl, -, -⟩ := h
  refine (reads_note _ _).followed trivial fun _ => makes_pure ?_
  refine ⟨node, d, parentNode, parent, s, hgiven, hd, hparent, rfl, rfl, hs, drawn.isNode,
    ⟨id, rfl, hid, hmemo, lines, rfl⟩, layout, ⟨size, existing, [corner]⟩, t.kind, hlayout, ?_, .cons drawn .nil⟩
  exact ⟨hsize, hexisting, hcorners⟩

/-- Of all slides, a request for a sibling that succeeds makes one with the sibling. -/
theorem makes_createSibling_exact (desk : Desk) (given : Option ShapeId) (gap : Option (Measure Float))
    (edge : Option EdgeStyle) :
    Makes (createSibling desk given gap edge) sl
      (fun c after => ∃ node d parentNode parent id, given = some node ∧ sl.descriptorOf? node = some d ∧
        sl.outline.parent? d = some (parentNode, parent) ∧
        newSiblingId parent d (siblingsOf sl.outline parent node d) = .ok id ∧
        sl.HasSibling node d parentNode parent id c after) fun _ => True := by
  refine (makes_createSibling_drawn desk given gap edge).mono (fun c after h => ?_) fun _ h => h
  obtain ⟨node, d, parentNode, parent, s, hgiven, hd, hparent, gets⟩ := h
  obtain ⟨id, childIds, hid, hmemo, lines, rfl⟩ := gets.kept
  obtain ⟨layout, -, -, hlayout, -⟩ := gets.placed
  have hs := gets.id
  have token := mem_tokens_of_read hlayout
  have fits := fitsChild_of_newSiblingId hid token
  have formed := wellFormed_of_mem (Outline.mem_of_parent? hparent)
  have there := Outline.mem_of_parent? hparent
  have ne : s.id ≠ parentNode := fun he => ne_nextId there (he ▸ hs)
  have old : ∃ t ∈ sl, t.id = parentNode := exists_of_mem_outline there
  have chained : d.chain ≠ [] := by
    intro none
    simp [Outline.parent?, Descriptor.parentId?, none] at hparent
  refine ⟨node, d, parentNode, parent, id, hgiven, hd, hparent, hid, gets.above, by rw [gets.created, hs], childIds,
    ⟨_, siblingId_of_newSiblingId hid, numbersOn_nextNumber _ _⟩, ?_, ?_⟩
  · have here : ∃ t ∈ sl ++ [s], t.id = sl.nextId := ⟨s, by simp, hs⟩
    have formed : Descriptor.WellFormed ⟨id, d.chain, siblingLayout sl.outline parent d, []⟩ :=
      ⟨fits.id.mono (by simp), (wellFormed_of_descriptorOf? hd).chain, .inr token, by simp, by simp⟩
    rw [descriptorOf?_append (exists_storing here _ _), descriptorOf?_storing_other (hs ▸ ne), descriptorOf?, ← hs,
      shape?_front hs, Option.bind_some, Shape.descriptor?, hmemo, Descriptor.read?_render formed]
    exact congrArg some (Descriptor.stored_eq_self fun root => absurd (List.isEmpty_iff.1 root) chained)
  · have there : ∃ t ∈ sl ++ [s], t.id = parentNode := old.imp fun t ht => ⟨List.mem_append_left _ ht.1, ht.2⟩
    rw [descriptorOf?_append (exists_storing there _ _), descriptorOf?_storing there]
    exact Descriptor.read?_render (formed.attachAll fun ref href => List.mem_singleton.1 href ▸ fits)

/-- A new sibling has an identifier that its parent lists or a child of it has, exactly if the given node has an
identifier without a level and `1` is in use already: then the sibling is called `1` as well. -/
theorem createSibling_taken_iff (desk : Desk) (node : ShapeId) (gap : Option (Measure Float)) (edge : Option EdgeStyle)
    {page after : Page} {c : Creation}
    (run : (createSibling desk (some node) gap edge).run.run page = (.ok c, after)) :
    ∃ d parentNode parent id, page.slide.descriptorOf? node = some d ∧
      page.slide.outline.parent? d = some (parentNode, parent) ∧
      page.slide.HasSibling node d parentNode parent id c after.slide ∧
      (id ∈ page.slide.takenBelow parent ↔ d.level = "" ∧ "1" ∈ page.slide.takenBelow parent) := by
  obtain ⟨node, d, parentNode, parent, id, given, hd, hparent, hid, has⟩ :=
    ((makes_createSibling_exact desk (some node) gap edge).leads page rfl).ok run
  obtain rfl := Option.some.inj given
  exact ⟨d, parentNode, parent, id, hd, hparent, has, newSiblingId_taken_iff hid⟩

def unleveled : Page where
  slide := [
    { id := 2, name := "Rectangle 1", descr := some "graph[](LR)[A1][1]",
      form := .figure "RECTANGLE" ⟨0, 0, 952500, 952500⟩ none none {} },
    { id := 3, name := "Rectangle 2", descr := some "graph[A1](LR)[1][]",
      form := .figure "RECTANGLE" ⟨1905000, 0, 952500, 952500⟩ none none {} }]

theorem createSibling_taken_iff_unleveled : ∃ after c parent,
    (createSibling Desk.bare (some 3) none none).run.run unleveled = (.ok c, after) ∧ c.childIds = ["1"] ∧
    "1" ∈ unleveled.slide.takenBelow parent ∧
    unleveled.slide.HasSibling 3 ⟨"1", ["A1"], "LR", []⟩ 2 parent "1" c after.slide := by
  have run : ((createSibling Desk.bare (some 3) none none).run.run unleveled).1 =
      .ok ⟨2, [4], ["1"], [], [(2, 4)]⟩ := by decide +kernel
  have typed : unleveled.slide.descriptorOf? 3 = some ⟨"1", ["A1"], "LR", []⟩ := by decide +kernel
  obtain ⟨d, parentNode, parent, id, hd, hparent, has, taken⟩ :=
    createSibling_taken_iff Desk.bare 3 none none (run_eq run)
  obtain rfl := Option.some.inj (typed.symm.trans hd)
  obtain rfl : id = "1" := by simpa using has.childIds.symm
  obtain rfl : 2 = parentNode := has.above
  have above : unleveled.slide.outline.parent? ⟨"1", ["A1"], "LR", []⟩ = some (2, ⟨"A1", [], "LR", [⟨"1", ""⟩]⟩) := by
    decide +kernel
  obtain rfl := congrArg Prod.snd (Option.some.inj (above.symm.trans hparent))
  exact ⟨_, _, _, run_eq run, rfl, taken.2 ⟨by decide, by decide +kernel⟩, has⟩

end Command

end FlowDeck
