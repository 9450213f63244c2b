import FlowDeck.Proofs.Command.Finding
import FlowDeck.Proofs.Deck.Steady

/-!
# What becomes of a slide when children are created

The node is typed first, if need be. Then the children are drawn in front of all that is there, the node
stores that it lists them, and connectors come in front of the children. Nothing is asked of the slide.
-/

namespace FlowDeck

open Slide Edit

variable {sl start after : Slide} {node id : ShapeId} {parent d : Descriptor} {ids : List String}
variable {kids lines : List Shape} {c : Creation} {stored : Option Descriptor}

namespace Slide

def newChild (parent : Descriptor) (id : String) : Descriptor :=
  { current := id, chain := parent.chainBelow, layout := parent.layout }

def KeepsChild (parent : Descriptor) (id : String) (s : Shape) : Prop :=
  s.isNode ∧ s.memo = (newChild parent id).render

/-- The node lists these children, which are drawn in front of the slide with their descriptors, and there
are connectors in front of them. -/
structure HasChildren (start : Slide) (node : ShapeId) (parent : Descriptor) (ids : List String)
    (kids lines : List Shape) (after : Slide) : Prop where
  eq : after = start.storing node (parent.attach (ids.map fun id => { id })) ++ kids ++ lines
  kept : List.Forall₂ (KeepsChild parent) ids kids
  edges : ∀ s ∈ lines, s.isEdge
  fresh : start.Fresh (kids ++ lines)

end Slide

structure Plan (α : Type) where
  size : Box α
  existing : List (Box α)
  corners : List (Point α)

def Plan.boxes {α : Type} (plan : Plan α) : List (Box α) :=
  plan.corners.map fun corner => ⟨corner.x, corner.y, plan.size.width, plan.size.height⟩

namespace Slide

/-- The box of the shape with this number in pixels, in numbers of any kind. In doubles it is `HasBox`. -/
def Spans {α : Type} [Scalar α] (sl : Slide) (id : ShapeId) (b : Box α) : Prop :=
  ∃ s, sl.shape? id = some s ∧ s.box.pixels = .ok b

/-- What the slide makes of a request for so many children of a node, with numbers of any kind. -/
structure Plans {α : Type} [Scalar α] (sl : Slide) (node : ShapeId) (parent : Descriptor) (side : Side)
    (gap : Measure α) (count : ℕ) (plan : Plan α) : Prop where
  size : sl.Spans node plan.size
  existing : List.Forall₂ sl.Spans ((childrenBelow sl.outline parent).map (·.1)) plan.existing
  corners : childCorners plan.size plan.existing side gap count = .ok plan.corners

theorem spans_storing {α : Type} [Scalar α] {b : Box α} : (sl.storing node d).Spans id b ↔ sl.Spans id b := by
  by_cases same : id = node
  · subst same
    rw [Spans, Spans, storing, shape?_modify_self fun s => s.withMemo_id _]
    simp [(Shape.rewrites_withMemo _ d.render).box]
  · rw [Spans, Spans, shape?_storing_other same]

theorem Typed.spans_iff {α : Type} [Scalar α] {b : Box α} (h : sl.Typed node parent start) :
    start.Spans id b ↔ sl.Spans id b := by
  rcases h.before with rfl | ⟨-, root, -, rfl⟩
  · exact Iff.rfl
  · exact spans_storing

end Slide

theorem length_childCorners {α : Type} [Scalar α] {parentBox : Box α} {existing : List (Box α)} {direction : Side}
    {gap : Measure α} {count : Nat} {corners : List (Point α)}
    (h : childCorners parentBox existing direction gap count = .ok corners) : corners.length = count := by
  unfold childCorners at h
  cases existing with
  | nil =>
    simp only [List.isEmpty_nil, if_true, firstCorners, bind, Except.bind] at h
    split at h
    · cases h
    split at h
    · cases h
    · cases h
      rw [List.length_map, List.length_range]
  | cons first others =>
    rw [List.isEmpty_cons, if_neg Bool.false_ne_true] at h
    exact length_furtherCorners h (List.cons_ne_nil _ _)

theorem newChildIds_eq {existing : Outline} {count : Int} {ids : List String}
    (h : newChildIds parent existing count = .ok ids) :
    ids = siblingIds (nextLevel parent.level) count
      (nextNumber (nextLevel parent.level) (parent.childIds ++ existing.map (·.2.current))) :=
  furtherIds_eq h

theorem length_newChildIds {existing : Outline} {count : Int} {ids : List String}
    (h : newChildIds parent existing count = .ok ids) : ids.length = count.toNat := by
  rw [newChildIds_eq h, siblingIds, List.length_map, List.length_range]

namespace Edit

/-- What is drawn one after the other comes in front of the slide in this order. -/
theorem makes_mapM_drawn {α : Type} {g : α → Edit ShapeId} {P : α → Shape → Prop} {E : Slide → Prop} {xs : List α}
    (hg : ∀ x ∈ xs, ∀ now, Makes (g x) now
      (fun child after => ∃ s : Shape, after = now ++ [s] ∧ s.id = now.nextId ∧ child = s.id ∧ P x s) E) :
    Makes (xs.mapM g) sl
      (fun created after =>
        ∃ kids, after = sl ++ kids ∧ created = kids.map (·.id) ∧ sl.Fresh kids ∧ List.Forall₂ P xs kids) E := by
  refine makes_mapM_done (fun done created now => ∃ kids, now = sl ++ kids ∧ created = kids.map (·.id) ∧
    sl.Fresh kids ∧ List.Forall₂ P done kids) ?_ ⟨[], (List.append_nil sl).symm, rfl, sl.fresh_nil, .nil⟩
  rintro done created x hx now ⟨kids, rfl, hcreated, fresh, kept⟩
  refine (hg x hx _).mono (fun child after h => ?_) fun _ h => h
  obtain ⟨s, rfl, hs, rfl, hP⟩ := h
  refine ⟨kids ++ [s], List.append_assoc .., ?_, fresh.concat hs, List.rel_append kept (.cons hP .nil)⟩
  rw [hcreated, List.map_append, List.map_singleton]

/-- A child is a figure in its box, in front of all that is there, and keeps its descriptor. -/
theorem makes_drawChild_figure (desk : Desk) (kind : String) (b : Box Float) (label : String) (d : Descriptor) :
    Makes (Command.drawChild desk kind b label d) sl
      (fun child after => ∃ s : Shape, after = sl ++ [s] ∧ s.id = sl.nextId ∧ child = s.id ∧ s.memo = d.render ∧
        s.DrawnIn kind b) fun _ => True := by
  have stored (now : Slide) (id : ShapeId) (hid : id = sl.nextId) (text : String)
      (hf : sl.AddsFigure kind b text now) : Makes (do store id d; return id) now
      (fun child after => ∃ s : Shape, after = sl ++ [s] ∧ s.id = sl.nextId ∧ child = s.id ∧ s.memo = d.render ∧
        s.DrawnIn kind b) fun _ => True := by
    obtain ⟨s, rfl, hs, hfig⟩ := hf
    refine .stored trivial (makes_pure ?_)
    refine ⟨s.withMemo d.render, ?_, ?_, ?_, s.memo_withMemo _, hfig.drawnIn.withMemo _⟩
    · rw [Slide.storing, hid, ← hs]
      exact modify_between _ fun t ht => hs ▸ nextId_ne ht
    · rw [Shape.withMemo_id, hs]
    · rw [Shape.withMemo_id, hs, hid]
  refine ((makes_drawShapeAt desk kind b).mono (fun _ _ h => h) fun _ _ => trivial).bind fun id now drawn => ?_
  obtain ⟨hid, hf⟩ := drawn
  refine .ite (fun _ => ?_) fun _ => stored now id hid "" hf
  exact ((makes_setText desk label hid hf).mono (fun _ _ h => h) fun _ _ => trivial).bind fun _ now hf =>
    stored now id hid _ hf

/-- As many children are drawn as there are corners for, each in the box at its corner. -/
theorem makes_drawChildren (desk : Desk) (kind : String) (size : Box Float) (labels : List String) (parent : Descriptor)
    {corners : List (Point Float)} {ids : List String} (hlen : corners.length = ids.length) :
    Makes ((corners.zip ids).zipIdx.mapM fun ((corner, id), i) =>
      Command.drawChild desk kind ⟨corner.x, corner.y, size.width, size.height⟩ (labels.getD i "")
        { current := id, chain := parent.chainBelow, layout := parent.layout }) sl
      (fun created after => ∃ kids, after = sl ++ kids ∧ created = kids.map (·.id) ∧ sl.Fresh kids ∧
        List.Forall₂ (KeepsChild parent) ids kids ∧
        List.Forall₂ (fun corner s => s.DrawnIn kind ⟨corner.x, corner.y, size.width, size.height⟩) corners kids)
      fun _ => True := by
  have places : ((corners.zip ids).zipIdx).map (·.1.1) = corners := by
    have : (corners.zip ids).map Prod.fst = corners := List.map_fst_zip hlen.le
    rwa [← List.zipIdx_map_fst 0 (corners.zip ids), List.map_map] at this
  have all : ((corners.zip ids).zipIdx).map (·.1.2) = ids := by
    have : (corners.zip ids).map Prod.snd = ids := List.map_snd_zip hlen.ge
    rwa [← List.zipIdx_map_fst 0 (corners.zip ids), List.map_map] at this
  refine (makes_mapM_drawn (P := fun x s => KeepsChild parent x.1.2 s ∧
    s.DrawnIn kind ⟨x.1.1.x, x.1.1.y, size.width, size.height⟩) ?_).mono (fun created after h => ?_) fun _ h => h
  · intro ⟨⟨corner, id⟩, i⟩ _ now
    refine (makes_drawChild_figure desk kind _ _ _).mono (fun child after h => ?_) fun _ h => h
    obtain ⟨s, hafter, hs, hchild, memo, drawn⟩ := h
    exact ⟨s, hafter, hs, hchild, ⟨drawn.isNode, memo⟩, drawn⟩
  · obtain ⟨kids, hnow, hcreated, fresh, kept⟩ := h
    refine ⟨kids, hnow, hcreated, fresh, ?_, ?_⟩
    · rw [← all]
      exact List.forall₂_map_left_iff.2 (kept.imp fun _ _ h => h.1)
    · rw [← places]
      exact List.forall₂_map_left_iff.2 (kept.imp fun _ _ h => h.2)

end Edit

namespace Slide

theorem storing_append_of_mem (h : ∃ s ∈ sl, s.id = node) (d : Descriptor) (more : Slide) :
    Slide.storing (sl ++ more) node d = sl.storing node d ++ more := by
  obtain ⟨s, hs, hid⟩ := h
  rcases modify_append sl more node fun s => s.withMemo d.render with same | ⟨lacks, -⟩
  · exact same
  · exact absurd hid (lacks s hs)

theorem isEdge_of_joins {sides : Side × Side} {pairs : List (ShapeId × ShapeId)} {lines : List Shape}
    (h : List.Forall₂ (after.Joins sides) pairs lines) : ∀ s ∈ lines, s.isEdge := by
  refine forall_of_forall₂ h fun pair s joins => ?_
  obtain ⟨line, a, b, hform, -⟩ := joins
  rw [Shape.isEdge, hform]

theorem filter_isNode_append (h : ∀ s ∈ lines, s.isEdge) (sl : Slide) :
    (sl ++ lines).filter (·.isNode) = sl.filter (·.isNode) := by
  have none : lines.filter (·.isNode) = [] := by
    rw [List.filter_eq_nil_iff]
    intro s hs
    rw [Shape.isNode_of_isEdge (h s hs)]
    exact Bool.false_ne_true
  rw [List.filter_append, none, List.append_nil]

/-- Connectors in front do not show in the outline. -/
theorem outline_append_edges (h : ∀ s ∈ lines, s.isEdge) (sl : Slide) : Slide.outline (sl ++ lines) = sl.outline := by
  have same : Slide.nodes (sl ++ lines) = sl.nodes := by rw [nodes, filter_isNode_append h, ← nodes]
  rw [Slide.outline, same, Slide.outline]
  exact List.filterMap_congr fun n hn => by rw [descriptorOf?_append (exists_of_mem_nodes hn)]

theorem entries_of_edges (h : ∀ s ∈ lines, s.isEdge) : lines.filterMap Shape.entry? = [] := by
  rw [List.filterMap_eq_nil_iff]
  intro s hs
  rw [Shape.entry?, Shape.isNode_of_isEdge (h s hs), if_neg Bool.false_ne_true]

theorem lacks_storing : (sl.storing node d).Lacks id ↔ sl.Lacks id :=
  lacks_congr (ids_storing sl node d)

theorem Typed.shape_start {s : Shape} (h : sl.Typed node parent start) (hs : sl.shape? node = some s) :
    ∃ t, start.shape? node = some t ∧ t.kind = s.kind := by
  rcases h.before with rfl | ⟨-, root, -, rfl⟩
  · exact ⟨s, hs, rfl⟩
  · exact ⟨_, shape?_storing hs root, (s.rewrites_withMemo root.render).kind⟩

theorem Fresh.of_ids {sl' more : Slide} (h : sl.Fresh more) (hids : sl'.map (·.id) = sl.map (·.id)) :
    sl'.Fresh more where
  nodup := h.nodup
  lacks s hs := (lacks_congr hids).2 (h.lacks s hs)

/-! ## What is new in front -/

def mayStore (sl : Slide) (node : ShapeId) (d : Option Descriptor) : Slide :=
  d.elim sl (sl.storing node)

/-- The command has drawn nodes and connectors in front of the slide, which is as it was but for what the node
has stored. -/
structure Made (sl : Slide) (node : ShapeId) (d : Option Descriptor) (kids lines : List Shape) (c : Creation)
    (after : Slide) : Prop where
  eq : after = sl.mayStore node d ++ kids ++ lines
  created : c.created = kids.map (·.id)
  edges : c.edges = lines.map (·.id)
  fresh : sl.Fresh (kids ++ lines)

theorem ids_mayStore (sl : Slide) (node : ShapeId) (d : Option Descriptor) :
    (sl.mayStore node d).map (·.id) = sl.map (·.id) := by
  cases d with
  | none => rfl
  | some d => exact ids_storing sl node d

theorem shape?_mayStore_other (h : id ≠ node) : (sl.mayStore node stored).shape? id = sl.shape? id := by
  cases stored with
  | none => rfl
  | some d => exact shape?_storing_other h d

theorem Made.shape_new {s : Shape} (h : sl.Made node stored kids lines c after) (hs : s ∈ kids ++ lines) :
    after.shape? s.id = some s := by
  rw [h.eq, List.append_assoc]
  exact (h.fresh.of_ids (ids_mayStore sl node stored)).shape? hs

theorem Made.shape_other {s : Shape} (h : sl.Made node stored kids lines c after) (hs : sl.shape? id = some s)
    (hne : id ≠ node) : after.shape? id = some s := by
  rw [h.eq]
  apply shape?_append
  apply shape?_append
  rw [shape?_mayStore_other hne]
  exact hs

theorem Made.kid_ne {s : Shape} (h : sl.Made node stored kids lines c after) (hs : s ∈ kids ++ lines)
    (hid : ∃ s ∈ sl, s.id = id) : s.id ≠ id := by
  obtain ⟨t, ht, rfl⟩ := hid
  exact (h.fresh.lacks s hs t ht).symm

theorem HasChildren.outline (h : start.HasChildren node parent ids kids lines after) :
    after.outline = (start.storing node (parent.attach (ids.map fun id => { id }))).outline ++
      kids.filterMap Shape.entry? := by
  rw [h.eq, List.append_assoc, (h.fresh.of_ids (ids_storing start node _)).outline, List.filterMap_append,
    entries_of_edges h.edges, List.append_nil]

theorem HasChildren.made (h : sl.HasChildren node parent ids kids lines after) :
    sl.Made node (some (parent.attach (ids.map fun id => { id }))) kids lines
      { parent := node, created := kids.map (·.id), childIds := ids, edges := lines.map (·.id) } after :=
  ⟨h.eq, rfl, rfl, h.fresh⟩

end Slide

namespace Command

/-- How many children are asked for: as many as there are labels, if there are any. -/
def asked (count : Int) (labels : List String) : Int :=
  if labels.isEmpty then count else labels.length

theorem asks_requireSide {name : String} :
    Asks (requireSide name) sl fun side => Side.ofName? (Text.upper name) = some side := by
  unfold requireSide
  split
  · next side hside => exact asks_pure hside
  · exact asks_refuse

/-- What comes of a request for children that succeeds: they are planned on the slide where the node is typed, and
drawn as they are planned. -/
theorem makes_createChildren_placed (desk : Desk) (given : Option ShapeId) (direction : String) {count : Int}
    (gap : Option (Measure Float)) (labels : List String) (edge : Option EdgeStyle) (hcount : 0 < asked count labels) :
    Makes (createChildren desk given direction count gap labels edge) sl
      (fun c after => ∃ start parent side plan t kids lines, given = some c.parent ∧ sl.Typed c.parent parent start ∧
        Side.ofName? (Text.upper direction) = some side ∧ hasSize plan.size ∧
        start.Plans c.parent parent side (gapOr gap desk.style.nodeGap) (asked count labels).toNat plan ∧
        start.shape? c.parent = some t ∧
        newChildIds parent (childrenBelow start.outline parent) (asked count labels) = .ok c.childIds ∧
        c.created = kids.map (·.id) ∧ start.HasChildren c.parent parent c.childIds kids lines after ∧
        List.Forall₂ (fun b kid => kid.DrawnIn t.kind b) plan.boxes kids)
      fun _ => True := by
  refine asks_requireNode.followed trivial fun node ⟨hgiven, _⟩ => ?_
  refine asks_requireSide.followed trivial fun side hside => ?_
  refine .ite (fun none => absurd hcount (Int.not_lt.2 none)) fun _ => ?_
  refine asks_box.followed trivial fun size hsize => .unless trivial fun unsized => ?_
  have found : hasSize size := by simpa using unsized
  refine (reads_ofNumber _).followed trivial fun along => .guard trivial ?_
  refine makes_typed_exact.bind fun parent start typed => asks_outline.followed trivial fun outline ho => ?_
  subst ho
  refine makes_boxes.followed (fun _ _ => trivial) fun existing hexisting => ?_
  refine asks_ofNumber.followed trivial fun corners hcorners => ?_
  refine asks_ofNumber.followed trivial fun ids hids => asks_shape?.followed trivial fun t ht => ?_
  have hlen : corners.length = ids.length := by
    rw [length_childCorners hcorners, length_newChildIds hids]
  refine (makes_drawChildren desk t.kind size labels parent hlen).bind fun created now h => ?_
  obtain ⟨kids, rfl, rfl, fresh, kept, drawn⟩ := h
  refine .stored trivial ?_
  rw [storing_append_of_mem typed.exists_shape]
  refine (makes_joinChildren_joined desk { parent := node, created := kids.map (·.id), childIds := ids } _ side
    side.opposite (edge.getD desk.style.edge) rfl rfl).bind fun c after h => ?_
  obtain ⟨lines, rfl, rfl, joined, new⟩ := h
  refine (reads_note _ _).followed trivial fun _ => makes_pure ?_
  have planned : start.Plans node parent side (gapOr gap desk.style.nodeGap) (asked count labels).toNat
      ⟨size, existing, corners⟩ := ⟨typed.spans_iff.2 hsize, hexisting, hcorners⟩
  have boxed : List.Forall₂ (fun b kid => kid.DrawnIn t.kind b) (Plan.boxes ⟨size, existing, corners⟩) kids :=
    List.forall₂_map_left_iff.2 drawn
  refine ⟨start, parent, side, ⟨size, existing, corners⟩, t, kids, lines, hgiven, typed, hside, found, planned, ht,
    hids, rfl, ?_, boxed⟩
  refine ⟨rfl, kept, isEdge_of_joins joined, fresh.append (new.of_ids ?_)⟩
  rw [List.map_append, List.map_append, ids_storing]

/-- What comes of a request for children that succeeds, and what is drawn for them. -/
theorem makes_createChildren_drawn (desk : Desk) (given : Option ShapeId) (direction : String) {count : Int}
    (gap : Option (Measure Float)) (labels : List String) (edge : Option EdgeStyle) (hcount : 0 < asked count labels) :
    Makes (createChildren desk given direction count gap labels edge) sl
      (fun c after => ∃ start parent s t size kids lines, given = some c.parent ∧ sl.Typed c.parent parent start ∧
        sl.shape? c.parent = some s ∧ s.box.pixels = .ok size ∧ start.shape? c.parent = some t ∧
        newChildIds parent (childrenBelow start.outline parent) (asked count labels) = .ok c.childIds ∧
        c.created = kids.map (·.id) ∧ start.HasChildren c.parent parent c.childIds kids lines after ∧
        ∀ kid ∈ kids, kid.DrawnAs t.kind size.width size.height)
      fun _ => True := by
  refine (makes_createChildren_placed desk given direction gap labels edge hcount).mono (fun c after h => ?_) fun _ h => h
  obtain ⟨start, parent, side, plan, t, kids, lines, hgiven, typed, -, -, planned, ht, hids, hcreated, has, boxed⟩ := h
  obtain ⟨s, hs, hsize⟩ := typed.spans_iff.1 planned.size
  have drawn : ∀ kid ∈ kids, kid.DrawnAs t.kind plan.size.width plan.size.height :=
    forall_of_forall₂ (List.forall₂_map_left_iff.1 boxed) fun _ _ h => h.drawnAs
  exact ⟨start, parent, s, t, plan.size, kids, lines, hgiven, typed, hs, hsize, ht, hids, hcreated, has, drawn⟩

theorem makes_createChildren_exact (desk : Desk) (given : Option ShapeId) (direction : String) {count : Int}
    (gap : Option (Measure Float)) (labels : List String) (edge : Option EdgeStyle) (hcount : 0 < asked count labels) :
    Makes (createChildren desk given direction count gap labels edge) sl
      (fun c after => ∃ start parent kids lines, given = some c.parent ∧ sl.Typed c.parent parent start ∧
        newChildIds parent (childrenBelow start.outline parent) (asked count labels) = .ok c.childIds ∧
        c.created = kids.map (·.id) ∧ start.HasChildren c.parent parent c.childIds kids lines after)
      fun _ => True := by
  refine (makes_createChildren_drawn desk given direction gap labels edge hcount).mono (fun c after h => ?_) fun _ h => h
  obtain ⟨start, parent, s, t, size, kids, lines, hgiven, typed, -, -, -, hids, hcreated, has, -⟩ := h
  exact ⟨start, parent, kids, lines, hgiven, typed, hids, hcreated, has⟩

end Command

end FlowDeck
