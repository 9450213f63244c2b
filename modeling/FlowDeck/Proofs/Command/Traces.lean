import FlowDeck.Proofs.Command.Numbering
import FlowDeck.Proofs.Command.Refusal
import FlowDeck.Proofs.Command.Touching

/-!
# All or nothing

Commands write step by step, and a fault takes nothing back. So what a fault leaves depends on where it comes: up
to the first write the slide is as it was, and from then on it is not. A request is said to begin, if it gets to its
first write.
-/

namespace FlowDeck

open Slide Edit

variable {sl start now : Slide} {desk : Desk} {node child n id : ShapeId} {parent d : Descriptor}

/-! ## Children -/

/-- A request for so many children of the node is not refused, and the node becomes a root then, or there is a place
on the grid for the first child. -/
structure Slide.BeginsChildren (sl : Slide) (node : ShapeId) (side : Side) (gap : Measure Float) (count : Int) :
    Prop where
  here : sl.hasNode node
  asked : 0 < count
  room : ∃ size length, sl.HasBox node size ∧ hasSize size ∧ gap.toScalar = .ok length ∧ leavesRoom size side length
  writes : sl.Plants node ∨ ∃ parent plan ids b onGrid, sl.outline.lookup node = some parent ∧
    sl.Plans node parent side gap count.toNat plan ∧
    newChildIds parent (childrenBelow sl.outline parent) count = .ok ids ∧
    plan.boxes.head? = some b ∧ b.OnGrid onGrid

namespace Command

theorem confined_enterChildren (desk : Desk) {Written : ShapeId → Prop} (hw : Written node) (d : Descriptor)
    (text : String) (c : Creation) (children : List ShapeId) (side side' : Side) (style : EdgeStyle) :
    Confined (do
      store node d
      let creation ← children.foldlM (fun c child => joinChild desk c child side side' style) c
      note .info text
      return creation) sl Written fun _ => True :=
  (confined_store (.inr hw) d).bind fun _ _ => confined_joinChildren desk _ _ _ _ _ _

/-- A parent that shows a descriptor does so to the end. -/
theorem shows_enterChildren (desk : Desk) (hs : now.Shows node) {d e : Descriptor}
    (hd : Descriptor.read? d.render = some e) (text : String) (c : Creation) (children : List ShapeId)
    (side side' : Side) (style : EdgeStyle) :
    Makes (do
      store node d
      let creation ← children.foldlM (fun c child => joinChild desk c child side side' style) c
      note .info text
      return creation) now (fun _ after => after.Shows node) fun after => after.Shows node :=
  (makes_store_shows hs hd).bind fun _ _ hs =>
    (confined_joinChildren desk text c children side side' style).shows hs

theorem createChildren_tracesIff (desk : Desk) (given : Option ShapeId) (direction : String) (count : Int)
    (gap : Option (Measure Float)) (labels : List String) (edge : Option EdgeStyle) :
    TracesIff (createChildren desk given direction count gap labels edge) sl sl (∃ node side, given = some node ∧
      Side.ofName? (Text.upper direction) = some side ∧
      sl.BeginsChildren node side (gapOr gap desk.style.nodeGap) (asked count labels)) := by
  let Draws (side : Side) (size : Box Float) (parent : Descriptor) : Prop :=
    ∃ existing, List.Forall₂ sl.HasBox ((childrenBelow sl.outline parent).map (·.1)) existing ∧
      ∃ corners, childCorners size existing side (gapOr gap desk.style.nodeGap) (asked count labels).toNat = .ok corners ∧
        ∃ ids, newChildIds parent (childrenBelow sl.outline parent) (asked count labels) = .ok ids ∧
          ∃ b onGrid, (Plan.boxes ⟨size, existing, corners⟩).head? = some b ∧ b.OnGrid onGrid
  have told : TracesIff (createChildren desk given direction count gap labels edge) sl sl
      (∃ node, (given = some node ∧ sl.hasNode node) ∧ ∃ side, Side.ofName? (Text.upper direction) = some side ∧
        0 < asked count labels ∧ ∃ size, sl.HasBox node size ∧ ¬(!hasSize size) = true ∧
          ∃ length, (gapOr gap desk.style.nodeGap).toScalar = .ok length ∧ ¬(!leavesRoom size side length) = true ∧
            (sl.Plants node ∨ ∃ parent, sl.outline.lookup node = some parent ∧ Draws side size parent)) := by
    refine (answers_requireNode given).tracesIff (.refl sl) fun node ⟨_, hn⟩ => ?_
    refine (answers_requireSide direction).tracesIff (.refl sl) fun side _ => ?_
    refine TracesIff.ite (fun _ => Steady.tracesIff ?_) fun hcount => ?_
    · exact (steady_note _ _).bind fun _ => steady_pure _
    refine TracesIff.congr ?_ (and_iff_right (Int.not_le.1 hcount))
    refine (answers_box node).tracesIff (.refl sl) fun size hsize => .unless (.refl sl) fun _ => ?_
    refine (answers_ofNumber _).tracesIff (.refl sl) fun length _ => .unless (.refl sl) fun _ => ?_
    refine .typed hn (fun parent _ => ?_) fun parent start typed hidden => ?_
    · refine gives_outline.tracesIff ((answers_boxes _).tracesIff (.refl sl) fun existing hexisting => ?_)
      refine (answers_ofNumber _).tracesIff (.refl sl) fun corners hcorners => ?_
      refine (answers_ofNumber _).tracesIff (.refl sl) fun ids hids => ?_
      obtain ⟨s, hs, -⟩ := hsize
      refine ⟨(makes_shape_of hs).followed (fun _ h => h) fun t _ => TracesIff.makes ?_⟩
      -- As many corners and identifiers are there as are asked for, so there is a first child to draw.
      have positive : 0 < (asked count labels).toNat := Int.pos_iff_toNat_pos.1 (Int.not_le.1 hcount)
      obtain ⟨corner, corners, rfl⟩ := List.exists_cons_of_length_pos (length_childCorners hcorners ▸ positive)
      obtain ⟨id, ids, rfl⟩ := List.exists_cons_of_length_pos (length_newChildIds hids ▸ positive)
      have first : (∃ b onGrid, (Plan.boxes ⟨size, existing, corner :: corners⟩).head? = some b ∧ b.OnGrid onGrid) ↔
          ∃ onGrid, Box.OnGrid ⟨corner.x, corner.y, size.width, size.height⟩ onGrid := by
        simp [Plan.boxes]
      refine TracesIff.congr ?_ first
      rw [List.zip_cons_cons, List.zipIdx_cons]
      refine Adds.tracesIff_mapM ?_ (.refl sl) (fun _ _ => confined_drawChild ..) fun created mid => ?_
      · exact adds_drawChild desk t.kind _ _ _
      · exact confined_enterChildren desk trivial _ _ _ _ _ _ _
    · have shown := typed.shows
      refine traces_of_shows hidden (gives_outline.followed ?_)
      refine (reads_boxes _).followed shown fun existing => (reads_ofNumber _).followed shown fun corners => ?_
      refine asks_ofNumber.followed shown fun ids hids => (reads_shape _).followed shown fun t => ?_
      have fits : ∀ ref ∈ ids.map fun id => ({ id } : ChildRef),
          ']' ∉ ref.id.toList ∧ (ref.layout = "" ∨ ref.layout ∈ Layout.tokens) := by
        intro ref href
        obtain ⟨id, hid, rfl⟩ := List.mem_map.1 href
        exact ⟨(fits_of_newChildIds hids id hid).free ']' (by simp), .inl rfl⟩
      obtain ⟨_, read, -⟩ := Descriptor.read?_render_attach (wellFormed_of_mem typed.mem) fits
      refine Makes.bind ?_ fun created mid shown => shows_enterChildren desk shown read _ _ _ _ _ _
      exact (confined_mapM (fun _ => confined_drawChild ..) _).shows shown
  refine told.congr ⟨?_, ?_⟩
  · rintro ⟨node, side, given, hside, here, hcount, ⟨size, length, hsize, sized, hlength, room⟩, writes⟩
    refine ⟨node, ⟨given, here⟩, side, hside, hcount, size, hsize, by simpa using sized, length, hlength,
      by simpa using room, writes.imp_right ?_⟩
    rintro ⟨parent, ⟨size', existing, corners⟩, ids, b, onGrid, listed, ⟨hsize', hexisting, hcorners⟩, hids, first, hb⟩
    obtain rfl := (answers_box node).unique size size' hsize hsize'
    exact ⟨parent, listed, existing, hexisting, corners, hcorners, ids, hids, b, onGrid, first, hb⟩
  · rintro ⟨node, ⟨given, here⟩, side, hside, hcount, size, hsize, sized, length, hlength, room, writes⟩
    refine ⟨node, side, given, hside, here, hcount, ⟨size, length, hsize, by simpa using sized, hlength,
      by simpa using room⟩, writes.imp_right ?_⟩
    rintro ⟨parent, listed, existing, hexisting, corners, hcorners, ids, hids, b, onGrid, first, hb⟩
    exact ⟨parent, ⟨size, existing, corners⟩, ids, b, onGrid, listed, ⟨hsize, hexisting, hcorners⟩, hids, first, hb⟩

end Command

/-! ## Siblings -/

/-- A request for a sibling of the node is not refused, and there is a place on the grid for the sibling. -/
structure Slide.BeginsSibling (sl : Slide) (node : ShapeId) (gap : Measure Float) : Prop where
  here : sl.hasNode node
  writes : ∃ d parentNode parent layout plan id b onGrid, sl.descriptorOf? node = some d ∧ d.isRoot = false ∧
    sl.outline.parent? d = some (parentNode, parent) ∧
    Layout.read (some (siblingLayout sl.outline parent d)) = .ok layout ∧
    sl.PlansBeside node d parent layout.direction gap plan ∧
    newSiblingId parent d (siblingsOf sl.outline parent node d) = .ok id ∧
    plan.boxes.head? = some b ∧ b.OnGrid onGrid

namespace Command

theorem createSibling_tracesIff (desk : Desk) (given : Option ShapeId) (gap : Option (Measure Float))
    (edge : Option EdgeStyle) : TracesIff (createSibling desk given gap edge) sl sl
      (∃ node, given = some node ∧ sl.BeginsSibling node (gapOr gap desk.style.nodeGap)) := by
  let Draws (node : ShapeId) (d : Descriptor) (above : ShapeId × Descriptor) : Prop :=
    ∃ layout, Layout.read (some (siblingLayout sl.outline above.2 d)) = .ok layout ∧
      ∃ existing, List.Forall₂ sl.HasBox ((siblingsOf sl.outline above.2 node d).map (·.1)) existing ∧
        ∃ corners, furtherCorners existing layout.direction (gapOr gap desk.style.nodeGap) 1 = .ok corners ∧
          ∃ id, newSiblingId above.2 d (siblingsOf sl.outline above.2 node d) = .ok id ∧
            ∃ size, sl.HasBox node size ∧
              ∃ b onGrid, (Plan.boxes ⟨size, existing, corners⟩).head? = some b ∧ b.OnGrid onGrid
  have told : TracesIff (createSibling desk given gap edge) sl sl
      (∃ e : ShapeId × Descriptor, (given = some e.1 ∧ sl.hasNode e.1 ∧ sl.descriptorOf? e.1 = some e.2) ∧ ¬e.2.isRoot = true ∧
        ∃ above, sl.outline.parent? e.2 = some above ∧ Draws e.1 e.2 above) := by
    refine (answers_requireDescriptor given).tracesIff (.refl sl) fun e he => .unless (.refl sl) fun _ => ?_
    obtain ⟨node, d⟩ := e
    refine gives_outline.tracesIff ?_
    split
    · next orphan => exact (reads_refuse _).tracesIff (.refl sl) (by simp [orphan])
    next parentNode parent hparent =>
    have only : (∃ above, sl.outline.parent? d = some above ∧ Draws node d above) ↔ Draws node d (parentNode, parent) := by
      simp [hparent]
    refine TracesIff.congr ?_ only
    refine (answers_orFault _).tracesIff (.refl sl) fun layout _ => ?_
    refine (answers_boxes _).tracesIff (.refl sl) fun existing hexisting => ?_
    refine (answers_ofNumber _).tracesIff (.refl sl) fun corners hcorners => ?_
    refine (answers_ofNumber _).tracesIff (.refl sl) fun id _ => (answers_box node).tracesIff (.refl sl) fun size hsize => ?_
    obtain ⟨s, hs, -⟩ := hsize
    refine ⟨(makes_shape_of hs).followed (fun _ h => h) fun t _ => TracesIff.makes ?_⟩
    obtain ⟨corner, rfl⟩ := List.length_eq_one_iff.1 (length_furtherCorners hcorners fun none =>
      siblingsOf_ne_nil sl.outline parent node d (by simpa [none] using hexisting))
    have first : (∃ b onGrid, (Plan.boxes ⟨size, existing, [corner]⟩).head? = some b ∧ b.OnGrid onGrid) ↔
        ∃ onGrid, Box.OnGrid ⟨corner.x, corner.y, size.width, size.height⟩ onGrid := by
      simp [Plan.boxes]
    refine TracesIff.congr ?_ first
    refine Adds.tracesIff_mapM ?_ (.refl sl) (fun _ _ => confined_drawChild ..) fun created mid => ?_
    · exact adds_drawChild desk t.kind _ _ _
    · exact confined_enterChildren desk trivial _ _ _ _ _ _ _
  refine told.congr ⟨?_, ?_⟩
  · rintro ⟨node, given, here, d, parentNode, parent, layout, ⟨size, existing, corners⟩, id, b, onGrid, hd, inner,
      hparent, hlayout, ⟨hsize, hexisting, hcorners⟩, hid, first, hb⟩
    exact ⟨(node, d), ⟨given, here, hd⟩, by simp [inner], _, hparent, layout, hlayout, existing, hexisting, corners,
      hcorners, id, hid, size, hsize, b, onGrid, first, hb⟩
  · rintro ⟨⟨node, d⟩, ⟨given, here, hd⟩, inner, ⟨parentNode, parent⟩, hparent, layout, hlayout, existing, hexisting,
      corners, hcorners, id, hid, size, hsize, b, onGrid, first, hb⟩
    exact ⟨node, given, here, d, parentNode, parent, layout, ⟨size, existing, corners⟩, id, b, onGrid, hd,
      by simpa using inner, hparent, hlayout, ⟨hsize, hexisting, hcorners⟩, hid, first, hb⟩

end Command

/-! ## Links -/

namespace Slide

def Joinable (sl : Slide) (desk : Desk) (node child : ShapeId) (sides : Side × Side) : Prop :=
  desk.parts (node, child) = false ∧
    ∃ a b, sl.SiteAt node sides.1 a ∧ sl.SiteAt child sides.2 b ∧ a.OnGrid ∧ b.OnGrid

def JoinableBelow (sl : Slide) (desk : Desk) (node child : ShapeId) (parent : Descriptor) : Prop :=
  ∃ layout boxP boxC, Layout.read (some (sl.outline.layout parent)) = .ok layout ∧
    sl.HasBox node boxP ∧ sl.HasBox child boxC ∧ sl.Joinable desk node child
      (facingSides boxP.center boxC.center (if layout.isHorizontal then .horizontal else .vertical))

/-- What linking stores can be stored, and one of the two nodes keeps something else so far, or they can be joined. -/
def BeginsLinking (sl : Slide) (desk : Desk) (node child : ShapeId) (parent : Descriptor) (id : String) : Prop :=
  let linked := (linkedChild sl.outline parent child id).render
  let listing := (parent.attach [⟨id, ""⟩]).render
  Storable linked ∧ (sl.Rewords child linked ∨
    Storable listing ∧ (sl.Rewords node listing ∨ sl.JoinableBelow desk node child parent))

/-- A request to link the child below the node is not refused, and the node becomes a root then, or there is a number
for the child and something to write. -/
structure BeginsBelow (sl : Slide) (desk : Desk) (node child : ShapeId) : Prop where
  below : ∀ d, sl.descriptorOf? node = some d → child ∉ sl.outline.ancestors node d
  writes : sl.Plants node ∨ ∃ parent id, sl.outline.lookup node = some parent ∧
    linkedId parent (sl.outline.lookup child) (sl.outline.children parent) child = .ok id ∧
    sl.BeginsLinking desk node child parent id

structure BeginsLink (sl : Slide) (desk : Desk) (a b : ShapeId) : Prop where
  first : sl.hasNode a
  second : sl.hasNode b
  ne : a ≠ b
  writes : if secondIsParent (sl.descriptorOf? a) (sl.descriptorOf? b) then sl.BeginsBelow desk b a
    else sl.BeginsBelow desk a b

theorem SiteAt.unique {side : Side} {p q : Point Float} (h : sl.SiteAt id side p) (h' : sl.SiteAt id side q) : p = q := by
  obtain ⟨s, b, i, hs, hb, hi, within, rfl⟩ := h
  obtain ⟨t, c, j, ht, hc, hj, within', rfl⟩ := h'
  obtain rfl := Option.some.inj (hs.symm.trans ht)
  obtain rfl := Except.ok.inj (hb.symm.trans hc)
  obtain rfl := Option.some.inj (hi.symm.trans hj)
  rfl

/-- Storing a descriptor moves no site. -/
theorem siteAt_storing {side : Side} {p : Point Float} : (sl.storing n d).SiteAt id side p ↔ sl.SiteAt id side p := by
  by_cases same : id = n
  · subst same
    have found : (sl.storing id d).shape? id = (sl.shape? id).map fun s => s.withMemo d.render :=
      shape?_modify_self fun s => s.withMemo_id _
    constructor
    · intro ⟨t, b, i, ht, hb, hi⟩
      rw [found, Option.map_eq_some_iff] at ht
      obtain ⟨s, hs, rfl⟩ := ht
      have rewrites := s.rewrites_withMemo d.render
      rw [rewrites.box] at hb
      rw [rewrites.kind] at hi
      exact ⟨s, b, i, hs, hb, hi⟩
    · intro ⟨s, b, i, hs, hb, hi⟩
      have rewrites := s.rewrites_withMemo d.render
      refine ⟨_, b, i, shape?_storing hs d, by rwa [rewrites.box], ?_⟩
      rw [rewrites.kind]
      exact hi
  · rw [SiteAt, SiteAt, shape?_storing_other same]

theorem joinableBelow_storing (same : (sl.storing n d).outline = sl.outline) :
    (sl.storing n d).JoinableBelow desk node child parent ↔ sl.JoinableBelow desk node child parent := by
  have box {id : ShapeId} {b : Box Float} : (sl.storing n d).HasBox id b ↔ sl.HasBox id b := spans_storing
  simp only [JoinableBelow, Joinable, same, box, siteAt_storing]

end Slide

namespace Edit

theorem answers_siteOn {b : Box Float} (hb : sl.HasBox id b) (desk : Desk) (side : Side) :
    Answers (siteOn desk id side) sl fun site =>
      if desk.siteless id then site = none else ∃ point, site = some point ∧ sl.SiteAt id side point where
  makes := by
    have measured : Makes (sitesOf desk id) sl (fun _ _ => True) fun _ => False := by
      refine .ite (fun _ => makes_pure trivial) fun _ => ?_
      obtain ⟨s, hs, hbox⟩ := hb
      refine (makes_shape_of hs).followed (fun _ h => h) fun _ _ => ?_
      exact makes_box.followed (fun _ none => none.1 b ⟨s, hs, hbox⟩) fun _ _ => makes_pure trivial
    have found : Makes (siteOn desk id side) sl (fun _ _ => True) fun _ => False :=
      measured.bind fun _ _ _ => makes_pure trivial
    exact ((asks_siteOn desk side).makes.surely found).mono (fun _ _ h => h.symm) fun _ h => h
  unique := by
    intro site site' h h'
    split at h
    · next siteless =>
      rw [if_pos siteless] at h'
      exact h.trans h'.symm
    · next sited =>
      rw [if_neg sited] at h'
      obtain ⟨p, rfl, hp⟩ := h
      obtain ⟨q, rfl, hq⟩ := h'
      rw [hp.unique hq]

end Edit

namespace Command

theorem join_tracesIff {boxA boxB : Box Float} (desk : Desk) {a b : ShapeId} (hA : now.HasBox a boxA)
    (hB : now.HasBox b boxB) (hu : start.Untouched now) (side side' : Side) (style : EdgeStyle) :
    TracesIff (join desk a b side side' style) start now (now.Joinable desk a b (side, side')) := by
  have told : TracesIff (join desk a b side side' style) start now
      (∃ pointA, (if desk.siteless a then pointA = none else ∃ p, pointA = some p ∧ now.SiteAt a side p) ∧
        ∃ pointB, (if desk.siteless b then pointB = none else ∃ p, pointB = some p ∧ now.SiteAt b side' p) ∧
          ∃ p q, pointA = some p ∧ pointB = some q ∧ p.OnGrid ∧ q.OnGrid) := by
    refine (answers_siteOn hA desk side).tracesIff hu fun pointA _ => ?_
    refine (answers_siteOn hB desk side').tracesIff hu fun pointB _ => ?_
    have skipped : Steady (do
        note .warning <| s!"⚠️ Could not resolve suitable connection sites between shapes {a} and {b}"
        return (none : Option ShapeId)) := (steady_note _ _).bind fun _ => steady_pure _
    cases pointA with
    | none => exact skipped.tracesIff
    | some p =>
      cases pointB with
      | none => exact skipped.tracesIff
      | some q =>
        have only : (∃ p' q', some p = some p' ∧ some q = some q' ∧ p'.OnGrid ∧ q'.OnGrid) ↔ p.OnGrid ∧ q.OnGrid := by simp
        refine TracesIff.congr ((adds_drawEdge desk p q style).tracesIff hu fun edge mid => ?_) only
        exact (reads_note _ _).confines fun _ => confined_pure trivial
  refine told.congr ⟨?_, ?_⟩
  · intro ⟨sited, p, q, hp, hq, onGrid⟩
    obtain ⟨hasA, hasB⟩ : desk.siteless a = false ∧ desk.siteless b = false := by simpa [Desk.parts] using sited
    exact ⟨some p, by simpa [hasA] using hp, some q, by simpa [hasB] using hq, p, q, rfl, rfl, onGrid⟩
  · rintro ⟨_, hA, _, hB, p, q, rfl, rfl, onGrid⟩
    have sited {id : ShapeId} {side : Side} {p : Point Float}
        (h : if desk.siteless id then some p = none else ∃ q, some p = some q ∧ now.SiteAt id side q) :
        desk.siteless id = false ∧ now.SiteAt id side p := by
      cases hs : desk.siteless id with
      | true => simp [hs] at h
      | false => simpa [hs] using h
    refine ⟨?_, p, q, (sited hA).2, (sited hB).2, onGrid⟩
    rw [Desk.parts, (sited hA).1, (sited hB).1, Bool.false_or]

/-- Once all is stored, a fault leaves a trace where the nodes can be joined. -/
theorem joinBelow_tracesIff (desk : Desk) {id : String} {text : Descriptor} (hl : now.outline.lookup node = some text)
    (hu : start.Untouched now) (edge : Option EdgeStyle) :
    TracesIff (joinBelow desk node child parent id edge) start now (now.JoinableBelow desk node child text) := by
  have below : Gives (layoutBelow node) now (now.outline.layout text) := by
    refine gives_outline.bind ?_
    unfold layoutIn
    rw [hl]
    exact gives_pure
  have told : TracesIff (joinBelow desk node child parent id edge) start now
      (∃ layout, Layout.read (some (now.outline.layout text)) = .ok layout ∧ ∃ boxP, now.HasBox node boxP ∧
        ∃ boxC, now.HasBox child boxC ∧ now.Joinable desk node child
          (facingSides boxP.center boxC.center (if layout.isHorizontal then .horizontal else .vertical))) := by
    refine below.tracesIff ((answers_orFault _).tracesIff hu fun layout _ => ?_)
    refine (answers_box node).tracesIff hu fun boxP hP => (answers_box child).tracesIff hu fun boxC hC => ?_
    refine TracesIff.then_steady (TracesIff.then_steady (join_tracesIff desk hP hC hu _ _ _) fun edge => ?_) fun _ => ?_
    · cases edge with
      | some edge => exact steady_pure _
      | none => exact steady_pure _
    · exact (steady_note _ _).bind fun _ => steady_pure _
  refine told.congr ⟨?_, ?_⟩
  · rintro ⟨layout, boxP, boxC, hlayout, hP, hC, joinable⟩
    exact ⟨layout, hlayout, boxP, hP, boxC, hC, joinable⟩
  · rintro ⟨layout, hlayout, boxP, hP, boxC, hC, joinable⟩
    exact ⟨layout, boxP, boxC, hlayout, hP, hC, joinable⟩

theorem confined_joinBelow {Written : ShapeId → Prop} (desk : Desk) (id : String) (edge : Option EdgeStyle) :
    Confined (joinBelow desk node child parent id edge) sl Written fun _ => True := by
  refine (reads_layoutBelow _).confines fun token => (reads_orFault _).confines fun layout => ?_
  refine (reads_box _).confines fun boxP => (reads_box _).confines fun boxC => ?_
  refine (confined_joinChild desk _ child _ _ _).bind fun creation _ => ?_
  exact (reads_note _ _).confines fun _ => confined_pure trivial

/-- What linking writes, from a slide where the parent is typed. -/
theorem storeLink_tracesIff (desk : Desk) {id : String} (hl : sl.outline.lookup node = some parent) (hc : sl.hasNode child)
    (hne : child ≠ node) (edge : Option EdgeStyle) :
    TracesIff (do
      store child (linkedChild sl.outline parent child id)
      store node (parent.attach [⟨id, ""⟩])
      joinBelow desk node child parent id edge) sl sl (sl.BeginsLinking desk node child parent id) := by
  let linked := linkedChild sl.outline parent child id
  let listing := parent.attach [⟨id, ""⟩]
  obtain ⟨s, hs⟩ := exists_shape? (exists_of_hasNode hc)
  obtain ⟨t, ht⟩ := exists_shape? (exists_of_mem_outline (Outline.mem_of_lookup hl))
  have begins : sl.BeginsLinking desk node child parent id ↔ Storable linked.render ∧ (s.memo ≠ linked.render ∨
      Storable listing.render ∧ (t.memo ≠ listing.render ∨ sl.JoinableBelow desk node child parent)) := by
    rw [← rewords_iff hs, ← rewords_iff ht]
    rfl
  have there : (sl.storing child linked).shape? node = some t := (shape?_storing_other hne.symm linked).trans ht
  refine TracesIff.congr (.store hs (.refl sl) (fun _ same => ?_) fun _ other => ?_) begins
  · have untouched := (untouched_storing_iff hs).2 same
    have outline : (sl.storing child linked).outline = sl.outline := outline_storing hs same
    refine .store there untouched (fun _ same => ?_) fun _ other => ?_
    · have outline' : ((sl.storing child linked).storing node listing).outline = (sl.storing child linked).outline :=
        outline_storing there same
      have listed : ((sl.storing child linked).storing node listing).outline.lookup node = some parent := by
        rw [outline', outline, hl]
      have untouched := untouched.trans ((untouched_storing_iff there).2 same)
      refine (joinBelow_tracesIff desk listed untouched edge).congr ?_
      rw [joinableBelow_storing outline', joinableBelow_storing outline]
    · have rest : Confined (joinBelow desk node child parent id edge) ((sl.storing child linked).storing node listing)
          (fun _ => False) fun _ => True := confined_joinBelow desk id edge
      refine rest.traces_of_memo not_false ht (shape?_storing there listing) ?_
      rw [Shape.memo_withMemo]
      exact other.symm
  · have rest : Confined (do
        store node listing
        joinBelow desk node child parent id edge) (sl.storing child linked) (node = ·) fun _ => True :=
      (confined_store (.inr rfl) listing).bind fun _ _ => confined_joinBelow desk id edge
    refine rest.traces_of_memo hne.symm hs (shape?_storing hs linked) ?_
    rw [Shape.memo_withMemo]
    exact other.symm

theorem tracesIff_unlessAncestor {α : Type} (d : Option Descriptor) {rest : Unit → Edit α} {C : Prop}
    (hu : start.Untouched sl) (h : TracesIff (rest ()) start sl C) :
    TracesIff (match d with
      | some d => do
        if ((← outline).ancestors node d).contains child then
          let done ← refuse .childIsAncestor
          rest done
        else rest ()
      | _ => rest ()) start sl ((∀ e, d = some e → child ∉ sl.outline.ancestors node e) ∧ C) := by
  cases d with
  | none => exact h.congr (and_iff_right nofun)
  | some d =>
    refine gives_outline.tracesIff ((TracesIff.unless hu fun _ => h).congr ?_)
    simp

/-- A node that has become a root for the child shows it to the end. -/
theorem traces_linkPlanted (desk : Desk) (typed : sl.Typed node parent start) (hidden : ¬sl.Shows node)
    (hne : child ≠ node) (edge : Option EdgeStyle) {id : String}
    (hid : linkedId parent (start.outline.lookup child) (start.outline.children parent) child = .ok id) :
    Traces (do
      store child (linkedChild start.outline parent child id)
      store node (parent.attach [⟨id, ""⟩])
      joinBelow desk node child parent id edge) sl start := by
  have fits : ∀ ref ∈ [(⟨id, ""⟩ : ChildRef)], ']' ∉ ref.id.toList ∧ (ref.layout = "" ∨ ref.layout ∈ Layout.tokens) := by
    intro ref href
    obtain rfl := List.mem_singleton.1 href
    refine ⟨(fits_of_linkedId (fun d hd => ?_) hid).free ']' (by simp), .inl rfl⟩
    exact wellFormed_of_mem (Outline.mem_of_lookup hd)
  obtain ⟨_, read, -⟩ := Descriptor.read?_render_attach (wellFormed_of_mem typed.mem) fits
  have shown := typed.shows
  refine traces_of_shows hidden (((makes_store child _).mono (fun _ mid he => ?_) fun _ he => he ▸ shown).bind
    fun _ mid shown => (makes_store_shows shown read).bind fun _ _ shown => (confined_joinBelow desk id edge).shows shown)
  obtain ⟨d, hd⟩ := shown
  exact ⟨d, he ▸ (descriptorOf?_storing_other hne.symm _).trans hd⟩

theorem linkBelow_tracesIff (desk : Desk) (hn : sl.hasNode node) (hc : sl.hasNode child) (hne : child ≠ node)
    (edge : Option EdgeStyle) :
    TracesIff (linkBelow desk node child edge) sl sl (sl.BeginsBelow desk node child) := by
  have told : TracesIff (linkBelow desk node child edge) sl sl
      ((∀ d, sl.descriptorOf? node = some d → child ∉ sl.outline.ancestors node d) ∧
        (sl.Plants node ∨ ∃ parent, sl.outline.lookup node = some parent ∧
          ∃ id, linkedId parent (sl.outline.lookup child) (sl.outline.children parent) child = .ok id ∧
            sl.BeginsLinking desk node child parent id)) := by
    refine (gives_descriptorOf? (exists_of_hasNode hn)).tracesIff (tracesIff_unlessAncestor _ (.refl sl) ?_)
    refine .typed hn (fun parent listed => ?_) fun parent start typed hidden => ?_
    · refine gives_outline.tracesIff ((answers_ofNumber _).tracesIff (.refl sl) fun id hid => ⟨makes_remark _ _ _ ?_⟩)
      exact (storeLink_tracesIff desk listed hc hne edge).makes
    · refine ⟨gives_outline.followed (makes_ofNumber.followed (fun _ h => ?_) fun id hid => makes_remark _ _ _ ?_)⟩
      · rw [h.2]
        exact fun hu => hidden (hu.shows_iff.1 typed.shows)
      · exact (traces_linkPlanted desk typed hidden hne edge hid).makes
  refine told.congr ⟨fun ⟨below, writes⟩ => ⟨below, writes.imp_right ?_⟩, fun ⟨below, writes⟩ => ⟨below, writes.imp_right ?_⟩⟩
  · rintro ⟨parent, id, listed, hid, begins⟩
    exact ⟨parent, listed, id, hid, begins⟩
  · rintro ⟨parent, listed, id, hid, begins⟩
    exact ⟨parent, id, listed, hid, begins⟩

theorem link_tracesIff (desk : Desk) (a b : Option ShapeId) (edge : Option EdgeStyle) : TracesIff (link desk a b edge) sl sl
    (∃ x y, a = some x ∧ b = some y ∧ sl.BeginsLink desk x y) := by
  have told : TracesIff (link desk a b edge) sl sl (∃ nodes : ShapeId × ShapeId,
      ((a = some nodes.1 ∧ sl.hasNode nodes.1) ∧ (b = some nodes.2 ∧ sl.hasNode nodes.2) ∧ nodes.1 ≠ nodes.2) ∧
        if secondIsParent (sl.descriptorOf? nodes.1) (sl.descriptorOf? nodes.2) then sl.BeginsBelow desk nodes.2 nodes.1
        else sl.BeginsBelow desk nodes.1 nodes.2) := by
    rw [link_eq]
    refine (answers_requireTwo a b).tracesIff (.refl sl) fun (x, y) ⟨⟨_, hx⟩, ⟨_, hy⟩, hne⟩ => ?_
    refine (gives_descriptorOf? (exists_of_hasNode hx)).tracesIff ?_
    refine (gives_descriptorOf? (exists_of_hasNode hy)).tracesIff ?_
    dsimp only
    split
    · exact linkBelow_tracesIff desk hy hx hne edge
    · exact linkBelow_tracesIff desk hx hy hne.symm edge
  refine told.congr ⟨?_, ?_⟩
  · rintro ⟨x, y, ha, hb, hx, hy, hne, writes⟩
    exact ⟨(x, y), ⟨⟨ha, hx⟩, ⟨hb, hy⟩, hne⟩, writes⟩
  · rintro ⟨⟨x, y⟩, ⟨⟨ha, hx⟩, ⟨hb, hy⟩, hne⟩, writes⟩
    exact ⟨x, y, ha, hb, hx, hy, hne, writes⟩

/-! ## Faults -/

/-- A fault of a request that has begun leaves a trace, whatever it is, and any other leaves none: there are the same
shapes then, and each keeps the text that it kept. -/
theorem fault_untouched_iff (desk : Desk) (page after : Page) (edge : Option EdgeStyle) (fault : Fault) :
    (∀ node direction count gap labels,
      (createChildren desk node direction count gap labels edge).run.run page = (.error fault, after) →
        (page.slide.Untouched after.slide ↔ ¬∃ n side, node = some n ∧ Side.ofName? (Text.upper direction) = some side ∧
          page.slide.BeginsChildren n side (gapOr gap desk.style.nodeGap) (asked count labels))) ∧
    (∀ node gap, (createSibling desk node gap edge).run.run page = (.error fault, after) →
      (page.slide.Untouched after.slide ↔
        ¬∃ n, node = some n ∧ page.slide.BeginsSibling n (gapOr gap desk.style.nodeGap))) ∧
    ∀ a b, (link desk a b edge).run.run page = (.error fault, after) →
      (page.slide.Untouched after.slide ↔ ¬∃ x y, a = some x ∧ b = some y ∧ page.slide.BeginsLink desk x y) := by
  refine ⟨fun node direction count gap labels run => ?_, fun node gap run => ?_, fun a b run => ?_⟩
  · exact ((createChildren_tracesIff desk node direction count gap labels edge).makes.leads page rfl).error run
  · exact ((createSibling_tracesIff desk node gap edge).makes.leads page rfl).error run
  · exact ((link_tracesIff desk a b edge).makes.leads page rfl).error run

/-- A root and its child, a node without a descriptor, and one from an older deck, with a line break in its
identifier. -/
def mixedPage : Page where
  slide := [
    { id := 2, name := "Rectangle 1", descr := some "graph[](LR)[A1][B1]",
      form := .figure "RECTANGLE" ⟨0, 0, 952500, 952500⟩ none none {} },
    { id := 3, name := "Rectangle 2", descr := some "graph[A1](LR)[B1][]",
      form := .figure "RECTANGLE" ⟨1905000, 0, 952500, 952500⟩ none none {} },
    { id := 4, name := "Rectangle 3", form := .figure "RECTANGLE" ⟨0, 1905000, 952500, 952500⟩ none none {} },
    { id := 5, name := "Rectangle 4",
      form := .figure "RECTANGLE" ⟨0, 3810000, 952500, 952500⟩ none none { text := "graph[](LR)[A\x0b2][]" } }]

def Desk.pale : Desk :=
  { Desk.plain with paint := some { Desk.plain.style with nodeFill := some "#-1-1-1" } }

def farGap : Measure Float :=
  .exact 1e308

/-- Each command leaves a trace or none: a gap off the grid before and after a node has become a root, and before a
sibling is drawn, a colour that is found out after that, an identifier that cannot be stored, and a line end that
cannot be marked up. -/
theorem fault_untouched_iff_mixedPage :
    (∃ after, (createChildren Desk.plain (some 3) "RIGHT" 1 (some farGap) [] none).run.run mixedPage =
        (.error (.number .infinite), after) ∧ mixedPage.slide.Untouched after.slide ∧
      ¬mixedPage.slide.BeginsChildren 3 .right farGap 1) ∧
    (∃ after, (createChildren Desk.plain (some 4) "RIGHT" 1 (some farGap) [] none).run.run mixedPage =
        (.error (.number .infinite), after) ∧
      ¬mixedPage.slide.Untouched after.slide ∧ mixedPage.slide.BeginsChildren 4 .right farGap 1) ∧
    (∃ after, (createSibling Desk.plain (some 3) (some farGap) none).run.run mixedPage =
        (.error (.number .infinite), after) ∧
      mixedPage.slide.Untouched after.slide ∧ ¬mixedPage.slide.BeginsSibling 3 farGap) ∧
    (∃ after, (createSibling Desk.pale (some 3) none none).run.run mixedPage =
        (.error .notDrawable, after) ∧
      ¬mixedPage.slide.Untouched after.slide ∧ mixedPage.slide.BeginsSibling 3 (.whole Desk.pale.style.nodeGap)) ∧
    (∃ after, (link Desk.plain (some 5) (some 4) none).run.run mixedPage =
        (.error .notStorable, after) ∧
      mixedPage.slide.Untouched after.slide ∧ ¬mixedPage.slide.BeginsLink Desk.plain 5 4) ∧
    ∃ after, (link Desk.plain (some 2) (some 3) (some { startArrow := some "a\"b" })).run.run mixedPage =
        (.error (.notMarkup "a\"b"), after) ∧
      ¬mixedPage.slide.Untouched after.slide ∧ mixedPage.slide.BeginsLink Desk.plain 2 3 := by
  have right : Side.ofName? (Text.upper "RIGHT") = some .right := by decide +kernel
  refine ⟨?_, ?_, ?_, ?_, ?_, ?_⟩
  · obtain ⟨run, same⟩ : ((createChildren Desk.plain (some 3) "RIGHT" 1 (some farGap) [] none).run.run mixedPage).1 =
        .error (.number .infinite) ∧
          mixedPage.slide.Untouched ((createChildren Desk.plain (some 3) "RIGHT" 1 (some farGap) [] none).run.run mixedPage).2.slide := by
      decide +kernel
    have told := (fault_untouched_iff Desk.plain mixedPage _ none _).1 (some 3) "RIGHT" 1 (some farGap) [] (run_eq run)
    exact ⟨_, run_eq run, same, fun begins => told.1 same ⟨3, .right, rfl, right, begins⟩⟩
  · obtain ⟨run, other⟩ : ((createChildren Desk.plain (some 4) "RIGHT" 1 (some farGap) [] none).run.run mixedPage).1 =
        .error (.number .infinite) ∧
          ¬mixedPage.slide.Untouched ((createChildren Desk.plain (some 4) "RIGHT" 1 (some farGap) [] none).run.run mixedPage).2.slide := by
      decide +kernel
    have told := (fault_untouched_iff Desk.plain mixedPage _ none _).1 (some 4) "RIGHT" 1 (some farGap) [] (run_eq run)
    obtain ⟨n, side, hn, hside, begins⟩ := not_not.1 ((not_congr told).1 other)
    obtain rfl := Option.some.inj hn
    obtain rfl := Option.some.inj (right.symm.trans hside)
    exact ⟨_, run_eq run, other, begins⟩
  · obtain ⟨run, same⟩ : ((createSibling Desk.plain (some 3) (some farGap) none).run.run mixedPage).1 =
        .error (.number .infinite) ∧
          mixedPage.slide.Untouched ((createSibling Desk.plain (some 3) (some farGap) none).run.run mixedPage).2.slide := by
      decide +kernel
    have told := (fault_untouched_iff Desk.plain mixedPage _ none _).2.1 (some 3) (some farGap) (run_eq run)
    exact ⟨_, run_eq run, same, fun begins => told.1 same ⟨3, rfl, begins⟩⟩
  · obtain ⟨run, other⟩ : ((createSibling Desk.pale (some 3) none none).run.run mixedPage).1 =
        .error .notDrawable ∧
          ¬mixedPage.slide.Untouched ((createSibling Desk.pale (some 3) none none).run.run mixedPage).2.slide := by
      decide +kernel
    have told := (fault_untouched_iff Desk.pale mixedPage _ none _).2.1 (some 3) none (run_eq run)
    obtain ⟨n, hn, begins⟩ := not_not.1 ((not_congr told).1 other)
    obtain rfl := Option.some.inj hn
    exact ⟨_, run_eq run, other, begins⟩
  · obtain ⟨run, same⟩ : ((link Desk.plain (some 5) (some 4) none).run.run mixedPage).1 =
        .error .notStorable ∧
          mixedPage.slide.Untouched ((link Desk.plain (some 5) (some 4) none).run.run mixedPage).2.slide := by
      decide +kernel
    have told := (fault_untouched_iff Desk.plain mixedPage _ none _).2.2 (some 5) (some 4) (run_eq run)
    exact ⟨_, run_eq run, same, fun begins => told.1 same ⟨5, 4, rfl, rfl, begins⟩⟩
  · obtain ⟨run, other⟩ : ((link Desk.plain (some 2) (some 3) (some { startArrow := some "a\"b" })).run.run mixedPage).1 =
        .error (.notMarkup "a\"b") ∧
          ¬mixedPage.slide.Untouched ((link Desk.plain (some 2) (some 3) (some { startArrow := some "a\"b" })).run.run mixedPage).2.slide := by
      decide +kernel
    have told := (fault_untouched_iff Desk.plain mixedPage _ (some { startArrow := some "a\"b" }) _).2.2 (some 2) (some 3)
      (run_eq run)
    obtain ⟨x, y, hx, hy, begins⟩ := not_not.1 ((not_congr told).1 other)
    obtain rfl := Option.some.inj hx
    obtain rfl := Option.some.inj hy
    exact ⟨_, run_eq run, other, begins⟩

end Command

end FlowDeck
