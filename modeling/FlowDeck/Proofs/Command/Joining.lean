import FlowDeck.Proofs.Command.Numbering
import FlowDeck.Proofs.Edit.Pairs

/-!
# What missing sites cost

A command joins nodes when all of them have been drawn and all descriptors are stored. Which shapes have
no sites shows in the connectors and in the list of what could not be joined, and nowhere else: at two
desks that differ in it, the same command leaves the same nodes.
-/

namespace FlowDeck

open Slide Edit

variable {sl start now after after' : Slide} {node : ShapeId} {parent d : Descriptor} {desk : Desk}
variable {c₀ c c' : Creation} {pairs : List (ShapeId × ShapeId)} {sides : Side × Side}

def Desk.without (desk : Desk) (absent : ShapeId → Bool) : Desk :=
  { desk with siteless := absent }

@[simp] theorem Shape.withMemo_isEdge (s : Shape) (text : String) : (s.withMemo text).isEdge = s.isEdge := by
  obtain ⟨described, -, form, -, -, eq⟩ := s.withMemo_eq text
  rw [eq]
  split
  · unfold Shape.withBody Shape.isEdge
    rw [← form]
    cases described.form <;> rfl
  · rw [Shape.isEdge, form]
    rfl

namespace Slide

theorem edges_append (sl more : Slide) : edges (sl ++ more) = sl.edges ++ more.edges := by
  rw [edges, List.filter_append, List.map_append]
  rfl

theorem edges_storing (sl : Slide) (node : ShapeId) (d : Descriptor) : (sl.storing node d).edges = sl.edges := by
  have marked (sl : Slide) : sl.edges = ((sl.map fun s => (s.id, s.isEdge)).filter (·.2)).map (·.1) := by
    rw [List.filter_map, List.map_map]
    rfl
  have same : (sl.storing node d).map (fun s => (s.id, s.isEdge)) = sl.map fun s => (s.id, s.isEdge) :=
    map_modify fun s => by simp
  rw [marked, same, ← marked]

theorem edges_of_nodes (h : ∀ s ∈ sl, s.isNode) : sl.edges = [] := by
  rw [edges, List.map_eq_nil_iff, List.filter_eq_nil_iff]
  intro s hs edge
  have := h s hs
  rw [Shape.isNode_of_isEdge edge] at this
  cases this

structure Undrawn (sl now : Slide) : Prop where
  edges : now.edges = sl.edges
  lacks : ∀ id, now.Lacks id → sl.Lacks id

theorem Undrawn.refl (sl : Slide) : sl.Undrawn sl :=
  ⟨rfl, fun _ h => h⟩

theorem Undrawn.storing (h : sl.Undrawn now) (node : ShapeId) (d : Descriptor) : sl.Undrawn (now.storing node d) where
  edges := (edges_storing now node d).trans h.edges
  lacks id hid := h.lacks id (lacks_storing.1 hid)

theorem Undrawn.append {kids : List Shape} (h : sl.Undrawn now) (hk : ∀ s ∈ kids, s.isNode) :
    sl.Undrawn (now ++ kids) where
  edges := by rw [edges_append, edges_of_nodes hk, List.append_nil, h.edges]
  lacks id hid := h.lacks id (lacks_append.1 hid).1

theorem Typed.undrawn (h : sl.Typed node parent start) : sl.Undrawn start := by
  rcases h.before with rfl | ⟨-, root, -, rfl⟩
  · exact .refl start
  · exact (Undrawn.refl sl).storing node root

/-- The command has joined those of the pairs that can be joined, each by a new connector and in their order.
It has drawn no other connectors, and kept the other pairs aside. -/
structure JoinsAll (before : Slide) (desk : Desk) (pairs : List (ShapeId × ShapeId)) (c : Creation) (after : Slide) :
    Prop where
  skipped : c.skipped = pairs.filter desk.parts
  joined : ∃ sides, List.Forall₂ (fun pair edge => ∃ s, after.shape? edge = some s ∧ after.Joins sides pair s)
    (pairs.filter fun pair => !desk.parts pair) c.edges
  nodup : c.edges.Nodup
  fresh : ∀ edge ∈ c.edges, before.Lacks edge
  edges : after.edges = before.edges ++ c.edges

theorem Joined.joinsAll (h : start.Joined desk sides c₀ pairs c after) (hs : sl.Undrawn start) :
    sl.JoinsAll desk pairs c after := by
  obtain ⟨lines, rfl, rfl, joined, fresh⟩ := h
  have found : List.Forall₂
      (fun pair s => Slide.shape? (start ++ lines) s.id = some s ∧ Joins (start ++ lines) sides pair s)
      (pairs.filter fun pair => !desk.parts pair) lines :=
    ((List.forall₂_and_left _ _).2 ⟨fun s hs => fresh.shape? hs, joined.flip⟩).flip
  refine ⟨rfl, ⟨sides, ?_⟩, fresh.nodup, ?_, ?_⟩
  · exact List.forall₂_map_right_iff.2 (found.imp fun pair s h => ⟨s, h⟩)
  · intro edge hedge
    obtain ⟨s, hs', rfl⟩ := List.mem_map.1 hedge
    exact hs.lacks _ (fresh.lacks s hs')
  · rw [edges_append, hs.edges]
    congr 1
    rw [edges, List.filter_eq_self.2 (isEdge_of_joins joined)]

/-- At both desks the command gives the same nodes and leaves the same nodes on the page, and joins these pairs
as far as it can. -/
structure JoinedAlike (before : Slide) (desk desk' : Desk) (pairs : List (ShapeId × ShapeId)) (c : Creation)
    (after : Slide) (c' : Creation) (after' : Slide) : Prop where
  parent : c'.parent = c.parent
  created : c'.created = c.created
  childIds : c'.childIds = c.childIds
  nodes : after'.filter (·.isNode) = after.filter (·.isNode)
  joins : before.JoinsAll desk pairs c after
  joins' : before.JoinsAll desk' pairs c' after'

theorem Joined.nodes (h : start.Joined desk sides c₀ pairs c after) :
    after.filter (·.isNode) = start.filter (·.isNode) := by
  obtain ⟨lines, rfl, -, joined, -⟩ := h
  exact filter_isNode_append (isEdge_of_joins joined) start

theorem Joined.alike {desk' : Desk} (h : start.Joined desk sides c₀ pairs c after)
    (h' : start.Joined desk' sides c₀ pairs c' after') (hs : sl.Undrawn start) :
    sl.JoinedAlike desk desk' pairs c after c' after' := by
  have joins := h.joinsAll hs
  have joins' := h'.joinsAll hs
  have nodes := h'.nodes.trans h.nodes.symm
  obtain ⟨lines, -, rfl, -⟩ := h
  obtain ⟨lines', -, rfl, -⟩ := h'
  exact ⟨rfl, rfl, rfl, nodes, joins, joins'⟩

end Slide

namespace Command

theorem drawChild_without (desk : Desk) (absent : ShapeId → Bool) : drawChild (desk.without absent) = drawChild desk :=
  rfl

def createdAlike (sl : Slide) (desk desk' : Desk) (c : Creation) (after : Slide) (c' : Creation)
    (after' : Slide) : Prop :=
  sl.JoinedAlike desk desk' (c.created.map fun child => (c.parent, child)) c after c' after'

/-- Both runs join the same pairs, each at its own desk. -/
theorem pairs_joined {m m' : Edit Creation} {desk' : Desk} {E E' : Slide → Prop}
    (h : Makes m now (now.Joined desk sides c₀ pairs) E) (h' : Makes m' now (now.Joined desk' sides c₀ pairs) E')
    (hs : sl.Undrawn now) : Pairs m m' now fun c after c' after' =>
      (c.parent = c₀.parent ∧ c.created = c₀.created) ∧ sl.JoinedAlike desk desk' pairs c after c' after' := by
  refine h.both h' fun c after c' after' h h' => ⟨?_, h.alike h' hs⟩
  obtain ⟨lines, -, rfl, -⟩ := h
  exact ⟨rfl, rfl⟩

theorem pairs_joinChildren (desk desk' : Desk) (text : String) (hs : sl.Undrawn now) (node : ShapeId)
    (created : List ShapeId) (ids : List String) (side side' : Side) (style : EdgeStyle) :
    Pairs (do
        let c ← created.foldlM (fun c child => joinChild desk c child side side' style)
          { parent := node, created, childIds := ids }
        note .info text
        return c)
      (do
        let c ← created.foldlM (fun c child => joinChild desk' c child side side' style)
          { parent := node, created, childIds := ids }
        note .info text
        return c) now (createdAlike sl desk desk') := by
  let c₀ : Creation := { parent := node, created, childIds := ids }
  have ended (desk : Desk) : Makes (do
        let c ← created.foldlM (fun c child => joinChild desk c child side side' style) c₀
        note .info text
        return c) now (now.Joined desk (side, side') c₀ (created.map fun child => (node, child))) fun _ => True :=
    (makes_joinChildren_joined desk c₀ created side side' style rfl rfl).bind fun c after h =>
      (reads_note _ _).followed trivial fun _ => makes_pure h
  refine (pairs_joined (ended desk) (ended desk') hs).mono fun c after c' after' ⟨⟨hparent, hcreated⟩, alike⟩ => ?_
  rw [createdAlike, hparent, hcreated]
  exact alike

theorem pairs_createChildren (desk : Desk) (absent : ShapeId → Bool) (given : Option ShapeId) (direction : String)
    (count : Int) (gap : Option (Measure Float)) (labels : List String) (edge : Option EdgeStyle) :
    Pairs (createChildren desk given direction count gap labels edge)
      (createChildren (desk.without absent) given direction count gap labels edge) sl
      (createdAlike sl desk (desk.without absent)) := by
  unfold createChildren
  simp only [drawChild_without]
  refine asks_requireNode.pairs fun node _ => (reads_requireSide direction).pairs fun direction => ?_
  refine .ite (fun _ => ?_) fun hcount => ?_
  · have joined (desk : Desk) := joined_nil sl desk (direction, direction) { parent := node } rfl rfl
    exact (reads_note _ _).pairs fun _ => pairs_pure ((joined desk).alike (joined _) (.refl sl))
  refine (reads_box node).pairs fun parentBox => .guard ?_
  refine (reads_ofNumber _).pairs fun gap => .guard ?_
  refine makes_typed_exact.pairs fun parent start typed => reads_outline.pairs fun outline => ?_
  refine (reads_boxes _).pairs fun boxes => asks_ofNumber.pairs fun corners hcorners => ?_
  refine asks_ofNumber.pairs fun ids hids => (reads_shape node).pairs fun s => ?_
  have hlen : corners.length = ids.length := by
    rw [length_childCorners hcorners, length_newChildIds hids]
  refine (makes_drawChildren desk s.kind parentBox labels parent hlen).pairs fun created now h => ?_
  obtain ⟨kids, rfl, rfl, -, kept, -⟩ := h
  have nodes : ∀ s ∈ kids, s.isNode := forall_of_forall₂ kept fun _ _ h => h.1
  refine (makes_store node _).pairs fun _ now h => ?_
  subst h
  -- So far no sites were asked for, and both runs are at the same slide. From here each is at its own desk.
  have undrawn := (typed.undrawn.append nodes).storing node (parent.attach (ids.map fun id => { id }))
  exact pairs_joinChildren desk _ _ undrawn node _ ids direction direction.opposite _

theorem pairs_createSibling (desk : Desk) (absent : ShapeId → Bool) (given : Option ShapeId)
    (gap : Option (Measure Float)) (edge : Option EdgeStyle) :
    Pairs (createSibling desk given gap edge) (createSibling (desk.without absent) given gap edge) sl
      (createdAlike sl desk (desk.without absent)) := by
  unfold createSibling
  simp only [drawChild_without]
  refine (reads_requireDescriptor given).pairs fun (node, d) => ?_
  refine .guard (reads_outline.pairs fun outline => ?_)
  split
  · exact pairs_refuse _
  next parentNode parent _ =>
  refine (reads_orFault _).pairs fun layout => (reads_boxes _).pairs fun boxes => ?_
  refine (reads_ofNumber _).pairs fun corners => (reads_ofNumber _).pairs fun id => ?_
  refine (reads_box node).pairs fun size => (reads_shape node).pairs fun s => ?_
  refine (makes_mapM_drawn (P := fun _ s => s.isNode) (E := fun _ => True) ?_).pairs fun created now h => ?_
  · intro corner _ now
    refine (makes_drawChild_kept desk s.kind _ _ _).mono (fun child after h => ?_) fun _ h => h
    obtain ⟨s, hnow, hs, hchild, hn, -⟩ := h
    exact ⟨s, hnow, hs, hchild, hn⟩
  obtain ⟨kids, rfl, rfl, -, kept⟩ := h
  have nodes : ∀ s ∈ kids, s.isNode := forall_of_forall₂ kept fun _ _ h => h
  refine (makes_store parentNode _).pairs fun _ now h => ?_
  subst h
  exact pairs_joinChildren desk _ _ (((Undrawn.refl sl).append nodes).storing parentNode _) parentNode _ [id] _ _ _

/-- The pair that is joined is the one that is given, in one order or the other. -/
def linkedAlike (sl : Slide) (desk desk' : Desk) (a b : Option ShapeId) (c : Creation) (after : Slide) (c' : Creation)
    (after' : Slide) : Prop :=
  ∃ child, (a = some c.parent ∧ b = some child ∨ a = some child ∧ b = some c.parent) ∧
    sl.JoinedAlike desk desk' [(c.parent, child)] c after c' after'

theorem pairs_unlessAncestor {α : Type} (parentNode childNode : ShapeId) (d : Option Descriptor)
    {rest rest' : Unit → Edit α} {R : α → Slide → α → Slide → Prop} (h : Pairs (rest ()) (rest' ()) sl R) :
    let checked (rest : Unit → Edit α) : Edit α :=
      match d with
      | some d => do
        if ((← outline).ancestors parentNode d).contains childNode then
          let done ← refuse .childIsAncestor
          rest done
        else rest ()
      | _ => rest ()
    Pairs (checked rest) (checked rest') sl R := by
  cases d with
  | none => exact h
  | some d => exact reads_outline.pairs fun _ => .guard h

theorem pairs_remark {α : Type} (child : Option Descriptor) (id : String) (text : Descriptor → String)
    {rest rest' : Unit → Edit α} {R : α → Slide → α → Slide → Prop} (h : Pairs (rest ()) (rest' ()) sl R) :
    let remarked (rest : Unit → Edit α) : Edit α :=
      match child with
      | some d =>
        if d.current ≠ id then do
          let done ← note .info (text d)
          rest done
        else rest ()
      | _ => rest ()
    Pairs (remarked rest) (remarked rest') sl R := by
  cases child with
  | none => exact h
  | some d => exact .ite (fun _ => (reads_note _ _).pairs fun _ => h) fun _ => h

theorem pairs_link (desk : Desk) (absent : ShapeId → Bool) (a b : Option ShapeId) (edge : Option EdgeStyle) :
    Pairs (link desk a b edge) (link (desk.without absent) a b edge) sl
      (linkedAlike sl desk (desk.without absent) a b) := by
  unfold link
  refine asks_requireTwo.pairs fun (x, y) htwo => ?_
  obtain ⟨⟨hx, -⟩, ⟨hy, -⟩, -⟩ := htwo
  refine (reads_descriptor? x).pairs fun first => (reads_descriptor? y).pairs fun second => ?_
  split
  next parentNode childNode chosen =>
  have given : a = some parentNode ∧ b = some childNode ∨ a = some childNode ∧ b = some parentNode := by
    split at chosen
    · obtain ⟨rfl, rfl⟩ := Prod.mk.inj chosen
      exact .inr ⟨hx, hy⟩
    · obtain ⟨rfl, rfl⟩ := Prod.mk.inj chosen
      exact .inl ⟨hx, hy⟩
  clear chosen hx hy
  refine (reads_descriptor? parentNode).pairs fun d => pairs_unlessAncestor _ _ d ?_
  refine makes_typed_exact.pairs fun parent start typed => reads_outline.pairs fun outline => ?_
  refine (reads_ofNumber _).pairs fun id => pairs_remark _ _ _ ?_
  refine (makes_store childNode _).pairs fun _ mid hmid => (makes_store parentNode _).pairs fun _ now hnow => ?_
  have undrawn : sl.Undrawn now := by
    rw [hnow, hmid]
    exact (typed.undrawn.storing childNode _).storing parentNode _
  refine (reads_layoutBelow _).pairs fun token => (reads_orFault _).pairs fun layout => ?_
  refine (reads_box _).pairs fun boxP => (reads_box _).pairs fun boxC => ?_
  let c₀ : Creation := { parent := parentNode, childIds := [id] }
  have ended (desk : Desk) (sides : Side × Side) (style : EdgeStyle) (text : String) : Makes (do
        let c ← joinChild desk c₀ childNode sides.1 sides.2 style
        note .info text
        return c) now (now.Joined desk sides c₀ [(parentNode, childNode)]) fun _ => True :=
    (makes_joinChild_joined desk childNode _ _ style (joined_nil now desk sides c₀ rfl rfl)).bind fun c after h =>
      (reads_note _ _).followed trivial fun _ => makes_pure h
  refine (pairs_joined (ended desk _ _ _) (ended _ _ _ _) undrawn).mono fun c after c' after' h => ?_
  obtain ⟨⟨hparent, -⟩, alike⟩ := h
  refine ⟨childNode, ?_, ?_⟩
  · rw [hparent]
    exact given
  · rw [hparent]
    exact alike

/-- Whichever shapes have no sites, the same nodes come of a command, and of the pairs to be joined exactly those
are kept aside of which an end has none. A sibling is one node, and makes one pair. -/
theorem missing_sites_cost_edges (desk : Desk) (absent : ShapeId → Bool) (page after after' : Page) (c c' : Creation) :
    (∀ given direction count gap labels edge,
      (createChildren desk given direction count gap labels edge).run.run page = (.ok c, after) →
      (createChildren (desk.without absent) given direction count gap labels edge).run.run page = (.ok c', after') →
        createdAlike page.slide desk (desk.without absent) c after.slide c' after'.slide) ∧
    (∀ given gap edge, (createSibling desk given gap edge).run.run page = (.ok c, after) →
      (createSibling (desk.without absent) given gap edge).run.run page = (.ok c', after') →
        (∃ sibling, c.created = [sibling]) ∧
        createdAlike page.slide desk (desk.without absent) c after.slide c' after'.slide) ∧
    ∀ a b edge, (link desk a b edge).run.run page = (.ok c, after) →
      (link (desk.without absent) a b edge).run.run page = (.ok c', after') →
        linkedAlike page.slide desk (desk.without absent) a b c after.slide c' after'.slide := by
  refine ⟨?_, ?_, ?_⟩
  · intro given direction count gap labels edge run run'
    exact (pairs_createChildren desk absent given direction count gap labels edge).ends rfl run run'
  · intro given gap edge run run'
    obtain ⟨_, _, _, _, s, -, -, -, sibling⟩ := ((makes_createSibling_drawn desk given gap edge).leads page rfl).ok run
    exact ⟨⟨s.id, sibling.created⟩, (pairs_createSibling desk absent given gap edge).ends rfl run run'⟩
  · intro a b edge run run'
    exact (pairs_link desk absent a b edge).ends rfl run run'

def twoRoots : Page where
  slide := [
    { id := 2, name := "Rectangle 1", descr := some "graph[](LR)[A1][B1]",
      form := .figure "RECTANGLE" ⟨0, 0, 952500, 952500⟩ none none {} },
    { id := 3, name := "Rectangle 2", descr := some "graph[A1](LR)[B1][]",
      form := .figure "RECTANGLE" ⟨1905000, 0, 952500, 952500⟩ none none {} },
    { id := 4, name := "Rectangle 3", descr := some "graph[](LR)[A2][]",
      form := .figure "RECTANGLE" ⟨0, 1905000, 952500, 952500⟩ none none {} }]

/-- A connector is drawn by each command, and none if the first root has no sites. -/
theorem missing_sites_of_root :
    (∃ c c' after after', (createChildren Desk.plain (some 2) "RIGHT" 1 none [] none).run.run twoRoots = (.ok c, after) ∧
      (createChildren (Desk.plain.without (· == 2)) (some 2) "RIGHT" 1 none [] none).run.run twoRoots =
        (.ok c', after') ∧ c.edges = [6] ∧ c'.skipped = [(2, 5)] ∧
      createdAlike twoRoots.slide Desk.plain (Desk.plain.without (· == 2)) c after.slide c' after'.slide) ∧
    (∃ c c' after after', (createSibling Desk.plain (some 3) none none).run.run twoRoots = (.ok c, after) ∧
      (createSibling (Desk.plain.without (· == 2)) (some 3) none none).run.run twoRoots = (.ok c', after') ∧
      c.edges = [6] ∧ c'.skipped = [(2, 5)] ∧
      createdAlike twoRoots.slide Desk.plain (Desk.plain.without (· == 2)) c after.slide c' after'.slide) ∧
    ∃ c c' after after', (link Desk.plain (some 2) (some 4) none).run.run twoRoots = (.ok c, after) ∧
      (link (Desk.plain.without (· == 2)) (some 2) (some 4) none).run.run twoRoots = (.ok c', after') ∧
      c.edges = [5] ∧ c'.skipped = [(2, 4)] ∧
      linkedAlike twoRoots.slide Desk.plain (Desk.plain.without (· == 2)) (some 2) (some 4) c after.slide c' after'.slide := by
  refine ⟨?_, ?_, ?_⟩
  · obtain ⟨run, run'⟩ : ((createChildren Desk.plain (some 2) "RIGHT" 1 none [] none).run.run twoRoots).1 =
          .ok ⟨2, [5], ["B2"], [6], []⟩ ∧
        ((createChildren (Desk.plain.without (· == 2)) (some 2) "RIGHT" 1 none [] none).run.run twoRoots).1 =
          .ok ⟨2, [5], ["B2"], [], [(2, 5)]⟩ := by
      decide +kernel
    exact ⟨_, _, _, _, run_eq run, run_eq run', rfl, rfl,
      (missing_sites_cost_edges Desk.plain (· == 2) twoRoots _ _ _ _).1 (some 2) "RIGHT" 1 none [] none
        (run_eq run) (run_eq run')⟩
  · obtain ⟨run, run'⟩ : ((createSibling Desk.plain (some 3) none none).run.run twoRoots).1 =
          .ok ⟨2, [5], ["B2"], [6], []⟩ ∧
        ((createSibling (Desk.plain.without (· == 2)) (some 3) none none).run.run twoRoots).1 =
          .ok ⟨2, [5], ["B2"], [], [(2, 5)]⟩ := by
      decide +kernel
    exact ⟨_, _, _, _, run_eq run, run_eq run', rfl, rfl,
      ((missing_sites_cost_edges Desk.plain (· == 2) twoRoots _ _ _ _).2.1 (some 3) none none
        (run_eq run) (run_eq run')).2⟩
  · obtain ⟨run, run'⟩ : ((link Desk.plain (some 2) (some 4) none).run.run twoRoots).1 =
          .ok ⟨2, [], ["B2"], [5], []⟩ ∧
        ((link (Desk.plain.without (· == 2)) (some 2) (some 4) none).run.run twoRoots).1 =
          .ok ⟨2, [], ["B2"], [], [(2, 4)]⟩ := by
      decide +kernel
    exact ⟨_, _, _, _, run_eq run, run_eq run', rfl, rfl,
      (missing_sites_cost_edges Desk.plain (· == 2) twoRoots _ _ _ _).2.2 (some 2) (some 4) none
        (run_eq run) (run_eq run')⟩

end Command

end FlowDeck
