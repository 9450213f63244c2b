import FlowDeck.Proofs.Command.Creating

/-!
# Linking two nodes

A request to link two nodes tells the parent from the child first, and does the rest for the two. What it
leaves is said here once, for any page: the parent is typed, the child stores what it is below the parent, the
parent stores that it lists the child, and a connector may come in front.
-/

namespace FlowDeck

open Slide Edit Command

variable {sl start after : Slide} {node child : ShapeId} {parent : Descriptor} {id : String} {made : Creation}

def linkedChild (outline : Outline) (parent : Descriptor) (child : ShapeId) (id : String) : Descriptor :=
  ⟨id, parent.chainBelow, parent.layout, ((outline.lookup child).map (·.children)).getD []⟩

namespace Command

/-- The two nodes are joined on the sides that face each other in the layout of the parent. -/
def joinBelow (desk : Desk) (node child : ShapeId) (parent : Descriptor) (id : String) (edge : Option EdgeStyle) :
    Edit Creation := do
  let layout ← orFault (Layout.read (some (← layoutBelow node)))
  let orientation := if layout.isHorizontal then .horizontal else .vertical
  let (sideOfParent, sideOfChild) := facingSides (← box node).center (← box child).center orientation
  let creation ← joinChild desk { parent := node, childIds := [id] } child sideOfParent sideOfChild
    (edge.getD desk.style.edge)
  note .info s!"✅ Linked {id} under {parent.current}"
  return creation

/-- Linking, once the parent and the child are told apart. -/
def linkBelow (desk : Desk) (node child : ShapeId) (edge : Option EdgeStyle) : Edit Creation := do
  if let some d ← descriptor? node then
    if ((← outline).ancestors node d).contains child then refuse .childIsAncestor
  let parent ← typed node
  let outline ← outline
  let id ← ofNumber (linkedId parent (outline.lookup child) (outline.children parent) child)
  if let some d := outline.lookup child then
    if d.current ≠ id then
      note .info s!"🔁 Renumbered {d.current} to {id} under {parent.current}"
  store child (linkedChild outline parent child id)
  store node (parent.attach [⟨id, ""⟩])
  joinBelow desk node child parent id edge

theorem link_eq (desk : Desk) (a b : Option ShapeId) (edge : Option EdgeStyle) : link desk a b edge = (do
    let (a, b) ← requireTwo a b
    let (node, child) := if secondIsParent (← descriptor? a) (← descriptor? b) then (b, a) else (a, b)
    linkBelow desk node child edge) :=
  rfl

end Command

namespace Slide

def linking (start : Slide) (node : ShapeId) (parent : Descriptor) (child : ShapeId) (id : String) : Slide :=
  (start.storing child (linkedChild start.outline parent child id)).storing node (parent.attach [⟨id, ""⟩])

structure LinksBelow (sl : Slide) (desk : Desk) (edge : Option EdgeStyle) (node child : ShapeId) (start : Slide)
    (parent : Descriptor) (id : String) (made : Creation) (after : Slide) : Prop where
  typed : sl.Typed node parent start
  numbered : linkedId parent (start.outline.lookup child) (start.outline.children parent) child = .ok id
  storable : ∀ d ∈ [linkedChild start.outline parent child id, parent.attach [⟨id, ""⟩]],
    d.render.toList.all Text.isStorable = true
  ends : ∃ page last : Page, page.slide = start.linking node parent child id ∧
    (joinBelow desk node child parent id edge).run.run page = (.ok made, last) ∧ last.slide = after
  joined : ∃ sides, (start.linking node parent child id).Joined desk sides { parent := node, childIds := [id] }
    [(node, child)] made after

end Slide

namespace Edit

variable {α : Type} {m : Edit α}

theorem makes_itself : Makes m sl (fun a after => ∃ page last : Page, page.slide = sl ∧
    m.run.run page = (.ok a, last) ∧ last.slide = after) fun _ => True where
  leads page hp := by
    unfold Leads
    rcases hm : m.run.run page with ⟨fault | a, last⟩
    · trivial
    · exact ⟨page, last, hp, hm, rfl⟩

theorem asks_requireStorable (text : String) :
    Asks (requireStorable text) sl fun _ => text.toList.all Text.isStorable = true := by
  unfold requireStorable
  split
  · next h => exact asks_pure h
  · exact ⟨makes_throw rfl⟩

theorem makes_store_storable (d : Descriptor) : Makes (store child d) sl
    (fun _ after => after = sl.storing child d ∧ d.render.toList.all Text.isStorable = true) fun _ => True := by
  have checked : Makes (store child d) sl (fun _ _ => d.render.toList.all Text.isStorable = true) fun _ => True := by
    have kept : Makes (setMemo child d.render) sl (fun _ _ => d.render.toList.all Text.isStorable = true)
        fun _ => True :=
      (reads_shape child).followed trivial fun s => (asks_requireStorable _).followed trivial fun _ h => makes_any h
    exact kept.bind fun _ _ h => makes_any h
  exact (((makes_store child d).mono (fun _ _ h => h) fun _ _ => trivial).and checked).mono (fun _ _ h => h)
    fun _ _ => trivial

theorem makes_joinBelow (desk : Desk) (edge : Option EdgeStyle) : Makes (joinBelow desk node child parent id edge) sl
    (fun made after => ∃ sides, sl.Joined desk sides { parent := node, childIds := [id] } [(node, child)] made after)
    fun _ => True := by
  refine (reads_layoutBelow node).followed trivial fun token => (reads_orFault _).followed trivial fun layout => ?_
  refine (reads_box node).followed trivial fun boxP => (reads_box child).followed trivial fun boxC => ?_
  have none := sl.joined_nil desk (facingSides boxP.center boxC.center
    (if layout.isHorizontal then .horizontal else .vertical)) { parent := node, childIds := [id] } rfl rfl
  refine (makes_joinChild_joined desk child _ _ (edge.getD desk.style.edge) none).bind fun made after h => ?_
  exact (reads_note _ _).followed trivial fun _ => makes_pure ⟨_, h⟩

end Edit

namespace Command

theorem makes_linkBelow_exact (desk : Desk) (edge : Option EdgeStyle) : Makes (linkBelow desk node child edge) sl
    (fun made after => ∃ start parent id, sl.LinksBelow desk edge node child start parent id made after)
    fun _ => True := by
  refine (reads_descriptor? node).followed trivial fun d => makes_unlessAncestor node child d trivial ?_
  refine makes_typed_exact.bind fun parent start typed => asks_outline.followed trivial fun outline ho => ?_
  subst ho
  refine asks_ofNumber.followed trivial fun id numbered => makes_remark _ _ _ ?_
  refine (makes_store_storable _).bind fun _ mid ⟨hmid, storable⟩ => ?_
  subst hmid
  refine (makes_store_storable _).bind fun _ mid ⟨hmid, storable'⟩ => ?_
  subst hmid
  refine (makes_itself.and (makes_joinBelow desk edge)).mono (fun made after ⟨ends, joined⟩ => ?_) fun _ _ => trivial
  refine ⟨start, parent, id, typed, numbered, ?_, ends, joined⟩
  exact List.forall_mem_cons.2 ⟨storable, List.forall_mem_singleton.2 storable'⟩

theorem makes_link_exact (desk : Desk) (a b : Option ShapeId) (edge : Option EdgeStyle) : Makes (link desk a b edge) sl
    (fun made after => ∃ node child start parent id,
      (a = some node ∧ b = some child ∨ a = some child ∧ b = some node) ∧ sl.hasNode node ∧ sl.hasNode child ∧
      child ≠ node ∧ sl.LinksBelow desk edge node child start parent id made after) fun _ => True := by
  rw [link_eq]
  refine asks_requireTwo.followed trivial fun pair two => ?_
  obtain ⟨x, y⟩ := pair
  obtain ⟨⟨ha, hx⟩, ⟨hb, hy⟩, hne⟩ := two
  refine (reads_descriptor? x).followed trivial fun first => (reads_descriptor? y).followed trivial fun second => ?_
  split
  next node child chosen =>
  refine (makes_linkBelow_exact desk edge).mono (fun made after h => ?_) fun _ h => h
  obtain ⟨start, parent, id, h⟩ := h
  split at chosen
  · cases chosen
    exact ⟨_, _, start, parent, id, .inr ⟨ha, hb⟩, hy, hx, hne, h⟩
  · cases chosen
    exact ⟨_, _, start, parent, id, .inl ⟨ha, hb⟩, hx, hy, hne.symm, h⟩

end Command

/-! ## What the nodes keep -/

namespace Slide

variable {desk : Desk} {edge : Option EdgeStyle} {n other : ShapeId} {d : Descriptor}

structure LinkedAs (sl : Slide) (node child : ShapeId) (parent linked : Descriptor) (after : Slide) : Prop where
  nodes : after.nodes = sl.nodes
  below : after.descriptorOf? child = Descriptor.read? linked.render
  above : after.descriptorOf? node = Descriptor.read? (parent.attach [⟨linked.current, ""⟩]).render
  elsewhere : ∀ n ∈ sl.nodes, n ≠ node → n ≠ child → after.descriptorOf? n = sl.descriptorOf? n

theorem Typed.elsewhere (h : sl.Typed node parent start) (hn : n ≠ node) :
    start.descriptorOf? n = sl.descriptorOf? n := by
  rcases h.before with rfl | ⟨-, root, -, rfl⟩
  · rfl
  · exact descriptorOf?_storing_other hn root

theorem LinksBelow.parent_eq (h : sl.LinksBelow desk edge node child start parent id made after) :
    made.parent = node ∧ made.childIds = [id] := by
  obtain ⟨sides, lines, -, rfl, -⟩ := h.joined
  exact ⟨rfl, rfl⟩

theorem exists_storing (h : ∃ s ∈ sl, s.id = n) (other : ShapeId) (d : Descriptor) :
    ∃ s ∈ sl.storing other d, s.id = n := by
  have listed : n ∈ (sl.storing other d).map (·.id) := by
    rw [ids_storing]
    exact List.mem_map.2 h
  exact List.mem_map.1 listed

theorem exists_linking (h : ∃ s ∈ start, s.id = n) : ∃ s ∈ start.linking node parent child id, s.id = n :=
  exists_storing (exists_storing h _ _) _ _

theorem nodes_linking : (start.linking node parent child id).nodes = start.nodes := by
  rw [linking, nodes_storing, nodes_storing]

theorem Typed.mem_nodes (h : sl.Typed node parent start) : node ∈ sl.nodes := by
  rw [← h.nodes, Slide.mem_nodes]
  exact hasNode_of_mem h.mem

theorem LinksBelow.linkedAs (h : sl.LinksBelow desk edge node child start parent id made after)
    (hne : child ≠ node) (hc : child ∈ sl.nodes) :
    sl.LinkedAs node child parent (linkedChild start.outline parent child id) after := by
  obtain ⟨sides, lines, rfl, -, joins, -⟩ := h.joined
  have here {n : ShapeId} (hn : n ∈ sl.nodes) : ∃ s ∈ start, s.id = n := by
    rw [← h.typed.nodes] at hn
    exact exists_of_mem_nodes hn
  have atChild := here hc
  refine ⟨?_, ?_, ?_, ?_⟩
  · rw [nodes, filter_isNode_append (isEdge_of_joins joins), ← nodes, nodes_linking, h.typed.nodes]
  · rw [descriptorOf?_append (exists_linking atChild), linking, descriptorOf?_storing_other hne,
      descriptorOf?_storing atChild]
  · rw [descriptorOf?_append (exists_linking h.typed.exists_shape), linking, descriptorOf?_storing]
    · rfl
    · exact exists_storing h.typed.exists_shape _ _
  · intro n hn hnode hchild
    rw [descriptorOf?_append (exists_linking (here hn)), linking, descriptorOf?_storing_other hnode,
      descriptorOf?_storing_other hchild, h.typed.elsewhere hnode]

end Slide

end FlowDeck
