import FlowDeck.Proofs.Command.Asking
import FlowDeck.Proofs.Command.Circles
import FlowDeck.Proofs.Deck.Redrawn
import FlowDeck.Proofs.Deck.Steady
import FlowDeck.Proofs.Editor.Session

/-!
# Linking what is linked

A link leaves its two nodes in a state of which this module says two things. The state holds after every
link on an orderly slide. And where it holds, another link of the two nodes chooses the same parent, keeps
the identifier of the child and stores the texts that are there, so that at most a connector is new.
-/

namespace FlowDeck

open Slide Edit Command

variable {sl start after : Slide} {node child n other : ShapeId} {parent linked d : Descriptor} {id : String}

/-! ## Answers that are known -/

namespace Edit

theorem Gives.shares {α : Type} {m m' : Edit α} {now now' : Slide} {a : α} (h : Gives m now a) (h' : Gives m' now' a) : Shares m m' now now' where
  echoes.ends {page page' after b} hp hp' run := by
    rw [h page hp] at run
    cases run
    exact ⟨a, page', h' page' hp', ⟨hp.symm, hp'.symm⟩, rfl⟩

theorem gives_typed (h : sl.outline.lookup node = some parent) : Gives (typed node) sl parent := by
  have found : Gives (ensureDescriptor node) sl (some parent) := by
    refine gives_outline.bind ?_
    rw [h]
    exact gives_pure
  exact found.bind gives_pure

theorem gives_requireTwo (ha : sl.hasNode node) (hb : sl.hasNode other) (hne : node ≠ other) :
    Gives (requireTwo (some node) (some other)) sl (node, other) := by
  refine (gives_requireNode ha).bind ((gives_requireNode hb).bind ?_)
  dsimp only
  rw [if_neg hne]
  exact gives_pure

end Edit

namespace Command

theorem run_link {desk : Desk} {edge : Option EdgeStyle} {page : Page} {x y : ShapeId} (hx : sl.hasNode x)
    (hy : sl.hasNode y) (hne : x ≠ y) (hp : page.slide = sl) : (link desk (some x) (some y) edge).run.run page =
      if secondIsParent (sl.descriptorOf? x) (sl.descriptorOf? y) then (linkBelow desk y x edge).run.run page
      else (linkBelow desk x y edge).run.run page := by
  rw [link_eq, (gives_requireTwo hx hy hne).run_bind hp,
    (gives_descriptorOf? (exists_of_hasNode hx)).run_bind hp,
    (gives_descriptorOf? (exists_of_hasNode hy)).run_bind hp]
  by_cases turned : secondIsParent (sl.descriptorOf? x) (sl.descriptorOf? y) = true
  · rw [if_pos turned, if_pos turned]
  · rw [if_neg turned, if_neg turned]

def Uneven (first second : Option Descriptor) : Prop :=
  first.isSome ≠ second.isSome ∨
    ∃ d e, first = some d ∧ second = some e ∧ levelDepth d.level ≠ levelDepth e.level

theorem Uneven.symm {first second : Option Descriptor} (h : Uneven first second) : Uneven second first := by
  rcases h with h | ⟨d, e, hd, he, h⟩
  · exact .inl h.symm
  · exact .inr ⟨e, d, he, hd, h.symm⟩

theorem secondIsParent_comm {first second : Option Descriptor} (h : Uneven first second) :
    secondIsParent second first = !secondIsParent first second := by
  rcases h with h | ⟨d, e, rfl, rfl, h⟩
  · cases first <;> cases second <;> simp_all [secondIsParent]
  · simp only [secondIsParent]
    by_cases lower : levelDepth d.level < levelDepth e.level
    · simp [lower, lower.le]
    · simp [lower, lt_of_le_of_ne (not_lt.1 lower) h.symm]

theorem run_link_comm {desk : Desk} {edge : Option EdgeStyle} {page : Page} {x y : ShapeId} (hx : sl.hasNode x)
    (hy : sl.hasNode y) (hne : x ≠ y) (hp : page.slide = sl) (h : Uneven (sl.descriptorOf? x) (sl.descriptorOf? y)) :
    (link desk (some y) (some x) edge).run.run page = (link desk (some x) (some y) edge).run.run page := by
  rw [run_link hx hy hne hp, run_link hy hx hne.symm hp, secondIsParent_comm h]
  cases secondIsParent (sl.descriptorOf? x) (sl.descriptorOf? y) <;> simp

end Command

/-! ## Storing what is there -/

namespace Slide

/-- The shape keeps the text of the descriptor, and nothing that storing it would remove. -/
def Stores (sl : Slide) (n : ShapeId) (d : Descriptor) : Prop :=
  ∃ s, sl.shape? n = some s ∧ s.withMemo d.render = s

theorem Stores.storing_eq (h : sl.Stores n d) : sl.storing n d = sl := by
  obtain ⟨s, hs, same⟩ := h
  exact modify_eq_self hs same

theorem stores_storing (h : ∃ s ∈ sl, s.id = n) (d : Descriptor) : (sl.storing n d).Stores n d := by
  obtain ⟨s, hs⟩ := exists_shape? h
  exact ⟨_, shape?_storing hs d, s.withMemo_withMemo _ _⟩

theorem Stores.storing_other (h : sl.Stores n d) (hne : n ≠ other) (e : Descriptor) :
    (sl.storing other e).Stores n d := by
  obtain ⟨s, hs, same⟩ := h
  exact ⟨s, (shape?_storing_other hne e).trans hs, same⟩

theorem Stores.append (h : sl.Stores n d) (more : Slide) : Stores (sl ++ more) n d := by
  obtain ⟨s, hs, same⟩ := h
  exact ⟨s, shape?_append hs more, same⟩

theorem Stores.makes {Q : Unit → Slide → Prop} {E : Slide → Prop} (h : sl.Stores n d) (hd : Storable d.render)
    (hQ : Q () sl) : Makes (store n d) sl Q E := by
  obtain ⟨s, hs, -⟩ := id h
  refine (makes_store_text hs hd).mono (fun _ after he => ?_) fun _ h => h
  rw [he, h.storing_eq]
  exact hQ

end Slide

/-! ## What a link leaves -/

theorem fresh_of_linkedId {old : Option Descriptor} {pageChildren : Outline}
    (h : linkedId parent old pageChildren child = .ok id) : ∀ e ∈ pageChildren, e.1 ≠ child → e.2.current ≠ id := by
  intro e he hne same
  have other : id ∈ (pageChildren.filter fun entry => entry.1 != child).map (·.2.current) :=
    List.mem_map.2 ⟨e, List.mem_filter.2 ⟨he, by simpa using hne⟩, same⟩
  unfold linkedId at h
  dsimp only at h
  split at h
  · next d hd =>
    obtain rfl := Except.ok.inj h
    have keeps := (Option.filter_eq_some_iff.1 hd).2
    simp only [Bool.and_eq_true, Bool.not_eq_true', List.contains_eq_mem, decide_eq_false_iff_not] at keeps
    exact keeps.1.2 other
  · exact not_mem_of_furtherId (isLevel_nextLevel _) h (List.mem_append_right _ other)

/-- A child that is below its parent, with an identifier of its own at the level below, keeps it. -/
theorem linkedId_self {outline : Outline} (hd : (child, d) ∈ outline) (chain : d.chain = parent.chainBelow)
    (level : d.level = nextLevel parent.level)
    (apart : ∀ e ∈ outline.children parent, e.1 ≠ child → e.2.current ≠ d.current) :
    linkedId parent (some d) (outline.children parent) child = .ok d.current := by
  have there : (outline.children parent).any fun entry => entry.1 == child := by
    refine List.any_eq_true.2 ⟨(child, d), List.mem_filter.2 ⟨hd, ?_⟩, by simp⟩
    simp [Outline.isChild, chain]
  have own : d.current ∉ ((outline.children parent).filter fun entry => entry.1 != child).map (·.2.current) := by
    intro hm
    obtain ⟨e, he, same⟩ := List.mem_map.1 hm
    obtain ⟨he, hne⟩ := List.mem_filter.1 he
    exact apart e he (by simpa using hne) same
  unfold linkedId
  dsimp only
  rw [Option.filter_some, if_pos]
  simp [level, there, own]

namespace Slide

structure Linked (sl : Slide) (node child : ShapeId) (parent linked : Descriptor) : Prop where
  above : sl.descriptorOf? node = some parent
  below : sl.descriptorOf? child = some linked
  chain : linked.chain = parent.chain ++ [parent.current]
  level : linked.level = nextLevel parent.level
  layout : linked.layout = parent.layout
  apart : ∀ e ∈ sl.outline.children parent, e.1 ≠ child → e.2.current ≠ linked.current
  listed : linked.current ∈ parent.childIds

/-- Linked nodes that hold their texts, in a page on which nothing stands in the way of another link. -/
structure Tied (sl : Slide) (node child : ShapeId) (parent linked : Descriptor) : Prop
    extends Linked sl node child parent linked where
  nodes : node ∈ sl.nodes ∧ child ∈ sl.nodes
  other : child ≠ node
  placed : parent.Placed
  stores : sl.Stores node parent ∧ sl.Stores child linked
  storable : Storable parent.render ∧ Storable linked.render

section
variable {desk : Desk} {edge : Option EdgeStyle} {made : Creation}

theorem Typed.orderly (h : sl.Typed node parent start) (ho : sl.Orderly) : start.Orderly := by
  rcases h.before with rfl | ⟨-, root, hroot, rfl⟩
  · exact ho
  · exact ho.storing (writable_freshRoot hroot)

theorem Typed.lookup_eq (h : sl.Typed node parent start) (hn : n ∈ sl.nodes) (hne : n ≠ node) :
    start.outline.lookup n = sl.descriptorOf? n := by
  rw [← h.elsewhere hne]
  apply lookup_eq_descriptorOf?
  rw [h.nodes]
  exact hn

theorem LinksBelow.writable (h : sl.LinksBelow desk edge node child start parent id made after) (ho : sl.Orderly) :
    (parent.attach [⟨id, ""⟩]).Writable ∧ (linkedChild start.outline parent child id).Writable := by
  have orderly := h.typed.orderly ho
  have old (d : Descriptor) (hd : start.outline.lookup child = some d) := Outline.mem_of_lookup hd
  have idAt := (linkedId_spec orderly h.typed.mem old h.numbered).1
  refine ⟨(orderly.writable_of_mem h.typed.mem).2.attach _ fun ref href => ?_, ?_⟩
  · rw [List.mem_singleton.1 href]
    exact Descriptor.fitsChild_of_isIdAt idAt (.inl rfl)
  · exact writable_linked orderly h.typed.mem old idAt

theorem LinksBelow.stores (h : sl.LinksBelow desk edge node child start parent id made after) (hne : child ≠ node)
    (hc : child ∈ sl.nodes) :
    after.Stores node (parent.attach [⟨id, ""⟩]) ∧ after.Stores child (linkedChild start.outline parent child id) := by
  obtain ⟨sides, lines, rfl, -⟩ := h.joined
  have atChild : ∃ s ∈ start, s.id = child := by
    rw [← h.typed.nodes] at hc
    exact exists_of_mem_nodes hc
  have atNode := exists_storing h.typed.exists_shape child (linkedChild start.outline parent child id)
  exact ⟨(stores_storing atNode _).append _, ((stores_storing atChild _).storing_other hne _).append _⟩

theorem LinksBelow.tied (h : sl.LinksBelow desk edge node child start parent id made after) (ho : sl.Orderly)
    (hne : child ≠ node) (hc : child ∈ sl.nodes) :
    after.Tied node child (parent.attach [⟨id, ""⟩]) (linkedChild start.outline parent child id) := by
  have marks := h.linkedAs hne hc
  have leveled := ((h.typed.orderly ho).writable_of_mem h.typed.mem).1
  obtain ⟨writtenP, writtenC⟩ := h.writable ho
  have readP : Descriptor.read? (parent.attach [⟨id, ""⟩]).render = some (parent.attach [⟨id, ""⟩]) := by
    rw [writtenP.read?_render, Descriptor.stored_eq_self]
    exact leveled.root
  have readC : Descriptor.read? (linkedChild start.outline parent child id).render =
      some (linkedChild start.outline parent child id) := by
    rw [writtenC.read?_render, Descriptor.stored_eq_self]
    simp [linkedChild, Descriptor.isRoot, Descriptor.chainBelow]
  have above := marks.above.trans readP
  have level := levelOf_linkedId h.numbered
  refine {
    above
    below := marks.below.trans readC
    chain := rfl
    level
    layout := rfl
    apart := ?_
    listed := ?_
    nodes := by rw [marks.nodes]; exact ⟨h.typed.mem_nodes, hc⟩
    other := hne
    placed := writtenP.toPlaced
    stores := ?_
    storable := ?_ }
  · intro entry he hn same
    obtain ⟨n, e⟩ := entry
    obtain ⟨he, isChild⟩ := List.mem_filter.1 he
    obtain ⟨hnode, hd⟩ := mem_outline.1 he
    by_cases own : n = node
    · subst own
      obtain rfl := Option.some.inj (above.symm.trans hd)
      exact ne_of_linkedId h.numbered same
    · rw [marks.nodes] at hnode
      rw [marks.elsewhere n hnode own hn, ← h.typed.lookup_eq hnode own] at hd
      have there : (n, e) ∈ start.outline.children parent := List.mem_filter.2 ⟨Outline.mem_of_lookup hd, isChild⟩
      exact fresh_of_linkedId h.numbered _ there hn same
  · exact Descriptor.mem_childIds_attach.2 (.inr ⟨writtenC.current.fits.ne_empty, List.mem_cons_self⟩)
  · exact h.stores hne hc
  · have storable {d : Descriptor} (hd : d ∈ [linkedChild start.outline parent child id, parent.attach [⟨id, ""⟩]]) :
        Storable d.render :=
      List.all_eq_true.1 (h.storable d hd)
    exact ⟨storable (by simp), storable (by simp)⟩

theorem LinksBelow.children_linked (h : sl.LinksBelow desk edge node child start parent id made after)
    (hne : child ≠ node) (hc : child ∈ sl.nodes) :
    (linkedChild start.outline parent child id).children = ((sl.descriptorOf? child).map (·.children)).getD [] := by
  rw [linkedChild, h.typed.lookup_eq hc hne]

end

/-! ## Another link -/

section
variable {desk : Desk} {edge : Option EdgeStyle} {page : Page} (h : sl.Tied node child parent linked)
include h

theorem Tied.mem_outline : (node, parent) ∈ sl.outline ∧ (child, linked) ∈ sl.outline :=
  ⟨Slide.mem_outline.2 ⟨h.nodes.1, h.above⟩, Slide.mem_outline.2 ⟨h.nodes.2, h.below⟩⟩

theorem Tied.lookup_eq : sl.outline.lookup node = some parent ∧ sl.outline.lookup child = some linked :=
  ⟨(lookup_eq_descriptorOf? h.nodes.1).trans h.above, (lookup_eq_descriptorOf? h.nodes.2).trans h.below⟩

-- The entries of the chain stand at other levels than the child, so none of them falls to it.
theorem Tied.not_mem_ancestors : child ∉ sl.outline.ancestors node parent := by
  intro hm
  obtain ⟨-, i, name, entry, hi, hl, hentry⟩ := Outline.mem_ancestors.1 hm
  obtain ⟨n, d⟩ := entry
  obtain ⟨hmem, hcurrent, -⟩ := Outline.locate?_spec hl
  obtain rfl : n = child := hentry
  obtain ⟨-, hd⟩ := Slide.mem_outline.1 hmem
  obtain rfl := Option.some.inj (h.below.symm.trans hd)
  have shorter := (List.getElem?_eq_some_iff.1 hi).1
  have above := (h.placed.chain i name hi).level
  rw [← hcurrent] at above
  have depths := levelAt_injective (above.symm.trans (h.level.trans h.placed.nextLevel))
  rw [Descriptor.chainBelow, List.length_append, List.length_singleton] at depths
  omega

theorem Tied.levelDepth_lt : levelDepth parent.level < levelDepth linked.level := by
  rw [h.level, h.placed.level, levelDepth_nextLevel (isLevel_levelAt _)]
  omega

theorem Tied.attach_eq : parent.attach [⟨linked.current, ""⟩] = parent := by
  have listed : linked.current ∈ parent.children.map (·.id) := h.listed
  have same : Descriptor.attachRef parent.children ⟨linked.current, ""⟩ = parent.children := by
    simp [Descriptor.attachRef, listed]
  show { parent with children := Descriptor.attachRef parent.children ⟨linked.current, ""⟩ } = parent
  rw [same]

theorem Tied.linkedChild_eq : linkedChild sl.outline parent child linked.current = linked := by
  rw [linkedChild, h.lookup_eq.2]
  show ⟨linked.current, parent.chain ++ [parent.current], parent.layout, linked.children⟩ = linked
  rw [← h.chain, ← h.layout]

/-- All that is left to do is to join the two. -/
theorem Tied.makes_linkBelow {Q : Creation → Slide → Prop} {E : Slide → Prop}
    (joined : Makes (joinBelow desk node child parent linked.current edge) sl Q E) :
    Makes (linkBelow desk node child edge) sl Q E := by
  obtain ⟨hn, hc⟩ := h.nodes
  have guard : ¬(sl.outline.ancestors node parent).contains child = true := by
    simpa using h.not_mem_ancestors
  have kept := linkedId_self h.mem_outline.2 h.chain h.level h.apart
  have shown : Gives (descriptor? node) sl (some parent) := h.above ▸ gives_descriptorOf? (exists_of_mem_nodes hn)
  refine shown.followed (gives_outline.followed ?_)
  dsimp only
  rw [if_neg guard]
  refine (gives_typed h.lookup_eq.1).followed (gives_outline.followed ?_)
  rw [h.lookup_eq.2, kept]
  refine Gives.followed gives_pure ?_
  dsimp only
  -- The child keeps its identifier, so what is stored of both nodes is what they have.
  rw [if_neg fun renumbered => renumbered rfl, h.linkedChild_eq, h.attach_eq]
  refine (h.stores.2.makes (Q := fun _ now => sl = now) h.storable.2 rfl).bind fun _ _ he => ?_
  subst he
  refine (h.stores.1.makes (Q := fun _ now => sl = now) h.storable.1 rfl).bind fun _ _ he => ?_
  subst he
  exact joined

theorem Tied.run_link {x y : ShapeId} (hp : page.slide = sl) (hxy : x = node ∧ y = child ∨ x = child ∧ y = node) :
    (link desk (some x) (some y) edge).run.run page = (linkBelow desk node child edge).run.run page := by
  have lower := h.levelDepth_lt
  have hn := mem_nodes.1 h.nodes.1
  have hc := mem_nodes.1 h.nodes.2
  rcases hxy with ⟨rfl, rfl⟩ | ⟨rfl, rfl⟩
  · rw [run_link hn hc h.other.symm hp, if_neg]
    rw [h.above, h.below]
    simpa [secondIsParent] using lower.le
  · rw [run_link hc hn h.other hp, if_pos]
    rw [h.above, h.below]
    simpa [secondIsParent] using lower

end

end Slide

/-! ## Joining once more -/

section
variable {desk : Desk} {edge : Option EdgeStyle}

theorem Edit.echoes_joinBelow {parent' : Descriptor} {lines : List Shape} (hl : ∀ line ∈ lines, line.isEdge)
    (hn : node ∈ sl.nodes) (hc : child ∈ sl.nodes) :
    Echoes (joinBelow desk node child parent id edge) (joinBelow desk node child parent' id edge) sl (sl ++ lines)
      fun _ _ _ _ => True := by
  obtain ⟨s, hs⟩ := exists_shape? (exists_of_mem_nodes hn)
  obtain ⟨t, ht⟩ := exists_shape? (exists_of_mem_nodes hc)
  have layout : Gives (layoutBelow node) (sl ++ lines)
      (((sl.descriptorOf? node).map sl.outline.layout).getD defaultLayout.token) := by
    have there : Slide.hasNode (sl ++ lines) node := by
      rw [← mem_nodes, nodes, filter_isNode_append hl, ← nodes]
      exact hn
    rw [← descriptorOf?_append (exists_of_mem_nodes hn) lines, ← outline_append_edges hl sl]
    exact gives_layoutBelow there
  have ends {n : ShapeId} {u : Shape} (hu : sl.shape? n = some u) : EndsAlike desk sl n (sl ++ lines) n :=
    ⟨rfl, u, u, hu, shape?_append hu lines, rfl⟩
  -- Neither the layout nor the boxes are read off connectors.
  refine ((gives_layoutBelow (mem_nodes.1 hn)).shares layout).followed fun token => ?_
  refine (shares_orFault _).followed fun layout => ?_
  refine (shares_box hs (shape?_append hs lines) rfl).followed fun boxP => ?_
  refine (shares_box ht (shape?_append ht lines) rfl).followed fun boxC => ?_
  have start : JoinsAlike sl (sl ++ lines) { parent := node, childIds := [id] } { parent := node, childIds := [id] }
      { parent := node, childIds := [id] } sl { parent := node, childIds := [id] } (sl ++ lines) :=
    ⟨[], [], [], [], addedAlike_nil sl (sl ++ lines), rfl, rfl⟩
  refine (echoes_joinChild desk _ _ _ (ends hs) (ends ht) start).bind ?_
  intro _ _ _ _ _
  exact (shares_note _ _ _ _).followed fun _ => echoes_pure trivial

theorem Slide.LinksBelow.makes_joinBelow_again {made : Creation} {parent' : Descriptor}
    (h : sl.LinksBelow desk edge node child start parent id made after) (hc : child ∈ sl.nodes) :
    Makes (joinBelow desk node child parent' id edge) after (fun _ _ => True) fun _ => False := by
  obtain ⟨page, last, hp, run, -⟩ := h.ends
  obtain ⟨sides, lines, rfl, -, joins, -⟩ := h.joined
  have same : (start.linking node parent child id).nodes = sl.nodes := by
    rw [nodes_linking, h.typed.nodes]
  exact (echoes_joinBelow (isEdge_of_joins joins) (same ▸ h.typed.mem_nodes) (same ▸ hc)).ended hp run

namespace Command

/-- To link the two again comes to a result, and with any style that it comes to one with, it is the same parent
and the same child. At most a connector is new on the slide. -/
def LinksAgain (desk : Desk) (a b : Option ShapeId) (edge : Option EdgeStyle) (c : Creation) (page : Page) : Prop :=
  (∃ again last, (link desk a b edge).run.run page = (.ok again, last)) ∧
  ∀ style again last, (link desk a b style).run.run page = (.ok again, last) →
    again.parent = c.parent ∧ again.childIds = c.childIds ∧
      ∃ lines, last.slide = page.slide ++ lines ∧ ∀ line ∈ lines, line.isEdge

end Command

theorem Slide.Tied.linksAgain {page : Page} {x y : ShapeId} {c : Creation} (h : page.slide.Tied node child parent linked)
    (hxy : x = node ∧ y = child ∨ x = child ∧ y = node) (hparent : c.parent = node)
    (hchild : c.childIds = [linked.current])
    (joined : Makes (joinBelow desk node child parent linked.current edge) page.slide (fun _ _ => True) fun _ => False) :
    LinksAgain desk (some x) (some y) edge c page := by
  refine ⟨?_, fun style again last run => ?_⟩
  · rw [h.run_link rfl hxy]
    obtain ⟨again, last, run, -⟩ := (h.makes_linkBelow joined).runs rfl
    exact ⟨again, last, run⟩
  · rw [h.run_link rfl hxy] at run
    obtain ⟨sides, lines, hl, rfl, joins, -⟩ := ((h.makes_linkBelow (makes_joinBelow desk style)).leads page rfl).ok run
    exact ⟨hparent.symm, hchild.symm, lines, hl, isEdge_of_joins joins⟩

end

/-! ## Links in sessions -/

/-- After a link that succeeds, in any session of plain steps, the child stands below the parent, with the
children that it had. To link the two again, in either order, comes to the same and changes no text. The first
link could have named them in the other order as well, if exactly one of them had a descriptor or they were at
different depths. -/
theorem session_link_again (desk : Desk) (steps : List Step) (plain : ∀ step ∈ steps, step.IsPlain)
    {a b : Option ShapeId} {edge : Option EdgeStyle} {c : Creation} {after : Page}
    (run : (link desk a b edge).run.run (session desk steps) = (.ok c, after)) :
    ∃ child parent linked, (a = some c.parent ∧ b = some child ∨ a = some child ∧ b = some c.parent) ∧
      c.childIds = [linked.current] ∧ after.slide.Linked c.parent child parent linked ∧
      linked.children = (((session desk steps).slide.descriptorOf? child).map (·.children)).getD [] ∧
      LinksAgain desk a b edge c after ∧ LinksAgain desk b a edge c after ∧
      (Uneven ((session desk steps).slide.descriptorOf? c.parent) ((session desk steps).slide.descriptorOf? child) →
        (link desk b a edge).run.run (session desk steps) = (.ok c, after)) := by
  have orderly := session_orderly desk plain
  generalize session desk steps = page at run orderly ⊢
  obtain ⟨node, child, start, parent, id, given, hn, hc, hne, links⟩ :=
    ((makes_link_exact desk a b edge).leads page rfl).ok run
  have here := mem_nodes.2 hc
  have tied := links.tied orderly hne here
  have joined : Makes (joinBelow desk node child (parent.attach [⟨id, ""⟩]) id edge) after.slide (fun _ _ => True)
      fun _ => False :=
    links.makes_joinBelow_again here
  obtain ⟨rfl, hid⟩ := links.parent_eq
  refine ⟨child, _, _, given, hid, tied.toLinked, links.children_linked hne here, ?_, ?_, ?_⟩
  · rcases given with ⟨rfl, rfl⟩ | ⟨rfl, rfl⟩
    · exact tied.linksAgain (.inl ⟨rfl, rfl⟩) rfl hid joined
    · exact tied.linksAgain (.inr ⟨rfl, rfl⟩) rfl hid joined
  · rcases given with ⟨rfl, rfl⟩ | ⟨rfl, rfl⟩
    · exact tied.linksAgain (.inr ⟨rfl, rfl⟩) rfl hid joined
    · exact tied.linksAgain (.inl ⟨rfl, rfl⟩) rfl hid joined
  · intro uneven
    rw [← run]
    rcases given with ⟨rfl, rfl⟩ | ⟨rfl, rfl⟩
    · exact run_link_comm hn hc hne.symm rfl uneven
    · exact run_link_comm hc hn hne rfl uneven.symm

def rootAndNode : List Step :=
  [.addNode "" none none none none, .addNode "" none none none none, .request (.initRoot (some 3))]

theorem session_link_again_root : ∃ c after,
    (link Desk.bare (some 2) (some 3) none).run.run (session Desk.bare rootAndNode) = (.ok c, after) ∧ c.parent = 3 ∧
      (∃ parent linked, after.slide.Linked 3 2 parent linked) ∧ LinksAgain Desk.bare (some 3) (some 2) none c after ∧
      (link Desk.bare (some 3) (some 2) none).run.run (session Desk.bare rootAndNode) = (.ok c, after) := by
  have run : ((link Desk.bare (some 2) (some 3) none).run.run (session Desk.bare rootAndNode)).1 =
      .ok ⟨3, [], ["B1"], [], [(3, 2)]⟩ := by decide +kernel
  have typed : ((session Desk.bare rootAndNode).slide.descriptorOf? 3).isSome ≠
      ((session Desk.bare rootAndNode).slide.descriptorOf? 2).isSome := by decide +kernel
  obtain ⟨child, parent, linked, given, -, stands, -, -, again, swapped⟩ :=
    session_link_again Desk.bare rootAndNode (by decide) (run_eq run)
  obtain rfl : child = 2 := by simpa [eq_comm] using given
  exact ⟨_, _, run_eq run, rfl, ⟨parent, linked, stands⟩, again, swapped (.inl typed)⟩

end FlowDeck
