import FlowDeck.Proofs.Command.Keeping
import FlowDeck.Proofs.Hierarchy.Marks

/-!
# Finding children again

What a command hangs below a node is stored with the chain of the node and its identifier behind it.
When the page is read afterwards the new nodes are among the children of what the node keeps by then,
unless its identifier holds a mark that cuts the chain. Nothing is asked of the page here: descriptors
may be of any kind, as long as they can be read.
-/

namespace FlowDeck

open Slide Edit Record

variable {sl now after : Slide} {node child id : ShapeId} {parent d : Descriptor}

namespace Slide

def FindsBelow (sl : Slide) (node child : ShapeId) : Prop :=
  ∃ d, sl.descriptorOf? node = some d ∧ child ∈ (sl.outline.children d).map (·.1)

/-- The identifier of `node` comes back from a chain as it is. -/
def Chains (sl : Slide) (node : ShapeId) : Prop :=
  ∃ d, sl.descriptorOf? node = some d ∧ Chainable d.current

/-! ## What changes elsewhere leave alone -/

theorem mem_outline_append (h : (id, d) ∈ sl.outline) (more : Slide) : (id, d) ∈ outline (sl ++ more) := by
  obtain ⟨s, hs, hid, hn⟩ := hasNode_iff.1 (hasNode_of_mem h)
  refine mem_outline.2 ⟨mem_nodes.2 (hasNode_iff.2 ⟨s, List.mem_append_left _ hs, hid, hn⟩), ?_⟩
  rw [descriptorOf?_append (exists_of_mem_outline h), (mem_outline.1 h).2]

/-! ## Nodes below a parent -/

/-- The node `child` has the chain that is read back of what is stored below `parent`. -/
def Hangs (sl : Slide) (parent : Descriptor) (child : ShapeId) : Prop :=
  ∃ e, (child, e) ∈ sl.outline ∧ e.chain = parent.chain ++ readChain parent.current.toList

def Keeps (sl : Slide) (node : ShapeId) (parent : Descriptor) : Prop :=
  ∃ d, sl.descriptorOf? node = some d ∧ d.current = parent.current ∧ d.chain = parent.chain

theorem Hangs.storing (h : sl.Hangs parent child) (hne : child ≠ node) (d : Descriptor) :
    (sl.storing node d).Hangs parent child := by
  obtain ⟨e, he, hc⟩ := h
  exact ⟨e, mem_outline_storing_other hne he, hc⟩

theorem Hangs.mayGrow {isNode : Bool} (h : sl.Hangs parent child) (hg : sl.MayGrow isNode after) :
    after.Hangs parent child := by
  obtain ⟨e, he, hc⟩ := h
  rcases hg with rfl | ⟨s, rfl, -⟩
  · exact ⟨e, he, hc⟩
  · exact ⟨e, mem_outline_append he _, hc⟩

theorem Keeps.mayGrow {isNode : Bool} (h : sl.Keeps node parent) (hg : sl.MayGrow isNode after) :
    after.Keeps node parent := by
  obtain ⟨d, hd, hi⟩ := h
  obtain ⟨s, hs, hsd⟩ := Option.bind_eq_some_iff.1 hd
  rcases hg with rfl | ⟨new, rfl, -⟩
  · exact ⟨d, hd, hi⟩
  · refine ⟨d, ?_, hi⟩
    rw [descriptorOf?, shape?_append hs]
    exact hsd

theorem keeps_attach {refs : List ChildRef} (h : ∃ s ∈ sl, s.id = node) (hp : parent.WellFormed)
    (hr : ∀ ref ∈ refs, ']' ∉ ref.id.toList ∧ (ref.layout = "" ∨ ref.layout ∈ Layout.tokens)) :
    (sl.storing node (parent.attach refs)).Keeps node parent := by
  obtain ⟨d, hd, hi⟩ := Descriptor.read?_render_attach hp hr
  exact ⟨d, (descriptorOf?_storing h).trans hd, hi⟩

structure Bears (sl : Slide) (node : ShapeId) (parent : Descriptor) (children : List ShapeId) : Prop where
  here : ∃ s ∈ sl, s.id = node
  hanging : ∀ child ∈ children, child ≠ node ∧ sl.Hangs parent child

theorem Bears.drawn {children : List ShapeId} {s : Shape} (h : sl.Bears node parent children)
    (hs : Hangs (sl ++ [s]) parent sl.nextId) : Bears (sl ++ [s]) node parent (children ++ [sl.nextId]) := by
  obtain ⟨t, ht, hnode⟩ := h.here
  refine ⟨⟨t, List.mem_append_left _ ht, hnode⟩, fun child hm => ?_⟩
  rcases List.mem_append.1 hm with hm | hm
  · obtain ⟨hne, e, he, hc⟩ := h.hanging child hm
    exact ⟨hne, e, mem_outline_append he _, hc⟩
  · obtain rfl := List.mem_singleton.1 hm
    exact ⟨fun same => nextId_ne ht (hnode.trans same.symm), hs⟩

/-- A node stores the chain below its parent, and then the parent stores that it lists the node. -/
theorem hangs_linked {new layout : String} {children : List ChildRef} (hn : sl.hasNode child)
    (hp : (node, parent) ∈ sl.outline) (hne : child ≠ node) (hf : Fits [']'] new)
    (hl : layout = "" ∨ layout ∈ Layout.tokens) (hc : ']' ∉ childrenText children) :
    let after := (sl.storing child ⟨new, parent.chainBelow, layout, children⟩).storing node (parent.attach [⟨new, ""⟩])
    after.Keeps node parent ∧ after.Hangs parent child := by
  have formed := wellFormed_of_mem hp
  obtain ⟨e, he, hchain⟩ := Descriptor.read?_render_below formed hf hl hc
  constructor
  · apply keeps_attach ?_ formed (by simpa using hf.free _ (by simp))
    exact exists_of_mem_outline (mem_outline_storing_other hne.symm hp)
  · exact Hangs.storing ⟨e, mem_outline_storing_self hn he, hchain⟩ hne _

/-- What hangs below a node is found there, exactly if nothing cuts the chain through the node. -/
theorem findsBelow_iff (hp : parent.WellFormed) (hk : sl.Keeps node parent) (hc : sl.Hangs parent child) :
    sl.FindsBelow node child ↔ sl.Chains node := by
  obtain ⟨d, hd, hcurrent, hchain⟩ := hk
  constructor
  · rintro ⟨d', hd', hm⟩
    obtain ⟨⟨n, e⟩, he, -⟩ := List.mem_map.1 hm
    obtain ⟨hmem, hchild⟩ := List.mem_filter.1 he
    obtain ⟨s, -, hs⟩ := Option.bind_eq_some_iff.1 (mem_outline.1 hmem).2
    exact ⟨d', hd', Descriptor.chainable_of_isChild hs hchild⟩
  · rintro ⟨d', hd', hok⟩
    obtain rfl : d = d' := Option.some.inj (hd.symm.trans hd')
    obtain ⟨e, he, hbelow⟩ := hc
    refine ⟨d, hd, List.mem_map.2 ⟨(child, e), List.mem_filter.2 ⟨he, ?_⟩, rfl⟩⟩
    rw [← hcurrent, ← hchain] at hbelow
    exact Descriptor.isChild_of_chainable (hcurrent ▸ hp.current) hbelow hok

end Slide

/-! ## New identifiers on any page -/

theorem isLevel_nextLevel (id : String) : IsLevel (nextLevel (levelOf id)) := by
  by_cases h : levelOf id = ""
  · rw [h]
    exact isLevel_rootLevel
  · refine IsLevel.next ⟨h, fun c hc => ?_⟩
    rw [levelOf, String.toList_ofList] at hc
    exact List.mem_takeWhile_imp hc

theorem fits_of_newChildIds {existing : Outline} {count : Int} {ids : List String}
    (h : newChildIds parent existing count = .ok ids) : ∀ id ∈ ids, Fits ['|', ',', ':', ']'] id := by
  intro id hid
  rw [furtherIds_eq h, siblingIds, List.mem_map] at hid
  obtain ⟨i, -, rfl⟩ := hid
  rw [← Int.natCast_add]
  exact fits_siblingId (isLevel_nextLevel _).letters (by decide)

theorem fits_of_linkedId {old : Option Descriptor} {pageChildren : Outline} {new : String}
    (ho : ∀ d, old = some d → d.WellFormed) (h : linkedId parent old pageChildren node = .ok new) :
    Fits [']'] new := by
  unfold linkedId at h
  dsimp only at h
  split at h
  · next d hd =>
    obtain rfl := Except.ok.inj h
    exact (ho d (Option.filter_eq_some_iff.1 hd).1).current
  · rw [furtherId_eq h]
    exact fits_siblingId (isLevel_nextLevel _).letters (by decide)

namespace Edit

/-- Whatever is on the page: what is read of a node is in the outline, and the nodes are the same ones. -/
theorem makes_typed_any (node : ShapeId) :
    Makes (typed node) sl (fun d after => (node, d) ∈ after.outline ∧ after.nodes = sl.nodes) fun _ => True :=
  makes_typed_exact.mono (fun _ _ typed => ⟨typed.mem, typed.nodes⟩) fun _ h => h

theorem makes_drawChild_hanging (desk : Desk) (kind : String) (b : Box Float) (label id : String) {layout : String}
    (hp : parent.WellFormed) (hid : Fits [']'] id) (hl : layout = "" ∨ layout ∈ Layout.tokens) :
    Makes (Command.drawChild desk kind b label { current := id, chain := parent.chainBelow, layout }) sl
      (fun child after => child = sl.nextId ∧ after.Hangs parent child ∧ ∃ s, after = sl ++ [s]) fun _ => True := by
  refine (makes_drawChild_kept desk kind b label _).mono (fun child after h => ?_) fun _ h => h
  obtain ⟨s, rfl, hs, rfl, hn, hmemo⟩ := h
  have unlisted : ']' ∉ childrenText [] := by decide
  obtain ⟨e, he, hchain⟩ := Descriptor.read?_render_below hp hid hl unlisted
  have typed : s.entry? = some (s.id, e) :=
    Shape.entry?_eq_some_iff.2 ⟨hn, rfl, by rw [Shape.descriptor?, hmemo, he]⟩
  have new : (s.id, e) ∈ Slide.outline (sl ++ [s]) := by
    rw [outline_concat fun t ht => hs ▸ nextId_ne ht, typed]
    exact List.mem_append_right _ List.mem_cons_self
  exact ⟨hs, ⟨e, new, hchain⟩, _, rfl⟩

end Edit

namespace Command

def Hung (c : Creation) (after : Slide) : Prop :=
  c.created = [] ∨ ∃ parent : Descriptor, parent.WellFormed ∧ after.Keeps c.parent parent ∧
    ∀ child ∈ c.created, after.Hangs parent child

theorem Hung.mayGrow {c joined : Creation} {isNode : Bool} (h : Hung c sl) (hp : joined.parent = c.parent)
    (hc : joined.created = c.created) (hg : sl.MayGrow isNode after) : Hung joined after := by
  rw [Hung, hp, hc]
  rcases h with h | ⟨parent, hw, hk, hh⟩
  · exact .inl h
  · exact .inr ⟨parent, hw, hk.mayGrow hg, fun child hm => (hh child hm).mayGrow hg⟩

theorem makes_createChildren_hung (desk : Desk) (given : Option ShapeId) (direction : String) (count : Int)
    (gap : Option (Measure Float)) (labels : List String) (edge : Option EdgeStyle) :
    Makes (createChildren desk given direction count gap labels edge) sl Hung fun _ => True := by
  refine (reads_requireNode given).followed trivial fun node => ?_
  refine (reads_requireSide direction).followed trivial fun direction => ?_
  refine .ite (fun _ => (reads_note _ _).followed trivial fun _ => makes_pure (.inl rfl)) fun _ => ?_
  refine (reads_box node).followed trivial fun parentBox => .guard trivial ?_
  refine (reads_ofNumber _).followed trivial fun gap => .guard trivial ?_
  refine (makes_typed_any node).bind fun parent now ⟨hp, _⟩ => ?_
  refine asks_outline.followed trivial fun outline ho => ?_
  subst ho
  refine (reads_boxes _).followed trivial fun boxes => (reads_ofNumber _).followed trivial fun corners => ?_
  refine asks_ofNumber.followed trivial fun ids hids => (reads_shape node).followed trivial fun s => ?_
  have fits := fits_of_newChildIds hids
  have formed := wellFormed_of_mem hp
  have start : now.Bears node parent [] := ⟨exists_of_mem_outline hp, by simp⟩
  refine Makes.bind (Q := fun created now => now.Bears node parent created) ?_ fun created now hb => ?_
  · refine (makes_mapM (fun rest done now => (∀ x ∈ rest, x.1.2 ∈ ids) ∧ now.Bears node parent done) ?_
      ⟨fun x hx => (List.of_mem_zip (List.fst_mem_of_mem_zipIdx hx)).2, start⟩).mono (fun _ _ h => h.2) fun _ h => h
    intro ⟨⟨corner, id⟩, i⟩ rest done now ⟨hrest, hb⟩
    have single : Fits [']'] id := (fits id (hrest _ List.mem_cons_self)).mono (by simp)
    refine (makes_drawChild_hanging desk _ _ _ id formed single formed.layout).mono (fun child after h => ?_)
      fun _ _ => trivial
    obtain ⟨rfl, hung, t, rfl⟩ := h
    exact ⟨fun x hx => hrest x (List.mem_cons_of_mem _ hx), hb.drawn hung⟩
  · have listed : (now.storing node (parent.attach (ids.map fun id => { id }))).Keeps node parent := by
      refine keeps_attach hb.here formed fun ref href => ?_
      obtain ⟨id, hid, rfl⟩ := List.mem_map.1 href
      exact ⟨(fits id hid).free _ (by simp), .inl rfl⟩
    have hung : Hung { parent := node, created, childIds := ids }
        (now.storing node (parent.attach (ids.map fun id => { id }))) := by
      refine .inr ⟨parent, formed, listed, fun child hm => ?_⟩
      obtain ⟨hne, hangs⟩ := hb.hanging child hm
      exact hangs.storing hne _
    refine .stored trivial ?_
    refine Makes.bind (Q := Hung) ?_ fun creation now hh => (reads_note _ _).followed trivial fun _ => makes_pure hh
    refine makes_foldlM Hung (fun c child now hh => ?_) hung
    exact (makes_joinChild desk c child _ _ _).mono (fun joined after ⟨hp, hc, hg⟩ => hh.mayGrow hp hc hg)
      fun _ _ => trivial

def Linked (a b : Option ShapeId) (c : Creation) (after : Slide) : Prop :=
  ∃ child, (a = some c.parent ∧ b = some child ∨ a = some child ∧ b = some c.parent) ∧
    ∃ parent : Descriptor, parent.WellFormed ∧ after.Keeps c.parent parent ∧ after.Hangs parent child

theorem makes_link_linked (desk : Desk) (a b : Option ShapeId) (edge : Option EdgeStyle) :
    Makes (link desk a b edge) sl (Linked a b) fun _ => True := by
  refine asks_requireTwo.followed trivial fun (x, y) htwo => ?_
  obtain ⟨⟨hx, nodeX⟩, ⟨hy, nodeY⟩, hne⟩ := htwo
  refine (reads_descriptor? x).followed trivial fun first => ?_
  refine (reads_descriptor? y).followed trivial fun second => ?_
  split
  next parentNode childNode chosen =>
  have pair : (a = some parentNode ∧ b = some childNode ∨ a = some childNode ∧ b = some parentNode) ∧
      sl.hasNode childNode ∧ childNode ≠ parentNode := by
    split at chosen
    · obtain ⟨rfl, rfl⟩ := Prod.mk.inj chosen
      exact ⟨.inr ⟨hx, hy⟩, nodeX, hne⟩
    · obtain ⟨rfl, rfl⟩ := Prod.mk.inj chosen
      exact ⟨.inl ⟨hx, hy⟩, nodeY, hne.symm⟩
  clear chosen hx hy nodeX nodeY hne
  obtain ⟨given, hnode, hne⟩ := pair
  refine (reads_descriptor? parentNode).followed trivial fun d => makes_unlessAncestor _ _ d trivial ?_
  refine (makes_typed_any parentNode).bind fun parent now ht => ?_
  obtain ⟨hp, nodes⟩ := ht
  refine asks_outline.followed trivial fun outline ho => ?_
  subst ho
  refine asks_ofNumber.followed trivial fun id hid => makes_remark _ _ _ ?_
  have formed := wellFormed_of_mem hp
  have child (d : Descriptor) (hd : now.outline.lookup childNode = some d) : d.WellFormed :=
    wellFormed_of_mem (Outline.mem_of_lookup hd)
  have unlisted : ']' ∉ childrenText (((now.outline.lookup childNode).map (·.children)).getD []) := by
    cases hd : now.outline.lookup childNode with
    | none => decide
    | some d => exact bracket_not_mem_childrenText (child d hd).children
  have there : now.hasNode childNode := by
    rw [← mem_nodes, nodes, mem_nodes]
    exact hnode
  obtain ⟨kept, hung⟩ := hangs_linked there hp hne (fits_of_linkedId child hid) formed.layout unlisted
  refine .stored trivial (.stored trivial ?_)
  refine (reads_layoutBelow _).followed trivial fun token => (reads_orFault _).followed trivial fun layout => ?_
  refine (reads_box _).followed trivial fun boxP => (reads_box _).followed trivial fun boxC => ?_
  refine ((makes_joinChild desk _ childNode _ _ _).mono (fun _ _ h => h) fun _ _ => trivial).bind
    fun joined after hj => ?_
  obtain ⟨hparent, -, hg⟩ := hj
  refine (reads_note _ _).followed trivial fun _ => makes_pure ⟨childNode, ?_, parent, formed, ?_, hung.mayGrow hg⟩
  · rw [hparent]; exact given
  · rw [hparent]; exact kept.mayGrow hg

/-- When children have been created, all of them are found below their parent, exactly if no bar and no
colon is in its identifier; and when two nodes have been linked, the one is found below the other under
the same condition. -/
theorem finds_children_iff (desk : Desk) (page after : Page) (c : Creation) :
    (∀ given direction count gap labels edge,
      (createChildren desk given direction count gap labels edge).run.run page = (.ok c, after) →
        ((∀ child ∈ c.created, after.slide.FindsBelow c.parent child) ↔
          c.created = [] ∨ after.slide.Chains c.parent)) ∧
    ∀ a b edge, (link desk a b edge).run.run page = (.ok c, after) →
      ∃ child, (a = some c.parent ∧ b = some child ∨ a = some child ∧ b = some c.parent) ∧
        (after.slide.FindsBelow c.parent child ↔ after.slide.Chains c.parent) := by
  constructor
  · intro given direction count gap labels edge run
    rcases ((makes_createChildren_hung desk given direction count gap labels edge).leads page rfl).ok run with
      hnone | ⟨parent, formed, kept, hung⟩
    · simp [hnone]
    · constructor
      · intro found
        by_cases hc : c.created = []
        · exact .inl hc
        · obtain ⟨child, hm⟩ := List.exists_mem_of_ne_nil _ hc
          exact .inr ((findsBelow_iff formed kept (hung child hm)).1 (found child hm))
      · rintro (hc | hc) child hm
        · simp [hc] at hm
        · exact (findsBelow_iff formed kept (hung child hm)).2 hc
  · intro a b edge run
    obtain ⟨child, given, parent, formed, kept, hung⟩ :=
      ((makes_link_linked desk a b edge).leads page rfl).ok run
    exact ⟨child, given, findsBelow_iff formed kept hung⟩

/-- A page with two roots, of which the first has a bar in its identifier. -/
def cutPage : Page where
  slide := [
    { id := 2, name := "Rectangle 1", descr := some "graph[](LR)[A|1][]",
      form := .figure "RECTANGLE" ⟨0, 0, 952500, 952500⟩ none none {} },
    { id := 3, name := "Rectangle 2", descr := some "graph[](LR)[A2][]",
      form := .figure "RECTANGLE" ⟨1905000, 0, 952500, 952500⟩ none none {} }]

/-- A child below the root with the bar is not found, and one that is linked below the other root is. -/
theorem finds_children_cut :
    (∃ after c, (createChildren Desk.bare (some 2) "BOTTOM" 1 none [] none).run.run cutPage = (.ok c, after) ∧
      c.created = [4] ∧ ¬after.slide.FindsBelow 2 4) ∧
    ∃ after c, (link Desk.bare (some 3) (some 2) none).run.run cutPage = (.ok c, after) ∧
      after.slide.FindsBelow 3 2 := by
  constructor
  · have run : ((createChildren Desk.bare (some 2) "BOTTOM" 1 none [] none).run.run cutPage).1 =
        .ok ⟨2, [4], ["B1"], [], [(2, 4)]⟩ := by decide +kernel
    have kept : ((createChildren Desk.bare (some 2) "BOTTOM" 1 none [] none).run.run
        cutPage).2.slide.descriptorOf? 2 = some ⟨"A|1", [], "LR", [⟨"B1", ""⟩]⟩ := by decide +kernel
    refine ⟨_, _, run_eq run, rfl, fun found => ?_⟩
    rcases ((finds_children_iff Desk.bare cutPage _ _).1 _ _ _ _ _ _ (run_eq run)).1 (by simpa using found) with
      hnone | ⟨d, hd, hc⟩
    · cases hnone
    · obtain rfl := Option.some.inj (kept.symm.trans hd)
      revert hc
      decide
  · have run : ((link Desk.bare (some 3) (some 2) none).run.run cutPage).1 =
        .ok ⟨3, [], ["B1"], [], [(3, 2)]⟩ := by decide +kernel
    have kept : ((link Desk.bare (some 3) (some 2) none).run.run cutPage).2.slide.descriptorOf? 3 =
        some ⟨"A2", [], "LR", [⟨"B1", ""⟩]⟩ := by decide +kernel
    refine ⟨_, _, run_eq run, ?_⟩
    obtain ⟨child, given, found⟩ := (finds_children_iff Desk.bare cutPage _ _).2 _ _ _ (run_eq run)
    obtain rfl : child = 2 := by simpa [eq_comm] using given
    exact found.2 ⟨_, kept, by decide⟩

end Command

end FlowDeck
