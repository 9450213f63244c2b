import FlowDeck.Proofs.Command.Batches
import FlowDeck.Proofs.Command.Linking

/-!
# Links that close a circle

Whether a node is an ancestor of its new parent is asked before it gets its identifier. An entry in the chain
of the parent that leads nowhere stands for any node of that identifier, and so it may come to stand for the
child: then each of the two is above the other. This is said exactly here, for any page.
-/

namespace FlowDeck

open Slide Edit Command Record

/-! ## The first that is found -/

theorem find?_eq_some_iff_takeWhile {α : Type} [DecidableEq α] {p : α → Bool} {a : α} (xs : List α) (ha : a ∈ xs) :
    xs.find? p = some a ↔ p a = true ∧ ∀ x ∈ xs.takeWhile (· != a), p x = false := by
  induction xs with
  | nil => cases ha
  | cons x xs ih =>
    by_cases hx : x = a
    · subst hx
      rw [List.takeWhile_cons_of_neg (by simp), List.find?_cons]
      cases hp : p x with
      | true => simp
      | false =>
        constructor
        · intro found
          have := List.find?_some found
          rw [hp] at this
          cases this
        · intro h
          cases h.1
    · have rest : a ∈ xs := (List.mem_cons.1 ha).resolve_left (Ne.symm hx)
      rw [List.takeWhile_cons_of_pos (by simpa using hx), List.find?_cons]
      cases hp : p x with
      | true => simp [hp, hx]
      | false => simp [hp, ih rest]

namespace Slide

variable {sl start after : Slide} {node child : ShapeId} {parent linked d e : Descriptor} {id : String}

/-- Behind the child, and anywhere with this chain, no other node has the identifier. -/
def StandsAlone (sl : Slide) (child : ShapeId) (id : String) (chain : List String) : Prop :=
  ∀ n ∈ sl.nodes, n ≠ child → ∀ d, sl.descriptorOf? n = some d → d.current = id →
    d.chain ≠ chain ∧ n ∉ sl.nodes.takeWhile (· != child)

/-- The chain names the identifier at a place where no node stands, and the child is the first of that name. -/
def ClosesCircle (sl : Slide) (child : ShapeId) (id : String) (chain : List String) : Prop :=
  ∃ i, chain[i]? = some id ∧ sl.StandsAlone child id (chain.take i)

def answers (sl : Slide) (id : String) (n : ShapeId) : Bool :=
  (sl.descriptorOf? n).any (·.current == id)

theorem answers_iff {n : ShapeId} : sl.answers id n = true ↔ ∃ e, sl.descriptorOf? n = some e ∧ e.current = id := by
  simp [answers, Option.any_eq_true]

theorem head?_named_iff (hd : sl.descriptorOf? child = some d) :
    (sl.outline.named id).head? = some (child, d) ↔ sl.nodes.find? (sl.answers id) = some child := by
  have same : (sl.outline.named id).head? =
      (sl.nodes.find? (sl.answers id)).bind fun n => (sl.descriptorOf? n).map fun d => (n, d) := by
    rw [Outline.named, List.head?_filter, outline, List.find?_filterMap]
    simp only [Option.any_map]
    rfl
  rw [same]
  cases sl.nodes.find? (sl.answers id) with
  | none => simp
  | some n =>
    rw [Option.bind_some]
    constructor
    · intro h
      obtain ⟨e, -, he⟩ := Option.map_eq_some_iff.1 h
      rw [(Prod.mk.inj he).1]
    · intro h
      obtain rfl := Option.some.inj h
      rw [hd, Option.map_some]

/-- A node is looked up by another chain than its own exactly if it is the first of its name and none has that
chain. -/
theorem locate?_iff_standsAlone {chain : List String} (hc : child ∈ sl.nodes)
    (hd : sl.descriptorOf? child = some d) (hne : d.chain ≠ chain) :
    (∃ entry, sl.outline.locate? id chain = some entry ∧ entry.1 = child) ↔
      d.current = id ∧ sl.StandsAlone child id chain := by
  have ofChild {e : Descriptor} (he : (child, e) ∈ sl.outline) : e = d :=
    Option.some.inj ((mem_outline.1 he).2.symm.trans hd)
  constructor
  · intro found
    obtain ⟨⟨n, e⟩, h, hn⟩ := found
    subst hn
    obtain ⟨hmem, hcurrent, exact⟩ := Outline.locate?_spec h
    obtain rfl := ofChild hmem
    have other : (sl.outline.named id).find? (fun entry => entry.2.chain == chain) = none := by
      cases hf : (sl.outline.named id).find? fun entry => entry.2.chain == chain with
      | none => rfl
      | some f =>
        have named := List.mem_filter.1 (List.mem_of_find?_eq_some hf)
        exact absurd (exact ⟨f, named.1, by simpa using named.2, by simpa using List.find?_some hf⟩) hne
    rw [Outline.locate?, other, Option.none_or, head?_named_iff hd, find?_eq_some_iff_takeWhile _ hc] at h
    refine ⟨hcurrent, fun m hm hmn f hf hid => ⟨fun hchain => ?_, fun behind => ?_⟩⟩
    · exact hne (exact ⟨(m, f), mem_outline.2 ⟨hm, hf⟩, hid, hchain⟩)
    · have silent := h.2 m behind
      rw [answers_iff.2 ⟨f, hf, hid⟩] at silent
      cases silent
  · intro stands
    obtain ⟨hcurrent, alone⟩ := stands
    have other : (sl.outline.named id).find? (fun entry => entry.2.chain == chain) = none := by
      rw [List.find?_eq_none]
      intro entry hf
      obtain ⟨m, f⟩ := entry
      obtain ⟨hmem, hid⟩ := List.mem_filter.1 hf
      obtain ⟨hm, hmf⟩ := mem_outline.1 hmem
      by_cases hmn : m = child
      · subst hmn
        rw [ofChild hmem]
        simpa using hne
      · simpa using (alone m hm hmn f hmf (by simpa using hid)).1
    refine ⟨(child, d), ?_, rfl⟩
    rw [Outline.locate?, other, Option.none_or, head?_named_iff hd, find?_eq_some_iff_takeWhile _ hc]
    refine ⟨answers_iff.2 ⟨d, hd, hcurrent⟩, fun m behind => ?_⟩
    have hmn : m ≠ child := by simpa using List.mem_takeWhile_imp behind
    rw [Bool.eq_false_iff]
    intro hm
    obtain ⟨f, hf, hid⟩ := answers_iff.1 hm
    exact (alone m ((List.takeWhile_sublist _).subset behind) hmn f hf hid).2 behind

theorem LinkedAs.standsAlone_iff {chain : List String} (h : sl.LinkedAs node child parent linked after)
    (hp : after.descriptorOf? node = some e) (he : e.current ≠ id)
    (own : ∀ f, sl.descriptorOf? node = some f → f.current ≠ id) :
    after.StandsAlone child id chain ↔ sl.StandsAlone child id chain := by
  unfold StandsAlone
  rw [h.nodes]
  refine forall_congr' fun n => forall_congr' fun hn => forall_congr' fun hne => ?_
  by_cases hnode : n = node
  · subst hnode
    constructor
    · intro _ f hf hid
      exact absurd hid (own f hf)
    · intro _ f hf hid
      obtain rfl := Option.some.inj (hp.symm.trans hf)
      exact absurd hid he
  · rw [h.elsewhere n hn hnode hne]

/-- The chain of the child is at least as long as that of its parent. So the child is above the parent exactly if
an entry of the chain falls to it for want of a node. -/
theorem LinkedAs.mem_ancestors_iff (h : sl.LinkedAs node child parent linked after) (hne : child ≠ node)
    (hc : child ∈ sl.nodes) (hp : after.descriptorOf? node = some e) (hd : after.descriptorOf? child = some d)
    (hid : d.current = id) (longer : e.chain.length ≤ d.chain.length) (he : e.current ≠ id)
    (own : ∀ f, sl.descriptorOf? node = some f → f.current ≠ id) :
    child ∈ after.outline.ancestors node e ↔ sl.ClosesCircle child id e.chain := by
  have located {i : Nat} {name : String} (hi : e.chain[i]? = some name) :
      (∃ entry, after.outline.locate? name (e.chain.take i) = some entry ∧ entry.1 = child) ↔
        d.current = name ∧ after.StandsAlone child name (e.chain.take i) := by
    refine locate?_iff_standsAlone (h.nodes ▸ hc) hd fun same => ?_
    have shorter := (List.getElem?_eq_some_iff.1 hi).1
    have lengths := congrArg List.length same
    rw [List.length_take] at lengths
    omega
  rw [Outline.mem_ancestors]
  constructor
  · intro ⟨_, i, name, entry, hi, hl, hentry⟩
    obtain ⟨rfl, alone⟩ := (located hi).1 ⟨entry, hl, hentry⟩
    subst hid
    exact ⟨i, hi, (h.standsAlone_iff hp he own).1 alone⟩
  · intro ⟨i, hi, alone⟩
    obtain ⟨entry, hl, hentry⟩ := (located hi).2 ⟨hid, (h.standsAlone_iff hp he own).2 alone⟩
    exact ⟨hne, i, id, entry, hi, hl, hentry⟩

end Slide

theorem levelOf_linkedId {parent : Descriptor} {old : Option Descriptor} {pageChildren : Outline} {node : ShapeId}
    {id : String} (h : linkedId parent old pageChildren node = .ok id) : levelOf id = nextLevel parent.level := by
  unfold linkedId at h
  dsimp only at h
  split at h
  · next d hd =>
    obtain rfl := Except.ok.inj h
    have keeps := (Option.filter_eq_some_iff.1 hd).2
    simp only [Bool.and_eq_true, beq_iff_eq] at keeps
    exact keeps.1.1
  · rw [furtherId_eq h]
    exact levelOf_siblingId (isLevel_nextLevel _)

theorem ne_of_linkedId {parent : Descriptor} {old : Option Descriptor} {pageChildren : Outline} {node : ShapeId}
    {id : String} (h : linkedId parent old pageChildren node = .ok id) : parent.current ≠ id := by
  intro same
  have level := levelOf_linkedId h
  rw [← same] at level
  exact nextLevel_ne parent.current level.symm

namespace Slide

variable {sl start after : Slide} {node child : ShapeId} {parent : Descriptor} {id : String} {made : Creation}
variable {desk : Desk} {edge : Option EdgeStyle}

theorem Typed.descriptor_eq {d : Descriptor} (h : sl.Typed node parent start) (hn : node ∈ sl.nodes)
    (hd : sl.descriptorOf? node = some d) : d = parent := by
  rw [← lookup_eq_descriptorOf? hn] at hd
  rcases h.before with rfl | ⟨untyped, -⟩
  · exact Option.some.inj (hd.symm.trans h.here)
  · rw [untyped] at hd
    cases hd

theorem LinksBelow.read (h : sl.LinksBelow desk edge node child start parent id made after) :
    (∃ d, Descriptor.read? (linkedChild start.outline parent child id).render = some d ∧ d.current = id ∧
      d.chain = parent.chain ++ readChain parent.current.toList) ∧
    ∃ e, Descriptor.read? (parent.attach [⟨id, ""⟩]).render = some e ∧ e.current = parent.current ∧
      e.chain = parent.chain := by
  have formed := wellFormed_of_mem h.typed.mem
  have old (d : Descriptor) (hd : start.outline.lookup child = some d) : d.WellFormed :=
    wellFormed_of_mem (Outline.mem_of_lookup hd)
  have fits := fits_of_linkedId old h.numbered
  have unlisted : ']' ∉ childrenText (((start.outline.lookup child).map (·.children)).getD []) := by
    cases hd : start.outline.lookup child with
    | none => decide
    | some d => exact bracket_not_mem_childrenText (old d hd).children
  obtain ⟨d, hd, hchain⟩ := Descriptor.read?_render_below formed fits formed.layout unlisted
  have hcurrent := Descriptor.current_of_read?_below formed fits formed.layout unlisted hd
  refine ⟨⟨d, hd, hcurrent, hchain⟩, Descriptor.read?_render_attach formed ?_⟩
  simpa using fits.free _ (by simp)

theorem LinksBelow.mem_ancestors_iff (h : sl.LinksBelow desk edge node child start parent id made after)
    (hne : child ≠ node) (hc : child ∈ sl.nodes) (hn : node ∈ sl.nodes) :
    ∃ e, after.descriptorOf? node = some e ∧
      (child ∈ after.outline.ancestors node e ↔ sl.ClosesCircle child id e.chain) := by
  obtain ⟨⟨d, hd, hcurrent, hchain⟩, e, he, hcurrent', hchain'⟩ := h.read
  have linked := h.linkedAs hne hc
  have level := ne_of_linkedId h.numbered
  refine ⟨e, linked.above.trans he, ?_⟩
  apply linked.mem_ancestors_iff hne hc (linked.above.trans he) (linked.below.trans hd) hcurrent
  · rw [hchain, hchain', List.length_append]
    exact Nat.le_add_right _ _
  · rw [hcurrent']
    exact level
  · intro f hf
    rw [h.typed.descriptor_eq hn hf]
    exact level

end Slide

namespace Command

/-- After a link that succeeds, the child is an ancestor of its parent exactly if the chain of the parent names
the identifier that the child has got, at a place where no other node stands, and no other node of that name is
drawn before the child. -/
theorem link_closesCircle_iff (desk : Desk) {a b : Option ShapeId} {edge : Option EdgeStyle} {page after : Page}
    {c : Creation} (run : (link desk a b edge).run.run page = (.ok c, after)) :
    ∃ child parent id, (a = some c.parent ∧ b = some child ∨ a = some child ∧ b = some c.parent) ∧
      c.childIds = [id] ∧ after.slide.descriptorOf? c.parent = some parent ∧
      (child ∈ after.slide.outline.ancestors c.parent parent ↔ page.slide.ClosesCircle child id parent.chain) := by
  obtain ⟨node, child, start, parent, id, given, hn, hc, hne, links⟩ :=
    ((makes_link_exact desk a b edge).leads page rfl).ok run
  obtain ⟨rfl, hid⟩ := links.parent_eq
  obtain ⟨e, he, closes⟩ := links.mem_ancestors_iff hne (mem_nodes.2 hc) (mem_nodes.2 hn)
  exact ⟨child, e, id, given, hid, he, closes⟩

def danglingPage : Page where
  slide := [
    { id := 2, name := "Rectangle 1", descr := some "graph[B1](LR)[A1][]",
      form := .figure "RECTANGLE" ⟨0, 0, 952500, 952500⟩ none none {} },
    { id := 3, name := "Rectangle 2", form := .figure "RECTANGLE" ⟨1905000, 0, 952500, 952500⟩ none none {} }]

/-- The second node gets the name of the one that is not there, and is above the first from then on. -/
theorem link_closesCircle_dangling : ∃ after c,
    (link Desk.bare (some 2) (some 3) none).run.run danglingPage = (.ok c, after) ∧ c.parent = 2 ∧
      c.childIds = ["B1"] ∧ ∃ parent, after.slide.descriptorOf? 2 = some parent ∧
      3 ∈ after.slide.outline.ancestors 2 parent := by
  have run : ((link Desk.bare (some 2) (some 3) none).run.run danglingPage).1 =
      .ok ⟨2, [], ["B1"], [], [(2, 3)]⟩ := by decide +kernel
  have stored : ((link Desk.bare (some 2) (some 3) none).run.run danglingPage).2.slide.descriptorOf? 2 =
      some ⟨"A1", ["B1"], "LR", [⟨"B1", ""⟩]⟩ := by decide +kernel
  obtain ⟨child, parent, id, given, hid, hparent, closes⟩ := link_closesCircle_iff Desk.bare (run_eq run)
  obtain rfl : child = 3 := by simpa [eq_comm] using given
  obtain rfl : id = "B1" := (List.singleton_inj.1 hid).symm
  obtain rfl := Option.some.inj (stored.symm.trans hparent)
  refine ⟨_, _, run_eq run, rfl, rfl, _, hparent, closes.2 ⟨0, rfl, ?_⟩⟩
  have kept : danglingPage.slide.descriptorOf? 2 = some ⟨"A1", ["B1"], "LR", []⟩ := by decide +kernel
  intro n hn hne d hd hcurrent
  obtain rfl : n = 2 := by
    have listed : n = 2 ∨ n = 3 := by simpa using (show n ∈ [(2 : ShapeId), 3] from hn)
    exact listed.resolve_right hne
  obtain rfl := Option.some.inj (kept.symm.trans hd)
  exact absurd hcurrent (by decide)

end Command

end FlowDeck
