import FlowDeck.Command.Scope
import FlowDeck.Proofs.Deck.Drawing
import FlowDeck.Proofs.Hierarchy.Restoring

/-!
# Asking a page

The layout that is in effect below a node, and its relatives. What a page answers is read off its
outline, so it stays the same when the shapes come in another order, and when all descriptors are stored
again.
-/

namespace FlowDeck

namespace Edit

variable {α β : Type} {m : Edit α} {f : α → Edit β} {sl : Slide} {a : α} {b : β} {id : ShapeId} {s : Shape}

/-- On this slide the edit comes to this result, and leaves the page as it is. -/
def Gives (m : Edit α) (sl : Slide) (a : α) : Prop :=
  ∀ page : Page, page.slide = sl → m.run.run page = (.ok a, page)

theorem gives_pure : Gives (pure a) sl a := fun _ _ => rfl

theorem Gives.bind (hm : Gives m sl a) (hf : Gives (f a) sl b) : Gives (m >>= f) sl b :=
  fun page hp => run_bind_ok.2 ⟨a, page, hm page hp, hf page hp⟩

theorem Gives.run_bind {page : Page} (h : Gives m sl a) (hp : page.slide = sl) :
    (m >>= f).run.run page = (f a).run.run page := by
  rw [Edit.run_bind, h page hp]

theorem Gives.followed {R : β → Slide → Prop} {E : Slide → Prop} (h : Gives m sl a) (hf : Makes (f a) sl R E) :
    Makes (m >>= f) sl R E where
  leads page hp := by
    rw [leads_bind, Leads, h page hp]
    exact hf.leads page hp

theorem gives_slide : Gives slide sl sl := by
  rintro page rfl
  rfl

theorem gives_outline : Gives outline sl sl.outline := gives_slide.bind gives_pure

theorem gives_descriptor? (h : sl.shape? id = some s) : Gives (descriptor? id) sl s.descriptor? := by
  have found : Gives (shape id) sl s := by
    refine gives_slide.bind ?_
    simp only [h]
    exact gives_pure
  exact found.bind gives_pure

theorem gives_requireNode (h : sl.hasNode id) : Gives (requireNode (some id)) sl id := by
  refine gives_slide.bind ?_
  rw [if_pos h]
  exact gives_pure

theorem gives_descriptorOf? (h : ∃ s ∈ sl, s.id = id) : Gives (descriptor? id) sl (sl.descriptorOf? id) := by
  obtain ⟨s, hs⟩ := Slide.exists_shape? h
  rw [Slide.descriptorOf?, hs]
  exact gives_descriptor? hs

/-- The layout below a node is the one of its descriptor in the outline. -/
theorem gives_layoutBelow (hn : sl.hasNode id) :
    Gives (layoutBelow id) sl (((sl.descriptorOf? id).map sl.outline.layout).getD defaultLayout.token) := by
  refine gives_outline.bind ?_
  unfold layoutIn
  rw [Slide.lookup_eq_descriptorOf? (Slide.mem_nodes.2 hn)]
  cases hd : sl.descriptorOf? id with
  | some d => exact gives_pure
  | none =>
    refine (gives_descriptorOf? (Slide.exists_of_hasNode hn)).bind ?_
    rw [hd]
    exact gives_pure

end Edit

open Edit

namespace Slide

variable {sl sl' : Slide} {node : ShapeId} {s : Shape}

/-! ## In another order -/

theorem outline_perm (hu : (sl.map (·.id)).Nodup) (hp : sl.Perm sl') : sl.outline.Perm sl'.outline := by
  rw [outline_eq hu, outline_eq ((hp.map _).nodup_iff.1 hu)]
  exact hp.filterMap _

theorem descriptorOf?_perm (hu : (sl.map (·.id)).Nodup) (hp : sl.Perm sl') (hn : sl.hasNode node) :
    sl'.descriptorOf? node = sl.descriptorOf? node := by
  obtain ⟨s, hs, rfl⟩ := exists_of_hasNode hn
  rw [descriptorOf?, descriptorOf?, shape?_of_mem hu hs, shape?_of_mem ((hp.map _).nodup_iff.1 hu) (hp.subset hs)]

theorem separate_outline (hd : sl.outline.Distinct) : sl.outline.Separate where
  eq := by
    rintro ⟨n, d⟩ hd' ⟨m, e⟩ he rfl
    rw [eq_of_mem_outline hd' he]
  distinct := hd

def described (texts : List (ShapeId × String)) : Slide :=
  texts.map fun (id, text) => ⟨id, "", some text, none, .textBox ⟨0, 0, 0, 0⟩ {}⟩

end Slide

namespace Command

open Slide

variable {sl sl' : Slide} {node : ShapeId} {s : Shape}

theorem gives_relatives (scope : Scope) (h : ∃ s ∈ sl, s.id = node) :
    Gives (relatives scope node) sl (((sl.descriptorOf? node).map (scope.relatives sl.outline node)).getD []) := by
  refine (gives_descriptorOf? h).bind ?_
  cases sl.descriptorOf? node with
  | none => exact gives_pure
  | some d => exact gives_outline.bind gives_pure

section
variable (hn : (sl.map (·.id)).Nodup) (hd : sl.outline.Distinct) (hr : sl.outline.Resolved) (hp : sl.Perm sl')
include hn hd hr hp

theorem layoutBelow_perm (h : sl.hasNode node) (h' : sl'.hasNode node) :
    ∃ layout, Gives (layoutBelow node) sl layout ∧ Gives (layoutBelow node) sl' layout := by
  have separate := separate_outline hd
  have same : (sl'.descriptorOf? node).map sl'.outline.layout = (sl.descriptorOf? node).map sl.outline.layout := by
    rw [descriptorOf?_perm hn hp h]
    cases typed : sl.descriptorOf? node with
    | none => rfl
    | some d =>
      have here := mem_outline.2 ⟨mem_nodes.2 h, typed⟩
      exact congrArg some (Outline.layout_perm separate hr (outline_perm hn hp) here)
  exact ⟨_, gives_layoutBelow h, same ▸ gives_layoutBelow h'⟩

theorem mem_relatives_perm {d : Descriptor} (he : (node, d) ∈ sl.outline) (scope : Scope) (n : ShapeId) :
    n ∈ scope.relatives sl.outline node d ↔ n ∈ scope.relatives sl'.outline node d := by
  have outlines := outline_perm hn hp
  cases scope with
  | siblings =>
    simp only [Scope.relatives, Outline.siblings]
    exact (Outline.firstThen_perm outlines node _).mem_iff
  | level =>
    simp only [Scope.relatives, Outline.levelPeers]
    split
    · exact Iff.rfl
    · exact (Outline.firstThen_perm outlines node _).mem_iff
  | ancestors =>
    simp only [Scope.relatives, Outline.ancestors_perm (separate_outline hd) hr outlines he]
  | family => exact Outline.mem_family_perm outlines

/-- The order of the shapes does not count where numbers are not shared, no two nodes are the same to the
hierarchy, and each entry of a chain stands for a node at the end of the chain in front of it: the layout
below a node is the same in any order, its ancestors are the nodes in its chain from the root down, and
its relatives of every kind are the same nodes. -/
theorem asking_perm (hnode : sl.hasNode node) :
    (∃ layout, Gives (layoutBelow node) sl layout ∧ Gives (layoutBelow node) sl' layout) ∧
      (∃ line, Gives (relatives .ancestors node) sl line ∧ Gives (relatives .ancestors node) sl' line ∧
        ∀ d, (node, d) ∈ sl.outline → sl.outline.IsLine d line) ∧
      ∀ scope, ∃ found found', Gives (relatives scope node) sl found ∧ Gives (relatives scope node) sl' found' ∧
        ∀ n, n ∈ found ↔ n ∈ found' := by
  obtain ⟨s, hs, hid, isNode⟩ := hasNode_iff.1 hnode
  have hnode' : sl'.hasNode _ := hasNode_iff.2 ⟨s, hp.subset hs, hid, isNode⟩
  have separate := separate_outline hd
  refine ⟨layoutBelow_perm hn hd hr hp hnode hnode', ?_⟩
  have given := fun scope => gives_relatives scope (exists_of_hasNode hnode)
  have given' := fun scope => gives_relatives scope (exists_of_hasNode hnode')
  rw [descriptorOf?_perm hn hp hnode] at given'
  cases typed : sl.descriptorOf? node with
  | none =>
    simp only [typed, Option.map_none, Option.getD_none] at given given'
    refine ⟨⟨[], given _, given' _, fun d he => ?_⟩, fun scope => ⟨[], [], given scope, given' scope, fun _ => Iff.rfl⟩⟩
    rw [(mem_outline.1 he).2] at typed
    cases typed
  | some d =>
    have he := mem_outline.2 ⟨mem_nodes.2 hnode, typed⟩
    simp only [typed, Option.map_some, Option.getD_some] at given given'
    refine ⟨⟨_, given .ancestors, ?_, fun e hm => ?_⟩, fun scope =>
      ⟨_, _, given scope, given' scope, mem_relatives_perm hn hd hr hp he scope⟩⟩
    · have same : Scope.ancestors.relatives sl.outline _ d = Scope.ancestors.relatives sl'.outline _ d :=
        (Outline.ancestors_perm separate hr (outline_perm hn hp) he).symm
      rw [same]
      exact given' .ancestors
    · obtain rfl := eq_of_mem_outline he hm
      exact hr.isLine_ancestors separate he

end

/-- Two trees whose nodes below the roots have the same identifier, with one child behind its root. -/
def twins : Slide :=
  described [(5, "graph[A2](TD)[B1][]"), (2, "graph[](LR)[A1][B1:DT]"), (3, "graph[](RL)[A2][B1]"),
    (4, "graph[A1]()[B1][]")]

theorem outline_twins : twins.outline =
    [(5, ⟨"B1", ["A2"], "TD", []⟩), (2, ⟨"A1", [], "LR", [⟨"B1", "DT"⟩]⟩), (3, ⟨"A2", [], "RL", [⟨"B1", ""⟩]⟩),
      (4, ⟨"B1", ["A1"], "", []⟩)] := by
  decide +kernel

theorem asking_perm_twins : twins.outline.Resolved ∧
    (∃ layout, Gives (layoutBelow 4) twins layout ∧ Gives (layoutBelow 4) twins.reverse layout) ∧
      (∃ line, Gives (relatives .ancestors 4) twins line ∧ Gives (relatives .ancestors 4) twins.reverse line ∧
        ∀ d, (4, d) ∈ twins.outline → twins.outline.IsLine d line) ∧
      ∀ scope, ∃ found found', Gives (relatives scope 4) twins found ∧ Gives (relatives scope 4) twins.reverse found' ∧
        ∀ n, n ∈ found ↔ n ∈ found' := by
  have distinct : twins.outline.Distinct := by
    rw [outline_twins]
    exact ⟨by decide⟩
  have resolved : twins.outline.Resolved := by
    rw [outline_twins, Outline.resolved_iff]
    decide
  exact ⟨resolved, asking_perm (by decide) distinct resolved (List.reverse_perm twins).symm (by decide)⟩

end Command

/-! ## Stored again -/

namespace Slide

variable {sl : Slide} {node n : ShapeId} {entries : Outline}

/-- The slide with these descriptors stored in the nodes that they stand beside. -/
def storingAll (sl : Slide) (entries : Outline) : Slide :=
  entries.foldl (fun sl e => sl.storing e.1 e.2) sl

def restored (sl : Slide) : Slide :=
  sl.storingAll sl.outline

theorem storingAll_concat (sl : Slide) (entries : Outline) (e : ShapeId × Descriptor) :
    sl.storingAll (entries ++ [e]) = (sl.storingAll entries).storing e.1 e.2 := by
  rw [storingAll, List.foldl_append]
  rfl

theorem nodes_storingAll (sl : Slide) (entries : Outline) : (sl.storingAll entries).nodes = sl.nodes := by
  induction entries using List.reverseRecOn with
  | nil => rfl
  | append_singleton entries e ih => rw [storingAll_concat, nodes_storing, ih]

/-- Each node whose own descriptor is stored again has it as it is stored, and the others have theirs. -/
theorem descriptorOf?_storingAll (h : entries ⊆ sl.outline) (n : ShapeId) :
    (sl.storingAll entries).descriptorOf? n =
      if n ∈ entries.map (·.1) then (sl.descriptorOf? n).map (·.stored) else sl.descriptorOf? n := by
  induction entries using List.reverseRecOn with
  | nil => rfl
  | append_singleton entries e ih =>
    obtain ⟨m, d⟩ := e
    have mem : (m, d) ∈ sl.outline := h (List.mem_append_right _ List.mem_cons_self)
    obtain ⟨node, typed⟩ := mem_outline.1 mem
    rw [storingAll_concat]
    by_cases same : n = m
    · subst same
      have there : ∃ s ∈ sl.storingAll entries, s.id = n :=
        exists_of_mem_nodes (by rw [nodes_storingAll]; exact node)
      rw [if_pos (by simp), typed, descriptorOf?_storing there, Descriptor.read?_render (wellFormed_of_mem mem)]
      rfl
    · have others : n ∈ (entries ++ [(m, d)]).map (·.1) ↔ n ∈ entries.map (·.1) := by simp [same]
      rw [descriptorOf?_storing_other same, ih fun e he => h (List.mem_append_left _ he)]
      exact if_congr others.symm rfl rfl

theorem descriptorOf?_restored (hn : n ∈ sl.nodes) :
    sl.restored.descriptorOf? n = (sl.descriptorOf? n).map (·.stored) := by
  rw [restored, descriptorOf?_storingAll (List.Subset.refl _)]
  split
  · rfl
  · next other =>
    cases typed : sl.descriptorOf? n with
    | none => rfl
    | some d => exact absurd (List.mem_map.2 ⟨_, mem_outline.2 ⟨hn, typed⟩, rfl⟩) other

theorem outline_restored (sl : Slide) : sl.restored.outline = sl.outline.restored := by
  rw [outline, outline, restored, nodes_storingAll, Outline.restored, List.map_filterMap]
  refine List.filterMap_congr fun n hn => ?_
  rw [← restored, descriptorOf?_restored hn]
  cases sl.descriptorOf? n <;> rfl

/-- Where each entry of a chain stands for a node at the end of the chain in front of it, or for none at all,
the layout below a node is the same after all descriptors have been stored again. -/
theorem layoutBelow_restored (h : sl.outline.Settled) (hn : sl.hasNode node) :
    ∃ layout, Gives (layoutBelow node) sl layout ∧ Gives (layoutBelow node) sl.restored layout := by
  have there : sl.restored.hasNode node := by
    rw [← mem_nodes, restored, nodes_storingAll, mem_nodes]
    exact hn
  have after := gives_layoutBelow there
  refine ⟨_, gives_layoutBelow hn, ?_⟩
  rw [outline_restored, descriptorOf?_restored (mem_nodes.2 hn)] at after
  cases typed : sl.descriptorOf? node with
  | none =>
    rw [typed] at after
    exact after
  | some d =>
    rw [typed] at after
    have same := h.layout_restored (mem_outline.2 ⟨mem_nodes.2 hn, typed⟩)
    simpa [same] using after

/-- A root without a layout with its child, and a node whose parent is missing. -/
def loose : Slide :=
  described [(2, "graph[]()[A1][B1]"), (3, "graph[A1]()[B1][]"), (4, "graph[A7]()[B2][]")]

theorem layoutBelow_restored_loose : loose.restored.outline ≠ loose.outline ∧
    ∃ layout, Gives (layoutBelow 3) loose layout ∧ Gives (layoutBelow 3) loose.restored layout := by
  have settled : loose.outline.Settled := by
    have outline : loose.outline = [(2, ⟨"A1", [], "", [⟨"B1", ""⟩]⟩), (3, ⟨"B1", ["A1"], "", []⟩),
      (4, ⟨"B2", ["A7"], "", []⟩)] := by decide +kernel
    rw [outline]
    unfold Outline.Settled
    decide
  exact ⟨by decide +kernel, layoutBelow_restored settled rfl⟩

end Slide

end FlowDeck
