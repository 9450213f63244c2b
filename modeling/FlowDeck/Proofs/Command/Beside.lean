import FlowDeck.Proofs.Command.Batches
import FlowDeck.Proofs.Command.Repeating
import FlowDeck.Proofs.Hierarchy.Descent

/-!
# Children of another node

On an orderly slide children stand below the node they were created for, and below no other. So what a
slide shows of a node and of its children is the same after children of another node have been created.
-/

namespace FlowDeck

open Slide Edit Record

variable {sl after : Slide} {node other id : ShapeId} {parent q d : Descriptor} {ids : List String}
variable {kids lines : List Shape} {desk : Desk}

def Descriptor.hasBelow (parent : Descriptor) (i : List String × String) : Bool :=
  levelOf i.2 == nextLevel parent.level && (i.1 == parent.chainBelow || i.1 == [parent.current])

theorem childrenBelow_map (outline : Outline) (parent : Descriptor) :
    (childrenBelow outline parent).map (fun e => (e.1, e.2.current)) =
      (outline.identities.filter fun i => parent.hasBelow i.2).map fun i => (i.1, i.2.2) := by
  rw [Outline.identities, List.filter_map, List.map_map, childrenBelow, Outline.children, List.filter_filter]
  rfl

/-- What is stored below one node does not count as stored below another. -/
theorem hasBelow_chainBelow (hp : parent.Placed) (hq : q.Placed) (hne : parent.identity ≠ q.identity) (id : String) :
    parent.hasBelow (q.chainBelow, id) = false := by
  have chain : q.chainBelow ≠ parent.chainBelow := fun same =>
    hne (Descriptor.identity_eq_of_chainBelow same).symm
  -- A chain of one identifier stands for a node of that name at any depth, but there is none at another.
  have single : q.chainBelow ≠ [parent.current] := by
    intro same
    obtain ⟨hchain, hcurrent⟩ : q.chain = [] ∧ q.current = parent.current := by
      simpa [Descriptor.chainBelow, List.append_eq_cons_iff] using same
    have depth : parent.chain.length = q.chain.length := hp.current.depth_eq (hcurrent ▸ hq.current)
    rw [hchain, List.length_nil, List.length_eq_zero_iff] at depth
    exact hne (Prod.ext (depth.trans hchain.symm) hcurrent.symm)
  simp [Descriptor.hasBelow, chain, single]

namespace Slide

theorem exists_shape?_of_mem (h : (id, d) ∈ sl.outline) : ∃ s, sl.shape? id = some s :=
  exists_shape? (exists_of_mem_outline h)

theorem sameView_refl (h : sl.outline.lookup node = some parent) : sl.SameView sl node parent := by
  obtain ⟨s, hs⟩ := exists_shape?_of_mem (Outline.mem_of_lookup h)
  refine ⟨h, h, ⟨s, s, hs, hs, rfl⟩, rfl, fun id hid => ?_⟩
  obtain ⟨e, he, rfl⟩ := List.mem_map.1 hid
  obtain ⟨t, ht⟩ := exists_shape?_of_mem (List.mem_of_mem_filter (List.mem_of_mem_filter he))
  exact ⟨t, t, ht, ht, rfl⟩

theorem identities_storing (hq : (node, q) ∈ sl.outline) (hw : d.Writable) (hi : d.identity = q.identity) :
    (sl.storing node d).outline.identities = sl.outline.identities := by
  rw [Outline.identities, Outline.identities, outline, outline, nodes_storing, List.map_filterMap, List.map_filterMap]
  refine List.filterMap_congr fun n hn => ?_
  by_cases same : n = node
  · subst same
    rw [descriptorOf?_storing (exists_of_mem_outline hq), hw.read?_render, (mem_outline.1 hq).2]
    simp [hi]
  · rw [descriptorOf?_storing_other same]

theorem HasChildren.box_of {s : Shape} (h : sl.HasChildren other q ids kids lines after) (hs : sl.shape? id = some s) :
    ∃ s', after.shape? id = some s' ∧ s'.box = s.box := by
  by_cases same : id = other
  · subst same
    refine ⟨s.withMemo (q.attach (ids.map fun id => { id })).render, ?_, (s.rewrites_withMemo _).box⟩
    rw [h.eq]
    apply shape?_append
    apply shape?_append
    exact shape?_storing hs _
  · exact ⟨s, h.made.shape_other hs same, rfl⟩

/-- The children of another node show in the identities of that node and of themselves alone. -/
theorem HasChildren.identities {count : Int} (h : sl.Orderly) (hq : (other, q) ∈ sl.outline)
    (hids : newChildIds q (childrenBelow sl.outline q) count = .ok ids)
    (hc : sl.HasChildren other q ids kids lines after) : ∃ new : List (ShapeId × List String × String),
      after.outline.identities = sl.outline.identities ++ new ∧ ∀ i ∈ new, i.2.1 = q.chainBelow := by
  obtain ⟨-, idAt, -⟩ := newChildIds_spec h hq hids
  obtain ⟨leveled, writable⟩ := h.writable_of_mem hq
  let refs : List ChildRef := ids.map fun id => { id }
  have fit : ∀ ref ∈ refs, FitsChild ref := by
    intro ref href
    obtain ⟨id, hid, rfl⟩ := List.mem_map.1 href
    exact Descriptor.fitsChild_of_isIdAt (idAt id hid) (.inl rfl)
  refine ⟨Outline.identities (kids.filterMap Shape.entry?), ?_, fun (n, i) hi => ?_⟩
  · rw [hc.outline, ← identities_storing hq (writable.attach refs fit) rfl]
    exact List.map_append
  · obtain ⟨e, he, rfl⟩ := Outline.mem_identities.1 hi
    obtain ⟨s, hs, entry⟩ := List.mem_filterMap.1 he
    obtain ⟨-, -, hread⟩ := Shape.entry?_eq_some_iff.1 entry
    obtain ⟨id, hid, hmemo⟩ := hc.memo_of_mem hs
    have written : (newChild q id).Writable :=
      leveled.toPlaced.writable_child (idAt id hid) leveled.layout List.nodup_nil (by simp)
    rw [Shape.descriptor?, hmemo, written.read?_render] at hread
    obtain rfl := Option.some.inj hread
    exact congrArg Prod.fst (Descriptor.stored_identity _)

/-- A slide shows the same of a node after children of another node have been created. -/
theorem HasChildren.sameView {count : Int} (h : sl.Orderly) (hp : (node, parent) ∈ sl.outline)
    (hq : (other, q) ∈ sl.outline) (hne : parent.identity ≠ q.identity)
    (hids : newChildIds q (childrenBelow sl.outline q) count = .ok ids)
    (hc : sl.HasChildren other q ids kids lines after) : sl.SameView after node parent := by
  have placed := (h.writable_of_mem hp).1.toPlaced
  have placedQ := (h.writable_of_mem hq).1.toPlaced
  have apart : node ≠ other := by
    rintro rfl
    exact hne (congrArg Descriptor.identity (eq_of_mem_outline hp hq))
  obtain ⟨s, hs⟩ := exists_shape?_of_mem hp
  obtain ⟨new, all, below⟩ := HasChildren.identities h hq hids hc
  have none : new.filter (fun i => parent.hasBelow i.2) = [] := by
    rw [List.filter_eq_nil_iff]
    intro (n, chain, id) hi
    obtain rfl : chain = q.chainBelow := below _ hi
    rw [hasBelow_chainBelow placed placedQ hne id]
    exact Bool.false_ne_true
  refine ⟨lookup_eq_of_mem hp, lookup_eq_of_mem ?_, ⟨s, s, hs, hc.made.shape_other hs apart, rfl⟩, ?_, fun id hid => ?_⟩
  · rw [hc.outline]
    exact List.mem_append_left _ (mem_outline_storing_other apart hp)
  · rw [childrenBelow_map, childrenBelow_map, all, List.filter_append, none, List.append_nil]
  · obtain ⟨⟨n, e⟩, he, rfl⟩ := List.mem_map.1 hid
    obtain ⟨t, ht⟩ := exists_shape?_of_mem (List.mem_of_mem_filter (List.mem_of_mem_filter he))
    obtain ⟨t', ht', same⟩ := hc.box_of ht
    exact ⟨t, t', ht, ht', same⟩

end Slide

namespace Command

theorem makes_createChildren_none (desk : Desk) (given : Option ShapeId) (direction : String) {count : Int}
    (gap : Option (Measure Float)) (labels : List String) (edge : Option EdgeStyle) (hcount : asked count labels ≤ 0) :
    Makes (createChildren desk given direction count gap labels edge) sl (fun _ after => after = sl) fun _ => True := by
  refine (reads_requireNode given).followed trivial fun node => ?_
  refine (reads_requireSide direction).followed trivial fun direction => ?_
  refine .ite (fun _ => ?_) fun some => absurd hcount some
  exact (reads_note _ _).followed trivial fun _ => makes_pure rfl

/-- Children of another node do not change what a slide shows of this one, and no number becomes free. -/
theorem makes_createChildren_beside (desk : Desk) (direction : String) (count : Int) (gap : Option (Measure Float))
    (labels : List String) (edge : Option EdgeStyle) (h : sl.Orderly) (hp : (node, parent) ∈ sl.outline)
    (hq : (other, q) ∈ sl.outline) (hne : parent.identity ≠ q.identity) :
    Makes (createChildren desk (some other) direction count gap labels edge) sl
      (fun _ after => sl.SameView after node parent ∧ ∀ i, after.Lacks i → sl.Lacks i) fun _ => True := by
  by_cases hcount : asked count labels ≤ 0
  · refine (makes_createChildren_none desk (some other) direction gap labels edge hcount).mono (fun c after same => ?_)
      fun _ h => h
    subst same
    exact ⟨sameView_refl (lookup_eq_of_mem hp), fun _ lacks => lacks⟩
  · refine (makes_createChildren_exact desk (some other) direction gap labels edge (not_le.1 hcount)).mono
      (fun c after made => ?_) fun _ h => h
    obtain ⟨start, parent', kids, lines, given, typed, hids, -, children⟩ := made
    obtain rfl := Option.some.inj given
    obtain ⟨rfl, rfl⟩ := Typed.unique ⟨lookup_eq_of_mem hq, .inl rfl⟩ typed
    refine ⟨children.sameView h hp hq hne hids, fun i lacks => ?_⟩
    rw [children.eq, lacks_append, lacks_append] at lacks
    exact lacks_storing.1 lacks.1.1

end Command

end FlowDeck
