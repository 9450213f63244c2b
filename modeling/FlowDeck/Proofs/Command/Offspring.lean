import FlowDeck.Proofs.Command.Batches

/-!
# The children that come of a request

All that a request for children does to the hierarchy, on any page. The numbers of the children follow the
highest that the node lists or that a child of it has, each child keeps the descriptor of a leaf below the
node, and the node lists them after those it listed before.
-/

namespace FlowDeck

open Slide Edit Record

/-! ## Numbers -/

section
variable {level : String} {ids : List String} {n : Nat}

/-- One past the highest number at the level, and one where there is none. -/
structure NumbersOn (level : String) (ids : List String) (n : Nat) : Prop where
  above : ∀ id ∈ ids, ∀ m, numberAt? level id = some m → m < n
  least : n = 1 ∧ (∀ id ∈ ids, numberAt? level id = none) ∨ ∃ id ∈ ids, ∃ m, numberAt? level id = some m ∧ n = m + 1

theorem foldl_max_mem (ns : List Nat) (start : Nat) : ns.foldl max start = start ∨ ns.foldl max start ∈ ns := by
  induction ns generalizing start with
  | nil => exact .inl rfl
  | cons k ns ih =>
    rw [List.foldl_cons]
    rcases ih (max start k) with same | new
    · rw [same]
      rcases Nat.le_total k start with h | h
      · exact .inl (Nat.max_eq_left h)
      · rw [Nat.max_eq_right h]
        exact .inr List.mem_cons_self
    · exact .inr (List.mem_cons_of_mem _ new)

theorem numbersOn_nextNumber (level : String) (ids : List String) : NumbersOn level ids (nextNumber level ids) := by
  refine ⟨fun id hid m hm => lt_nextNumber hid hm, ?_⟩
  by_cases empty : ids.filterMap (numberAt? level) = []
  · left
    rw [List.filterMap_eq_nil_iff] at empty
    exact ⟨by rw [nextNumber, List.filterMap_eq_nil_iff.2 empty]; rfl, empty⟩
  · right
    have highest : (ids.filterMap (numberAt? level)).foldl max 0 ∈ ids.filterMap (numberAt? level) := by
      obtain ⟨first, rest, h⟩ := List.exists_cons_of_ne_nil empty
      rcases foldl_max_mem (ids.filterMap (numberAt? level)) 0 with same | new
      · have bound := (le_foldl_max (ids.filterMap (numberAt? level)) 0).2
        rw [same] at bound ⊢
        rw [h] at bound ⊢
        have := bound first List.mem_cons_self
        rw [Nat.le_zero.1 this]
        exact List.mem_cons_self
      · exact new
    obtain ⟨id, hid, hnumber⟩ := List.mem_filterMap.1 highest
    exact ⟨id, hid, _, hnumber, rfl⟩

theorem numberAt?_of_level {id : String} (h : levelOf id ≠ level) : numberAt? level id = none := by
  unfold numberAt? splitId? idParts?
  simp only
  split
  · rfl
  · rw [Option.map_some, Option.bind_some]
    exact if_neg h

theorem nextNumber_append_filter (outline : Outline) :
    nextNumber level (ids ++ (outline.filter fun entry => entry.2.level == level).map (·.2.current)) =
      nextNumber level (ids ++ outline.map (·.2.current)) := by
  suffices same : ((outline.filter fun entry => entry.2.level == level).map (·.2.current)).filterMap (numberAt? level) =
      (outline.map (·.2.current)).filterMap (numberAt? level) by
    rw [nextNumber, nextNumber, List.filterMap_append, List.filterMap_append, same]
  induction outline with
  | nil => rfl
  | cons entry outline ih =>
    by_cases h : entry.2.level = level
    · rw [List.filter_cons_of_pos (by simpa using h), List.map_cons, List.map_cons, List.filterMap_cons,
        List.filterMap_cons, ih]
    · rw [List.filter_cons_of_neg (by simpa using h), List.map_cons, List.filterMap_cons, numberAt?_of_level h, ih]

end

/-! ## Lists of children -/

theorem Descriptor.attach_new {ids : List String} (d : Descriptor) (hnew : ∀ id ∈ ids, id ∉ d.childIds)
    (hids : ids.Nodup) (hne : ∀ id ∈ ids, id ≠ "") :
    d.attach (ids.map fun id => { id }) = { d with children := d.children ++ ids.map fun id => { id } } := by
  induction ids using List.reverseRecOn with
  | nil => simp [attach]
  | append_singleton ids id ih =>
    have old : ids.Nodup := (List.nodup_append.1 hids).1
    have other : id ∉ ids := fun h => (List.nodup_append.1 hids).2.2 id h id (List.mem_singleton_self id) rfl
    have step := ih (fun i hi => hnew i (List.mem_append_left _ hi)) old fun i hi => hne i (List.mem_append_left _ hi)
    have last : id ∈ ids ++ [id] := List.mem_append_right _ (List.mem_singleton_self id)
    rw [List.map_append, ← attach_attach, step]
    have unlisted : id ∉ (d.children ++ ids.map fun id => ({ id } : ChildRef)).map (·.id) := by
      rw [List.map_append, List.map_map, List.mem_append, not_or]
      refine ⟨hnew id last, ?_⟩
      simpa using other
    rw [List.map_singleton, attach, List.foldl_cons, List.foldl_nil, attachRef, if_neg (hne id last), if_neg unlisted,
      List.append_assoc]

namespace Slide

variable {sl start after : Slide} {node : ShapeId} {parent : Descriptor} {ids : List String} {kids lines : List Shape}

-- A node that becomes a root has not been a child, and is none then.
theorem Typed.children (h : sl.Typed node parent start) (d : Descriptor) :
    start.outline.children d = sl.outline.children d := by
  rcases h.before with rfl | ⟨untyped, root, hroot, rfl⟩
  · rfl
  have childless : Outline.isChild root.stored d = false := by
    have chain := chain_freshRoot hroot
    simp [Outline.isChild, chain, Descriptor.chainBelow]
  have eq (sl : Slide) : sl.outline.children d = sl.nodes.filterMap fun n =>
      ((sl.descriptorOf? n).map fun e => (n, e)).filter fun entry => Outline.isChild entry.2 d := by
    rw [Outline.children, outline, List.filter_filterMap]
  rw [eq, eq, nodes_storing]
  refine List.filterMap_congr fun n hn => ?_
  by_cases same : n = node
  · subst same
    rw [lookup_eq_descriptorOf? hn] at untyped
    rw [untyped, descriptorOf?_storing (exists_of_mem_nodes hn), (writable_freshRoot hroot).read?_render]
    simp [childless]
  · rw [descriptorOf?_storing_other same]

theorem HasChildren.nodes (h : start.HasChildren node parent ids kids lines after) :
    after.nodes = start.nodes ++ kids.map (·.id) := by
  have kept : kids.filter (·.isNode) = kids := List.filter_eq_self.2 (forall_of_forall₂ h.kept fun _ _ h => h.1)
  have old := nodes_storing start node (parent.attach (ids.map fun id => { id }))
  rw [Slide.nodes] at old
  rw [Slide.nodes, h.eq, filter_isNode_append h.edges, List.filter_append, kept, List.map_append, old]

def takenBelow (sl : Slide) (parent : Descriptor) : List String :=
  parent.childIds ++ (sl.outline.children parent).map (·.2.current)

/-- All that a node comes to by as many children, of its kind and its size. -/
structure Offspring (sl : Slide) (node : ShapeId) (parent : Descriptor) (count : Nat) (kind : String) (size : Box Float)
    (c : Creation) (after : Slide) : Prop where
  nodes : after.nodes = sl.nodes ++ c.created
  created : c.created.length = count
  numbers : ∃ first, NumbersOn (nextLevel parent.level) (sl.takenBelow parent) first ∧
    c.childIds = (List.range count).map fun i => siblingId (nextLevel parent.level) (first + i : Nat)
  new : ∀ id ∈ c.childIds, id ∉ sl.takenBelow parent
  children : List.Forall₂ (fun child id => ∃ s, after.shape? child = some s ∧ s.DrawnAs kind size.width size.height ∧
    s.memo = Descriptor.render ⟨id, parent.chain ++ [parent.current], parent.layout, []⟩) c.created c.childIds
  listed : after.descriptorOf? node =
    some { parent with children := parent.children ++ c.childIds.map fun id => ({ id } : ChildRef) }.stored

end Slide

namespace Command

/-- A request for children that succeeds gives the node as many as are asked for, below what it keeps or below
the root that it becomes. -/
theorem createChildren_offspring (desk : Desk) (node : ShapeId) (direction : String) (gap : Option (Measure Float))
    (edge : Option EdgeStyle) {count : Int} {labels : List String} {page after : Page} {c : Creation}
    (hcount : 1 ≤ asked count labels)
    (run : (createChildren desk (some node) direction count gap labels edge).run.run page = (.ok c, after)) :
    ∃ parent s size, page.slide.TakenFor node parent ∧ page.slide.shape? node = some s ∧ s.box.pixels = .ok size ∧
      page.slide.Offspring node parent (asked count labels).toNat s.kind size c after.slide := by
  obtain ⟨start, parent, s, t, size, kids, lines, given, typed, hs, hsize, ht, hids, hcreated, has, drawn⟩ :=
    ((makes_createChildren_drawn desk (some node) direction gap labels edge hcount).leads page rfl).ok run
  obtain rfl := Option.some.inj given
  obtain ⟨t', ht', kind⟩ := typed.shape_start hs
  obtain rfl := Option.some.inj (ht'.symm.trans ht)
  rw [kind] at drawn
  have level : IsLevel (nextLevel parent.level) := isLevel_nextLevel _
  have formed := wellFormed_of_mem typed.mem
  have fits := fits_of_newChildIds hids
  have numbered : c.childIds = siblingIds (nextLevel parent.level) (asked count labels)
      (nextNumber (nextLevel parent.level) (page.slide.takenBelow parent)) := by
    rw [newChildIds_eq hids, childrenBelow, nextNumber_append_filter, typed.children, takenBelow]
  have new : ∀ id ∈ c.childIds, id ∉ page.slide.takenBelow parent := by
    intro id hid used
    rw [numbered, siblingIds, List.mem_map] at hid
    obtain ⟨i, -, rfl⟩ := hid
    rw [← Int.natCast_add] at used
    exact siblingId_not_mem level (Nat.le_add_right _ i) used
  have appended := parent.attach_new (fun id hid hlisted => new id hid (List.mem_append_left _ hlisted))
    (numbered ▸ siblingIds_nodup level _ _) fun id hid => (fits id hid).ne_empty
  refine ⟨parent, s, size, typed.takenFor, hs, hsize, ?_, ?_, ?_, new, ?_, ?_⟩
  · rw [has.nodes, typed.nodes, hcreated]
  · rw [hcreated, List.length_map, ← has.kept.length_eq, length_newChildIds hids]
  · refine ⟨_, numbersOn_nextNumber _ _, ?_⟩
    rw [numbered, siblingIds]
    exact List.map_congr_left fun i _ => by rw [Int.natCast_add]
  · have found : ∀ kid ∈ kids, after.slide.shape? kid.id = some kid ∧ kid.DrawnAs s.kind size.width size.height :=
      fun kid hkid => ⟨has.shape_kid hkid, drawn kid hkid⟩
    have both := (List.forall₂_and_left _ _).2 ⟨found, has.kept.flip⟩
    rw [hcreated]
    exact List.forall₂_map_left_iff.2 (both.imp fun kid id h => ⟨kid, h.1.1, h.1.2, h.2.2⟩)
  · rw [descriptorOf?, has.eq, shape?_append (shape?_append (shape?_storing ht _) kids) lines, Option.bind_some,
      Shape.descriptor?, Shape.memo_withMemo, Descriptor.read?_render (formed.attach fits), appended]

/-- A root that lists a child with other digits, and a node further down that names the root alone. -/
def countedPage : Page where
  slide := [
    { id := 2, name := "Rectangle 1", descr := some "graph[]()[A1][B٣:TD,C9]",
      form := .figure "OVAL" ⟨0, 0, 952500, 952500⟩ none none {} },
    { id := 3, name := "Rectangle 2", descr := some "graph[A1](LR)[B07][]",
      form := .figure "RECTANGLE" ⟨0, 1905000, 952500, 952500⟩ none none {} }]

theorem createChildren_offspring_counted : ∃ after c size,
    (createChildren Desk.bare (some 2) "BOTTOM" 1 none ["x", ""] none).run.run countedPage = (.ok c, after) ∧
    c.childIds = ["B8", "B9"] ∧
    countedPage.slide.Offspring 2 ⟨"A1", [], "", [⟨"B٣", "TD"⟩, ⟨"C9", ""⟩]⟩ 2 "OVAL" size c after.slide := by
  have run : ((createChildren Desk.bare (some 2) "BOTTOM" 1 none ["x", ""] none).run.run countedPage).1 =
      .ok ⟨2, [4, 5], ["B8", "B9"], [], [(2, 4), (2, 5)]⟩ := by decide +kernel
  have stored : countedPage.slide.outline.lookup 2 = some ⟨"A1", [], "", [⟨"B٣", "TD"⟩, ⟨"C9", ""⟩]⟩ := by
    decide +kernel
  obtain ⟨parent, s, size, taken, hs, -, offspring⟩ :=
    createChildren_offspring Desk.bare 2 "BOTTOM" none none (by decide) (run_eq run)
  obtain rfl := Option.some.inj hs
  rcases taken with here | ⟨none, -⟩
  · obtain rfl := Option.some.inj (stored.symm.trans here)
    exact ⟨_, _, size, run_eq run, rfl, offspring⟩
  · rw [stored] at none
    cases none

end Command

end FlowDeck
