import FlowDeck.Proofs.Command.Creating

/-!
# Children in batches

Children that are created in two calls are those of one call. What the second call reads of the node is
what the first has stored, so the numbers go on where the first call ended, and the list of the node is
continued.
-/

namespace FlowDeck

open Slide Edit Record

variable {sl start after : Slide} {node id : ShapeId} {parent d e : Descriptor} {ids : List String}
variable {kids lines : List Shape}

theorem nextLevel_ne (id : String) : nextLevel (levelOf id) ≠ levelOf id := by
  by_cases h : levelOf id = ""
  · rw [h]
    decide
  · have level : IsLevel (levelOf id) := by
      refine ⟨h, fun c hc => ?_⟩
      rw [levelOf, String.toList_ofList] at hc
      exact List.mem_takeWhile_imp hc
    intro same
    have depth := levelDepth_nextLevel level
    rw [same] at depth
    omega

namespace Descriptor

theorem WellFormed.attachAll {refs : List ChildRef} (h : d.WellFormed) (hrefs : ∀ ref ∈ refs, FitsChild ref) :
    (d.attach refs).WellFormed := by
  have fits {c : ChildRef} (hc : c ∈ (d.attach refs).children) : FitsChild c :=
    (mem_foldl_attachRef hc).elim (h.children c) (hrefs c)
  exact ⟨h.current, h.chain, h.layout, fun c hc => (fits hc).id, fun c hc => (fits hc).layout⟩

theorem WellFormed.attach (h : d.WellFormed) (hids : ∀ id ∈ ids, Fits ['|', ',', ':', ']'] id) :
    (d.attach (ids.map fun id => { id })).WellFormed := by
  refine h.attachAll fun ref href => ?_
  obtain ⟨id, hid, rfl⟩ := List.mem_map.1 href
  exact ⟨(hids id hid).mono (by simp), .inl rfl⟩

theorem stored_eq_self (h : d.isRoot → d.layout ≠ "") : d.stored = d :=
  if_neg fun ⟨root, empty⟩ => h root empty

end Descriptor

namespace Slide

def memoOf? (sl : Slide) (id : ShapeId) : Option String :=
  (sl.shape? id).map (·.memo)

/-- A root that is planted has a layout when it is read. -/
theorem Typed.declared (h : sl.Typed node parent start)
    (hd : ∀ d, sl.outline.lookup node = some d → d.isRoot → d.layout ≠ "") : parent.isRoot → parent.layout ≠ "" := by
  rcases h.takenFor with here | ⟨-, root, hroot, rfl⟩
  · exact hd parent here
  · exact (writable_freshRoot hroot).leveled_stored.root

/-! ## After children have been created -/

theorem HasChildren.memo_node (h : start.HasChildren node parent ids kids lines after) (hn : ∃ s ∈ start, s.id = node) :
    after.memoOf? node = some (parent.attach (ids.map fun id => { id })).render := by
  obtain ⟨s, hs⟩ := exists_shape? hn
  have stored := shape?_storing hs (parent.attach (ids.map fun id => { id }))
  rw [memoOf?, h.eq, shape?_append (shape?_append stored kids) lines, Option.map_some, Shape.memo_withMemo]

theorem HasChildren.shape_kid {s : Shape} (h : start.HasChildren node parent ids kids lines after) (hs : s ∈ kids) :
    after.shape? s.id = some s :=
  h.made.shape_new (List.mem_append_left lines hs)

theorem HasChildren.memos (h : start.HasChildren node parent ids kids lines after) :
    kids.map (·.memo) = ids.map fun id => (newChild parent id).render :=
  map_eq_of_forall₂ h.kept fun _ _ h => h.2

theorem HasChildren.memo_of_mem {s : Shape} (h : start.HasChildren node parent ids kids lines after) (hs : s ∈ kids) :
    ∃ id ∈ ids, s.memo = (newChild parent id).render := by
  have text : s.memo ∈ kids.map (·.memo) := List.mem_map.2 ⟨s, hs, rfl⟩
  rw [h.memos] at text
  obtain ⟨id, hid, same⟩ := List.mem_map.1 text
  exact ⟨id, hid, same.symm⟩

/-- The texts of the children, on any later slide on which they are as they were drawn. -/
theorem HasChildren.memo_kids {last : Slide} (h : start.HasChildren node parent ids kids lines after)
    (hl : ∀ s ∈ kids, last.shape? s.id = some s) : (kids.map (·.id)).map last.memoOf? =
      (ids.map fun id => (newChild parent id).render).map some := by
  rw [← h.memos, List.map_map, List.map_map]
  refine List.map_congr_left fun s hs => ?_
  rw [Function.comp_apply, memoOf?, hl s hs]
  rfl

theorem HasChildren.lookup_node (h : start.HasChildren node parent ids kids lines after)
    (hp : (node, parent) ∈ start.outline) (hd : parent.isRoot → parent.layout ≠ "")
    (hids : ∀ id ∈ ids, Fits ['|', ',', ':', ']'] id) :
    after.outline.lookup node = some (parent.attach (ids.map fun id => { id })) := by
  have read := Descriptor.read?_render ((wellFormed_of_mem hp).attach hids)
  rw [Descriptor.stored_eq_self (d := parent.attach _) hd] at read
  apply lookup_eq_of_mem
  rw [h.outline]
  exact List.mem_append_left _ (mem_outline_storing_self (hasNode_of_mem hp) read)

/-- The children that are found below the node afterwards were found before, or they are new. -/
theorem HasChildren.mem_childrenBelow (h : start.HasChildren node parent ids kids lines after) (hp : parent.WellFormed)
    (hids : ∀ id ∈ ids, Fits ['|', ',', ':', ']'] id) {entry : ShapeId × Descriptor}
    (he : entry ∈ childrenBelow after.outline (parent.attach (ids.map fun id => { id }))) :
    entry ∈ childrenBelow start.outline parent ∨ entry.2.current ∈ ids := by
  obtain ⟨n, e⟩ := entry
  obtain ⟨hmem, hlevel⟩ := List.mem_filter.1 he
  obtain ⟨hmem, hchild⟩ := List.mem_filter.1 hmem
  rw [h.outline] at hmem
  rcases List.mem_append.1 hmem with hmem | hmem
  · left
    refine List.mem_filter.2 ⟨List.mem_filter.2 ⟨?_, hchild⟩, hlevel⟩
    rcases mem_outline_withMemo.1 hmem with ⟨-, old⟩ | ⟨-, -, hread⟩
    · exact old
    -- The node itself is at the level above.
    · have refs : ∀ ref ∈ ids.map fun id => ({ id } : ChildRef),
          ']' ∉ ref.id.toList ∧ (ref.layout = "" ∨ ref.layout ∈ Layout.tokens) := by
        intro ref href
        obtain ⟨id, hid, rfl⟩ := List.mem_map.1 href
        exact ⟨(hids id hid).free _ (by simp), .inl rfl⟩
      obtain ⟨d, hd, hcurrent, -⟩ := Descriptor.read?_render_attach hp refs
      rw [hd] at hread
      obtain rfl := Option.some.inj hread
      have level : levelOf d.current = nextLevel (levelOf parent.current) := eq_of_beq hlevel
      rw [hcurrent] at level
      exact absurd level.symm (nextLevel_ne _)
  · right
    obtain ⟨s, hs, entry⟩ := List.mem_filterMap.1 hmem
    obtain ⟨-, -, hread⟩ := Shape.entry?_eq_some_iff.1 entry
    obtain ⟨id, hid, hmemo⟩ := h.memo_of_mem hs
    have unlisted : ']' ∉ childrenText [] := by decide
    rw [Shape.descriptor?, hmemo] at hread
    rw [Descriptor.current_of_read?_below hp ((hids id hid).mono (by simp)) hp.layout unlisted hread]
    exact hid

def usedBelow (sl : Slide) (parent : Descriptor) : List String :=
  parent.childIds ++ (childrenBelow sl.outline parent).map (·.2.current)

theorem HasChildren.usedBelow_subset (h : start.HasChildren node parent ids kids lines after) (hp : parent.WellFormed)
    (hids : ∀ id ∈ ids, Fits ['|', ',', ':', ']'] id) :
    after.usedBelow (parent.attach (ids.map fun id => { id })) ⊆ start.usedBelow parent ++ ids := by
  intro id hid
  rcases List.mem_append.1 hid with hid | hid
  · rcases Descriptor.mem_childIds_attach.1 hid with old | ⟨-, new⟩
    · exact List.mem_append_left _ (List.mem_append_left _ old)
    · exact List.mem_append_right _ (by simpa using new)
  · obtain ⟨entry, hentry, rfl⟩ := List.mem_map.1 hid
    rcases h.mem_childrenBelow hp hids hentry with old | new
    · exact List.mem_append_left _ (List.mem_append_right _ (List.mem_map.2 ⟨entry, old, rfl⟩))
    · exact List.mem_append_right _ new

theorem subset_usedBelow_attach (sl : Slide) (parent : Descriptor) (hids : ∀ id ∈ ids, Fits ['|', ',', ':', ']'] id) :
    ids ⊆ sl.usedBelow (parent.attach (ids.map fun id => { id })) := by
  intro id hid
  exact List.mem_append_left _ (Descriptor.mem_childIds_attach.2 (.inr ⟨(hids id hid).ne_empty, by simpa using hid⟩))

/-- Further children are numbered on from where the first end. -/
theorem HasChildren.newChildIds_further {m n : Int} {more all : List String} (hm : 1 ≤ m) (hn : 1 ≤ n)
    (h : start.HasChildren node parent ids kids lines after) (hp : parent.WellFormed)
    (hids : newChildIds parent (childrenBelow start.outline parent) m = .ok ids)
    (hmore : newChildIds (parent.attach (ids.map fun id => { id }))
      (childrenBelow after.outline (parent.attach (ids.map fun id => { id }))) n = .ok more)
    (hall : newChildIds parent (childrenBelow start.outline parent) (m + n) = .ok all) : ids ++ more = all := by
  have fits := fits_of_newChildIds hids
  have level : IsLevel (nextLevel parent.level) := isLevel_nextLevel _
  have numbered : ids =
      siblingIds (nextLevel parent.level) m (nextNumber (nextLevel parent.level) (start.usedBelow parent)) :=
    newChildIds_eq hids
  have further : (nextNumber (nextLevel parent.level)
        (after.usedBelow (parent.attach (ids.map fun id => { id }))) : Int) =
      nextNumber (nextLevel parent.level) (start.usedBelow parent) + m := by
    apply nextNumber_further level (by omega)
    · rw [← numbered]
      exact h.usedBelow_subset hp fits
    · rw [← numbered]
      exact subset_usedBelow_attach after parent fits
  calc ids ++ more
      = ids ++ siblingIds (nextLevel parent.level) n (nextNumber (nextLevel parent.level)
          (after.usedBelow (parent.attach (ids.map fun id => { id })))) := by rw [newChildIds_eq hmore]; rfl
    _ = siblingIds (nextLevel parent.level) (m + n) (nextNumber (nextLevel parent.level) (start.usedBelow parent)) := by
        rw [further, siblingIds_add (by omega) (by omega), ← numbered]
    _ = all := (newChildIds_eq hall).symm

end Slide

namespace Command

/-- Children that are created in two calls, as many as are wanted each time, have the identifiers and the texts of
those that are created in one, and the node is left with the same text. -/
theorem createChildren_batches (desk : Desk) (node : ShapeId) (direction : String) (gap : Option (Measure Float))
    (edge : Option EdgeStyle) {m n : Int} {page mid after whole : Page} {first second all : Creation} (hm : 1 ≤ m)
    (hn : 1 ≤ n)
    (hroot : ∀ d, page.slide.outline.lookup node = some d → d.isRoot → d.layout ≠ "")
    (run₁ : (createChildren desk (some node) direction m gap [] edge).run.run page = (.ok first, mid))
    (run₂ : (createChildren desk (some node) direction n gap [] edge).run.run mid = (.ok second, after))
    (run : (createChildren desk (some node) direction (m + n) gap [] edge).run.run page = (.ok all, whole)) :
    (first.created.length = m ∧ second.created.length = n ∧ all.created.length = m + n) ∧
    first.childIds ++ second.childIds = all.childIds ∧
    (∃ texts : List String, (first.created ++ second.created).map after.slide.memoOf? = texts.map some ∧
      all.created.map whole.slide.memoOf? = texts.map some) ∧
    ∃ text, after.slide.memoOf? node = some text ∧ whole.slide.memoOf? node = some text := by
  have exactly {count : Int} {page after : Page} {c : Creation} (hc : 1 ≤ count)
      (run : (createChildren desk (some node) direction count gap [] edge).run.run page = (.ok c, after)) :
      ∃ start parent kids lines, page.slide.Typed node parent start ∧
        newChildIds parent (childrenBelow start.outline parent) count = .ok c.childIds ∧
        c.created = kids.map (·.id) ∧ start.HasChildren node parent c.childIds kids lines after.slide ∧
        c.created.length = count := by
    have wanted : 0 < asked count [] := hc
    obtain ⟨start, parent, kids, lines, given, typed, hids, hcreated, has⟩ :=
      ((makes_createChildren_exact desk (some node) direction gap [] edge wanted).leads page rfl).ok run
    obtain rfl := Option.some.inj given
    have length : c.created.length = count.toNat := by
      rw [hcreated, List.length_map, ← has.kept.length_eq]
      exact length_newChildIds hids
    exact ⟨start, parent, kids, lines, typed, hids, hcreated, has, by omega⟩
  obtain ⟨start, parent, kids₁, lines₁, typed, hids₁, hcreated₁, have₁, length₁⟩ := exactly hm run₁
  obtain ⟨start₂, parent₂, kids₂, lines₂, typed₂, hids₂, hcreated₂, have₂, length₂⟩ := exactly hn run₂
  obtain ⟨start', parent', kids, lines, typed', hids, hcreated, haveAll, length⟩ := exactly (by omega) run
  obtain ⟨rfl, rfl⟩ := typed'.unique typed
  have formed := wellFormed_of_mem typed.mem
  -- The second call reads what the first has stored, and numbers its children after those of the first.
  have kept := have₁.lookup_node typed.mem (typed.declared hroot) (fits_of_newChildIds hids₁)
  obtain ⟨rfl, rfl⟩ := Typed.unique ⟨kept, .inl rfl⟩ typed₂
  have numbers := have₁.newChildIds_further hm hn formed hids₁ hids₂ hids
  -- The second call writes to the node alone, so the first children keep their texts.
  have stays : ∀ s ∈ kids₁, after.slide.shape? s.id = some s := fun s hs =>
    have₂.made.shape_other (have₁.shape_kid hs) (have₁.made.kid_ne (List.mem_append_left lines₁ hs) typed.exists_shape)
  have texts₁ := have₁.memo_kids stays
  have texts₂ := have₂.memo_kids fun s hs => have₂.shape_kid hs
  refine ⟨⟨length₁, length₂, length⟩, numbers, ⟨all.childIds.map fun id => (newChild parent id).render, ?_, ?_⟩, ?_⟩
  · rw [hcreated₁, hcreated₂, List.map_append, texts₁, texts₂, ← numbers, List.map_append, List.map_append]
    rfl
  · rw [hcreated]
    exact haveAll.memo_kids fun s hs => haveAll.shape_kid hs
  · refine ⟨_, have₂.memo_node typed₂.exists_shape, ?_⟩
    rw [haveAll.memo_node typed.exists_shape, Descriptor.attach_attach, ← List.map_append, numbers]

/-- Below the root with the bar, of which the children are not found again, they are numbered on all the same. -/
theorem createChildren_batches_cut : ∃ mid after whole : Page, ∃ first second all : Creation,
    (createChildren Desk.bare (some 2) "RIGHT" 1 none [] none).run.run cutPage = (.ok first, mid) ∧
    (createChildren Desk.bare (some 2) "RIGHT" 2 none [] none).run.run mid = (.ok second, after) ∧
    (createChildren Desk.bare (some 2) "RIGHT" (1 + 2) none [] none).run.run cutPage = (.ok all, whole) ∧
    (first.created.length = (1 : Int) ∧ second.created.length = (2 : Int) ∧ all.created.length = (1 + 2 : Int)) ∧
    first.childIds ++ second.childIds = all.childIds ∧
    (∃ texts : List String, (first.created ++ second.created).map after.slide.memoOf? = texts.map some ∧
      all.created.map whole.slide.memoOf? = texts.map some) ∧
    ∃ text, after.slide.memoOf? 2 = some text ∧ whole.slide.memoOf? 2 = some text := by
  have run₁ : ((createChildren Desk.bare (some 2) "RIGHT" 1 none [] none).run.run cutPage).1 =
      .ok ⟨2, [4], ["B1"], [], [(2, 4)]⟩ := by decide +kernel
  have run₂ : ((createChildren Desk.bare (some 2) "RIGHT" 2 none [] none).run.run
      ((createChildren Desk.bare (some 2) "RIGHT" 1 none [] none).run.run cutPage).2).1 =
      .ok ⟨2, [5, 6], ["B2", "B3"], [], [(2, 5), (2, 6)]⟩ := by decide +kernel
  have run : ((createChildren Desk.bare (some 2) "RIGHT" (1 + 2) none [] none).run.run cutPage).1 =
      .ok ⟨2, [4, 5, 6], ["B1", "B2", "B3"], [], [(2, 4), (2, 5), (2, 6)]⟩ := by decide +kernel
  have root : ∀ d, cutPage.slide.outline.lookup 2 = some d → d.isRoot → d.layout ≠ "" := by
    have stored : cutPage.slide.outline.lookup 2 = some ⟨"A|1", [], "LR", []⟩ := by decide +kernel
    intro d hd _
    obtain rfl := Option.some.inj (stored.symm.trans hd)
    decide
  exact ⟨_, _, _, _, _, _, run_eq run₁, run_eq run₂, run_eq run,
    createChildren_batches Desk.bare 2 "RIGHT" none none (by decide) (by decide) root (run_eq run₁) (run_eq run₂) (run_eq run)⟩

end Command

end FlowDeck
