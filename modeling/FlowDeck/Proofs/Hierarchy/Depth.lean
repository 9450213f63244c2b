import FlowDeck.Hierarchy.Outline
import FlowDeck.Proofs.Hierarchy.Levels

/-!
# Descriptors at their depth

The level of an identifier says how deep it stands. What commands store follows that rule as long
as what they read does: every way to make a descriptor from others keeps `Descriptor.Writable`.
-/

namespace FlowDeck

def IsIdAt (depth : Nat) (id : String) : Prop :=
  ∃ n : Nat, 0 < n ∧ id = siblingId (levelAt depth) n

theorem IsIdAt.level {depth : Nat} {id : String} (h : IsIdAt depth id) : levelOf id = levelAt depth := by
  obtain ⟨n, -, rfl⟩ := h
  exact levelOf_siblingId (isLevel_levelAt depth)

theorem IsIdAt.fits {depth : Nat} {id : String} (h : IsIdAt depth id) : Record.Fits ['|', ',', ':', ']'] id := by
  obtain ⟨n, -, rfl⟩ := h
  exact fits_siblingId (isLevel_levelAt depth).letters (by decide)

theorem isIdAt_of_furtherId {depth : Nat} {used : List String} {id : String}
    (h : furtherId (levelAt depth) used = .ok id) : IsIdAt depth id :=
  ⟨_, Nat.succ_pos _, furtherId_eq h⟩

theorem isIdAt_of_furtherIds {depth : Nat} {count : Int} {used ids : List String}
    (h : furtherIds (levelAt depth) count used = .ok ids) : ∀ id ∈ ids, IsIdAt depth id := by
  intro id hid
  rw [furtherIds_eq h, siblingIds, List.mem_map] at hid
  obtain ⟨i, -, rfl⟩ := hid
  exact ⟨nextNumber (levelAt depth) used + i, Nat.add_pos_left (Nat.succ_pos _) _, by rw [Int.natCast_add]⟩

/-- Marks that fit around an identifier are as good as more marks. -/
theorem Record.Fits.mono {marks fewer : List Char} {id : String} (h : Record.Fits marks id)
    (hs : fewer ⊆ marks) : Record.Fits fewer id :=
  ⟨h.ne_empty, h.stripped, fun c hc => h.free c (hs hc)⟩

namespace Descriptor

/-- Every identifier has the level of its depth, no child is listed twice, and the layout is a token
if there is one. -/
structure Placed (d : Descriptor) : Prop where
  current : IsIdAt d.chain.length d.current
  chain : ∀ i id, d.chain[i]? = some id → IsIdAt i id
  childIds : d.childIds.Nodup
  layout : d.layout = "" ∨ d.layout ∈ Layout.tokens

/-- A placed descriptor as it is read from a page: a root has a layout. -/
structure Leveled (d : Descriptor) : Prop extends Placed d where
  root : d.isRoot → d.layout ≠ ""

structure Writable (d : Descriptor) : Prop extends Placed d where
  children : ∀ c ∈ d.children, Record.FitsChild c

section
variable {d : Descriptor} {id layout : String} {children : List ChildRef}

theorem Placed.level (h : d.Placed) : d.level = levelAt d.chain.length := h.current.level

theorem Placed.nextLevel (h : d.Placed) : FlowDeck.nextLevel d.level = levelAt d.chainBelow.length := by
  rw [h.level, chainBelow, List.length_append, List.length_singleton, levelAt]

theorem Placed.chainBelow (h : d.Placed) (i : Nat) (id : String) (hi : d.chainBelow[i]? = some id) :
    IsIdAt i id := by
  rw [Descriptor.chainBelow, List.getElem?_append] at hi
  split at hi
  · exact h.chain i id hi
  · next hlen =>
    rw [List.getElem?_singleton] at hi
    split at hi
    · obtain rfl := Option.some.inj hi
      obtain rfl : i = d.chain.length := by omega
      exact h.current
    · cases hi

/-! ## Storing and reading -/

@[simp] theorem stored_current (d : Descriptor) : d.stored.current = d.current := by
  unfold stored; split <;> rfl

@[simp] theorem stored_chain (d : Descriptor) : d.stored.chain = d.chain := by
  unfold stored; split <;> rfl

@[simp] theorem stored_children (d : Descriptor) : d.stored.children = d.children := by
  unfold stored; split <;> rfl

theorem Placed.leveled_stored (h : d.Placed) : d.stored.Leveled where
  current := by simpa using h.current
  chain := by simpa using h.chain
  childIds := by simpa [Descriptor.childIds] using h.childIds
  layout := by
    unfold stored
    split
    · exact .inr (show defaultLayout.token ∈ Layout.tokens by decide)
    · exact h.layout
  root hr := by
    unfold stored at hr ⊢
    split
    · exact show defaultLayout.token ≠ "" by decide
    · next hn => exact fun hl => hn ⟨by rwa [if_neg hn] at hr, hl⟩

theorem Writable.wellFormed (h : d.Writable) : d.WellFormed where
  current := h.current.fits.mono (by simp)
  chain id hid := by
    obtain ⟨i, hi⟩ := List.mem_iff_getElem?.1 hid
    exact (h.chain i id hi).fits.mono (by simp)
  layout := h.layout
  childIds c hc := (h.children c hc).id
  childLayouts c hc := (h.children c hc).layout

theorem Writable.read?_render (h : d.Writable) : read? d.render = some d.stored :=
  Descriptor.read?_render h.wellFormed

/-- What is read from a page can be written to it. -/
theorem Leveled.writable {text : String} (h : d.Leveled) (hd : read? text = some d) : d.Writable where
  toPlaced := h.toPlaced
  children := (wellFormed_of_read? hd).children

/-! ## New descriptors -/

theorem writable_root (hid : IsIdAt 0 id) : Writable { current := id } where
  current := hid
  chain _ _ hi := by simp at hi
  childIds := List.nodup_nil
  layout := .inl rfl
  children _ hc := by simp at hc

/-- A node below another one. -/
theorem Placed.writable_child (h : d.Placed) (hid : IsIdAt d.chainBelow.length id)
    (hl : layout = "" ∨ layout ∈ Layout.tokens) (hn : (children.map (·.id)).Nodup)
    (hc : ∀ c ∈ children, Record.FitsChild c) : Writable ⟨id, d.chainBelow, layout, children⟩ where
  current := hid
  chain := h.chainBelow
  childIds := hn
  layout := hl
  children := hc

/-- A node beside another one. -/
theorem Placed.writable_sibling (h : d.Placed) (hid : IsIdAt d.chain.length id)
    (hl : layout = "" ∨ layout ∈ Layout.tokens) : Writable { current := id, chain := d.chain, layout } where
  current := hid
  chain := h.chain
  childIds := List.nodup_nil
  layout := hl
  children _ hc := by simp at hc

theorem Writable.withLayout (h : d.Writable) (hl : layout = "" ∨ layout ∈ Layout.tokens) :
    Writable { d with layout } :=
  { h with layout := hl }

theorem childIds_withChildLayout (d : Descriptor) (id layout : String) :
    (d.withChildLayout id layout).childIds = d.childIds := by
  rw [childIds, withChildLayout, List.map_map]
  refine List.map_congr_left fun c _ => ?_
  rw [Function.comp_apply]
  split
  · next h => exact h.symm
  · rfl

theorem Writable.withChildLayout (h : d.Writable) (hl : layout = "" ∨ layout ∈ Layout.tokens) :
    (d.withChildLayout id layout).Writable where
  current := h.current
  chain := h.chain
  childIds := by rw [childIds_withChildLayout]; exact h.childIds
  layout := h.layout
  children c hc := by
    obtain ⟨c, hm, rfl⟩ := List.mem_map.1 hc
    split
    · next he => exact ⟨he ▸ (h.children c hm).id, hl⟩
    · exact h.children c hm

/-! ## Listing children -/

theorem map_id_replaceLast (ref : ChildRef) (children : List ChildRef) :
    (replaceLast ref children).map (·.id) = children.map (·.id) := by
  induction children with
  | nil => rfl
  | cons c rest ih =>
    rw [replaceLast]
    split
    · next h => rw [List.map_cons, List.map_cons, h.1]
    · rw [List.map_cons, List.map_cons, ih]

theorem mem_replaceLast {ref c : ChildRef} (h : c ∈ replaceLast ref children) : c ∈ children ∨ c = ref := by
  induction children with
  | nil => simp [replaceLast] at h
  | cons d rest ih =>
    rw [replaceLast] at h
    split at h
    · exact (List.mem_cons.1 h).elim .inr fun h => .inl (List.mem_cons_of_mem _ h)
    · rcases List.mem_cons.1 h with rfl | h
      · exact .inl List.mem_cons_self
      · exact (ih h).imp_left (List.mem_cons_of_mem _)

/-- A child is added at the end of the list, if it is not there yet. -/
theorem map_id_attachRef (children : List ChildRef) (ref : ChildRef) :
    (attachRef children ref).map (·.id) =
      if ref.id = "" ∨ ref.id ∈ children.map (·.id) then children.map (·.id)
      else children.map (·.id) ++ [ref.id] := by
  by_cases h : ref.id = ""
  · rw [attachRef, if_pos h, if_pos (.inl h)]
  · by_cases hm : ref.id ∈ children.map (·.id)
    · have listed : ref.id = "" ∨ ref.id ∈ children.map (·.id) := .inr hm
      rw [if_pos listed, attachRef, if_neg h, if_pos hm]
      split
      · rfl
      · exact map_id_replaceLast ref children
    · rw [attachRef, if_neg h, if_neg hm, if_neg (not_or.2 ⟨h, hm⟩), List.map_append, List.map_singleton]

theorem mem_attachRef {ref c : ChildRef} (h : c ∈ attachRef children ref) : c ∈ children ∨ c = ref := by
  unfold attachRef at h
  split at h
  · exact .inl h
  · split at h
    · split at h
      · exact .inl h
      · exact mem_replaceLast h
    · simpa using h

theorem nodup_attachRef {ref : ChildRef} (h : (children.map (·.id)).Nodup) :
    ((attachRef children ref).map (·.id)).Nodup := by
  rw [map_id_attachRef]
  split
  · exact h
  · next hn => simpa [List.nodup_append, h] using fun c hc he => hn (.inr (List.mem_map.2 ⟨c, hc, he⟩))

theorem nodup_foldl_attachRef (refs : List ChildRef) (h : (children.map (·.id)).Nodup) :
    ((refs.foldl attachRef children).map (·.id)).Nodup := by
  induction refs generalizing children with
  | nil => exact h
  | cons ref refs ih =>
    rw [List.foldl_cons]
    apply ih
    exact nodup_attachRef h

theorem mem_foldl_attachRef {refs : List ChildRef} {c : ChildRef} (h : c ∈ refs.foldl attachRef children) :
    c ∈ children ∨ c ∈ refs := by
  induction refs generalizing children with
  | nil => exact .inl h
  | cons ref refs ih =>
    rcases ih h with h | h
    · rcases mem_attachRef h with h | rfl
      · exact .inl h
      · exact .inr List.mem_cons_self
    · exact .inr (List.mem_cons_of_mem _ h)

theorem Writable.attach (h : d.Writable) (refs : List ChildRef) (hr : ∀ ref ∈ refs, Record.FitsChild ref) :
    (d.attach refs).Writable where
  current := h.current
  chain := h.chain
  childIds := nodup_foldl_attachRef refs h.childIds
  layout := h.layout
  children c hc := by
    rcases mem_foldl_attachRef hc with hc | hc
    · exact h.children c hc
    · exact hr c hc

theorem fitsChild_of_isIdAt {depth : Nat} (hid : IsIdAt depth id)
    (hl : layout = "" ∨ layout ∈ Layout.tokens) : Record.FitsChild ⟨id, layout⟩ :=
  ⟨hid.fits.mono (by simp), hl⟩

end

end Descriptor

end FlowDeck
