import FlowDeck.Proofs.Deck.Drawing
import FlowDeck.Proofs.Hierarchy.Depth

/-!
# Orderly slides

On an orderly slide every node keeps a levelled descriptor or nothing, and keeps it in its
description. Whether no two nodes are the same to the hierarchy is asked apart from that: all the
ways to change a slide keep it orderly, but not all of them keep its nodes distinct.
-/

namespace FlowDeck

/-- What tells a node from others in the hierarchy. -/
def Descriptor.identity (d : Descriptor) : List String × String :=
  (d.chain, d.current)

@[simp] theorem Descriptor.stored_identity (d : Descriptor) : d.stored.identity = d.identity := by
  rw [identity, stored_chain, stored_current]; rfl

structure Outline.Distinct (outline : Outline) : Prop where
  eq : ∀ e ∈ outline, ∀ e' ∈ outline, e.2.identity = e'.2.identity → e.1 = e'.1

theorem Outline.Distinct.mono {outline fewer : Outline} (h : outline.Distinct) (hs : fewer ⊆ outline) :
    fewer.Distinct :=
  ⟨fun e he e' he' => h.eq e (hs he) e' (hs he')⟩

def Outline.identities (outline : Outline) : List (ShapeId × List String × String) :=
  outline.map fun e => (e.1, e.2.identity)

theorem Outline.mem_identities {outline : Outline} {n : ShapeId} {i : List String × String} :
    (n, i) ∈ outline.identities ↔ ∃ d, (n, d) ∈ outline ∧ d.identity = i := by
  simp only [identities, List.mem_map, Prod.mk.injEq, Prod.exists]
  constructor
  · rintro ⟨_, d, he, rfl, hi⟩
    exact ⟨d, he, hi⟩
  · rintro ⟨d, he, hi⟩
    exact ⟨n, d, he, rfl, hi⟩

theorem Outline.distinct_iff {outline : Outline} : outline.Distinct ↔
    ∀ n m i, (n, i) ∈ outline.identities → (m, i) ∈ outline.identities → n = m := by
  constructor
  · intro h n m i hn hm
    obtain ⟨d, hd, rfl⟩ := mem_identities.1 hn
    obtain ⟨e, he, hi⟩ := mem_identities.1 hm
    exact h.eq _ hd _ he hi.symm
  · intro h
    refine ⟨fun (n, d) hd (m, e) he hi => ?_⟩
    have hn : (n, d.identity) ∈ outline.identities := mem_identities.2 ⟨d, hd, rfl⟩
    have hm : (m, d.identity) ∈ outline.identities := mem_identities.2 ⟨e, he, hi.symm⟩
    exact h n m _ hn hm

namespace Slide

/-- Numbers are not shared, descriptors are kept in descriptions only, and those of nodes are
levelled. -/
structure Orderly (sl : Slide) : Prop where
  nodup : (sl.map (·.id)).Nodup
  tidy : ∀ s ∈ sl, s.Tidy
  memo : ∀ s ∈ sl, s.isNode → s.memo = "" ∨ ∃ d, s.descriptor? = some d ∧ d.Leveled

/-- The slide has been changed into an orderly one without two nodes becoming the same. -/
structure Kept (sl after : Slide) : Prop where
  orderly : after.Orderly
  distinct : sl.outline.Distinct → after.outline.Distinct

theorem orderly_nil : Orderly [] where
  nodup := List.nodup_nil
  tidy _ hs := absurd hs List.not_mem_nil
  memo _ hs := absurd hs List.not_mem_nil

section
variable {sl after : Slide} {s t : Shape} {n id : ShapeId} {d e : Descriptor} {f : Shape → Shape}

theorem Kept.refl (h : sl.Orderly) : sl.Kept sl := ⟨h, fun h => h⟩

theorem Kept.of_eq (h : sl.Orderly) (he : after = sl) : sl.Kept after := by
  subst he
  exact .refl h

theorem Kept.trans {last : Slide} (h : sl.Kept after) (h' : after.Kept last) : sl.Kept last :=
  ⟨h'.orderly, fun hd => h'.distinct (h.distinct hd)⟩

theorem kept_of_subset (h : after.Orderly) (hs : after.outline ⊆ sl.outline) : sl.Kept after :=
  ⟨h, fun hd => hd.mono hs⟩

/-! ## Reading an orderly slide -/

theorem Orderly.eq_of_id (h : sl.Orderly) (hs : s ∈ sl) (ht : t ∈ sl) (hid : s.id = t.id) : s = t :=
  List.inj_on_of_nodup_map h.nodup hs ht hid

theorem Orderly.writable (h : sl.Orderly) (hs : s ∈ sl) (hn : s.isNode) (hd : s.descriptor? = some d) :
    d.Leveled ∧ d.Writable := by
  rcases h.memo s hs hn with he | ⟨d', hd', hl⟩
  · have none : Descriptor.read? "" = none := by decide
    rw [Shape.descriptor?, he, none] at hd
    cases hd
  · obtain rfl : d' = d := Option.some.inj (hd'.symm.trans hd)
    exact ⟨hl, hl.writable hd⟩

theorem Orderly.writable_of_mem (h : sl.Orderly) (he : (n, d) ∈ sl.outline) : d.Leveled ∧ d.Writable := by
  obtain ⟨s, hs, hn, -, hd⟩ := (mem_outline_shapes h.nodup).1 he
  exact h.writable hs hn hd

theorem ne_nextId (he : (n, e) ∈ sl.outline) : n ≠ sl.nextId := by
  obtain ⟨s, hs, rfl⟩ := exists_of_mem_outline he
  exact nextId_ne hs

/-! ## Drawing, removing, dressing -/

theorem Orderly.append (h : sl.Orderly) (hid : ∀ t ∈ sl, t.id ≠ s.id) (hd : s.descr = none) (ht : s.Tidy) :
    Orderly (sl ++ [s]) ∧ outline (sl ++ [s]) = sl.outline := by
  have memo : s.memo = "" := by rw [ht.memo_eq, hd]; rfl
  refine ⟨⟨?_, ?_, ?_⟩, ?_⟩
  · rw [List.map_append, List.map_singleton, List.nodup_append]
    refine ⟨h.nodup, List.nodup_singleton _, fun n hn m hm => ?_⟩
    obtain ⟨t, ht, rfl⟩ := List.mem_map.1 hn
    obtain rfl := List.mem_singleton.1 hm
    exact hid t ht
  · intro t hm
    rcases List.mem_append.1 hm with hm | hm
    · exact h.tidy t hm
    · obtain rfl := List.mem_singleton.1 hm
      exact ht
  · intro t hm hn
    rcases List.mem_append.1 hm with hm | hm
    · exact h.memo t hm hn
    · obtain rfl := List.mem_singleton.1 hm
      exact .inl memo
  · have entry : s.entry? = none := by
      have none : Descriptor.read? "" = none := by decide
      rw [Shape.entry?, Shape.descriptor?, memo, none]
      split <;> rfl
    rw [outline_concat hid, entry, Option.toList_none, List.append_nil]

theorem Orderly.grows {node : Bool} (h : sl.Orderly) (hg : sl.Grows node after) :
    after.Orderly ∧ after.outline = sl.outline := by
  obtain ⟨s, rfl, hid, -, hdescr, ht⟩ := hg
  exact h.append (fun t ht => hid ▸ nextId_ne ht) hdescr ht

theorem Orderly.mayGrow {node : Bool} (h : sl.Orderly) (hg : sl.MayGrow node after) :
    after.Orderly ∧ after.outline = sl.outline := by
  rcases hg with rfl | hg
  · exact ⟨h, rfl⟩
  · exact h.grows hg

theorem Orderly.kept_mayGrow {node : Bool} (h : sl.Orderly) (hg : sl.MayGrow node after) : sl.Kept after :=
  kept_of_subset (h.mayGrow hg).1 ((h.mayGrow hg).2 ▸ List.Subset.refl _)

theorem Orderly.kept_filter (h : sl.Orderly) (p : Shape → Bool) : sl.Kept (sl.filter p) := by
  have nodup : ((sl.filter p).map (·.id)).Nodup := h.nodup.sublist (List.filter_sublist.map _)
  apply kept_of_subset
  · refine ⟨nodup, ?_, ?_⟩
    · exact fun s hs => h.tidy s (List.mem_of_mem_filter hs)
    · exact fun s hs => h.memo s (List.mem_of_mem_filter hs)
  · rw [outline_eq nodup, outline_eq h.nodup]
    exact (List.filter_sublist.filterMap _).subset

/-- A change of one shape that keeps its number and does not hide a descriptor in it. -/
theorem Orderly.modify (h : sl.Orderly) (hid : ∀ s, (f s).id = s.id)
    (hf : ∀ s ∈ sl, s.id = id → (f s).Tidy ∧
      ((f s).isNode → (f s).memo = "" ∨ ∃ d, (f s).descriptor? = some d ∧ d.Leveled)) :
    (sl.modify id f).Orderly where
  nodup := by rw [map_modify hid]; exact h.nodup
  tidy t ht := by
    rcases mem_modify ht with ht | ⟨s, hs, he, rfl⟩
    · exact h.tidy t ht
    · exact (hf s hs he).1
  memo t ht := by
    rcases mem_modify ht with ht | ⟨s, hs, he, rfl⟩
    · exact h.memo t ht
    · exact (hf s hs he).2

/-- A change that has nothing to do with descriptors. -/
theorem Orderly.kept_modify (h : sl.Orderly) (hid : ∀ s, (f s).id = s.id) (hnode : ∀ s, (f s).isNode = s.isNode)
    (hdescr : ∀ s, (f s).descr = s.descr) (ht : ∀ s : Shape, s.Tidy → (f s).Tidy) :
    sl.Kept (sl.modify id f) := by
  have memo : ∀ s ∈ sl, (f s).memo = s.memo := fun s hs => by
    rw [(ht s (h.tidy s hs)).memo_eq, (h.tidy s hs).memo_eq, hdescr]
  have entry : ∀ s ∈ sl, s.id = id → Shape.entry? (f s) = s.entry? := fun s hs _ => by
    rw [Shape.entry?, Shape.entry?, Shape.descriptor?, Shape.descriptor?, memo s hs, hnode, hid]
  have orderly : (sl.modify id f).Orderly := by
    refine h.modify hid fun s hs _ => ⟨ht s (h.tidy s hs), ?_⟩
    rw [hnode, Shape.descriptor?, memo s hs]
    exact h.memo s hs
  apply kept_of_subset orderly
  rw [outline_eq orderly.nodup, outline_eq h.nodup, filterMap_modify entry]
  exact List.Subset.refl _

/-! ## Keeping descriptors -/

theorem Orderly.storing (h : sl.Orderly) (hw : d.Writable) : (sl.storing id d).Orderly := by
  refine h.modify (fun s => s.withMemo_id _) fun s _ _ => ⟨s.withMemo_tidy _, fun _ => .inr ⟨d.stored, ?_, ?_⟩⟩
  · rw [Shape.descriptor?, s.memo_withMemo, hw.read?_render]
  · exact hw.leveled_stored

theorem mem_outline_storing (hw : d.Writable) :
    (n, e) ∈ (sl.storing id d).outline ↔
      (n ≠ id ∧ (n, e) ∈ sl.outline) ∨ n = id ∧ e = d.stored ∧ sl.hasNode id := by
  rw [Slide.storing, mem_outline_withMemo, hw.read?_render, Option.some.injEq, eq_comm (a := d.stored),
    and_comm (a := sl.hasNode id = true)]

theorem mem_identities_storing (hw : d.Writable) {i : List String × String} :
    (n, i) ∈ (sl.storing id d).outline.identities ↔
      (n ≠ id ∧ (n, i) ∈ sl.outline.identities) ∨ n = id ∧ i = d.identity ∧ sl.hasNode id := by
  simp only [Outline.mem_identities, mem_outline_storing hw]
  constructor
  · rintro ⟨e, ⟨hn, he⟩ | ⟨rfl, rfl, hn⟩, rfl⟩
    · exact .inl ⟨hn, e, he, rfl⟩
    · exact .inr ⟨rfl, d.stored_identity, hn⟩
  · rintro (⟨hn, e, he, rfl⟩ | ⟨rfl, rfl, hn⟩)
    · exact ⟨e, .inl ⟨hn, he⟩, rfl⟩
    · exact ⟨d.stored, .inr ⟨rfl, rfl, hn⟩, d.stored_identity⟩

/-- Storing keeps nodes distinct if no other node has the identity that is stored. -/
theorem Orderly.kept_storing (h : sl.Orderly) (hw : d.Writable)
    (hf : ∀ e ∈ sl.outline, e.2.identity = d.identity → e.1 = id) : sl.Kept (sl.storing id d) where
  orderly := h.storing hw
  distinct hd := by
    refine ⟨fun (n, e) he (n', e') he' hi => ?_⟩
    rcases (mem_outline_storing hw).1 he with ⟨hn, old⟩ | ⟨rfl, rfl, -⟩ <;>
      rcases (mem_outline_storing hw).1 he' with ⟨hn', old'⟩ | ⟨rfl, rfl, -⟩
    · exact hd.eq _ old _ old' hi
    · exact absurd (hf _ old (hi.trans d.stored_identity)) hn
    · exact absurd (hf _ old' (hi.symm.trans d.stored_identity)) hn'
    · rfl

/-- A node may store a descriptor with the identity it has. -/
theorem Orderly.kept_restoring (h : sl.Orderly) (hw : d.Writable) (he : (id, e) ∈ sl.outline)
    (hi : d.identity = e.identity) : sl.Kept (sl.storing id d) where
  orderly := h.storing hw
  distinct hd := by
    have own : ∀ e' ∈ sl.outline, e'.2.identity = d.identity → e'.1 = id :=
      fun e' he' hi' => hd.eq e' he' _ he (hi'.trans hi)
    exact (h.kept_storing hw own).distinct hd

theorem mem_identities_restoring (hw : d.Writable) (he : (id, e) ∈ sl.outline)
    (hi : d.identity = e.identity) {i : List String × String} :
    (n, i) ∈ (sl.storing id d).outline.identities ↔ (n, i) ∈ sl.outline.identities := by
  rw [mem_identities_storing hw]
  constructor
  · rintro (⟨-, hm⟩ | ⟨rfl, rfl, -⟩)
    · exact hm
    · exact Outline.mem_identities.2 ⟨e, he, hi.symm⟩
  · intro hm
    by_cases hn : n = id
    · subst hn
      obtain ⟨e', he', rfl⟩ := Outline.mem_identities.1 hm
      obtain rfl := eq_of_mem_outline he he'
      exact .inr ⟨rfl, hi.symm, hasNode_of_mem he⟩
    · exact .inl ⟨hn, hm⟩

theorem outline_clearing (sl : Slide) (id : ShapeId) :
    (sl.modify id fun s => s.withMemo "").outline ⊆ sl.outline := by
  have none : Descriptor.read? "" = none := by decide
  intro (n, e) he
  rcases mem_outline_withMemo.1 he with ⟨-, he⟩ | ⟨-, -, hd⟩
  · exact he
  · rw [none] at hd
    cases hd

theorem Orderly.kept_clearing (h : sl.Orderly) : sl.Kept (sl.modify id fun s => s.withMemo "") := by
  apply kept_of_subset
  · refine h.modify (fun s => s.withMemo_id _) fun s _ _ => ⟨s.withMemo_tidy _, fun _ => ?_⟩
    exact .inl (s.memo_withMemo _)
  · exact outline_clearing sl id

end

end Slide

/-! ## Edits that keep a slide orderly -/

namespace Edit

variable {α : Type} {m : Edit α} {sl now : Slide}

/-- What keeps the slide that it finds also keeps an earlier one that was kept until then. -/
theorem Makes.since (hm : Makes m now (fun _ => now.Kept) now.Kept) (hk : sl.Kept now) :
    Makes m now (fun _ => sl.Kept) sl.Kept :=
  hm.mono (fun _ _ h => hk.trans h) fun _ h => hk.trans h

/-- What adds at most a shape that is no part of a hierarchy keeps the slide. -/
theorem Makes.keeps {Q : α → Slide → Prop} {node : Bool} (hm : Makes m now Q (now.MayGrow node)) (hk : sl.Kept now)
    (hQ : ∀ a after, Q a after → now.MayGrow node after) : Makes m now (fun _ => sl.Kept) sl.Kept := by
  have kept {after : Slide} (hg : now.MayGrow node after) : now.Kept after := hk.orderly.kept_mayGrow hg
  exact (hm.mono (fun a after h => kept (hQ a after h)) fun _ h => kept h).since hk

end Edit

end FlowDeck
