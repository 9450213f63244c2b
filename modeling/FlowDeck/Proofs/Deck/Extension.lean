import FlowDeck.Proofs.Deck.Orderly
import FlowDeck.Proofs.Hierarchy.Attaching

/-!
# Slides that extend others

Between two slides some nodes move: they get another identity or lose theirs. All others keep their
identities and go on listing the children they list. What identities are new in the outline is said
apart, so that a command is followed by naming the identities it gives.
-/

namespace FlowDeck

namespace Slide

variable {sl mid last after : Slide} {Moved : ShapeId → Prop} {New New' : List String × String → Prop}
variable {n id : ShapeId} {d e : Descriptor}

/-- Nodes that have not moved keep identities and children, and an identity that was not there is one of
`New`. -/
structure Extends (sl after : Slide) (Moved : ShapeId → Prop) (New : List String × String → Prop) : Prop where
  kept : ∀ n d, (n, d) ∈ sl.outline → ¬Moved n →
    ∃ d', (n, d') ∈ after.outline ∧ d'.identity = d.identity ∧ d.childIds ⊆ d'.childIds
  new : ∀ n e, (n, e) ∈ after.outline → (n, e.identity) ∈ sl.outline.identities ∨ New e.identity

theorem Extends.trans (h : sl.Extends mid Moved New) (h' : mid.Extends last Moved New) :
    sl.Extends last Moved New where
  kept n d hd hn := by
    obtain ⟨d₁, hd₁, hi₁, hc₁⟩ := h.kept n d hd hn
    obtain ⟨d₂, hd₂, hi₂, hc₂⟩ := h'.kept n d₁ hd₁ hn
    exact ⟨d₂, hd₂, hi₂.trans hi₁, List.Subset.trans hc₁ hc₂⟩
  new n e he := by
    rcases h'.new n e he with old | new
    · obtain ⟨d, hd, hi⟩ := Outline.mem_identities.1 old
      rw [← hi]
      exact h.new n d hd
    · exact .inr new

theorem Extends.mono (h : sl.Extends after Moved New) {Moved' : ShapeId → Prop} (hm : ∀ n, Moved n → Moved' n)
    (hn : ∀ i, New i → New' i) : sl.Extends after Moved' New' where
  kept n d hd hn := h.kept n d hd fun hm' => hn (hm n hm')
  new n e he := (h.new n e he).imp_right (hn _)

theorem extends_of_eq (h : after.outline = sl.outline) : sl.Extends after Moved New where
  kept _ d hd _ := ⟨d, h ▸ hd, rfl, fun _ hc => hc⟩
  new _ e he := .inl (Outline.mem_identities.2 ⟨e, h ▸ he, rfl⟩)

theorem Orderly.extends_mayGrow {node : Bool} (h : sl.Orderly) (hg : sl.MayGrow node after) :
    sl.Extends after Moved New :=
  extends_of_eq (h.mayGrow hg).2

/-- A node stores a descriptor with a new identity. -/
theorem extends_storing (hw : d.Writable) (hm : ∀ d, (id, d) ∈ sl.outline → Moved id)
    (hn : New d.identity) : sl.Extends (sl.storing id d) Moved New where
  kept n e he hmoved := by
    by_cases hid : n = id
    · subst hid
      exact absurd (hm e he) hmoved
    · exact ⟨e, mem_outline_storing_other hid he, rfl, fun _ hc => hc⟩
  new n e he := by
    rcases (mem_outline_storing hw).1 he with ⟨-, he⟩ | ⟨-, rfl, -⟩
    · exact .inl (Outline.mem_identities.2 ⟨e, he, rfl⟩)
    · exact .inr (by simpa using hn)

/-- A node stores what it had, with more children perhaps. -/
theorem extends_restoring (hw : d.Writable) (he : (id, e) ∈ sl.outline)
    (hi : d.identity = e.identity) (hc : e.childIds ⊆ d.childIds) : sl.Extends (sl.storing id d) Moved New where
  kept n f hf _ := by
    by_cases hid : n = id
    · subst hid
      obtain rfl := eq_of_mem_outline he hf
      refine ⟨d.stored, (mem_outline_storing hw).2 (.inr ⟨rfl, rfl, hasNode_of_mem he⟩), ?_, ?_⟩
      · rw [Descriptor.stored_identity, hi]
      · simpa [Descriptor.childIds] using hc
    · exact ⟨f, mem_outline_storing_other hid hf, rfl, fun _ hc => hc⟩
  new n f hf := by
    have := Outline.mem_identities.2 ⟨f, hf, rfl⟩
    exact .inl ((mem_identities_restoring hw he hi).1 this)

/-- A new node stores a descriptor. -/
theorem Orderly.extends_drawn (h : sl.Orderly) (hg : sl.Grows true mid) (hw : d.Writable) (hn : New d.identity) :
    sl.Extends (mid.storing sl.nextId d) Moved New := by
  have same := (h.grows hg).2
  refine Extends.trans (extends_of_eq same) (extends_storing hw (fun d hd => ?_) hn)
  rw [same] at hd
  exact absurd rfl (ne_nextId hd)

/-- What a node keeps that has not moved. -/
theorem Extends.listed (h : sl.Extends after Moved New) (hn : ¬Moved n) (hd : (n, d) ∈ sl.outline)
    (he : (n, e) ∈ after.outline) : e.identity = d.identity ∧ d.childIds ⊆ e.childIds := by
  obtain ⟨d', hd', hi, hc⟩ := h.kept n d hd hn
  obtain rfl := eq_of_mem_outline hd' he
  exact ⟨hi, hc⟩

/-- Nobody has moved: the slide stays orderly and has come to hold identities of `New`. -/
structure Grown (sl after : Slide) (New : List String × String → Prop) : Prop where
  kept : sl.Kept after
  extension : sl.Extends after (fun _ => False) New

theorem Grown.refl (h : sl.Orderly) : sl.Grown sl New := ⟨.refl h, extends_of_eq rfl⟩

theorem Grown.trans (h : sl.Grown mid New) (h' : mid.Grown last New) : sl.Grown last New :=
  ⟨h.kept.trans h'.kept, h.extension.trans h'.extension⟩

theorem Grown.mono (h : sl.Grown after New) (hn : ∀ i, New i → New' i) : sl.Grown after New' :=
  ⟨h.kept, h.extension.mono (fun _ h => h) hn⟩

theorem Grown.mayGrow {node : Bool} (h : sl.Grown mid New) (hg : mid.MayGrow node after) : sl.Grown after New :=
  h.trans ⟨h.kept.orderly.kept_mayGrow hg, h.kept.orderly.extends_mayGrow hg⟩

def KeepsLists (sl after : Slide) : Prop :=
  ∀ n d e, (n, d) ∈ sl.outline → (n, e) ∈ after.outline → e.identity = d.identity → d.childIds ⊆ e.childIds

structure Tracks (sl after : Slide) (New : List String × String → Prop) : Prop where
  lists : sl.KeepsLists after
  new : ∀ n e, (n, e) ∈ after.outline → (n, e.identity) ∈ sl.outline.identities ∨ New e.identity

/-- Nodes that have moved may keep their lists as well. -/
theorem Extends.tracks_moved (h : sl.Extends after Moved New)
    (hl : ∀ n d e, Moved n → (n, d) ∈ sl.outline → (n, e) ∈ after.outline → d.childIds ⊆ e.childIds) :
    sl.Tracks after New where
  lists n d e hd he _ := by
    by_cases hn : Moved n
    · exact hl n d e hn hd he
    · exact (h.listed hn hd he).2
  new := h.new

theorem Extends.tracks (h : sl.Extends after (fun _ => False) New) : sl.Tracks after New :=
  h.tracks_moved fun _ _ _ hn => hn.elim

theorem Grown.tracks (h : sl.Grown after New) : sl.Tracks after New := h.extension.tracks

theorem Tracks.mono (h : sl.Tracks after New) (hn : ∀ i, New i → New' i) : sl.Tracks after New' :=
  ⟨h.lists, fun n e he => (h.new n e he).imp_right (hn _)⟩

theorem Tracks.of_eq (h : sl.Tracks mid New) (he : after.outline = mid.outline) : sl.Tracks after New :=
  ⟨fun n d e hd hm => h.lists n d e hd (he ▸ hm), fun n e hm => h.new n e (he ▸ hm)⟩

theorem keepsLists_of_subset (hs : after.outline ⊆ sl.outline) : sl.KeepsLists after := by
  intro n d e hd he _
  obtain rfl := eq_of_mem_outline hd (hs he)
  exact List.Subset.refl _

theorem tracks_of_subset (hs : after.outline ⊆ sl.outline) : sl.Tracks after New where
  lists := keepsLists_of_subset hs
  new _ e he := .inl (Outline.mem_identities.2 ⟨e, hs he, rfl⟩)

structure Planted (sl after : Slide) (node : ShapeId) (root : Descriptor) : Prop where
  eq : after = sl.storing node root
  writable : root.Writable
  chain : root.chain = []
  kept : sl.Kept after

/-- Roots stay where they are when another node becomes one. -/
theorem Planted.extends {node : ShapeId} {root : Descriptor} (h : sl.Planted after node root) :
    sl.Extends after (· = node) (·.1 = []) :=
  h.eq ▸ extends_storing h.writable (fun _ _ => rfl) h.chain

theorem Planted.tracks {node : ShapeId} {root : Descriptor} (h : sl.Planted after node root)
    (hn : ∀ d, (node, d) ∈ sl.outline → d.chain ≠ []) : sl.Tracks after (·.1 = []) where
  lists n d e hd he hi := by
    by_cases hid : n = node
    · subst hid
      rw [h.eq] at he
      rcases (mem_outline_storing h.writable).1 he with ⟨hne, -⟩ | ⟨-, rfl, -⟩
      · exact absurd rfl hne
      · rw [Descriptor.stored_identity] at hi
        exact absurd ((congrArg Prod.fst hi).symm.trans h.chain) (hn d hd)
    · exact (h.extends.listed hid hd he).2
  new := h.extends.new

end Slide

/-! ## Listing -/

namespace Outline

variable {outline : Outline} {i : List String × String}

/-- The identity of a root, or of a child of some node. -/
def Supports (outline : Outline) (i : List String × String) : Prop :=
  i.1 = [] ∨ ∃ p ∈ outline, i.1 = p.2.chainBelow

def Enters (outline : Outline) (i : List String × String) : Prop :=
  i.1 = [] ∨ ∃ p ∈ outline, i.1 = p.2.chainBelow ∧ i.2 ∈ p.2.childIds

def Lists (outline : Outline) (i : List String × String) : Prop :=
  ∀ p ∈ outline, i.1 = p.2.chainBelow → i.2 ∈ p.2.childIds

theorem Enters.supports (h : outline.Enters i) : outline.Supports i :=
  h.imp_right fun ⟨p, hp, hc, _⟩ => ⟨p, hp, hc⟩

end Outline

theorem Slide.Grown.supported {sl after : Slide} (h : sl.Grown after after.outline.Enters) :
    sl.Grown after after.outline.Supports :=
  h.mono fun _ hi => hi.supports

theorem Descriptor.identity_eq_of_chainBelow {d e : Descriptor} (h : d.chainBelow = e.chainBelow) :
    d.identity = e.identity := by
  obtain ⟨hc, hid⟩ := List.append_inj' h rfl
  exact Prod.ext hc (List.singleton_inj.1 hid)

theorem Descriptor.chainBelow_eq_of_identity {d e : Descriptor} (h : d.identity = e.identity) :
    d.chainBelow = e.chainBelow := by
  obtain ⟨hc, hid⟩ := Prod.mk.inj h
  rw [chainBelow, chainBelow, hc, hid]

/-- Among distinct nodes only one has the identity below it. -/
theorem Outline.Enters.lists {sl : Slide} {i : List String × String} (h : sl.outline.Enters i)
    (hd : sl.outline.Distinct) : sl.outline.Lists i := by
  intro p hp hc
  rcases h with hnone | ⟨q, hq, hqc, hlisted⟩
  · simp [Descriptor.chainBelow, hnone] at hc
  · have same := hd.eq p hp q hq (Descriptor.identity_eq_of_chainBelow (hc.symm.trans hqc))
    obtain ⟨n, d⟩ := p
    obtain ⟨m, e⟩ := q
    obtain rfl : n = m := same
    obtain rfl := Slide.eq_of_mem_outline hp hq
    exact hlisted

namespace Slide

/-- The list of a node has come to hold these identifiers, and nothing else is different. -/
structure Attached (sl after : Slide) (node : ShapeId) (parent : Descriptor) (ids : List String) : Prop where
  kept : sl.Kept after
  extension : ∀ Moved New, sl.Extends after Moved New
  identities : ∀ e, e ∈ after.outline.identities ↔ e ∈ sl.outline.identities
  others : ∀ n e, (n, e) ∈ after.outline → n ≠ node → (n, e) ∈ sl.outline
  listing : ∃ e, (node, e) ∈ after.outline ∧ e.identity = parent.identity ∧ ids ⊆ e.childIds

theorem Orderly.attached {sl : Slide} {node : ShapeId} {parent : Descriptor} (h : sl.Orderly)
    (hp : (node, parent) ∈ sl.outline) (refs : List ChildRef) (hr : ∀ ref ∈ refs, Record.FitsChild ref) :
    sl.Attached (sl.storing node (parent.attach refs)) node parent (refs.map (·.id)) := by
  have writable := (h.writable_of_mem hp).2.attach refs hr
  have more := parent.childIds_subset_attach refs
  have there := (mem_outline_storing writable).2 (.inr ⟨rfl, rfl, hasNode_of_mem hp⟩)
  refine ⟨h.kept_restoring writable hp rfl, fun _ _ => extends_restoring writable hp rfl more,
    fun _ => mem_identities_restoring writable hp rfl, fun n e he hn => ?_, _, there, ?_, ?_⟩
  · rcases (mem_outline_storing writable).1 he with ⟨-, he⟩ | ⟨hid, -⟩
    · exact he
    · exact absurd hid hn
  · rw [Descriptor.stored_identity]; rfl
  · intro id hid
    obtain ⟨ref, href, rfl⟩ := List.mem_map.1 hid
    have listed : ref.id ∈ (parent.attach refs).childIds :=
      Descriptor.mem_childIds_attach.2 (.inr ⟨(hr ref href).1.ne_empty, hid⟩)
    simpa [Descriptor.childIds] using listed

/-- Nodes below the parent whose identifiers have been attached are entered. -/
theorem Attached.enters {sl after : Slide} {node : ShapeId} {parent : Descriptor} {ids : List String}
    {i : List String × String} (h : sl.Attached after node parent ids)
    (hi : i.1 = [] ∨ i.1 = parent.chainBelow ∧ i.2 ∈ ids) : after.outline.Enters i := by
  obtain ⟨e, he, same, listed⟩ := h.listing
  refine hi.imp_right fun hb => ⟨(node, e), he, ?_, listed hb.2⟩
  rw [hb.1, Descriptor.chainBelow_eq_of_identity same]

end Slide

end FlowDeck
