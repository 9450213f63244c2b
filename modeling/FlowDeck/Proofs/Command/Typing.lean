import FlowDeck.Proofs.Deck.Orderly
import FlowDeck.Proofs.Hierarchy.Storable

/-!
# Nodes that get a descriptor

A command that needs the descriptor of a node takes the one that the node shows, or makes the node a root
first. Then the node stores what a root stores, and nothing else on the slide changes.
-/

namespace FlowDeck

open Slide Edit

variable {sl start : Slide} {node : ShapeId} {parent : Descriptor}

namespace Edit

theorem freshRoot_eq {outline : Outline} {root : Descriptor} (h : freshRoot outline node = .ok root) :
    let roots := outline.filter fun entry => entry.1 != node && entry.2.level == rootLevel
    root = { current := freeRootId (roots.map (·.2.current)) } := by
  unfold freshRoot at h
  simp only [bind, Except.bind] at h
  split at h
  · cases h
  · next id hid =>
    cases h
    rw [readFreeRootId_eq hid]

theorem writable_freshRoot {outline : Outline} {root : Descriptor} (h : freshRoot outline node = .ok root) :
    root.Writable := by
  rw [freshRoot_eq h]
  exact Descriptor.writable_root ⟨_, (freeRootNumber_spec _).1, rfl⟩

theorem storable_freshRoot {outline : Outline} {root : Descriptor} (h : freshRoot outline node = .ok root) :
    root.Storable := by
  rw [freshRoot_eq h]
  exact ⟨storable_siblingId isLevel_rootLevel.letters _, by simp, by simp [Storable], by simp⟩

theorem chain_freshRoot {outline : Outline} {root : Descriptor} (h : freshRoot outline node = .ok root) :
    root.chain = [] := by
  rw [freshRoot_eq h]

end Edit

namespace Slide

/-- The node keeps `parent` on the slide `start`: it did so before, or it was made a root. -/
structure Typed (sl : Slide) (node : ShapeId) (parent : Descriptor) (start : Slide) : Prop where
  here : start.outline.lookup node = some parent
  before : start = sl ∨ sl.outline.lookup node = none ∧
    ∃ root, freshRoot sl.outline node = .ok root ∧ start = sl.storing node root

theorem Typed.unique {parent' : Descriptor} {start' : Slide} (h : sl.Typed node parent start)
    (h' : sl.Typed node parent' start') : start' = start ∧ parent' = parent := by
  have same : start' = start := by
    rcases h.before with rfl | ⟨none, root, hroot, rfl⟩ <;> rcases h'.before with rfl | ⟨none', root', hroot', rfl⟩
    · rfl
    · rw [h.here] at none'
      cases none'
    · rw [h'.here] at none
      cases none
    · rw [hroot] at hroot'
      rw [Except.ok.inj hroot']
  subst same
  exact ⟨rfl, Option.some.inj (h'.here.symm.trans h.here)⟩

theorem Typed.mem (h : sl.Typed node parent start) : (node, parent) ∈ start.outline :=
  Outline.mem_of_lookup h.here

theorem Typed.exists_shape (h : sl.Typed node parent start) : ∃ s ∈ start, s.id = node :=
  exists_of_mem_outline h.mem

theorem Typed.nodes (h : sl.Typed node parent start) : start.nodes = sl.nodes := by
  rcases h.before with rfl | ⟨-, root, -, rfl⟩
  · rfl
  · exact nodes_storing sl node root

/-- The node has a descriptor, or it becomes a root. -/
def TakenFor (sl : Slide) (node : ShapeId) (parent : Descriptor) : Prop :=
  sl.outline.lookup node = some parent ∨
    sl.outline.lookup node = none ∧ ∃ root, freshRoot sl.outline node = .ok root ∧ parent = root.stored

theorem Typed.takenFor (h : sl.Typed node parent start) : sl.TakenFor node parent := by
  rcases h.before with rfl | ⟨untyped, root, hroot, rfl⟩
  · exact .inl h.here
  · refine .inr ⟨untyped, root, hroot, ?_⟩
    rcases (mem_outline_storing (writable_freshRoot hroot)).1 h.mem with ⟨-, old⟩ | ⟨-, same, -⟩
    · exact absurd old (Outline.not_mem_of_lookup untyped)
    · exact same

theorem TakenFor.eq_of_lookup (h : sl.TakenFor node parent) {d : Descriptor} (hd : sl.outline.lookup node = some d) :
    parent = d := by
  rcases h with here | ⟨untyped, -⟩
  · exact Option.some.inj (here.symm.trans hd)
  · cases untyped.symm.trans hd

end Slide

namespace Edit

theorem makes_plantRoot_exact : Makes (plantRoot node) sl
    (fun root after => freshRoot sl.outline node = .ok root ∧ after = sl.storing node root) (· = sl) := by
  refine asks_outline.followed rfl fun outline ho => ?_
  subst ho
  refine asks_ofNumber.followed rfl fun root hroot => .stored rfl ?_
  exact (makes_note (Q := fun _ after => after = sl.storing node root) rfl).bind fun _ _ he => makes_pure ⟨hroot, he⟩

/-- A fault comes before anything is stored, or because the node does not show what it has stored. -/
theorem makes_typed_or : Makes (typed node) sl (sl.Typed node) fun after => after = sl ∨
    after.outline.lookup node = none ∧ sl.outline.lookup node = none ∧
      ∃ root, freshRoot sl.outline node = .ok root ∧ after = sl.storing node root := by
  let Hidden (after : Slide) : Prop := after.outline.lookup node = none ∧ sl.outline.lookup node = none ∧
    ∃ root, freshRoot sl.outline node = .ok root ∧ after = sl.storing node root
  let found (d : Option Descriptor) (after : Slide) : Prop :=
    (∀ parent, d = some parent → sl.Typed node parent after) ∧ (d = none → Hidden after)
  have ensured : Makes (ensureDescriptor node) sl found fun after => after = sl ∨ Hidden after := by
    refine asks_outline.followed (.inl rfl) fun outline ho => ?_
    subst ho
    split
    · next d hd => exact makes_pure ⟨fun parent he => ⟨hd.trans he, .inl rfl⟩, nofun⟩
    next hnone =>
    refine (makes_plantRoot_exact.mono (fun _ _ h => h) fun _ => .inl).bind fun root now ⟨hroot, hnow⟩ => ?_
    refine makes_outline.followed (fun _ h => h) fun outline ho => makes_pure ?_
    subst ho
    exact ⟨fun parent he => ⟨he, .inr ⟨hnone, root, hroot, hnow⟩⟩, fun he => ⟨he, hnone, root, hroot, hnow⟩⟩
  refine ensured.bind fun d now hd => ?_
  cases d with
  | some d => exact makes_pure (hd.1 d rfl)
  | none => exact makes_throw (.inr (hd.2 rfl))

theorem makes_typed_exact : Makes (typed node) sl (sl.Typed node) fun _ => True :=
  makes_typed_or.mono (fun _ _ h => h) fun _ _ => trivial

end Edit

end FlowDeck
