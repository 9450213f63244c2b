import FlowDeck.Proofs.Command.Asking
import FlowDeck.Proofs.Command.Finding
import Mathlib.Data.Set.Insert
import Mathlib.Order.Bounds.Defs

/-!
# Gathering a family

The family of a node is gathered by identifiers, from its own one downwards. Pages are read as they are, so
the way down may come back to where it was, and identifiers may lead to several nodes. The search ends on
every page, with the nodes directly below the least set of identifiers that is closed under going down.
-/

namespace FlowDeck

open Edit

namespace Outline

variable {outline : Outline} {start : String}

/-- Identifiers among which `start` is, and with each identifier those of the nodes directly below it. -/
structure ClosedBelow (outline : Outline) (start : String) (ids : Set String) : Prop where
  start : start ∈ ids
  below : ∀ e ∈ outline, ∀ id ∈ ids, e.2.parentId? = some id → e.2.current ∈ ids

/-- What a way down comes to is the least closed set. -/
theorem isLeast_reached : IsLeast {ids | outline.ClosedBelow start ids} {id | outline.Reached start id} := by
  constructor
  · exact ⟨.inl rfl, fun e he id hid hp => Reached.next hid he hp⟩
  · intro ids closed id reached
    rcases reached with rfl | ⟨e, under, rfl⟩
    · exact closed.start
    · induction under with
      | child he hp => exact closed.below _ he _ closed.start hp
      | further _ he hp ih => exact closed.below _ he _ ih hp

end Outline

namespace Command

open Slide

variable {page : Page} {node : ShapeId} {d : Descriptor}

theorem gives_family (typed : page.slide.descriptorOf? node = some d) :
    Gives (relatives .family node) page.slide (page.slide.outline.family node d) := by
  obtain ⟨s, hs, -⟩ := Option.bind_eq_some_iff.1 typed
  have given := gives_relatives .family ⟨s, shape?_spec hs⟩
  rw [typed] at given
  exact given

/-- Whatever the descriptors on the page are, the family of a node with a descriptor is found: these are the
other nodes directly below the least closed set of identifiers that holds the one of the node, each of them
once. -/
theorem family_closes (typed : page.slide.descriptorOf? node = some d) :
    ∃ reached found, (relatives .family node).run.run page = (.ok found, page) ∧
      IsLeast {ids | page.slide.outline.ClosedBelow d.current ids} reached ∧ found.Nodup ∧
      ∀ n, n ∈ found ↔
        n ≠ node ∧ ∃ e, (n, e) ∈ page.slide.outline ∧ ∃ id ∈ reached, e.parentId? = some id := by
  refine ⟨_, _, gives_family typed page rfl, Outline.isLeast_reached, Outline.nodup_family, fun n => ?_⟩
  rw [Outline.mem_family]
  simp only [Outline.under_iff]
  constructor
  · rintro ⟨hn, ⟨m, e⟩, rfl, he, id, reached, hp⟩
    exact ⟨hn, e, he, id, reached, hp⟩
  · rintro ⟨hn, e, he, id, reached, hp⟩
    exact ⟨hn, (n, e), rfl, he, id, reached, hp⟩

/-- Two nodes that are each other's parents, a second node under each of their identifiers, and a node that is
its own parent. -/
def circle : Page where
  slide := described [(2, "graph[B1](LR)[A1][B1]"), (3, "graph[A1]()[B1][A1]"), (4, "graph[A7|A1]()[B1][]"),
    (5, "graph[A5](TD)[A5][]"), (6, "graph[B1]()[A1][]")]

theorem outline_circle : circle.slide.outline =
    [(2, ⟨"A1", ["B1"], "LR", [⟨"B1", ""⟩]⟩), (3, ⟨"B1", ["A1"], "", [⟨"A1", ""⟩]⟩),
      (4, ⟨"B1", ["A7", "A1"], "", []⟩), (5, ⟨"A5", ["A5"], "TD", []⟩), (6, ⟨"A1", ["B1"], "", []⟩)] := by
  decide +kernel

theorem family_closes_circle : ∃ found, (relatives .family 2).run.run circle = (.ok found, circle) ∧
    found.Nodup ∧ ∀ n, n ∈ found ↔ n = 3 ∨ n = 4 ∨ n = 6 := by
  have typed : circle.slide.descriptorOf? 2 = some ⟨"A1", ["B1"], "LR", [⟨"B1", ""⟩]⟩ := by decide +kernel
  obtain ⟨reached, found, ends, least, nodup, members⟩ := family_closes typed
  rw [outline_circle] at least members
  have names : reached = {"A1", "B1"} := by
    apply Set.Subset.antisymm
    · refine least.2 ⟨by simp, ?_⟩
      simp [Descriptor.parentId?]
    · have first := least.1.start
      have second := least.1.below (3, ⟨"B1", ["A1"], "", [⟨"A1", ""⟩]⟩) (by simp) "A1" first rfl
      simp [Set.insert_subset_iff, first, second]
  refine ⟨found, ends, nodup, fun n => ?_⟩
  rw [members, names]
  constructor
  · rintro ⟨hn, e, he, id, hid, hp⟩
    simp only [List.mem_cons, Prod.mk.injEq, List.not_mem_nil, or_false] at he
    rcases he with ⟨rfl, rfl⟩ | ⟨rfl, rfl⟩ | ⟨rfl, rfl⟩ | ⟨rfl, rfl⟩ | ⟨rfl, rfl⟩ <;>
      simp [Descriptor.parentId?] at hn hp ⊢
    simp [← hp] at hid
  · rintro (rfl | rfl | rfl)
    · exact ⟨by decide, ⟨"B1", ["A1"], "", [⟨"A1", ""⟩]⟩, by simp, "A1", by simp, rfl⟩
    · exact ⟨by decide, ⟨"B1", ["A7", "A1"], "", []⟩, by simp, "A1", by simp, rfl⟩
    · exact ⟨by decide, ⟨"A1", ["B1"], "", []⟩, by simp, "B1", by simp, rfl⟩

end Command

end FlowDeck
