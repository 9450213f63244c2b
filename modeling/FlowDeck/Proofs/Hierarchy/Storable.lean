import FlowDeck.Proofs.Hierarchy.Depth
import FlowDeck.Text.Storable

/-!
# Descriptors that can be stored

A descriptor is written with the characters of its identifiers and layouts and with marks of its own. So
it can be stored if they can. New identifiers can always be stored.
-/

namespace FlowDeck

def Storable (text : String) : Prop :=
  ∀ c ∈ text.toList, Text.isStorable c

instance (text : String) : Decidable (Storable text) :=
  decidable_of_iff (text.toList.all Text.isStorable) List.all_eq_true

/-- All characters between the blank and the last of the plain ones can be stored. -/
theorem isStorable_of_range {c : Char} (low : 32 ≤ c.toNat) (high : c.toNat < 128) : Text.isStorable c := by
  simp only [Text.isStorable, Text.isSetAside, Bool.and_eq_true, Bool.or_eq_true, decide_eq_true_eq, Bool.not_eq_true',
    Bool.or_eq_false_iff, beq_eq_false_iff_ne]
  omega

/-- A new identifier is made of letters and digits. -/
theorem storable_siblingId {level : String} (h : ∀ c ∈ level.toList, isLevelLetter c) (n : Nat) :
    Storable (siblingId level n) := by
  intro c hc
  rw [toList_siblingId, List.mem_append] at hc
  rcases hc with hc | hc
  · have letter := h c hc
    simp only [isLevelLetter, Bool.and_eq_true, decide_eq_true_eq] at letter
    have low : 65 ≤ c.toNat := letter.1
    have high : c.toNat ≤ 90 := letter.2
    exact isStorable_of_range (by omega) (by omega)
  · have digit := isDigit_of_mem_toDigits hc
    simp only [Char.isDigit, Bool.and_eq_true, decide_eq_true_eq] at digit
    have low : 48 ≤ c.toNat := digit.1
    have high : c.toNat ≤ 57 := digit.2
    exact isStorable_of_range (by omega) (by omega)

theorem isLevelLetter_of_mem_levelOf {id : String} : ∀ c ∈ (levelOf id).toList, isLevelLetter c := by
  intro c hc
  rw [levelOf, String.toList_ofList] at hc
  exact List.mem_takeWhile_imp hc

namespace Descriptor

structure Storable (d : Descriptor) : Prop where
  current : FlowDeck.Storable d.current
  chain : ∀ id ∈ d.chain, FlowDeck.Storable id
  layout : FlowDeck.Storable d.layout
  children : ∀ c ∈ d.children, FlowDeck.Storable c.id ∧ FlowDeck.Storable c.layout

variable {d : Descriptor}

theorem Storable.render (h : d.Storable) : FlowDeck.Storable d.render := by
  have chain : ∀ c ∈ Record.chainText d.chain, Text.isStorable c := by
    intro c hc
    rcases Text.mem_intercalate hc with hc | ⟨piece, hp, hc⟩
    · exact List.mem_singleton.1 hc ▸ by decide
    · obtain ⟨id, hid, rfl⟩ := List.mem_map.1 hp
      exact h.chain id hid c hc
  have layout : ∀ c ∈ Record.layoutText d, Text.isStorable c := by
    unfold Record.layoutText
    split
    · simp
    · simp only [List.forall_mem_append, List.forall_mem_cons]
      exact ⟨⟨by decide, h.layout⟩, by decide, by simp⟩
  have child (c : ChildRef) (hc : c ∈ d.children) : ∀ a ∈ Record.childText c, Text.isStorable a := by
    unfold Record.childText
    split
    · exact (h.children c hc).1
    · simp only [List.forall_mem_append, List.forall_mem_cons]
      exact ⟨(h.children c hc).1, by decide, (h.children c hc).2⟩
  have children : ∀ c ∈ Record.childrenText d.children, Text.isStorable c := by
    intro c hc
    rcases Text.mem_intercalate hc with hc | ⟨piece, hp, hc⟩
    · exact List.mem_singleton.1 hc ▸ by decide
    · obtain ⟨ref, href, rfl⟩ := List.mem_map.1 hp
      exact child ref href c hc
  have opening : ∀ c ∈ Record.opening, Text.isStorable c := List.all_eq_true.1 (by decide)
  rw [FlowDeck.Storable, Descriptor.render, String.toList_ofList]
  simp only [List.forall_mem_append, List.forall_mem_cons]
  exact ⟨⟨⟨⟨⟨opening, chain⟩, by decide, layout⟩, by decide, h.current⟩, by decide, by decide, children⟩,
    by decide, by simp⟩

end Descriptor

end FlowDeck
