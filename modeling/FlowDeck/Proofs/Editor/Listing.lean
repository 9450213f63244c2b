import FlowDeck.Proofs.Editor.Relatives

/-!
# Lists of children through sessions

A node lists its children, and the chain of a child ends with its parent. The two are written apart.
They come out of step where a node is given an identity that the chain of another one already ends
with: nodes are left behind when their parent moves or goes, and numbers of roots are taken again.
-/

namespace FlowDeck

open Slide Edit Command

variable {desk : Desk} {page : Page} {step : Step} {steps : List Step}

def Outline.InStep (outline : Outline) : Prop :=
  ∀ p ∈ outline, ∀ c ∈ outline, c.2.chain = p.2.chainBelow → c.2.current ∈ p.2.childIds

instance (outline : Outline) : Decidable outline.InStep :=
  inferInstanceAs (Decidable (∀ p ∈ outline, ∀ c ∈ outline, _ → _))

def Step.isHierarchical : Step → Bool
  | .addNode .. => true
  | .request (.initRoot ..) | .request (.createChildren ..) | .request (.createSibling ..) => true
  | .request (.link ..) | .request (.clear ..) => true
  | .request (.setLayout ..) | .request (.setChildLayout ..) => true
  | _ => false

/-- The step gives a node an identity that it did not have, and does not list for it a child that was
there with its identity before. -/
def Step.TakesUp (desk : Desk) (page : Page) (step : Step) : Prop :=
  ∃ p ∈ (step.after desk page).slide.outline, ∃ c ∈ (step.after desk page).slide.outline,
    (p.1, p.2.identity) ∉ page.slide.outline.identities ∧ (c.1, c.2.identity) ∈ page.slide.outline.identities ∧
      c.2.chain = p.2.chainBelow ∧ c.2.current ∉ p.2.childIds

/-- The step faults when it has placed a child, and before a parent lists it. -/
def Step.BreaksOff (desk : Desk) (page : Page) (step : Step) : Prop :=
  step.Faults desk page ∧
    ∃ p ∈ (step.after desk page).slide.outline, ∃ c ∈ (step.after desk page).slide.outline,
      (c.1, c.2.identity) ∉ page.slide.outline.identities ∧ c.2.chain = p.2.chainBelow ∧ c.2.current ∉ p.2.childIds

/-- What a step keeps: lists of nodes do not shrink, and where it does not fault, all nodes list what it
places below them. -/
theorem Step.tracks_after (desk : Desk) (h : page.slide.Orderly) (hp : step.IsPlain)
    (hs : step.isHierarchical = true) :
    Makes (step.perform desk) page.slide
      (fun _ after => page.slide.Tracks after fun i =>
        page.slide.outline.Distinct → after.outline.Distinct → after.outline.Lists i)
      (page.slide.KeepsLists ·) := by
  have drop {α : Type} {m : Edit α} {Q : Slide → Prop} {E : Slide → Prop}
      (hm : Makes m page.slide (fun _ => Q) E) : Makes (do let _ ← m) page.slide (fun _ => Q) E :=
    hm.bind fun _ _ h => makes_pure h
  have unrelated {i : List String × String} {outline : Outline} (hi : i.1 = []) : outline.Lists i := by
    intro p _ hc
    simp [Descriptor.chainBelow, hi] at hc
  have entered {after : Slide} (ho : after.Orderly) (ht : page.slide.Tracks after after.outline.Enters) :
      page.slide.Tracks after fun i =>
        page.slide.outline.Distinct → after.outline.Distinct → after.outline.Lists i :=
    ht.mono fun i hi _ hd => hi.lists hd
  cases step with
  | addNode text x y width height =>
    have plain : Descriptor.looksLike text = false := hp.1 text List.mem_cons_self
    have same {after : Slide} (hg : page.slide.MayGrow true after) : after.outline ⊆ page.slide.outline :=
      (h.mayGrow hg).2 ▸ List.Subset.refl _
    exact drop ((makes_addNode desk x y width height plain).mono
      (fun _ _ hg => tracks_of_subset (same (.inr hg))) fun _ hg => keepsLists_of_subset (same hg))
  | byHand edit => cases hs
  | request asked =>
    cases asked with
    | initRoot node =>
      have rooted {after : Slide} (hr : Rooting page.slide after) : page.slide.Tracks after (·.1 = []) := by
        rcases hr with rfl | ⟨node, root, planted, hc⟩
        · exact tracks_of_subset (List.Subset.refl _)
        · exact planted.tracks hc
      exact drop ((makes_initRoot node h).mono (fun _ _ hr => (rooted hr).mono fun _ hi _ _ => unrelated hi)
        fun _ hr => (rooted hr).lists)
    | createChildren node direction count gap labels edge =>
      exact drop ((makes_createChildren desk node direction count gap labels edge h).mono
        (fun _ _ hg => entered hg.kept.orderly hg.tracks) fun _ hg => (hg hp.1).tracks.lists)
    | createSibling node gap edge =>
      exact drop ((makes_createSibling desk node gap edge h).mono
        (fun _ _ ho => ho.2.mono fun _ hi hd _ => hi hd) fun _ ho => ho.2.lists)
    | link a b edge =>
      exact drop ((makes_link desk a b edge h).mono (fun _ _ hl => entered hl.1.orderly hl.2)
        fun _ hl => hl.2.lists)
    | clear node =>
      exact drop ((makes_clear node h).mono (fun _ _ hk => tracks_of_subset hk.2) fun _ hk =>
        keepsLists_of_subset hk.2)
    | setLayout node layout =>
      exact drop ((makes_setLayout node layout h).mono (fun _ _ hg => hg.tracks.mono fun _ hi => hi.elim)
        fun _ hg => hg.tracks.lists)
    | setChildLayout node child layout =>
      exact drop ((makes_setChildLayout node child layout h).mono
        (fun _ _ hg => hg.tracks.mono fun _ hi => hi.elim) fun _ hg => hg.tracks.lists)
    | _ => cases hs

theorem Step.keepsLists_after (desk : Desk) (h : page.slide.Orderly) (hp : step.IsPlain)
    (hs : step.isHierarchical = true) :
    page.slide.KeepsLists (step.after desk page).slide :=
  ((Step.tracks_after desk h hp hs).mono (fun _ _ ht => ht.lists) fun _ hl => hl).always rfl

theorem Step.lists_after (h : page.slide.Orderly) (hp : step.IsPlain) (hs : step.isHierarchical = true)
    (hd : page.slide.outline.Distinct) (hd' : (step.after desk page).slide.outline.Distinct)
    (hf : ¬step.Faults desk page) {e : ShapeId × Descriptor} (he : e ∈ (step.after desk page).slide.outline)
    (hn : (e.1, e.2.identity) ∉ page.slide.outline.identities) :
    (step.after desk page).slide.outline.Lists e.2.identity := by
  obtain ⟨_, tracks⟩ := (Step.tracks_after desk h hp hs).ended rfl hf
  exact (tracks.new e.1 e.2 he).resolve_left hn hd hd'

/-- A node that was there and has not moved lists a child that was there, since it did so before; so it
is the parent or the child that has been placed. -/
theorem Step.inStep_after (h : page.slide.Orderly) (hp : step.IsPlain) (hs : step.isHierarchical = true)
    (hd : page.slide.outline.Distinct) (hd' : (step.after desk page).slide.outline.Distinct)
    (hi : page.slide.outline.InStep) (ht : ¬step.TakesUp desk page) (hb : ¬step.BreaksOff desk page) :
    (step.after desk page).slide.outline.InStep := by
  intro p hpm c hcm hc
  by_contra unlisted
  by_cases oldChild : (c.1, c.2.identity) ∈ page.slide.outline.identities
  · by_cases oldParent : (p.1, p.2.identity) ∈ page.slide.outline.identities
    · obtain ⟨d, hdm, hdi⟩ := Outline.mem_identities.1 oldParent
      obtain ⟨e, hem, hei⟩ := Outline.mem_identities.1 oldChild
      obtain ⟨chain, current⟩ := Prod.mk.inj hei
      have below : e.chain = d.chainBelow := by
        rw [chain, hc, Descriptor.chainBelow_eq_of_identity hdi]
      have listed := Step.keepsLists_after desk h hp hs p.1 d p.2 hdm hpm hdi.symm
      exact unlisted (current ▸ listed (hi _ hdm _ hem below))
    · exact ht ⟨p, hpm, c, hcm, oldParent, oldChild, hc, unlisted⟩
  · by_cases hf : step.Faults desk page
    · exact hb ⟨hf, p, hpm, c, hcm, oldChild, hc, unlisted⟩
    · exact unlisted (Step.lists_after h hp hs hd hd' hf hcm oldChild p hpm hc)

/-- As long as nodes are distinct, parents list their children at every moment of a session, exactly if no
step gives a node an identity that nodes it does not list have in their chains, and none breaks off
between a child and the list of its parent. -/
theorem session_inStep_iff (desk : Desk) (steps : List Step)
    (hp : ∀ step ∈ steps, step.IsPlain ∧ step.isHierarchical = true)
    (hd : ∀ before, before <+: steps → (session desk before).slide.outline.Distinct) :
    (∀ before, before <+: steps → (session desk before).slide.outline.InStep) ↔
      ∀ before step, before ++ [step] <+: steps →
        ¬step.TakesUp desk (session desk before) ∧ ¬step.BreaksOff desk (session desk before) := by
  constructor
  · intro h before step hb
    have inStep := h _ hb
    rw [session_append] at inStep
    constructor
    · rintro ⟨p, hpm, c, hcm, -, -, hc, unlisted⟩
      exact unlisted (inStep p hpm c hcm hc)
    · rintro ⟨-, p, hpm, c, hcm, -, hc, unlisted⟩
      exact unlisted (inStep p hpm c hcm hc)
  · intro h before
    induction before using List.reverseRecOn with
    | nil => exact fun _ p hpm => absurd hpm List.not_mem_nil
    | append_singleton before step ih =>
      intro hb
      have earlier := (List.prefix_append before [step]).trans hb
      have orderly := session_orderly desk fun step hs => (hp step (earlier.subset hs)).1
      obtain ⟨plain, hierarchical⟩ := hp step (hb.subset (List.mem_append_right _ List.mem_cons_self))
      obtain ⟨takesUp, breaksOff⟩ := h before step hb
      have distinct := hd _ hb
      rw [session_append] at distinct ⊢
      exact Step.inStep_after orderly plain hierarchical (hd _ earlier) distinct (ih earlier) takesUp breaksOff

/-- Of two linked nodes the first one is cleared and made a root again. -/
def replanted : List Step :=
  [.addNode "" none none none none, .addNode "" none none none none, .request (.link (some 2) (some 3) none),
    .request (.clear (some 2)), .request (.initRoot (some 2))]

theorem outline_replanted : (session Desk.bare replanted).slide.outline =
    [(2, ⟨"A1", [], "LR", []⟩), (3, ⟨"B1", ["A1"], "LR", []⟩)] := by
  decide +kernel

theorem replanted_plain : ∀ step ∈ replanted, step.IsPlain ∧ step.isHierarchical = true := by
  decide +kernel

/-- The new root takes up the child of the old one. -/
theorem session_replanted : (∀ step ∈ replanted, step.IsPlain ∧ step.isHierarchical = true) ∧
    ¬(session Desk.bare replanted).slide.outline.InStep := by
  rw [outline_replanted]
  exact ⟨replanted_plain, by decide⟩

theorem session_inStep_replanted : ∃ before step, before ++ [step] <+: replanted ∧
    (step.TakesUp Desk.bare (session Desk.bare before) ∨ step.BreaksOff Desk.bare (session Desk.bare before)) := by
  have distinct : ∀ before, before <+: replanted → (session Desk.bare before).slide.outline.Distinct := by
    intro before
    induction before using List.reverseRecOn with
    | nil => exact fun _ => ⟨fun e he => absurd he List.not_mem_nil⟩
    | append_singleton before step ih =>
      intro hb
      have earlier := (List.prefix_append before [step]).trans hb
      have orderly := session_orderly Desk.bare fun step hs => (replanted_plain step (earlier.subset hs)).1
      have hm := hb.subset (List.mem_append_right _ List.mem_cons_self)
      have alone : ∀ step ∈ replanted, step.asksSibling = false := by decide +kernel
      rw [session_append]
      exact (Step.kept_after orderly (replanted_plain step hm).1 (alone step hm)).distinct (ih earlier)
  by_contra none
  have inStep := (session_inStep_iff Desk.bare replanted replanted_plain distinct).2 fun before step hb =>
    ⟨fun h => none ⟨before, step, hb, .inl h⟩, fun h => none ⟨before, step, hb, .inr h⟩⟩
  have last := inStep replanted List.prefix_rfl
  rw [outline_replanted] at last
  revert last
  decide

end FlowDeck
