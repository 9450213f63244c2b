import FlowDeck.Proofs.Editor.Session

/-!
# Families and ancestors through sessions

While a hierarchy is only built, with new nodes, roots and children, all chains begin with a root that is
on the page. So the two ways through the hierarchy, down to the family of a node and up to its ancestors,
can be compared on every page that is reached.
-/

namespace FlowDeck

open Slide Edit Command

variable {desk : Desk} {page : Page} {step : Step} {steps : List Step} {sl after : Slide}

def Step.Faults (desk : Desk) (page : Page) (step : Step) : Prop :=
  ∃ fault, ((step.perform desk).run.run page).1 = .error fault

/-- The step adds a node, makes one a root or creates children. Labels are not meant as descriptors; those
of children may be, unless the step faults. -/
def Step.Builds (desk : Desk) (page : Page) (step : Step) : Prop :=
  match step with
  | .addNode text .. => Descriptor.looksLike text = false
  | .request (.initRoot _) => True
  | .request (.createChildren _ _ _ _ labels _) =>
    (∀ label ∈ labels, Descriptor.looksLike label = false) ∨ ¬step.Faults desk page
  | _ => False

/-- Where no root moves and new nodes hang below others, chains go on to begin with roots. -/
theorem Slide.Extends.rooted {Moved : ShapeId → Prop} (h : sl.Extends after Moved after.outline.Supports)
    (hm : ∀ n d, (n, d) ∈ sl.outline → Moved n → d.chain ≠ []) (hr : sl.outline.Rooted) : after.outline.Rooted := by
  -- By the length of the chain, since the parent of a new node may be new as well.
  have byLength (len : Nat) : ∀ n e, (n, e) ∈ after.outline → e.chain.length = len → ∀ id, e.chain[0]? = some id →
      ∃ r ∈ after.outline, r.2.current = id ∧ r.2.chain = [] := by
    induction len with
    | zero =>
      intro n e _ hlen id hid
      simp [List.length_eq_zero_iff.1 hlen] at hid
    | succ len ih =>
      intro n e he hlen id hid
      rcases h.new n e he with old | hnone | ⟨p, hp, hc⟩
      · obtain ⟨d, hd, hi⟩ := Outline.mem_identities.1 old
        have chain : d.chain = e.chain := congrArg Prod.fst hi
        obtain ⟨⟨m, r⟩, hmem, hcur, hroot⟩ := hr (n, d) hd id (chain ▸ hid)
        obtain ⟨r', hr', hi', -⟩ := h.kept m r hmem fun hmoved => hm m r hmem hmoved hroot
        obtain ⟨hchain, hcurrent⟩ := Prod.mk.inj hi'
        exact ⟨(m, r'), hr', hcurrent.trans hcur, hchain.trans hroot⟩
      · have hnone : e.chain = [] := hnone
        simp [hnone] at hid
      · have hc : e.chain = p.2.chain ++ [p.2.current] := hc
        by_cases hroot : p.2.chain = []
        · exact ⟨p, hp, by simpa [hc, hroot] using hid, hroot⟩
        · have pos := List.length_pos_iff.2 hroot
          rw [hc, List.getElem?_append_left pos] at hid
          exact ih p.1 p.2 hp (by simpa [hc] using hlen) id hid
  exact fun e he id hid => byLength _ e.1 e.2 he rfl id hid

structure Slide.Rising (sl : Slide) : Prop where
  orderly : sl.Orderly
  distinct : sl.outline.Distinct
  rooted : sl.outline.Rooted

theorem Slide.Rising.grown (h : sl.Rising) (hg : sl.Grown after after.outline.Supports) : after.Rising :=
  ⟨hg.kept.orderly, hg.kept.distinct h.distinct, hg.extension.rooted (fun _ _ _ hm => hm.elim) h.rooted⟩

theorem Slide.Rising.rooting (h : sl.Rising) (hr : Rooting sl after) : after.Rising := by
  rcases hr with rfl | ⟨node, root, hp, hc⟩
  · exact h
  · have supported : sl.Extends after (· = node) after.outline.Supports :=
      hp.extends.mono (fun _ h => h) fun i hi => .inl hi
    refine ⟨hp.kept.orderly, hp.kept.distinct h.distinct, supported.rooted (fun n d hd hn => ?_) h.rooted⟩
    subst hn
    exact hc d hd

theorem Step.rising_after (h : page.slide.Rising) (hb : step.Builds desk page) :
    (step.after desk page).slide.Rising := by
  have drop {α : Type} {m : Edit α} {E : Slide → Prop} (hm : Makes m page.slide (fun _ => Rising) E) :
      Makes (do let _ ← m) page.slide (fun _ => Rising) E :=
    hm.bind fun _ _ hk => makes_pure hk
  have grow {after : Slide} (hg : page.slide.MayGrow true after) : after.Rising :=
    h.grown ((Grown.refl h.orderly).mayGrow hg)
  cases step with
  | addNode text x y width height =>
    have added := (makes_addNode desk x y width height hb).mono (fun _ _ hg => grow (.inr hg)) fun _ hg => grow hg
    exact (drop added).always rfl
  | byHand edit => exact hb.elim
  | request asked =>
    cases asked with
    | initRoot node =>
      have rooted := makes_initRoot node h.orderly
      exact (drop (rooted.mono (fun _ _ hr => h.rooting hr) fun _ hr => h.rooting hr)).always rfl
    | createChildren node direction count gap labels edge =>
      have created := (makes_createChildren desk node direction count gap labels edge h.orderly).mono
        (fun _ _ hg => h.grown hg.supported) fun _ hg hl => h.grown (hg hl)
      rcases hb with plain | ends
      · exact (drop (created.mono (fun _ _ h => h) fun _ hg => hg plain)).always rfl
      · obtain ⟨_, rising⟩ := (drop created).ended rfl ends
        exact rising
    | _ => exact hb.elim

theorem session_rising (desk : Desk)
    (hb : ∀ before step, before ++ [step] <+: steps → step.Builds desk (session desk before)) :
    (session desk steps).slide.Rising := by
  induction steps using List.reverseRecOn with
  | nil => exact ⟨orderly_nil, ⟨fun e he => absurd he List.not_mem_nil⟩, fun e he => absurd he List.not_mem_nil⟩
  | append_singleton steps step ih =>
    rw [session_append]
    exact Step.rising_after (ih fun before step hp => hb before step (hp.trans (List.prefix_append _ _)))
      (hb steps step List.prefix_rfl)

theorem Slide.Rising.clear (h : sl.Rising) : sl.outline.Clear where
  eq := fun (n, d) hd (m, e) he hn => by
    obtain rfl : n = m := hn
    rw [eq_of_mem_outline hd he]
  distinct := h.distinct
  placed := fun (_, _) he => (h.orderly.writable_of_mem he).1.toPlaced

/-- On every page that is built from new nodes, roots and children, a node is in the family of another,
exactly if the other is among its ancestors, as long as all entries of chains are there and the identifiers
of nodes with children are used once; and not otherwise. -/
theorem session_dual_iff (desk : Desk) (steps : List Step)
    (hb : ∀ before step, before ++ [step] <+: steps → step.Builds desk (session desk before)) :
    (session desk steps).slide.outline.Dual ↔
      (session desk steps).slide.outline.Resolved ∧ (session desk steps).slide.outline.Apart := by
  have rising := session_rising desk hb
  exact Outline.dual_iff rising.clear rising.rooted

/-- Two roots with a child each, of which the first one has a child as well. -/
def twoTrees : List Step :=
  [.addNode "" none none none none, .request (.createChildren (some 2) "BOTTOM" 1 none [] none),
    .request (.createChildren (some 3) "BOTTOM" 1 none [] none), .addNode "" none none none none,
    .request (.createChildren (some 5) "BOTTOM" 1 none [] none)]

/-- The child of the second root has the identifier of a node with a child, so that the child of that node
is in the wrong family. -/
theorem session_dual_twoTrees : ¬(session Desk.bare twoTrees).slide.outline.Dual := by
  have builds : ∀ before step, before ++ [step] <+: twoTrees → step.Builds Desk.bare (session Desk.bare before) := by
    intro before step hp
    have hm := hp.subset (List.mem_append_right before List.mem_cons_self)
    simp only [twoTrees, List.mem_cons, List.not_mem_nil, or_false] at hm
    have plain : Descriptor.looksLike "" = false := by decide
    rcases hm with rfl | rfl | rfl | rfl | rfl
    · exact plain
    · exact .inl (by simp)
    · exact .inl (by simp)
    · exact plain
    · exact .inl (by simp)
  have outline : (session Desk.bare twoTrees).slide.outline =
      [(2, ⟨"A1", [], "LR", [⟨"B1", ""⟩]⟩), (3, ⟨"B1", ["A1"], "LR", [⟨"C1", ""⟩]⟩),
        (4, ⟨"C1", ["A1", "B1"], "LR", []⟩), (5, ⟨"A2", [], "LR", [⟨"B1", ""⟩]⟩),
        (6, ⟨"B1", ["A2"], "LR", []⟩)] := by
    decide +kernel
  intro dual
  have apart := ((session_dual_iff Desk.bare twoTrees builds).1 dual).2
  have same := apart (3, ⟨"B1", ["A1"], "LR", [⟨"C1", ""⟩]⟩) (by simp [outline])
    (4, ⟨"C1", ["A1", "B1"], "LR", []⟩) (by simp [outline]) rfl
    (6, ⟨"B1", ["A2"], "LR", []⟩) (by simp [outline]) rfl
  revert same
  decide

end FlowDeck
