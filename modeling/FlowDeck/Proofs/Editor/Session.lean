import FlowDeck.Proofs.Command.Keeping
import FlowDeck.Proofs.Deck.ByHand

/-!
# What holds through sessions

A session begins on an empty slide, and no step of it spoils an orderly slide. So in every session
the levels of identifiers follow the depth of nodes. Nodes stay distinct as well, but for one kind of
step: a sibling that is numbered by a parent elsewhere, because its own parent has gone.
-/

namespace FlowDeck

open Slide Edit Command

variable {desk : Desk} {page : Page} {step : Step} {steps : List Step}

/-! ## Steps -/

def Step.asksSibling : Step → Bool
  | .request (.createSibling ..) => true
  | _ => false

theorem Step.eq_createSibling (h : step.asksSibling = true) :
    ∃ given gap edge, step = .request (.createSibling given gap edge) := by
  unfold asksSibling at h
  split at h
  · exact ⟨_, _, _, rfl⟩
  · cases h

theorem Step.makes_perform {sl : Slide} (h : sl.Orderly) (hp : step.IsPlain) (hs : step.asksSibling = false) :
    Makes (step.perform desk) sl (fun _ => sl.Kept) sl.Kept := by
  have drop {α : Type} {m : Edit α} (hm : Makes m sl (fun _ => sl.Kept) sl.Kept) :
      Makes (do let _ ← m) sl (fun _ => sl.Kept) sl.Kept :=
    hm.bind fun _ _ hk => makes_pure hk
  have read {α : Type} {m : Edit α} (hm : Reads m) : Makes m sl (fun _ => sl.Kept) sl.Kept :=
    hm.makes (.refl h) fun _ => .refl h
  cases step with
  | addNode text x y width height =>
    have plain : Descriptor.looksLike text = false := hp.1 text List.mem_cons_self
    exact drop ((makes_addNode desk x y width height plain).keeps (.refl h) fun _ _ => .inr)
  | byHand edit => exact drop (HandEdit.makes_perform h hp)
  | request asked =>
    cases asked with
    | initRoot node =>
      exact drop ((makes_initRoot node h).mono (fun _ _ hr => hr.kept h) fun _ hr => hr.kept h)
    | createChildren node direction count gap labels edge =>
      have created := makes_createChildren desk node direction count gap labels edge h
      exact drop (created.mono (fun _ _ hg => hg.kept) fun _ hg => (hg hp.1).kept)
    | createSibling node gap edge => cases hs
    | split node rows padding paddingTop gap => exact drop (makes_split desk node padding paddingTop gap h hp.1)
    | connect a b orientation edge => exact drop (makes_connect desk a b orientation edge h)
    | link a b edge => exact drop ((makes_link desk a b edge h).mono (fun _ _ hk => hk.1) fun _ hk => hk.1)
    | select scope node =>
      exact drop ((makes_selectScope scope node).mono (fun _ _ hs => .of_eq h hs) fun _ hs => .of_eq h hs)
    | describe node =>
      exact drop (read ((reads_requireNode node).bind fun _ => (reads_memo _).bind fun _ => reads_pure _))
    | clear node => exact drop ((makes_clear node h).mono (fun _ _ hk => hk.1) fun _ hk => hk.1)
    | setLayout node layout =>
      exact drop ((makes_setLayout node layout h).mono (fun _ _ hg => hg.kept) fun _ hg => hg.kept)
    | setChildLayout node child layout =>
      exact drop ((makes_setChildLayout node child layout h).mono (fun _ _ hg => hg.kept) fun _ hg => hg.kept)
    | analyze => exact drop (read reads_analyze)

theorem Step.kept_after (h : page.slide.Orderly) (hp : step.IsPlain) (hs : step.asksSibling = false) :
    page.slide.Kept (step.after desk page).slide :=
  (Step.makes_perform h hp hs).always rfl

theorem Step.sibling_after {given : Option ShapeId} {gap : Option (Measure Float)} {edge : Option EdgeStyle}
    (h : page.slide.Orderly) :
    page.slide.SiblingOutcome given (Step.after desk page (.request (.createSibling given gap edge))).slide := by
  have sibling := (makes_createSibling desk given gap edge h).mono (fun _ _ out => out.1) fun _ out => out.1
  exact (sibling.bind (f := fun _ => pure ()) fun _ _ out => makes_pure out).always rfl

theorem Step.orderly_after (h : page.slide.Orderly) (hp : step.IsPlain) :
    (step.after desk page).slide.Orderly := by
  cases hs : step.asksSibling with
  | false => exact (Step.kept_after h hp hs).orderly
  | true =>
    obtain ⟨given, gap, edge, rfl⟩ := Step.eq_createSibling hs
    exact (Step.sibling_after h).orderly

/-! ## Levels -/

theorem session_append (desk : Desk) (steps : List Step) (step : Step) :
    session desk (steps ++ [step]) = step.after desk (session desk steps) := by
  rw [session, List.foldl_append]; rfl

theorem session_orderly (desk : Desk) (hp : ∀ step ∈ steps, step.IsPlain) : (session desk steps).slide.Orderly := by
  induction steps using List.reverseRecOn with
  | nil => exact orderly_nil
  | append_singleton steps step ih =>
    rw [session_append]
    exact Step.orderly_after (ih fun s hs => hp s (List.mem_append_left _ hs))
      (hp step (List.mem_append_right _ List.mem_cons_self))

/-- In every session of plain steps, what a node keeps is empty or a descriptor that says how deep the
node stands: its identifier and those of its chain have the levels of their depths, with positive
numbers, it lists no child twice, and its layout is empty or a token, and not empty for a root. -/
theorem session_leveled (desk : Desk) (steps : List Step) (hp : ∀ step ∈ steps, step.IsPlain) (s : Shape)
    (hs : s ∈ (session desk steps).slide) (hn : s.isNode) :
    s.memo = "" ∨ ∃ d, s.descriptor? = some d ∧ d.level = levelAt d.chain.length ∧ d.Leveled := by
  rcases (session_orderly desk hp).memo s hs hn with he | ⟨d, hd, hl⟩
  · exact .inl he
  · exact .inr ⟨d, hd, hl.level, hl⟩

/-- A root and a node below it with two children, one of which has its own layout. A second root becomes
the third child, and the first one is deleted. -/
def grown : List Step :=
  [.addNode "" none none none none, .addNode "" none none none none,
    .request (.createChildren (some 2) "BOTTOM" 1 none [] none),
    .request (.createChildren (some 4) "BOTTOM" 2 none [] none), .request (.setChildLayout (some 4) "C1" "TD"),
    .request (.link (some 4) (some 3) none), .byHand (.delete 2)]

theorem session_leveled_grown : ∃ s ∈ (session Desk.plain grown).slide,
    s.isNode ∧ s.memo = "graph[A1](LR)[B1][C1:TD,C2,C3]" ∧
      ∃ d, s.descriptor? = some d ∧ d.level = levelAt d.chain.length ∧ d.Leveled := by
  have found : ((session Desk.plain grown).slide.shape? 4).map (fun s => (s.isNode, s.memo)) =
      some (true, "graph[A1](LR)[B1][C1:TD,C2,C3]") := by
    decide +kernel
  obtain ⟨s, hs, hp⟩ := Option.map_eq_some_iff.1 found
  obtain ⟨hn, hm⟩ := Prod.mk.inj hp
  have mem : s ∈ (session Desk.plain grown).slide := (shape?_spec hs).1
  rcases session_leveled Desk.plain grown (by decide) s mem hn with he | hd
  · exact absurd (hm.symm.trans he) (by decide)
  · exact ⟨s, mem, hn, hm, hd⟩

/-! ## Distinct nodes -/

/-- The step adds a node that is the same to the hierarchy as one that is there. It asks for a sibling of
`node`; the parent that is found for it is not at the end of its chain, and the number after those
that this parent lists or has below it belongs to a node below the chain already. -/
structure Step.ClashesAt (desk : Desk) (page : Page) (step : Step) (node : ShapeId) (d parent : Descriptor)
    (id : String) : Prop where
  asked : ∃ gap edge, step = .request (.createSibling (some node) gap edge)
  here : (node, d) ∈ page.slide.outline
  found : ∃ parentNode, page.slide.outline.parent? d = some (parentNode, parent)
  elsewhere : parent.chainBelow ≠ d.chain
  numbered : newSiblingId parent d (siblingsOf page.slide.outline parent node d) = .ok id
  taken : ∃ e ∈ page.slide.outline, e.2.chain = d.chain ∧ e.2.current = id
  added : ∃ e ∈ (step.after desk page).slide.outline, ∀ old ∈ page.slide.outline, old.1 ≠ e.1

def Step.Clashes (desk : Desk) (page : Page) (step : Step) : Prop :=
  ∃ node d parent id, step.ClashesAt desk page node d parent id

/-- Where identities stay as they are, nothing clashes. -/
theorem Step.not_clashes_of_same (same : page.slide.SameIdentities (step.after desk page).slide) :
    ¬step.Clashes desk page := by
  intro ⟨_, _, _, _, hc⟩
  obtain ⟨⟨n, e⟩, he, hnew⟩ := hc.added
  have old : (n, e.identity) ∈ page.slide.outline.identities :=
    (same _).1 (Outline.mem_identities.2 ⟨e, he, rfl⟩)
  obtain ⟨e', he', -⟩ := Outline.mem_identities.1 old
  exact hnew _ he' rfl

/-- A new sibling clashes exactly if its identity is in use. -/
theorem Step.clashes_iff_of_added {gap : Option (Measure Float)} {edge : Option EdgeStyle} {node : ShapeId}
    {d parent : Descriptor} {id : String} (h : page.slide.Orderly)
    (new : page.slide.SiblingAdded
      (Step.after desk page (.request (.createSibling (some node) gap edge))).slide node d parent id) :
    Step.Clashes desk page (.request (.createSibling (some node) gap edge)) ↔
      ∃ e ∈ page.slide.outline, e.2.identity = (d.chain, id) := by
  obtain ⟨parentNode, found⟩ := new.found
  constructor
  · rintro ⟨node', d', parent', id', hc⟩
    obtain ⟨_, _, asked⟩ := hc.asked
    simp only [Step.request.injEq, Request.createSibling.injEq, Option.some.injEq] at asked
    obtain rfl := asked.1
    obtain rfl := eq_of_mem_outline new.here hc.here
    obtain ⟨_, found'⟩ := hc.found
    obtain rfl : parent = parent' := congrArg Prod.snd (Option.some.inj (found.symm.trans found'))
    obtain rfl : id = id' := Except.ok.inj (new.numbered.symm.trans hc.numbered)
    obtain ⟨e, he, hchain, hcurrent⟩ := hc.taken
    exact ⟨e, he, Prod.ext hchain hcurrent⟩
  · rintro ⟨e, he, hi⟩
    have elsewhere : parent.chainBelow ≠ d.chain :=
      fun hend => newSiblingId_fresh h new.here hend new.numbered e he hi
    obtain ⟨e', he', -⟩ := Outline.mem_identities.1 ((new.identities _ _).2 (.inr ⟨rfl, rfl⟩))
    exact ⟨node, d, parent, id, {
      asked := ⟨gap, edge, rfl⟩
      here := new.here
      found := ⟨parentNode, found⟩
      elsewhere
      numbered := new.numbered
      taken := ⟨e, he, Prod.mk.inj hi⟩
      added := ⟨_, he', fun old hold => ne_nextId hold⟩ }⟩

theorem Step.distinct_after_iff (h : page.slide.Orderly) (hp : step.IsPlain) (hd : page.slide.outline.Distinct) :
    (step.after desk page).slide.outline.Distinct ↔ ¬step.Clashes desk page := by
  cases hs : step.asksSibling with
  | false =>
    refine ⟨fun _ ⟨_, _, _, _, hc⟩ => ?_, fun _ => (Step.kept_after h hp hs).distinct hd⟩
    obtain ⟨gap, edge, rfl⟩ := hc.asked
    cases hs
  | true =>
    obtain ⟨given, gap, edge, rfl⟩ := Step.eq_createSibling hs
    have out : page.slide.SiblingOutcome given
        (Step.after desk page (.request (.createSibling given gap edge))).slide := Step.sibling_after h
    rcases out.identities with same | ⟨node, d, parent, id, rfl, new⟩
    · exact iff_of_true (same.distinct hd) (Step.not_clashes_of_same same)
    · rw [new.distinct_iff hd, Step.clashes_iff_of_added h new]
      simp only [not_exists, not_and, ne_eq]

/-- In a session of plain steps nodes are distinct at every moment, exactly if no step clashes. -/
theorem session_distinct_iff (desk : Desk) (steps : List Step) (hp : ∀ step ∈ steps, step.IsPlain) :
    (∀ before, before <+: steps → (session desk before).slide.outline.Distinct) ↔
      ∀ before step, before ++ [step] <+: steps → ¬step.Clashes desk (session desk before) := by
  have plain {before : List Step} (hb : before <+: steps) : ∀ step ∈ before, step.IsPlain :=
    fun step hs => hp step (hb.subset hs)
  have stepwise {before : List Step} {step : Step} (hb : before ++ [step] <+: steps)
      (hd : (session desk before).slide.outline.Distinct) :
      (session desk (before ++ [step])).slide.outline.Distinct ↔ ¬step.Clashes desk (session desk before) := by
    rw [session_append]
    exact Step.distinct_after_iff (session_orderly desk (plain ((List.prefix_append _ _).trans hb)))
      (plain hb step (List.mem_append_right _ List.mem_cons_self)) hd
  constructor
  · exact fun h before step hb => (stepwise hb (h before ((List.prefix_append _ _).trans hb))).1 (h _ hb)
  · intro h before
    induction before using List.reverseRecOn with
    | nil => exact fun _ => ⟨fun e he => absurd he List.not_mem_nil⟩
    | append_singleton before step ih =>
      exact fun hb => (stepwise hb (ih ((List.prefix_append _ _).trans hb))).2 (h before step hb)

/-- Two roots with a child each, of which the child of the first one is deleted; its two children are
left. -/
def orphaned : List Step :=
  [.addNode "" none none none none, .addNode "" none none none none,
    .request (.createChildren (some 2) "BOTTOM" 1 none [] none),
    .request (.createChildren (some 4) "BOTTOM" 2 none [] none),
    .request (.createChildren (some 3) "BOTTOM" 1 none [] none), .byHand (.delete 4)]

theorem orphaned_plain : ∀ step ∈ orphaned, step.IsPlain ∧ step.asksSibling = false := by
  decide

theorem outline_orphaned :
    (session Desk.plain orphaned).slide.outline =
        [(2, ⟨"A1", [], "LR", [⟨"B1", ""⟩]⟩), (3, ⟨"A2", [], "LR", [⟨"B1", ""⟩]⟩),
          (6, ⟨"C1", ["A1", "B1"], "LR", []⟩), (7, ⟨"C2", ["A1", "B1"], "LR", []⟩),
          (10, ⟨"B1", ["A2"], "LR", []⟩)] ∧
      (12, ⟨"C2", ["A1", "B1"], "LR", []⟩) ∈
        (Step.after Desk.plain (session Desk.plain orphaned)
          (.request (.createSibling (some 6) none none))).slide.outline := by
  decide +kernel

/-- The new sibling of the first child is numbered by the child of the second root, which has no children,
and gets the identifier of the other child. -/
theorem orphaned_clashes :
    Step.Clashes Desk.plain (session Desk.plain orphaned) (.request (.createSibling (some 6) none none)) := by
  obtain ⟨outline, added⟩ := outline_orphaned
  refine ⟨6, ⟨"C1", ["A1", "B1"], "LR", []⟩, ⟨"B1", ["A2"], "LR", []⟩, "C2", ⟨none, none, rfl⟩, ?here, ?found,
    ?elsewhere, ?numbered, ?taken, _, added, ?new⟩
  case elsewhere => decide
  all_goals rw [outline]
  case here => decide
  case found => exact ⟨10, by decide⟩
  case numbered => decide +kernel
  case taken => decide
  case new => decide

theorem session_distinct_orphaned :
    (∀ before, before <+: orphaned → (session Desk.plain before).slide.outline.Distinct) ∧
      Step.Clashes Desk.plain (session Desk.plain orphaned) (.request (.createSibling (some 6) none none)) ∧
      ¬∀ before, before <+: orphaned ++ [.request (.createSibling (some 6) none none)] →
        (session Desk.plain before).slide.outline.Distinct := by
  have plain : ∀ step ∈ orphaned ++ [.request (.createSibling (some 6) none none)], step.IsPlain := by
    decide
  refine ⟨?_, orphaned_clashes, ?_⟩
  · apply (session_distinct_iff Desk.plain orphaned fun step hs => (orphaned_plain step hs).1).2
    intro before step hb ⟨node, d, parent, id, hc⟩
    obtain ⟨gap, edge, rfl⟩ := hc.asked
    cases (orphaned_plain _ (hb.subset (List.mem_append_right before List.mem_cons_self))).2
  · intro distinct
    exact (session_distinct_iff Desk.plain _ plain).1 distinct orphaned _ List.prefix_rfl orphaned_clashes

end FlowDeck
