import FlowDeck.Proofs.Command.Refusal
import FlowDeck.Proofs.Command.Typing
import FlowDeck.Proofs.Deck.Extension
import FlowDeck.Proofs.Hierarchy.Descent

/-!
# Commands on orderly slides

What each command makes of an orderly slide: it stays orderly, wherever the command ends. Nodes that
are distinct stay so as well, but for new siblings, of which `SiblingAdded` says more.
-/

namespace FlowDeck

open Slide Edit

variable {sl after : Slide} {node n : ShapeId} {d : Descriptor}

namespace Edit

/-- The descriptor that a command reads is the one in the outline. -/
theorem asks_descriptorOf (hn : sl.hasNode node) :
    Asks (descriptor? node) sl fun d => ∀ d', d = some d' ↔ (node, d') ∈ sl.outline := by
  refine asks_descriptor?.mono fun d hd d' => ?_
  rw [mem_outline, hd]
  exact (and_iff_right (mem_nodes.2 hn)).symm

theorem asks_requireDescriptor {given : Option ShapeId} :
    Asks (requireDescriptor given) sl fun e => given = some e.1 ∧ e ∈ sl.outline := by
  refine asks_requireNode.bind fun id ⟨hid, hn⟩ => (asks_descriptorOf hn).bind fun d hd => ?_
  split
  · next d => exact asks_pure ⟨hid, (hd d).1 rfl⟩
  · exact asks_refuse

/-! ## Roots -/

theorem freshRoot_spec {root : Descriptor} (h : sl.Orderly) (hr : freshRoot sl.outline node = .ok root) :
    root.Writable ∧ ∀ e ∈ sl.outline, e.2.identity = root.identity → e.1 = node := by
  refine ⟨writable_freshRoot hr, fun (n, e) he hi => ?_⟩
  rw [freshRoot_eq hr] at hi
  obtain ⟨hchain, hcurrent⟩ := Prod.mk.inj hi
  by_contra hn
  refine (freeRootNumber_spec (List.map (·.2.current) _)).2 (List.mem_map.2 ⟨(n, e), ?_, hcurrent⟩)
  refine List.mem_filter.2 ⟨he, ?_⟩
  have level : e.level = rootLevel := by
    have hchain : e.chain = [] := hchain
    rw [(h.writable_of_mem he).1.level, hchain]; rfl
  simpa [level] using hn

theorem makes_plantRoot (h : sl.Orderly) :
    Makes (plantRoot node) sl (fun root after => sl.Planted after node root) (· = sl) := by
  refine makes_plantRoot_exact.mono (fun root after ⟨hroot, he⟩ => ?_) fun _ h => h
  obtain ⟨hw, hf⟩ := freshRoot_spec h hroot
  exact ⟨he, hw, chain_freshRoot hroot, he ▸ h.kept_storing hw hf⟩

theorem makes_typed (h : sl.Orderly) :
    Makes (typed node) sl (fun d after => sl.Grown after (·.1 = []) ∧ (node, d) ∈ after.outline)
      fun after => sl.Grown after (·.1 = []) := by
  have grown {after : Slide} (hp : after = sl ∨ sl.outline.lookup node = none ∧
      ∃ root, freshRoot sl.outline node = .ok root ∧ after = sl.storing node root) : sl.Grown after (·.1 = []) := by
    rcases hp with rfl | ⟨hnone, root, hroot, rfl⟩
    · exact .refl h
    · obtain ⟨hw, hf⟩ := freshRoot_spec h hroot
      refine ⟨h.kept_storing hw hf, extends_storing hw (fun d hd => ?_) (chain_freshRoot hroot)⟩
      exact absurd hd (Outline.not_mem_of_lookup hnone)
  exact makes_typed_or.mono (fun _ _ typed => ⟨grown typed.before, typed.mem⟩) fun _ hp => grown (hp.imp_right (·.2))

/-! ## Children -/

/-- A child is drawn with any label: what the label is meant as matters only where a fault comes before
the descriptor of the child is stored. -/
theorem makes_drawChild (desk : Desk) (kind : String) (b : Box Float) (label : String) (d : Descriptor) :
    Makes (Command.drawChild desk kind b label d) sl
      (fun child after => child = sl.nextId ∧ ∃ mid, sl.Grows true mid ∧ after = mid.storing sl.nextId d)
      (fun after => Descriptor.looksLike label = false → sl.MayGrow true after) := by
  by_cases hl : Descriptor.looksLike label = false
  · refine Makes.mono (E := sl.MayGrow true) ?_ (fun _ _ h => h) fun _ h _ => h
    refine (makes_drawShape _ _ _).bind fun child _ ⟨hid, hg⟩ => makes_labelled hl hid hg fun mid hg => ?_
    exact .stored (.inr hg) (makes_pure ⟨hid, mid, hg, hid ▸ rfl⟩)
  · refine Makes.mono (E := fun _ => True) ?_ (fun _ _ h => h) fun _ _ h => absurd h hl
    refine ((makes_drawShape _ _ _).mono (fun _ _ h => h) fun _ _ => trivial).bind fun child now ⟨hid, hg⟩ => ?_
    have stored (now : Slide) (ha : sl.AddsNode now) : Makes (do store child d; return child) now
        (fun child after => child = sl.nextId ∧ ∃ mid, sl.Grows true mid ∧ after = mid.storing sl.nextId d)
        fun _ => True :=
      .stored trivial (makes_pure ⟨hid, hid ▸ ha.storing d⟩)
    refine .ite (fun _ => ?_) fun _ => stored now hg.addsNode
    exact ((makes_setText_any desk label hid hg.addsNode).mono (fun _ _ h => h) fun _ _ => trivial).bind
      fun _ now ha => stored now ha

/-- A child stands in front of all that is there, and keeps its descriptor. -/
theorem makes_drawChild_kept (desk : Desk) (kind : String) (b : Box Float) (label : String) (d : Descriptor) :
    Makes (Command.drawChild desk kind b label d) sl
      (fun child after =>
        ∃ s : Shape, after = sl ++ [s] ∧ s.id = sl.nextId ∧ child = s.id ∧ s.isNode ∧ s.memo = d.render)
      fun _ => True := by
  refine (makes_drawChild desk kind b label d).mono (fun child after h => ?_) fun _ _ => trivial
  obtain ⟨rfl, mid, ⟨s, rfl, hs, hn, -⟩, rfl⟩ := h
  refine ⟨s.withMemo d.render, ?_, by simpa using hs, by simpa using hs.symm, by simpa using hn, s.memo_withMemo _⟩
  rw [Slide.storing, ← hs]
  exact modify_between _ fun t ht => hs ▸ nextId_ne ht

end Edit

theorem newChildIds_spec {parent : Descriptor} {count : Int} {ids : List String} (h : sl.Orderly)
    (hp : (node, parent) ∈ sl.outline)
    (hi : newChildIds parent (childrenBelow sl.outline parent) count = .ok ids) :
    ids.Nodup ∧ (∀ id ∈ ids, IsIdAt parent.chainBelow.length id) ∧
      ∀ e ∈ sl.outline, e.2.chain = parent.chainBelow → e.2.current ∉ ids := by
  have level := (h.writable_of_mem hp).1.nextLevel
  rw [newChildIds, level] at hi
  refine ⟨?_, isIdAt_of_furtherIds hi, fun e he hc => not_mem_of_furtherIds (isLevel_levelAt _) hi ?_⟩
  · rw [furtherIds_eq hi]
    exact siblingIds_nodup (isLevel_levelAt _) _ _
  · refine List.mem_append_right _ (List.mem_map.2 ⟨e, ?_, rfl⟩)
    have below : e.2.level = levelAt parent.chainBelow.length := by
      rw [(h.writable_of_mem he).1.level, hc]
    simp only [childrenBelow, Outline.children, Outline.isChild, List.mem_filter]
    exact ⟨⟨he, by simp [hc]⟩, by simp [below, level]⟩

theorem map_snd_zip_sublist {α β : Type} (as : List α) (bs : List β) :
    ((as.zip bs).map Prod.snd).Sublist bs := by
  induction as generalizing bs with
  | nil => simp
  | cons a as ih =>
    cases bs with
    | nil => simp
    | cons b bs => exact (ih bs).cons_cons b

def childIdentity (parent : Descriptor) (all : List String) (i : List String × String) : Prop :=
  i.1 = [] ∨ i.1 = parent.chainBelow ∧ i.2 ∈ all

/-- While children are drawn, the parent is there as it was, and no child below it has one of the
identifiers that are still to be given. -/
structure Slide.Expects (sl now : Slide) (node : ShapeId) (parent : Descriptor) (all ids : List String) : Prop where
  grown : sl.Grown now (childIdentity parent all)
  here : (node, parent) ∈ now.outline
  sub : ids ⊆ all
  nodup : ids.Nodup
  placed : ∀ id ∈ ids, IsIdAt parent.chainBelow.length id
  new : ∀ e ∈ now.outline, e.2.chain = parent.chainBelow → e.2.current ∉ ids

theorem Slide.Expects.supported {now : Slide} {parent : Descriptor} {all ids : List String}
    (h : sl.Expects now node parent all ids) : sl.Grown now now.outline.Supports :=
  h.grown.mono fun _ hi => hi.imp_right fun ⟨hc, _⟩ => ⟨_, h.here, hc⟩

namespace Edit

theorem makes_drawChild_expected (desk : Desk) (kind : String) (b : Box Float) (label : String) {id : String}
    {parent : Descriptor} {all ids : List String} {now : Slide} (h : sl.Expects now node parent all (id :: ids)) :
    Makes (Command.drawChild desk kind b label
        { current := id, chain := parent.chainBelow, layout := parent.layout }) now
      (fun _ after => sl.Expects after node parent all ids)
      (fun after => Descriptor.looksLike label = false → sl.Grown after after.outline.Supports) := by
  have orderly := h.grown.kept.orderly
  refine (makes_drawChild desk kind b label _).mono (fun _ after ⟨_, mid, hg, he⟩ => ?_) fun after hg hl => ?_
  · subst he
    obtain ⟨ho, same⟩ := orderly.grows hg
    have placed := (orderly.writable_of_mem h.here).1.toPlaced
    have writable : Descriptor.Writable ⟨id, parent.chainBelow, parent.layout, []⟩ :=
      placed.writable_child (h.placed id List.mem_cons_self) placed.layout List.nodup_nil (by simp)
    have fresh : ∀ e ∈ mid.outline, e.2.identity = (parent.chainBelow, id) → e.1 = now.nextId := by
      intro e he hi
      obtain ⟨hc, hi⟩ := Prod.mk.inj hi
      exact absurd (hi ▸ List.mem_cons_self) (h.new e (same ▸ he) hc)
    have drawn : now.Grown (mid.storing now.nextId ⟨id, parent.chainBelow, parent.layout, []⟩)
        (childIdentity parent all) :=
      ⟨(orderly.kept_mayGrow (.inr hg)).trans (ho.kept_storing writable fresh),
        orderly.extends_drawn hg writable (.inr ⟨rfl, h.sub List.mem_cons_self⟩)⟩
    exact {
      grown := h.grown.trans drawn
      here := mem_outline_storing_other (ne_nextId h.here) (same ▸ h.here)
      sub := List.Subset.trans (List.subset_cons_self _ _) h.sub
      nodup := (List.nodup_cons.1 h.nodup).2
      placed := fun id hid => h.placed id (List.mem_cons_of_mem _ hid)
      new := fun (n, e) he hc hid => by
        rcases (mem_outline_storing writable).1 he with ⟨-, he⟩ | ⟨-, rfl, -⟩
        · exact h.new _ (same ▸ he) hc (List.mem_cons_of_mem _ hid)
        · exact (List.nodup_cons.1 h.nodup).1 (by simpa using hid) }
  · rw [(orderly.mayGrow (hg hl)).2]
    exact h.supported.mayGrow (hg hl)

/-- Joining keeps what connectors do not change. -/
theorem makes_joinChildren (desk : Desk) (created : List ShapeId) (c : Creation) (side side' : Side)
    (style : EdgeStyle) {P : Slide → Prop} (hP : ∀ now after, P now → now.MayGrow false after → P after)
    {now : Slide} (h : P now) :
    Makes (created.foldlM (fun c child => joinChild desk c child side side' style) c) now (fun _ => P) P := by
  refine makes_foldlM (fun _ => P) (fun c child now h => ?_) h
  exact (makes_joinChild desk c child side side' style).mono (fun _ after ⟨_, _, hg⟩ => hP now after h hg)
    fun after hg => hP now after h hg

end Edit

namespace Command

/-- Children are created with any labels, but a fault may leave a child that is only labelled. In the end
all children are listed. -/
theorem makes_createChildren (desk : Desk) (given : Option ShapeId) (direction : String) (count : Int)
    (gap : Option (Measure Float)) (labels : List String) (edge : Option EdgeStyle) (h : sl.Orderly) :
    Makes (createChildren desk given direction count gap labels edge) sl
      (fun _ after => sl.Grown after after.outline.Enters)
      (fun after =>
        (∀ label ∈ labels, Descriptor.looksLike label = false) → sl.Grown after after.outline.Supports) := by
  have none : Descriptor.looksLike "" = false := by decide
  have plain (hl : ∀ label ∈ labels, Descriptor.looksLike label = false) (i : Nat) :
      Descriptor.looksLike (labels.getD i "") = false := by
    rw [List.getD_eq_getElem?_getD]
    cases hi : labels[i]? with
    | none => exact none
    | some label => exact hl label (List.mem_of_getElem? hi)
  have start : sl.Grown sl sl.outline.Supports := .refl h
  refine asks_requireNode.followed (fun _ => start) fun node ⟨_, hn⟩ => ?_
  refine (reads_requireSide direction).followed (fun _ => start) fun direction => ?_
  refine .ite (fun _ => (reads_note _ _).followed (fun _ => start) fun _ => makes_pure (.refl h)) fun _ => ?_
  refine (reads_box node).followed (fun _ => start) fun parentBox => .guard (fun _ => start) ?_
  refine (reads_ofNumber _).followed (fun _ => start) fun gap => .guard (fun _ => start) ?_
  refine ((makes_typed h).mono (fun _ _ h => h) fun _ hg _ => hg.mono fun _ => .inl).bind
    fun parent now ⟨hg, hp⟩ => ?_
  have typed : sl.Grown now now.outline.Supports := hg.mono fun _ => .inl
  have orderly := hg.kept.orderly
  refine asks_outline.followed (fun _ => typed) fun outline ho => ?_
  subst ho
  refine (reads_boxes _).followed (fun _ => typed) fun boxes => ?_
  refine (reads_ofNumber _).followed (fun _ => typed) fun corners => ?_
  refine asks_ofNumber.followed (fun _ => typed) fun ids hids => ?_
  refine (reads_shape node).followed (fun _ => typed) fun s => ?_
  obtain ⟨nodup, placed, new⟩ := newChildIds_spec orderly hp hids
  -- The children take the identifiers one after the other, as far as there are corners.
  have start : sl.Expects now node parent ids (((corners.zip ids).zipIdx).map (·.1.2)) := by
    have sub : (((corners.zip ids).zipIdx).map (·.1.2)).Sublist ids := by
      have := map_snd_zip_sublist corners ids
      rwa [← List.zipIdx_map_fst 0 (corners.zip ids), List.map_map] at this
    exact ⟨hg.mono fun _ => .inl, hp, sub.subset, sub.nodup nodup, fun id hid => placed id (sub.subset hid),
      fun e he hc hid => new e he hc (sub.subset hid)⟩
  refine Makes.bind (makes_mapM (fun rest _ now => sl.Expects now node parent ids (rest.map (·.1.2)))
    (fun ⟨⟨corner, id⟩, i⟩ rest _ now he => (makes_drawChild_expected desk _ _ _ he).mono (fun _ _ h => h)
      fun _ h hl => h (plain hl i)) start) fun created now he => ?_
  have attached := he.grown.kept.orderly.attached he.here (ids.map fun id => { id }) <| by
    intro ref href
    obtain ⟨id, hid, rfl⟩ := List.mem_map.1 href
    exact Descriptor.fitsChild_of_isIdAt (placed id hid) (.inl rfl)
  have listed := (he.grown.trans ⟨attached.kept, attached.extension _ _⟩).mono fun i hi =>
    attached.enters (hi.imp_right fun hb => ⟨hb.1, by simpa using hb.2⟩)
  refine .stored (fun _ => he.supported) ?_
  have joined := makes_joinChildren desk created { parent := node, created, childIds := ids } direction
    direction.opposite (edge.getD desk.style.edge) (P := fun now => sl.Grown now now.outline.Enters)
    (fun now after hg hm => (hg.kept.orderly.mayGrow hm).2 ▸ hg.mayGrow hm) listed
  refine (joined.mono (fun _ _ h => h) fun _ hg _ => hg.supported).bind fun creation now hg => ?_
  exact (reads_note _ _).followed (fun _ => hg.supported) fun _ => makes_pure hg

end Command

/-! ## Siblings -/

def Slide.SameIdentities (sl after : Slide) : Prop :=
  ∀ e, e ∈ after.outline.identities ↔ e ∈ sl.outline.identities

theorem Slide.SameIdentities.distinct (same : sl.SameIdentities after) (h : sl.outline.Distinct) :
    after.outline.Distinct := by
  rw [Outline.distinct_iff] at h ⊢
  intro n m i hn hm
  exact h n m i ((same _).1 hn) ((same _).1 hm)

/-- A new node stands beside `node`, below the same chain, with the number after those that the parent
of `node` lists or has below it. -/
structure Slide.SiblingAdded (sl after : Slide) (node : ShapeId) (d parent : Descriptor) (id : String) :
    Prop where
  here : (node, d) ∈ sl.outline
  found : ∃ parentNode, sl.outline.parent? d = some (parentNode, parent)
  numbered : newSiblingId parent d (siblingsOf sl.outline parent node d) = .ok id
  identities : ∀ n i, (n, i) ∈ after.outline.identities ↔
    (n, i) ∈ sl.outline.identities ∨ n = sl.nextId ∧ i = (d.chain, id)

structure Slide.SiblingOutcome (sl : Slide) (given : Option ShapeId) (after : Slide) : Prop where
  orderly : after.Orderly
  identities : sl.SameIdentities after ∨
    ∃ node d parent id, given = some node ∧ sl.SiblingAdded after node d parent id

/-- What comes after that and leaves identities alone does not count. -/
theorem Slide.SiblingOutcome.trans {given : Option ShapeId} {last : Slide} (h : sl.SiblingOutcome given after)
    (ho : last.Orderly) (hs : after.SameIdentities last) : sl.SiblingOutcome given last where
  orderly := ho
  identities := by
    rcases h.identities with same | ⟨node, d, parent, id, hg, added⟩
    · exact .inl fun e => (hs e).trans (same e)
    · refine .inr ⟨node, d, parent, id, hg, added.here, added.found, added.numbered, fun n i => ?_⟩
      exact (hs (n, i)).trans (added.identities n i)

theorem Slide.SiblingOutcome.mayGrow {given : Option ShapeId} {last : Slide} {isNode : Bool}
    (h : sl.SiblingOutcome given after) (hg : after.MayGrow isNode last) : sl.SiblingOutcome given last :=
  h.trans (h.orderly.mayGrow hg).1 fun e => by rw [(h.orderly.mayGrow hg).2]

/-- Nodes are still distinct if the identity of the new one is new. -/
theorem Slide.SiblingAdded.distinct_iff {parent : Descriptor} {id : String}
    (h : sl.SiblingAdded after node d parent id) (hd : sl.outline.Distinct) :
    after.outline.Distinct ↔ ∀ e ∈ sl.outline, e.2.identity ≠ (d.chain, id) := by
  have new : (sl.nextId, (d.chain, id)) ∈ after.outline.identities := (h.identities _ _).2 (.inr ⟨rfl, rfl⟩)
  rw [Outline.distinct_iff] at hd ⊢
  constructor
  · intro hafter (n, e) he hi
    have old := (h.identities _ _).2 (.inl (Outline.mem_identities.2 ⟨e, he, hi⟩))
    exact ne_nextId he (hafter _ _ _ old new)
  · intro fresh n m i hn hm
    rcases (h.identities n i).1 hn with hn | ⟨rfl, rfl⟩ <;> rcases (h.identities m _).1 hm with hm | ⟨rfl, he⟩
    · exact hd n m i hn hm
    · obtain ⟨e, hmem, hi⟩ := Outline.mem_identities.1 hn
      exact absurd (hi.trans he) (fresh _ hmem)
    · obtain ⟨e, hmem, hi⟩ := Outline.mem_identities.1 hm
      exact absurd hi (fresh _ hmem)
    · rfl

theorem Outline.mem_of_parent? {outline : Outline} {e : ShapeId × Descriptor} (h : outline.parent? d = some e) :
    e ∈ outline := by
  obtain ⟨id, -, h⟩ := Option.bind_eq_some_iff.1 h
  have named : e ∈ outline.named id := by
    rcases Option.or_eq_some_iff.1 h with h | ⟨-, h⟩
    · exact List.mem_of_find?_eq_some h
    · exact List.mem_of_head? h
  exact List.mem_of_mem_filter named

/-- The parent that is found stands at the end of the chain, if any node does. -/
theorem chainBelow_of_parent? {outline : Outline} {n m : ShapeId} {parent e : Descriptor}
    (h : outline.parent? d = some (n, parent)) (he : (m, e) ∈ outline) (hc : e.chainBelow = d.chain) :
    parent.chainBelow = d.chain := by
  obtain ⟨id, hid, hl⟩ := Option.bind_eq_some_iff.1 h
  obtain ⟨rest, hr⟩ := List.getLast?_eq_some_iff.1 hid
  obtain ⟨-, hcur, hchain⟩ := Outline.locate?_spec hl
  rw [Descriptor.chainBelow, hr] at hc
  obtain ⟨hec, hei⟩ := List.append_inj' hc rfl
  rw [hr, List.dropLast_concat] at hchain
  have exact := hchain ⟨(m, e), he, List.singleton_inj.1 hei, hec⟩
  rw [Descriptor.chainBelow, hr, ← hcur, ← exact]

theorem mem_tokens_of_read {token : String} {layout : Layout} (h : Layout.read (some token) = .ok layout) :
    token ∈ Layout.tokens := by
  unfold Layout.read at h
  split at h
  · next found hf =>
    have hf : Layout.all.find? (fun layout => layout.token == token) = some found := hf
    have := List.find?_some hf
    exact List.mem_map.2 ⟨found, List.mem_of_find?_eq_some hf, by simpa using this⟩
  · cases h

/-- The children of the parent at the level of the node all count. -/
theorem mem_siblingsOf {outline : Outline} {parent : Descriptor} {e : ShapeId × Descriptor}
    (he : e ∈ outline.children parent) (level : e.2.level = d.level) : e ∈ siblingsOf outline parent node d := by
  have peer : e ∈ (outline.children parent).filter fun entry => entry.2.level == d.level :=
    List.mem_filter.2 ⟨he, by simpa using level⟩
  unfold siblingsOf
  dsimp only
  split
  · exact peer
  · exact List.mem_append_left _ peer

/-- Where the parent stands at the end of the chain, no node below the chain has the new identifier. -/
theorem newSiblingId_fresh {parent : Descriptor} {id : String} (h : sl.Orderly) (hd : (node, d) ∈ sl.outline)
    (hc : parent.chainBelow = d.chain)
    (hid : newSiblingId parent d (siblingsOf sl.outline parent node d) = .ok id) :
    ∀ e ∈ sl.outline, e.2.identity ≠ (d.chain, id) := by
  intro e he hi
  obtain ⟨hchain, hcurrent⟩ := Prod.mk.inj hi
  have hchain : e.2.chain = d.chain := hchain
  have level : e.2.level = d.level := by
    rw [(h.writable_of_mem he).1.level, hchain, (h.writable_of_mem hd).1.level]
  have child : e ∈ sl.outline.children parent := List.mem_filter.2 ⟨he, by simp [Outline.isChild, hchain, hc]⟩
  have counted : e ∈ siblingsOf sl.outline parent node d := mem_siblingsOf child level
  rw [newSiblingId, (h.writable_of_mem hd).1.level] at hid
  exact not_mem_of_furtherId (isLevel_levelAt _) hid
    (List.mem_append_right _ (List.mem_map.2 ⟨e, counted, hcurrent⟩))

theorem length_furtherCorners {α : Type} [Scalar α] {existing : List (Box α)} {direction : Side} {gap : Measure α}
    {count : Nat} {corners : List (Point α)} (h : furtherCorners existing direction gap count = .ok corners)
    (hne : existing ≠ []) : corners.length = count := by
  obtain ⟨first, others, rfl⟩ := List.exists_cons_of_ne_nil hne
  simp only [furtherCorners, bind, Except.bind] at h
  split at h
  · cases h
  · cases h
    rw [List.length_map, List.length_range]

theorem furtherCorners_one {α : Type} [Scalar α] {existing : List (Box α)} {direction : Side} {gap : Measure α}
    {corners : List (Point α)} (h : furtherCorners existing direction gap 1 = .ok corners) :
    corners = [] ∨ ∃ corner, corners = [corner] := by
  cases existing with
  | nil =>
    cases h
    exact .inl rfl
  | cons first others => exact .inr (List.length_eq_one_iff.1 (length_furtherCorners h (List.cons_ne_nil _ _)))

theorem isIdAt_newSiblingId {outline : Outline} {parent : Descriptor} {id : String} (h : sl.Orderly)
    (hd : (node, d) ∈ sl.outline) (hid : newSiblingId parent d outline = .ok id) : IsIdAt d.chain.length id := by
  rw [newSiblingId, (h.writable_of_mem hd).1.level] at hid
  exact isIdAt_of_furtherId hid

/-- A sibling has been drawn and has stored its descriptor. -/
theorem Slide.Orderly.siblingAdded {mid : Slide} {parentNode : ShapeId} {parent sibling : Descriptor} {id : String}
    (h : sl.Orderly) (hg : sl.Grows true mid) (hw : sibling.Writable)
    (hd : (node, d) ∈ sl.outline) (hp : sl.outline.parent? d = some (parentNode, parent))
    (hid : newSiblingId parent d (siblingsOf sl.outline parent node d) = .ok id)
    (hi : sibling.identity = (d.chain, id)) :
    sl.SiblingAdded (mid.storing sl.nextId sibling) node d parent id := by
  obtain ⟨ho, same⟩ := h.grows hg
  refine ⟨hd, ⟨_, hp⟩, hid, fun n i => ?_⟩
  rw [mem_identities_storing hw, same, hi]
  have hnode : mid.hasNode sl.nextId := by
    obtain ⟨t, rfl, ht, hn, -⟩ := hg
    exact hasNode_iff.2 ⟨t, by simp, ht, hn⟩
  constructor
  · rintro (⟨-, hm⟩ | ⟨rfl, rfl, -⟩)
    · exact .inl hm
    · exact .inr ⟨rfl, rfl⟩
  · rintro (hm | ⟨rfl, rfl⟩)
    · obtain ⟨e, he, -⟩ := Outline.mem_identities.1 hm
      exact .inl ⟨ne_nextId he, hm⟩
    · exact .inr ⟨rfl, rfl, hnode⟩

/-- When the parent lists the new sibling, all nodes list it that stand at the end of its chain: among
distinct ones that is the parent alone. -/
theorem Slide.Attached.lists_sibling {now : Slide} {parentNode : ShapeId} {parent : Descriptor} {id : String}
    (h : now.Attached after parentNode parent [id]) (hp : sl.outline.parent? d = some (parentNode, parent))
    (added : sl.Extends now (fun _ => False) (· = (d.chain, id))) :
    sl.Tracks after fun i => sl.outline.Distinct → after.outline.Lists i := by
  have extended := added.trans (h.extension _ _)
  refine extended.tracks.mono fun i hi distinct (n, e) he hc => ?_
  subst hi
  rcases extended.new n e he with old | new
  · obtain ⟨e₀, he₀, hi₀⟩ := Outline.mem_identities.1 old
    have below : e₀.chainBelow = d.chain := (Descriptor.chainBelow_eq_of_identity hi₀).trans hc.symm
    have parentBelow := chainBelow_of_parent? hp he₀ below
    have same := Descriptor.identity_eq_of_chainBelow (parentBelow.trans below.symm)
    obtain rfl : parentNode = n := distinct.eq _ (Outline.mem_of_parent? hp) _ he₀ same
    obtain ⟨f, hf, -, listed⟩ := h.listing
    obtain rfl := eq_of_mem_outline hf he
    exact listed List.mem_cons_self
  · have hchain : e.chain = e.chain ++ [e.current] := (congrArg Prod.fst new).trans hc
    simp at hchain

namespace Command

theorem makes_createSibling (desk : Desk) (given : Option ShapeId) (gap : Option (Measure Float))
    (edge : Option EdgeStyle) (h : sl.Orderly) :
    Makes (createSibling desk given gap edge) sl
      (fun _ after => sl.SiblingOutcome given after ∧
        sl.Tracks after fun i => sl.outline.Distinct → after.outline.Lists i)
      (fun after => sl.SiblingOutcome given after ∧ sl.Tracks after fun _ => True) := by
  have stay {now : Slide} (ho : now.Orderly) (same : now.outline = sl.outline) :
      sl.SiblingOutcome given now ∧ sl.Tracks now fun _ => True :=
    ⟨⟨ho, .inl fun e => by rw [same]⟩, tracks_of_subset (same ▸ List.Subset.refl _)⟩
  have start := stay h rfl
  refine asks_requireDescriptor.followed start fun (node, d) ⟨hgiven, hd⟩ => .guard start ?_
  refine asks_outline.followed start fun outline ho => ?_
  subst ho
  split
  · exact makes_refuse start
  next parentNode parent hparent =>
  refine asks_orFault.followed start fun l hl => (reads_boxes _).followed start fun boxes => ?_
  refine asks_ofNumber.followed start fun corners hcorners => asks_ofNumber.followed start fun id hid => ?_
  refine (reads_box node).followed start fun size => (reads_shape node).followed start fun s => ?_
  have layout := mem_tokens_of_read hl
  have idAt := isIdAt_newSiblingId h hd hid
  -- Once the sibling is there, or no corner was found for it, its parent lists it.
  have finish (created : List ShapeId) {now : Slide} (out : sl.SiblingOutcome given now)
      (here : (parentNode, parent) ∈ now.outline)
      (added : sl.Extends now (fun _ => False) (· = (d.chain, id))) : Makes (do
        store parentNode (parent.attach [⟨id, siblingLayout sl.outline parent d⟩])
        let style := edge.getD desk.style.edge
        let creation ← created.foldlM
          (fun c child => joinChild desk c child l.direction l.direction.opposite style)
          { parent := parentNode, created, childIds := [id] }
        note .info s!"✅ Created sibling {id} next to {d.current}"
        return creation) now
      (fun _ after => sl.SiblingOutcome given after ∧
        sl.Tracks after fun i => sl.outline.Distinct → after.outline.Lists i)
      (fun after => sl.SiblingOutcome given after ∧ sl.Tracks after fun _ => True) := by
    have attached := out.orderly.attached here [⟨id, siblingLayout sl.outline parent d⟩] fun ref href => by
      rw [List.mem_singleton.1 href]
      exact Descriptor.fitsChild_of_isIdAt idAt (.inr layout)
    refine .stored ⟨out, added.tracks.mono fun _ _ => trivial⟩ ?_
    have joined := makes_joinChildren desk created { parent := parentNode, created, childIds := [id] } l.direction
      l.direction.opposite (edge.getD desk.style.edge)
      (P := fun now =>
        sl.SiblingOutcome given now ∧ sl.Tracks now fun i => sl.outline.Distinct → now.outline.Lists i)
      (fun now after ho hg => ⟨ho.1.mayGrow hg,
        (ho.1.orderly.mayGrow hg).2 ▸ ho.2.of_eq (ho.1.orderly.mayGrow hg).2⟩)
      ⟨out.trans attached.kept.orderly attached.identities, attached.lists_sibling hparent added⟩
    refine (joined.mono (fun _ _ h => h) fun _ ho => ⟨ho.1, ho.2.mono fun _ _ => trivial⟩).bind
      fun creation now ho => ?_
    exact (reads_note _ _).followed ⟨ho.1, ho.2.mono fun _ _ => trivial⟩ fun _ => makes_pure ho
  have hp := Outline.mem_of_parent? hparent
  rcases furtherCorners_one hcorners with rfl | ⟨corner, rfl⟩
  · exact finish [] start.1 hp (extends_of_eq rfl)
  · have unlabelled : Descriptor.looksLike "" = false := by decide
    refine ((makes_mapM_singleton (makes_drawChild desk s.kind _ _ _)).mono (fun _ _ h => h) fun _ hg => ?_).bind
      fun created now hc => ?_
    · exact stay (h.mayGrow (hg unlabelled)).1 (h.mayGrow (hg unlabelled)).2
    obtain ⟨_, rfl, -, mid, hg, rfl⟩ := hc
    obtain ⟨ho, same⟩ := h.grows hg
    have writable := (h.writable_of_mem hd).1.toPlaced.writable_sibling idAt (.inr layout)
    have added := h.siblingAdded hg writable hd hparent hid rfl
    exact finish _ ⟨ho.storing writable, .inr ⟨node, d, parent, id, hgiven, added⟩⟩
      (mem_outline_storing_other (ne_nextId hp) (same ▸ hp)) (h.extends_drawn hg writable rfl)

end Command

/-! ## Links -/

theorem linkedId_spec {parent : Descriptor} {child : Option Descriptor} {id : String} (h : sl.Orderly)
    (hp : (n, parent) ∈ sl.outline) (hc : ∀ d, child = some d → (node, d) ∈ sl.outline)
    (hi : linkedId parent child (sl.outline.children parent) node = .ok id) :
    IsIdAt parent.chainBelow.length id ∧
      ∀ e ∈ sl.outline, e.2.identity = (parent.chainBelow, id) → e.1 = node := by
  let others := ((sl.outline.children parent).filter fun entry => entry.1 != node).map (·.2.current)
  have level := (h.writable_of_mem hp).1.nextLevel
  have other : ∀ e ∈ sl.outline, e.2.chain = parent.chainBelow → e.1 ≠ node → e.2.current ∈ others :=
    fun e he hchain hne => List.mem_map.2 ⟨e, List.mem_filter.2
      ⟨List.mem_filter.2 ⟨he, by simp [Outline.isChild, hchain]⟩, by simpa using hne⟩, rfl⟩
  suffices IsIdAt parent.chainBelow.length id ∧ id ∉ others by
    refine ⟨this.1, fun e he hid => ?_⟩
    obtain ⟨hchain, hcurrent⟩ := Prod.mk.inj hid
    by_contra hne
    exact this.2 (hcurrent ▸ other e he hchain hne)
  unfold linkedId at hi
  dsimp only at hi
  split at hi
  · next d hd =>
    obtain ⟨hd, hkeeps⟩ := Option.filter_eq_some_iff.1 hd
    simp only [Bool.and_eq_true, beq_iff_eq, Bool.not_eq_true', List.contains_eq_mem, decide_eq_false_iff_not]
      at hkeeps
    obtain ⟨⟨hlevel, hnew⟩, -⟩ := hkeeps
    obtain rfl := Except.ok.inj hi
    have placed := (h.writable_of_mem (hc d hd)).1.toPlaced
    obtain ⟨k, hk, hcurrent⟩ := placed.current
    refine ⟨⟨k, hk, ?_⟩, hnew⟩
    rw [← level, ← hlevel, placed.level]
    exact hcurrent
  · rw [level] at hi
    have hnew := not_mem_of_furtherId (isLevel_levelAt _) hi
    exact ⟨isIdAt_of_furtherId hi, fun hm => hnew (List.mem_append_right _ hm)⟩

/-- The descriptor of a child that is linked below its new parent. -/
theorem writable_linked {parent : Descriptor} {child : Option Descriptor} {id : String} (h : sl.Orderly)
    (hp : (n, parent) ∈ sl.outline) (hc : ∀ d, child = some d → (node, d) ∈ sl.outline)
    (hid : IsIdAt parent.chainBelow.length id) :
    Descriptor.Writable ⟨id, parent.chainBelow, parent.layout, (child.map (·.children)).getD []⟩ := by
  have placed := (h.writable_of_mem hp).1.toPlaced
  cases child with
  | none => exact placed.writable_child hid placed.layout List.nodup_nil (by simp)
  | some d =>
    obtain ⟨leveled, writable⟩ := h.writable_of_mem (hc d rfl)
    exact placed.writable_child hid placed.layout leveled.childIds writable.children

structure Slide.Moved (sl after : Slide) (child : ShapeId) (parent : Descriptor) (id : String) : Prop where
  kept : sl.Kept after
  extension : sl.Extends after (· = child) (childIdentity parent [id])
  lists : ∀ d e, (child, d) ∈ sl.outline → (child, e) ∈ after.outline → d.childIds ⊆ e.childIds

theorem Slide.Moved.tracks {child : ShapeId} {parent : Descriptor} {id : String}
    (h : sl.Moved after child parent id) : sl.Tracks after (childIdentity parent [id]) := by
  refine h.extension.tracks_moved fun n d e hn hd he => ?_
  subst hn
  exact h.lists d e hd he

theorem Slide.Grown.moved {now : Slide} {child : ShapeId} {parent : Descriptor} {id : String}
    (hg : sl.Grown now (·.1 = []))
    (hw : Descriptor.Writable
      ⟨id, parent.chainBelow, parent.layout, ((now.outline.lookup child).map (·.children)).getD []⟩)
    (fresh : ∀ e ∈ now.outline, e.2.identity = (parent.chainBelow, id) → e.1 = child) :
    sl.Moved (now.storing child
      ⟨id, parent.chainBelow, parent.layout, ((now.outline.lookup child).map (·.children)).getD []⟩)
      child parent id where
  kept := hg.kept.trans (hg.kept.orderly.kept_storing hw fresh)
  extension := by
    refine (hg.extension.mono (fun _ h => h.elim) fun _ => .inl).trans ?_
    exact extends_storing hw (fun _ _ => rfl) (.inr ⟨rfl, List.mem_singleton.2 rfl⟩)
  lists d e hd he := by
    obtain ⟨d', hd', -, hc⟩ := hg.extension.kept child d hd not_false
    rcases (mem_outline_storing hw).1 he with ⟨hn, -⟩ | ⟨-, rfl, -⟩
    · exact absurd rfl hn
    · simpa [Descriptor.childIds, lookup_eq_of_mem hd'] using hc

/-- The parent has come to list the child. -/
theorem Slide.Moved.linked {mid : Slide} {child parentNode : ShapeId} {parent : Descriptor} {id : String}
    (h : sl.Moved mid child parent id) (attached : mid.Attached after parentNode parent [id])
    (hne : parentNode ≠ child) : sl.Kept after ∧ sl.Tracks after after.outline.Enters := by
  have moved : sl.Moved after child parent id :=
    ⟨h.kept.trans attached.kept, h.extension.trans (attached.extension _ _),
      fun d e hd he => h.lists d e hd (attached.others _ _ he hne.symm)⟩
  exact ⟨moved.kept, moved.tracks.mono fun _ hi => attached.enters hi⟩

namespace Command

theorem asks_requireTwo {a b : Option ShapeId} :
    Asks (requireTwo a b) sl fun nodes =>
      (a = some nodes.1 ∧ sl.hasNode nodes.1) ∧ (b = some nodes.2 ∧ sl.hasNode nodes.2) ∧ nodes.1 ≠ nodes.2 := by
  refine asks_requireNode.bind fun _ ha => asks_requireNode.bind fun _ hb => ?_
  dsimp only
  split
  · exact (asks_refuse (V := fun _ => False)).bind fun _ h => h.elim
  · next hne => exact asks_pure ⟨ha, hb, hne⟩

theorem makes_unlessAncestor {α : Type} (parentNode childNode : ShapeId) (d : Option Descriptor)
    {rest : Unit → Edit α} {Q : α → Slide → Prop} {E : Slide → Prop} (hE : E sl) (h : Makes (rest ()) sl Q E) :
    Makes (match d with
      | some d => do
        if ((← outline).ancestors parentNode d).contains childNode then
          let done ← refuse .childIsAncestor
          rest done
        else rest ()
      | _ => rest ()) sl Q E := by
  cases d with
  | none => exact h
  | some d => exact reads_outline.followed hE fun _ => .guard hE h

theorem makes_remark {α : Type} (child : Option Descriptor) (id : String) (text : Descriptor → String)
    {rest : Unit → Edit α} {Q : α → Slide → Prop} {E : Slide → Prop} (h : Makes (rest ()) sl Q E) :
    Makes (match child with
      | some d =>
        if d.current ≠ id then do
          let done ← note .info (text d)
          rest done
        else rest ()
      | _ => rest ()) sl Q E := by
  cases child with
  | none => exact h
  | some d =>
    refine .ite (fun _ => ?_) fun _ => h
    exact (makes_note (Q := fun _ now => now = sl) rfl).bind fun _ _ hs => hs ▸ h

theorem makes_link (desk : Desk) (a b : Option ShapeId) (edge : Option EdgeStyle) (h : sl.Orderly) :
    Makes (link desk a b edge) sl (fun _ after => sl.Kept after ∧ sl.Tracks after after.outline.Enters)
      fun after => sl.Kept after ∧ sl.Tracks after fun _ => True := by
  have start : sl.Kept sl ∧ sl.Tracks sl fun _ => True := ⟨.refl h, tracks_of_subset (List.Subset.refl _)⟩
  refine asks_requireTwo.followed start fun (a, b) ⟨_, _, hab⟩ => ?_
  refine (reads_descriptor? a).followed start fun first => ?_
  refine (reads_descriptor? b).followed start fun second => ?_
  split
  next parentNode childNode chosen =>
  have hne : parentNode ≠ childNode := by
    split at chosen
    · obtain ⟨rfl, rfl⟩ := Prod.mk.inj chosen; exact hab.symm
    · obtain ⟨rfl, rfl⟩ := Prod.mk.inj chosen; exact hab
  refine (reads_descriptor? parentNode).followed start fun d => makes_unlessAncestor _ _ d start ?_
  have growing {now : Slide} (hg : sl.Grown now (·.1 = [])) : sl.Kept now ∧ sl.Tracks now fun _ => True :=
    ⟨hg.kept, hg.tracks.mono fun _ _ => trivial⟩
  refine ((makes_typed h).mono (fun _ _ h => h) fun _ => growing).bind fun parent now ht => ?_
  obtain ⟨hg, hp⟩ := ht
  have typed := growing hg
  refine asks_outline.followed typed fun outline ho => ?_
  subst ho
  refine asks_ofNumber.followed typed fun id hid => makes_remark _ _ _ ?_
  have orderly := hg.kept.orderly
  have child (d : Descriptor) (hd : now.outline.lookup childNode = some d) := Outline.mem_of_lookup hd
  obtain ⟨idAt, fresh⟩ := linkedId_spec orderly hp child hid
  have writable := writable_linked orderly hp child idAt
  have moved := hg.moved writable fresh
  refine .stored typed (.stored ⟨moved.kept, moved.tracks.mono fun _ _ => trivial⟩ ?_)
  have attached := moved.kept.orderly.attached (mem_outline_storing_other hne hp) [⟨id, ""⟩] fun ref href => by
    rw [List.mem_singleton.1 href]
    exact Descriptor.fitsChild_of_isIdAt idAt (.inl rfl)
  have linked := moved.linked attached hne
  have weaken {last : Slide} (h : sl.Kept last ∧ sl.Tracks last last.outline.Enters) :
      sl.Kept last ∧ sl.Tracks last fun _ => True := ⟨h.1, h.2.mono fun _ _ => trivial⟩
  have start := weaken linked
  refine (reads_layoutBelow _).followed start fun token => (reads_orFault _).followed start fun layout => ?_
  refine (reads_box _).followed start fun boxP => (reads_box _).followed start fun boxC => ?_
  have joined {now last : Slide} (h : sl.Kept now ∧ sl.Tracks now now.outline.Enters)
      (hm : now.MayGrow false last) : sl.Kept last ∧ sl.Tracks last last.outline.Enters := by
    have same := (h.1.orderly.mayGrow hm).2
    exact ⟨h.1.trans (h.1.orderly.kept_mayGrow hm), same ▸ h.2.of_eq same⟩
  refine ((makes_joinChild desk _ childNode _ _ _).mono (fun _ _ hm => joined linked hm.2.2) fun _ hm =>
    weaken (joined linked hm)).bind fun creation now hj => ?_
  exact (reads_note _ _).followed (weaken hj) fun _ => makes_pure hj

/-! ## Other commands -/

/-- What becomes of a slide when a node is to be a root: nothing, where it is one, or it is planted. -/
def Rooting (sl after : Slide) : Prop :=
  after = sl ∨ ∃ node root, sl.Planted after node root ∧ ∀ d, (node, d) ∈ sl.outline → d.chain ≠ []

theorem Rooting.kept (h : Rooting sl after) (ho : sl.Orderly) : sl.Kept after := by
  rcases h with rfl | ⟨node, root, hp, -⟩
  · exact .refl ho
  · exact hp.kept

theorem makes_initRoot (given : Option ShapeId) (h : sl.Orderly) :
    Makes (initRoot given) sl (fun _ => Rooting sl) (Rooting sl) := by
  have start : Rooting sl sl := .inl rfl
  refine asks_requireNode.followed start fun id ⟨_, hn⟩ => (asks_descriptorOf hn).followed start fun d hd => ?_
  have plant (hc : ∀ d, (id, d) ∈ sl.outline → d.chain ≠ []) :
      Makes (plantRoot id) sl (fun _ => Rooting sl) (Rooting sl) :=
    (makes_plantRoot h).mono (fun root _ hp => .inr ⟨id, root, hp, hc⟩) fun _ => .inl
  split
  · next d =>
    refine .ite (fun _ => (reads_note _ _).followed start fun _ => makes_pure start) fun hr => plant fun e he => ?_
    obtain rfl := eq_of_mem_outline ((hd d).1 rfl) he
    simpa [Descriptor.isRoot] using hr
  · exact plant fun e he => absurd ((hd e).2 he) (by simp)

theorem makes_clear (given : Option ShapeId) (h : sl.Orderly) :
    Makes (clear given) sl (fun _ after => sl.Kept after ∧ after.outline ⊆ sl.outline)
      fun after => sl.Kept after ∧ after.outline ⊆ sl.outline :=
  asks_requireNode.followed ⟨.refl h, List.Subset.refl _⟩ fun id _ => (makes_clearMemo id).mono
    (fun _ _ hs => hs ▸ ⟨h.kept_clearing, outline_clearing _ _⟩)
    (by rintro _ rfl; exact ⟨.refl h, List.Subset.refl _⟩)

theorem asks_requireLayout (text : Option String) :
    Asks (requireLayout text) sl fun token => token = "" ∨ token ∈ Layout.tokens := by
  unfold requireLayout
  dsimp only
  split
  · exact (asks_refuse (V := fun _ => False)).bind fun _ h => h.elim
  · next hc => exact asks_pure (by simpa [Decidable.or_iff_not_imp_left] using hc)

/-- A node stores what it had with other layouts in it. -/
theorem makes_restore {e : Descriptor} (h : sl.Orderly) (hw : d.Writable) (he : (node, e) ∈ sl.outline)
    (hi : d.identity = e.identity) (hc : e.childIds ⊆ d.childIds) :
    Makes (do store node d; return d) sl (fun _ after => sl.Grown after fun _ => False)
      fun after => sl.Grown after fun _ => False :=
  .stored (.refl h) (makes_pure ⟨h.kept_restoring hw he hi, extends_restoring hw he hi hc⟩)

theorem makes_setLayout (given : Option ShapeId) (layout : Option String) (h : sl.Orderly) :
    Makes (setLayout given layout) sl (fun _ after => sl.Grown after fun _ => False)
      fun after => sl.Grown after fun _ => False := by
  refine asks_requireDescriptor.followed (.refl h) fun (node, d) ⟨_, hd⟩ => ?_
  refine (asks_requireLayout layout).followed (.refl h) fun token ht => ?_
  exact makes_restore h ((h.writable_of_mem hd).2.withLayout ht) hd rfl (List.Subset.refl _)

theorem makes_setChildLayout (given : Option ShapeId) (child : String) (layout : Option String)
    (h : sl.Orderly) : Makes (setChildLayout given child layout) sl (fun _ after => sl.Grown after fun _ => False)
      fun after => sl.Grown after fun _ => False := by
  refine asks_requireDescriptor.followed (.refl h) fun (node, d) ⟨_, hd⟩ => .guard (.refl h) ?_
  refine (asks_requireLayout layout).followed (.refl h) fun token ht => ?_
  refine makes_restore h ((h.writable_of_mem hd).2.withChildLayout ht) hd rfl ?_
  rw [Descriptor.childIds_withChildLayout]
  exact List.Subset.refl _

theorem makes_connect (desk : Desk) (a b : Option ShapeId) (orientation : Option String)
    (edge : Option EdgeStyle) (h : sl.Orderly) :
    Makes (connect desk a b orientation edge) sl (fun _ => sl.Kept) sl.Kept := by
  have join (a b : ShapeId) (side side' : Side) (style : EdgeStyle) :
      Makes (join desk a b side side' style) sl (fun _ => sl.Kept) sl.Kept :=
    (makes_join desk a b side side' style).keeps (.refl h) fun _ _ hg => hg
  refine (reads_requireTwo a b).followed (.refl h) fun (a, b) => ?_
  refine (reads_box a).followed (.refl h) fun boxA => (reads_box b).followed (.refl h) fun boxB => ?_
  cases orientation with
  | none => exact (reads_pure _).followed (.refl h) fun orientation => join _ _ _ _ _
  | some name => exact (reads_requireOrientation name).followed (.refl h) fun orientation => join _ _ _ _ _

theorem makes_drawCell (desk : Desk) {label : String} (cell : Box Float)
    (hl : Descriptor.looksLike label = false) :
    Makes (drawCell desk label cell) sl (fun _ => sl.Grows true) (sl.MayGrow true) := by
  have stripped : Descriptor.looksLike (String.ofList (Text.strip label.toList)) = false := by
    rw [Text.looksLike_strip, String.ofList_toList, hl]
  exact (makes_drawShape _ _ _).bind fun _ _ ⟨hid, hg⟩ => makes_labelled stripped hid hg fun _ hg => makes_pure hg

theorem makes_row (desk : Desk) {labels : List String} (boxes : List (Box Float)) {now : Slide} (hk : sl.Kept now)
    (hl : ∀ label ∈ labels, Descriptor.looksLike label = false) :
    Makes ((labels.zip boxes).mapM fun (label, cell) => drawCell desk label cell) now
      (fun _ => sl.Kept) sl.Kept := by
  refine (makes_mapM (fun rest _ now => sl.Kept now ∧ ∀ x ∈ rest, Descriptor.looksLike x.1 = false)
    (fun (label, cell) rest _ now ⟨hk, hl⟩ => ?_) ⟨hk, fun (label, cell) hx => hl label (List.of_mem_zip hx).1⟩).mono
    (fun _ _ h => h.1) fun _ h => h
  have drawn := (makes_drawCell desk cell (hl _ List.mem_cons_self)).keeps hk fun _ _ => .inr
  exact drawn.mono (fun _ _ hk => ⟨hk, fun y hy => hl y (List.mem_cons_of_mem _ hy)⟩) fun _ hk => hk

theorem makes_split (desk : Desk) (given : Option ShapeId) {rows : List (List String)}
    (padding paddingTop gap : Option (Measure Float)) (h : sl.Orderly)
    (hl : ∀ label ∈ rows.flatten, Descriptor.looksLike label = false) :
    Makes (split desk given rows padding paddingTop gap) sl (fun _ => sl.Kept) sl.Kept := by
  refine asks_requireNode.followed (.refl h) fun node _ => .guard (.refl h) ?_
  refine (reads_box node).followed (.refl h) fun parent => (reads_ofNumber _).followed (.refl h) fun refusal => ?_
  cases refusal with
  | some r => exact (makes_refuse (Q := fun _ _ => False) (.refl h)).bind fun _ _ h => h.elim
  | none =>
    refine (reads_ofNumber _).followed (.refl h) fun cells => ?_
    refine Makes.bind (makes_mapM (fun rest _ now => sl.Kept now ∧
      ∀ x ∈ rest, ∀ label ∈ x.1, Descriptor.looksLike label = false) (fun (labels, boxes) rest _ now ⟨hk, hl⟩ => ?_)
      ⟨.refl h, fun (labels, boxes) hx label hm => ?_⟩) fun created now ⟨hk, _⟩ => ?_
    · exact hl label (List.mem_flatten.2 ⟨labels, List.mem_of_mem_filter (List.of_mem_zip hx).1, hm⟩)
    · exact (makes_row desk boxes hk (hl _ List.mem_cons_self)).mono
        (fun _ _ hk => ⟨hk, fun y hy => hl y (List.mem_cons_of_mem _ hy)⟩) fun _ h => h
    · exact (reads_note _ _).followed hk fun _ => makes_pure hk

theorem makes_selectScope (scope : Scope) (given : Option ShapeId) :
    Makes (selectScope scope given) sl (fun _ after => after = sl) (· = sl) := by
  refine (reads_requireDescriptor given).followed rfl fun (node, d) => reads_outline.followed rfl fun outline => ?_
  refine Makes.bind (makes_forIn (· = sl) (fun id now hs => ?_) rfl) fun _ now hs => ?_
  · exact (makes_select (Q := fun _ after => after = sl) hs).bind fun _ _ hs => makes_pure hs
  · dsimp only
    split <;> exact (reads_note _ _).followed hs fun _ => makes_pure hs

end Command

end FlowDeck
