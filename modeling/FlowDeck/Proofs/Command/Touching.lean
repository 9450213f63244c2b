import FlowDeck.Proofs.Command.Framing
import FlowDeck.Proofs.Editor.Relinking

/-!
# Traces of a fault

A fault leaves a trace if a shape has been added by then, or if one keeps another text. What comes before the first
trace is told by the slide alone, so the slide tells whether a fault leaves one.
-/

namespace FlowDeck

open Slide Edit

variable {sl start now mid after : Slide} {node id : ShapeId} {s : Shape} {d parent root : Descriptor} {C : Prop}

namespace Slide

/-- There are the same shapes, and each keeps the text that it kept. -/
def Untouched (sl after : Slide) : Prop :=
  after.map (fun s => (s.id, s.memo)) = sl.map fun s => (s.id, s.memo)

instance (sl after : Slide) : Decidable (sl.Untouched after) :=
  inferInstanceAs (Decidable (_ = _))

def Shows (sl : Slide) (id : ShapeId) : Prop :=
  ∃ d, sl.descriptorOf? id = some d

def Rewords (sl : Slide) (id : ShapeId) (text : String) : Prop :=
  ∃ s, sl.shape? id = some s ∧ s.memo ≠ text

/-- The node keeps no descriptor, and can become a root. -/
def Plants (sl : Slide) (node : ShapeId) : Prop :=
  sl.outline.lookup node = none ∧ ∃ root, freshRoot sl.outline node = .ok root

theorem Untouched.refl (sl : Slide) : sl.Untouched sl :=
  rfl

theorem Untouched.trans (h : sl.Untouched mid) (h' : mid.Untouched after) : sl.Untouched after :=
  Eq.trans h' h

theorem Untouched.length_eq (h : sl.Untouched after) : after.length = sl.length := by
  simpa using congrArg List.length h

theorem Untouched.memo_eq {t : Shape} (h : sl.Untouched after) (hs : sl.shape? id = some s)
    (ht : after.shape? id = some t) : t.memo = s.memo := by
  have found (sl : Slide) : (sl.map fun s => (s.id, s.memo)).find? (fun entry => entry.1 == id) =
      (sl.shape? id).map fun s => (s.id, s.memo) := by
    rw [List.find?_map]
    rfl
  have same := (found after).symm.trans ((congrArg _ h).trans (found sl))
  rw [hs, ht] at same
  exact congrArg Prod.snd (Option.some.inj same)

theorem rewords_iff (hs : sl.shape? id = some s) {text : String} : sl.Rewords id text ↔ s.memo ≠ text := by
  constructor
  · intro ⟨t, ht, other⟩
    obtain rfl := Option.some.inj (hs.symm.trans ht)
    exact other
  · exact fun other => ⟨s, hs, other⟩

theorem untouched_storing_iff (hs : sl.shape? id = some s) : sl.Untouched (sl.storing id d) ↔ s.memo = d.render := by
  constructor
  · intro h
    have same := h.memo_eq hs (shape?_storing hs d)
    rw [Shape.memo_withMemo] at same
    exact same.symm
  · intro same
    obtain ⟨front, behind, rfl, lacks, rfl⟩ := exists_between hs
    rw [Untouched, storing, modify_between _ lacks]
    simp [Shape.memo_withMemo, same]

theorem length_storing (sl : Slide) (id : ShapeId) (d : Descriptor) : (sl.storing id d).length = sl.length := by
  simpa using congrArg List.length (ids_storing sl id d)

/-- The outline says what nodes keep, so it is as it was if the node keeps the same text. -/
theorem outline_storing (hs : sl.shape? id = some s) (same : s.memo = d.render) :
    (sl.storing id d).outline = sl.outline := by
  rw [outline, nodes_storing, outline]
  refine List.filterMap_congr fun n _ => ?_
  by_cases here : n = id
  · rw [here, descriptorOf?_storing ⟨s, shape?_spec hs⟩, descriptorOf?, hs, Option.bind_some, Shape.descriptor?, same]
  · rw [descriptorOf?_storing_other here]

theorem Framed.length_le {Written : ShapeId → Prop} (h : sl.Framed Written after) : sl.length ≤ after.length := by
  obtain ⟨old, new, rfl, hold, -⟩ := h
  rw [List.length_append, hold.length_eq]
  exact Nat.le_add_right _ _

/-- A shape that is not written to is the one that its number stands for, as before. -/
theorem Framed.shape?_eq {Written : ShapeId → Prop} (h : sl.Framed Written after) (hw : ¬Written id)
    (hs : sl.shape? id = some s) : after.shape? id = some s := by
  obtain ⟨old, new, rfl, hold, -⟩ := h
  refine shape?_append ?_ new
  clear new
  induction hold with
  | nil => exact hs
  | @cons t u sl old stays rest ih =>
    rw [shape?, List.find?_cons] at hs ⊢
    by_cases here : t.id = id
    · have same : u = t := stays.resolve_right fun written => hw (here ▸ written.1)
      rw [same]
      simpa [here] using hs
    · have there : u.id ≠ id := stays.id_eq ▸ here
      rw [beq_false_of_ne there]
      rw [beq_false_of_ne here] at hs
      exact ih hs

theorem Framed.shows {Written : ShapeId → Prop} (h : sl.Framed Written after) (hw : ¬Written id) (hs : sl.Shows id) :
    after.Shows id := by
  obtain ⟨d, hd⟩ := hs
  obtain ⟨s, hs, hread⟩ := Option.bind_eq_some_iff.1 hd
  exact ⟨d, by rw [descriptorOf?, h.shape?_eq hw hs]; exact hread⟩

theorem shows_storing (hs : ∃ s ∈ sl, s.id = id) {e : Descriptor} (hd : Descriptor.read? d.render = some e) :
    (sl.storing id d).Shows id :=
  ⟨e, (descriptorOf?_storing hs).trans hd⟩

theorem Shows.exists_shape (h : sl.Shows id) : ∃ s ∈ sl, s.id = id := by
  obtain ⟨d, hd⟩ := h
  obtain ⟨s, hs, -⟩ := Option.bind_eq_some_iff.1 hd
  exact ⟨s, shape?_spec hs⟩

theorem not_shows_of_untyped (hn : sl.hasNode node) (untyped : sl.outline.lookup node = none) : ¬sl.Shows node := by
  rintro ⟨d, hd⟩
  exact Outline.not_mem_of_lookup untyped (mem_outline.2 ⟨mem_nodes.2 hn, hd⟩)

theorem Typed.shows (h : sl.Typed node parent start) : start.Shows node :=
  ⟨parent, (mem_outline.1 h.mem).2⟩

theorem Untouched.shows_iff (h : sl.Untouched after) : after.Shows id ↔ sl.Shows id := by
  have read (sl : Slide) : sl.descriptorOf? id =
      ((sl.map fun s => (s.id, s.memo)).find? fun entry => entry.1 == id).bind fun entry => Descriptor.read? entry.2 := by
    rw [List.find?_map, Option.bind_map]
    rfl
  rw [Shows, Shows, read after, read sl, h]

end Slide

/-! ## What is asked -/

namespace Edit

variable {α β : Type} {m : Edit α} {f : α → Edit β} {V : α → Prop}

/-- The edit changes nothing of the slide and has the one result that satisfies `V`, or faults if there is none. -/
structure Answers (m : Edit α) (sl : Slide) (V : α → Prop) : Prop where
  makes : Makes m sl (fun a after => V a ∧ after = sl) fun after => (∀ a, ¬V a) ∧ after = sl
  unique : ∀ a b, V a → V b → a = b

/-- What is answered on some slides is the answer, if nothing else is. -/
theorem Asks.answers (h : Asks m sl V) (given : ∀ a, V a → Gives m sl a) : Answers m sl V where
  makes.leads page hp := by
    have led := h.makes.leads page hp
    rcases hm : m.run.run page with ⟨fault | a, last⟩
    · rw [Leads, hm]
      refine ⟨fun a ha => ?_, led.error hm⟩
      cases hm.symm.trans (given a ha page hp)
    · rw [Leads, hm]
      exact (led.ok hm).symm
  unique a b ha hb := by
    have same := (given a ha { slide := sl } rfl).symm.trans (given b hb { slide := sl } rfl)
    exact Except.ok.inj (congrArg Prod.fst same)

theorem answers_ofNumber (x : Except NumberFault α) : Answers (ofNumber x) sl fun a => x = .ok a :=
  asks_ofNumber.answers fun _ h => h ▸ gives_pure

theorem answers_orFault (x : Except Fault α) : Answers (orFault x) sl fun a => x = .ok a :=
  asks_orFault.answers fun _ h => h ▸ gives_pure

theorem answers_requireNode (given : Option ShapeId) :
    Answers (requireNode given) sl fun id => given = some id ∧ sl.hasNode id :=
  asks_requireNode.answers fun _ ⟨h, hn⟩ => h ▸ gives_requireNode hn

theorem answers_requireTwo (a b : Option ShapeId) : Answers (Command.requireTwo a b) sl fun nodes =>
    (a = some nodes.1 ∧ sl.hasNode nodes.1) ∧ (b = some nodes.2 ∧ sl.hasNode nodes.2) ∧ nodes.1 ≠ nodes.2 :=
  Command.asks_requireTwo.answers fun _ ⟨⟨ha, hna⟩, ⟨hb, hnb⟩, hne⟩ => ha ▸ hb ▸ gives_requireTwo hna hnb hne

theorem answers_requireSide (name : String) :
    Answers (Command.requireSide name) sl fun side => Side.ofName? (Text.upper name) = some side := by
  refine Command.asks_requireSide.answers fun side h => ?_
  unfold Command.requireSide
  rw [h]
  exact gives_pure

theorem answers_requireDescriptor (given : Option ShapeId) : Answers (requireDescriptor given) sl
    fun e => given = some e.1 ∧ sl.hasNode e.1 ∧ sl.descriptorOf? e.1 = some e.2 := by
  have asks : Asks (requireDescriptor given) sl
      fun e => given = some e.1 ∧ sl.hasNode e.1 ∧ sl.descriptorOf? e.1 = some e.2 := by
    refine asks_requireNode.bind fun id ⟨hid, hn⟩ => ?_
    have read := gives_descriptorOf? (exists_of_hasNode hn)
    refine ⟨read.followed ?_⟩
    cases hd : sl.descriptorOf? id with
    | some d => exact makes_pure ⟨rfl, hid, hn, hd⟩
    | none => exact makes_refuse rfl
  refine asks.answers fun (id, d) ⟨hid, hn, hd⟩ => ?_
  rw [hid]
  refine (gives_requireNode hn).bind ((gives_descriptorOf? (exists_of_hasNode hn)).bind ?_)
  rw [hd]
  exact gives_pure

theorem answers_box (id : ShapeId) : Answers (box id) sl (sl.HasBox id) where
  makes := makes_box
  unique := by
    rintro b b' ⟨s, hs, hb⟩ ⟨t, ht, hb'⟩
    obtain rfl := Option.some.inj (hs.symm.trans ht)
    exact Except.ok.inj (hb.symm.trans hb')

theorem answers_boxes (ids : List ShapeId) : Answers (boxes ids) sl (List.Forall₂ sl.HasBox ids) where
  makes := by
    refine makes_boxes.mono (fun _ _ h => h) fun after ⟨⟨id, hid, lacks⟩, he⟩ => ⟨fun bs h => ?_, he⟩
    obtain ⟨b, hb⟩ := forall_of_forall₂ (P := fun id => ∃ b, sl.HasBox id b) h.flip (fun b id hb => ⟨b, hb⟩) id hid
    exact lacks b hb
  unique bs bs' h h' := Relator.RightUnique.forall₂ (fun id b b' => (answers_box id).unique b b') h h'

/-! ## What a fault leaves -/

/-- Whatever the edit has come to when it faults, something has been done since `start`. -/
structure Traces (m : Edit α) (start now : Slide) : Prop where
  makes : Makes m now (fun _ _ => True) fun after => ¬start.Untouched after

structure TracesIff (m : Edit α) (start now : Slide) (C : Prop) : Prop where
  makes : Makes m now (fun _ _ => True) fun after => start.Untouched after ↔ ¬C

/-- The edit draws, exactly if `C` holds. A fault before that leaves the slide as it is. -/
structure Adds (m : Edit α) (sl : Slide) (C : Prop) : Prop where
  makes : Makes m sl (fun _ after => C ∧ sl.length < after.length)
    fun after => ¬C ∧ after = sl ∨ C ∧ sl.length < after.length

theorem Traces.tracesIff (h : Traces m start now) (hC : C) : TracesIff m start now C :=
  ⟨h.makes.mono (fun _ _ h => h) fun _ h => iff_of_false h (not_not_intro hC)⟩

theorem Steady.tracesIff (h : Steady m) : TracesIff m start now C :=
  ⟨h.ends⟩

theorem Reads.tracesIff (h : Reads m) (hu : start.Untouched now) (hC : ¬C) : TracesIff m start now C :=
  ⟨h.makes (iff_of_true hu hC) fun _ => trivial⟩

theorem TracesIff.congr {C' : Prop} (h : TracesIff m start now C) (same : C' ↔ C) : TracesIff m start now C' := by
  rwa [propext same]

theorem Answers.tracesIff {C : α → Prop} (hm : Answers m now V) (hu : start.Untouched now)
    (hf : ∀ a, V a → TracesIff (f a) start now (C a)) : TracesIff (m >>= f) start now (∃ a, V a ∧ C a) := by
  refine ⟨hm.makes.followed (fun after h => ?_) fun a ha => ?_⟩
  · rw [h.2]
    exact iff_of_true hu fun ⟨a, ha, _⟩ => h.1 a ha
  · refine ((hf a ha).congr ⟨fun ⟨a', ha', hC⟩ => ?_, fun hC => ⟨a, ha, hC⟩⟩).makes
    rwa [hm.unique a a' ha ha']

theorem TracesIff.then_steady (h : TracesIff m start now C) (hf : ∀ a, Steady (f a)) :
    TracesIff (m >>= f) start now C :=
  ⟨h.makes.bind fun a _ _ => (hf a).ends⟩

theorem TracesIff.ite {c : Prop} [Decidable c] {m' : Edit α} (h : c → TracesIff m start now C)
    (h' : ¬c → TracesIff m' start now C) : TracesIff (if c then m else m') start now C :=
  ⟨.ite (fun hc => (h hc).makes) fun hc => (h' hc).makes⟩

theorem TracesIff.unless {c : Prop} [Decidable c] {r : Refusal} {rest : Unit → Edit β} (hu : start.Untouched now)
    (h : ¬c → TracesIff (rest ()) start now C) :
    TracesIff (if c then refuse r >>= rest else rest ()) start now (¬c ∧ C) := by
  by_cases hc : c
  · rw [if_pos hc]
    exact ⟨(makes_refuse (Q := fun _ _ => False) (iff_of_true hu fun h => h.1 hc)).bind fun _ _ h => h.elim⟩
  · rw [if_neg hc]
    exact (h hc).congr (and_iff_right hc)

theorem Confined.lengthens {Written : ShapeId → Prop} (h : Confined m now Written V) :
    Makes m now (fun _ after => now.length ≤ after.length) fun after => now.length ≤ after.length :=
  (h.makes (.refl now)).mono (fun _ _ h => h.1.length_le) fun _ h => h.length_le

/-- A text that a shape keeps now and has not kept before is a trace, if nothing more is written to the shape. -/
theorem Confined.traces_of_memo {Written : ShapeId → Prop} {t : Shape} (h : Confined m now Written V) (hw : ¬Written id)
    (hs : start.shape? id = some s) (ht : now.shape? id = some t) (other : t.memo ≠ s.memo) : Traces m start now := by
  have kept {after : Slide} (framed : now.Framed Written after) : ¬start.Untouched after :=
    fun hu => other (hu.memo_eq hs (framed.shape?_eq hw ht))
  exact ⟨(h.makes (.refl now)).mono (fun _ _ _ => trivial) fun _ h => kept h⟩

theorem Confined.shows (h : Confined m now (fun _ => False) V) (hs : now.Shows id) :
    Makes m now (fun _ after => after.Shows id) fun after => after.Shows id :=
  (h.makes (.refl now)).mono (fun _ _ h => h.1.shows not_false hs) fun _ h => h.shows not_false hs

/-- A node that shows a descriptor which it did not show before is a trace. -/
theorem traces_of_shows (hidden : ¬start.Shows id)
    (h : Makes m now (fun _ after => after.Shows id) fun after => after.Shows id) : Traces m start now :=
  ⟨h.mono (fun _ _ _ => trivial) fun _ shown hu => hidden (hu.shows_iff.1 shown)⟩

/-- What is drawn stays, whatever is done after it. -/
theorem Adds.tracesIff (h : Adds m now C) (hu : start.Untouched now)
    (hf : ∀ a mid, Confined (f a) mid (fun _ => True) fun _ => True) : TracesIff (m >>= f) start now C := by
  have stays {after : Slide} (hC : C) (longer : now.length < after.length) : start.Untouched after ↔ ¬C :=
    iff_of_false (fun same => longer.ne' (same.length_eq.trans hu.length_eq.symm)) (not_not_intro hC)
  refine ⟨(h.makes.mono (fun _ _ h => h) fun after h => ?_).bind fun a mid ⟨hC, longer⟩ => ?_⟩
  · rcases h with ⟨undrawn, rfl⟩ | ⟨hC, longer⟩
    · exact iff_of_true hu undrawn
    · exact stays hC longer
  · exact (hf a mid).lengthens.mono (fun _ _ _ => trivial) fun after h => stays hC (longer.trans_le h)

/-- Of several drawn one after the other, the first counts. -/
theorem Adds.tracesIff_mapM {γ : Type} {g : β → Edit α} {x : β} {xs : List β} {k : List α → Edit γ}
    (h : Adds (g x) now C) (hu : start.Untouched now)
    (hg : ∀ x mid, Confined (g x) mid (fun _ => True) fun _ => True)
    (hk : ∀ as mid, Confined (k as) mid (fun _ => True) fun _ => True) :
    TracesIff ((x :: xs).mapM g >>= k) start now C := by
  rw [List.mapM_cons, bind_assoc]
  refine h.tracesIff hu fun a mid => ?_
  rw [bind_assoc]
  refine (confined_mapM (fun x => hg x mid) xs).bind fun as _ => ?_
  rw [pure_bind]
  exact hk (a :: as) mid

theorem Gives.tracesIff {a : α} (h : Gives m now a) (hf : TracesIff (f a) start now C) :
    TracesIff (m >>= f) start now C :=
  ⟨h.followed hf.makes⟩

/-! ## Storing -/

theorem TracesIff.store {g : Unit → Edit β} (hs : now.shape? id = some s) (hu : start.Untouched now)
    (same : Storable d.render → s.memo = d.render → TracesIff (g ()) start (now.storing id d) C)
    (other : Storable d.render → s.memo ≠ d.render → Traces (g ()) start (now.storing id d)) :
    TracesIff (Edit.store id d >>= g) start now (Storable d.render ∧ (s.memo ≠ d.render ∨ C)) := by
  refine ⟨((makes_store_split hs d).mono (fun _ _ h => h) fun after h => ?_).bind fun _ after h => ?_⟩
  · rw [h.2]
    exact iff_of_true hu fun stored => h.1 stored.1
  · obtain ⟨storable, rfl⟩ := h
    by_cases hm : s.memo = d.render
    · exact ((same storable hm).congr (by simp [storable, hm])).makes
    · exact ((other storable hm).tracesIff ⟨storable, .inl hm⟩).makes

theorem makes_store_shows {e : Descriptor} (hs : now.Shows node) (hd : Descriptor.read? d.render = some e) :
    Makes (store node d) now (fun _ after => after.Shows node) fun after => after.Shows node := by
  refine (makes_store node d).mono (fun _ _ h => ?_) fun _ h => h ▸ hs
  rw [h]
  exact shows_storing hs.exists_shape hd

/-! ## Typing -/

theorem makes_plantRoot_split (hs : sl.shape? node = some s) : Makes (plantRoot node) sl
    (fun root after => freshRoot sl.outline node = .ok root ∧ after = sl.storing node root)
    fun after => (∀ root, freshRoot sl.outline node ≠ .ok root) ∧ after = sl := by
  refine makes_outline.followed (fun _ h => h) fun outline ho => ?_
  subst ho
  refine makes_ofNumber.followed (fun _ h => h) fun root hroot => ?_
  refine (makes_store_of hs (storable_freshRoot hroot)).bind fun _ after he => ?_
  exact (makes_note (Q := fun _ last => last = after) rfl).bind fun _ last hl => makes_pure ⟨hroot, hl.trans he⟩

/-- A node without a descriptor becomes a root, if it can become one, and shows it. -/
theorem makes_typed_untyped (hn : sl.hasNode node) (untyped : sl.outline.lookup node = none) :
    Makes (Edit.typed node) sl (fun parent after => sl.Plants node ∧ sl.Typed node parent after)
      fun after => ¬sl.Plants node ∧ after = sl := by
  obtain ⟨s, hs⟩ := exists_shape? (exists_of_hasNode hn)
  have ensured : Makes (ensureDescriptor node) sl
      (fun found after => ∃ parent, found = some parent ∧ sl.Plants node ∧ sl.Typed node parent after)
      fun after => ¬sl.Plants node ∧ after = sl := by
    refine makes_outline.followed (fun _ h => h) fun outline ho => ?_
    subst ho
    rw [untyped]
    refine ((makes_plantRoot_split hs).mono (fun _ _ h => h) fun after h => ?_).bind fun root after h => ?_
    · exact ⟨fun ⟨_, root, hroot⟩ => h.1 root hroot, h.2⟩
    · obtain ⟨hroot, rfl⟩ := h
      have listed := lookup_eq_of_mem (mem_outline_storing_self hn (writable_freshRoot hroot).read?_render)
      refine makes_outline.followed (fun _ h => h) fun outline ho => makes_pure ?_
      subst ho
      exact ⟨_, listed, ⟨untyped, root, hroot⟩, listed, .inr ⟨untyped, root, hroot, rfl⟩⟩
  refine ensured.bind fun found after h => ?_
  obtain ⟨parent, rfl, planted⟩ := h
  exact makes_pure planted

/-- A node without a descriptor has got one afterwards, if it can become a root, and that is to be seen then. -/
theorem TracesIff.typed {f : Descriptor → Edit β} {C : Descriptor → Prop} (hn : sl.hasNode node)
    (listed : ∀ parent, sl.outline.lookup node = some parent → TracesIff (f parent) sl sl (C parent))
    (planted : ∀ parent start, sl.Typed node parent start → ¬sl.Shows node → Traces (f parent) sl start) :
    TracesIff (Edit.typed node >>= f) sl sl (sl.Plants node ∨ ∃ parent, sl.outline.lookup node = some parent ∧ C parent) := by
  cases hl : sl.outline.lookup node with
  | some parent =>
    have only : (sl.Plants node ∨ ∃ other, some parent = some other ∧ C other) ↔ C parent := by simp [Plants, hl]
    exact ((gives_typed hl).tracesIff (listed parent hl)).congr only
  | none =>
    have only : (sl.Plants node ∨ ∃ parent, none = some parent ∧ C parent) ↔ sl.Plants node := by simp
    refine TracesIff.congr ⟨?_⟩ only
    refine ((makes_typed_untyped hn hl).mono (fun _ _ h => h) fun after h => ?_).bind fun parent after h => ?_
    · rw [h.2]
      exact iff_of_true (.refl sl) h.1
    · obtain ⟨plants, typed⟩ := h
      exact ((planted parent after typed (not_shows_of_untyped hn hl)).tracesIff plants).makes

/-! ## Drawing -/

theorem adds_drawChild (desk : Desk) (kind : String) (b : Box Float) (label : String) (d : Descriptor) :
    Adds (Command.drawChild desk kind b label d) sl (∃ onGrid, b.OnGrid onGrid) := by
  have added {text : String} {now : Slide} (h : sl.AddsFigure kind b text now) :
      (∃ onGrid, b.OnGrid onGrid) ∧ sl.AddsNode now := by
    obtain ⟨s, rfl, hs, hfig⟩ := h
    obtain ⟨onGrid, _, _, _, hb, -, -⟩ := hfig.form
    exact ⟨⟨onGrid, hb⟩, s, rfl, hs, hfig.isNode, hfig.descr⟩
  have longer {now : Slide} (h : sl.AddsNode now) : sl.length < now.length := by
    obtain ⟨s, rfl, -⟩ := h
    simp
  have stored {now : Slide} (id : ShapeId) (h : sl.AddsNode now) : Makes (do store id d; return id) now
      (fun _ after => sl.length < after.length) fun after => sl.length < after.length := by
    refine ((makes_store id d).mono (fun _ after he => ?_) fun after he => ?_).bind fun _ _ hl => makes_pure hl
    · rw [he, length_storing]
      exact longer h
    · exact he ▸ longer h
  refine ⟨((makes_drawShapeAt desk kind b).mono (fun _ _ h => h) fun after h => ?_).bind fun id now ⟨hid, hf⟩ => ?_⟩
  · rcases h with off | ⟨-, hf⟩
    · exact .inl off
    · exact .inr ⟨(added hf).1, longer (added hf).2⟩
  · obtain ⟨gridded, ha⟩ := added hf
    have rest : Makes (do
        if Text.strip label.toList ≠ [] then setText desk id label
        store id d
        return id) now (fun _ after => sl.length < after.length) fun after => sl.length < after.length := by
      refine .ite (fun _ => ?_) fun _ => stored id ha
      exact ((makes_setText_any desk label hid ha).mono (fun _ _ h => h) fun _ h => longer h).bind
        fun _ _ ha => stored id ha
    exact rest.mono (fun _ _ h => ⟨gridded, h⟩) fun _ h => .inr ⟨gridded, h⟩

theorem adds_drawEdge (desk : Desk) (a b : Point Float) (style : EdgeStyle) :
    Adds (drawEdge desk a b style) sl (a.OnGrid ∧ b.OnGrid) := by
  have course : Makes (courseNamed style.lineType) sl (fun _ after => True ∧ after = sl) fun _ => False :=
    ((reads_courseNamed _).makes (E := (· = sl)) rfl fun _ => ⟨trivial, rfl⟩).surely ((steady_courseNamed _).makes sl)
  refine ⟨course.followed (fun _ h => h.elim) fun course _ => ?_⟩
  refine makes_ofNumber.followed (fun _ h => .inl ⟨fun ⟨⟨⟨x, hx⟩, _⟩, _⟩ => h.1 x hx, h.2⟩) fun x hx => ?_
  refine makes_ofNumber.followed (fun _ h => .inl ⟨fun ⟨⟨_, y, hy⟩, _⟩ => h.1 y hy, h.2⟩) fun y hy => ?_
  refine makes_ofNumber.followed (fun _ h => .inl ⟨fun ⟨_, ⟨x, hx⟩, _⟩ => h.1 x hx, h.2⟩) fun x' hx' => ?_
  refine makes_ofNumber.followed (fun _ h => .inl ⟨fun ⟨_, _, y, hy⟩ => h.1 y hy, h.2⟩) fun y' hy' => ?_
  have gridded : a.OnGrid ∧ b.OnGrid := ⟨⟨⟨x, hx⟩, y, hy⟩, ⟨x', hx'⟩, y', hy'⟩
  refine (makes_add (Q := fun id now => id = sl.nextId ∧ sl.Grows false now)
    ⟨rfl, _, rfl, rfl, rfl, rfl, rfl, rfl⟩).bind fun id now ⟨hid, hg⟩ => ?_
  have dressed : Dresses (do
      let colour ← drawable (colourOf (desk.paint.bind (·.nodeLine)))
      changeConnector id fun line => { line with colour, width := connectorWidth }
      let head ← arrowType style.startArrow
      changeConnector id fun line => { line with head := some head }
      let tail ← arrowType style.endArrow
      changeConnector id fun line => { line with tail := some tail }
      return id) id := by
    refine (reads_drawable _).dresses.bind fun colour => (dresses_changeConnector id _).bind fun _ => ?_
    refine (reads_arrowType _).dresses.bind fun head => (dresses_changeConnector id _).bind fun _ => ?_
    refine (reads_arrowType _).dresses.bind fun tail => (dresses_changeConnector id _).bind fun _ => dresses_pure id
  have longer {after : Slide} (h : sl.Grows false after) : (a.OnGrid ∧ b.OnGrid) ∧ sl.length < after.length := by
    obtain ⟨s, rfl, -⟩ := h
    exact ⟨gridded, by simp⟩
  exact (dressed.makes hid hg).mono (fun _ _ h => longer h) fun _ h => .inr (longer h)

end Edit

end FlowDeck
