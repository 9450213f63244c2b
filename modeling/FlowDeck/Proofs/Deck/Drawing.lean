import FlowDeck.Command.Creation
import FlowDeck.Editor.Open
import FlowDeck.Proofs.Deck.Labels
import FlowDeck.Proofs.Deck.Slides
import FlowDeck.Proofs.Edit.Makes

/-!
# What drawing adds

Whatever is drawn, with its colours and its text, is one shape more in front, which is no part of a
hierarchy yet. A fault leaves it there, or comes before it is drawn.
-/

namespace FlowDeck

/-- One shape more in front, a node or not, that has the next number and keeps no descriptor. -/
def Slide.Grows (sl : Slide) (node : Bool) (after : Slide) : Prop :=
  ∃ s : Shape, after = sl ++ [s] ∧ s.id = sl.nextId ∧ s.isNode = node ∧ s.descr = none ∧ s.Tidy

def Slide.MayGrow (sl : Slide) (node : Bool) (after : Slide) : Prop :=
  after = sl ∨ sl.Grows node after

/-- One node more in front, without a description. What is written inside it may be meant as one. -/
def Slide.AddsNode (sl after : Slide) : Prop :=
  ∃ s : Shape, after = sl ++ [s] ∧ s.id = sl.nextId ∧ s.isNode ∧ s.descr = none

def Slide.storing (sl : Slide) (id : ShapeId) (d : Descriptor) : Slide :=
  sl.modify id fun s => s.withMemo d.render

theorem Slide.shape?_storing {sl : Slide} {id : ShapeId} {s : Shape} (h : sl.shape? id = some s) (d : Descriptor) :
    (sl.storing id d).shape? id = some (s.withMemo d.render) := by
  rw [storing, shape?_modify_self fun s => s.withMemo_id _, h, Option.map_some]

theorem Slide.shape?_storing_other {sl : Slide} {n id : ShapeId} (h : n ≠ id) (d : Descriptor) :
    (sl.storing id d).shape? n = sl.shape? n :=
  shape?_modify_other (fun s => s.withMemo_id _) h

namespace Slide

variable {sl : Slide} {n id : ShapeId} {d : Descriptor}

theorem ids_storing (sl : Slide) (id : ShapeId) (d : Descriptor) : (sl.storing id d).map (·.id) = sl.map (·.id) :=
  map_modify fun s => s.withMemo_id _

theorem nodes_storing (sl : Slide) (id : ShapeId) (d : Descriptor) : (sl.storing id d).nodes = sl.nodes :=
  nodes_withMemo sl id d.render

theorem descriptorOf?_storing (h : ∃ s ∈ sl, s.id = id) :
    (sl.storing id d).descriptorOf? id = Descriptor.read? d.render :=
  descriptorOf?_withMemo h

theorem descriptorOf?_storing_other (h : n ≠ id) (d : Descriptor) :
    (sl.storing id d).descriptorOf? n = sl.descriptorOf? n :=
  descriptorOf?_withMemo_other h

theorem mem_outline_storing_other {e : Descriptor} (h : n ≠ id) (hd : (n, d) ∈ sl.outline) :
    (n, d) ∈ (sl.storing id e).outline :=
  mem_outline_withMemo.2 (.inl ⟨h, hd⟩)

/-- What a node stores is in the outline if it can be read. -/
theorem mem_outline_storing_self {e : Descriptor} (hn : sl.hasNode id) (hd : Descriptor.read? e.render = some d) :
    (id, d) ∈ (sl.storing id e).outline :=
  mem_outline_withMemo.2 (.inr ⟨rfl, hn, hd⟩)

end Slide

theorem Slide.Grows.addsNode {sl after : Slide} (h : sl.Grows true after) : sl.AddsNode after := by
  obtain ⟨s, rfl, hid, hn, hd, -⟩ := h
  exact ⟨s, rfl, hid, hn, hd⟩

/-- It does not show in the slide that a new node was meant as another before it stored a descriptor. -/
theorem Slide.AddsNode.storing {sl now : Slide} (h : sl.AddsNode now) (d : Descriptor) :
    ∃ mid, sl.Grows true mid ∧ now.storing sl.nextId d = mid.storing sl.nextId d := by
  obtain ⟨s, rfl, hid, hn, -⟩ := h
  have old : ∀ t ∈ sl, t.id ≠ s.id := fun t ht => hid ▸ Slide.nextId_ne ht
  refine ⟨sl ++ [s.withMemo ""], ⟨s.withMemo "", rfl, by simpa using hid, by simpa using hn, ?_, s.withMemo_tidy ""⟩, ?_⟩
  · simp [Shape.withMemo_descr]
  · have plain : Slide.modify (sl ++ [s.withMemo ""]) s.id (fun t => t.withMemo d.render) = sl ++ [s.withMemo d.render] := by
      rw [← s.withMemo_id "", Slide.modify_between _ (by simpa using old), Shape.withMemo_withMemo]
    rw [Slide.storing, Slide.storing, ← hid, Slide.modify_between _ old, plain]

namespace Edit

variable {α β : Type} {sl : Slide} {node : Bool}

/-- The edit changes nothing but the shape that was drawn last, and leaves it without a descriptor. -/
structure Dresses (m : Edit α) (id : ShapeId) : Prop where
  makes : ∀ {sl : Slide} {node : Bool} {now : Slide}, id = sl.nextId → sl.Grows node now →
    Makes m now (fun _ => sl.Grows node) (sl.Grows node)

section
variable {id : ShapeId} {m m' : Edit α} {f : α → Edit β}

theorem Reads.dresses (h : Reads m) : Dresses m id :=
  ⟨fun _ hg => h.makes hg fun _ => hg⟩

theorem Dresses.bind (hm : Dresses m id) (hf : ∀ a, Dresses (f a) id) : Dresses (m >>= f) id :=
  ⟨fun hid hg => (hm.makes hid hg).bind fun a _ hg => (hf a).makes hid hg⟩

theorem Dresses.ite {c : Prop} [Decidable c] (h : Dresses m id) (h' : Dresses m' id) :
    Dresses (if c then m else m') id := by
  split
  · exact h
  · exact h'

theorem dresses_pure (a : α) : Dresses (pure a) id := (reads_pure a).dresses

theorem dresses_change {g : Shape → Shape} (hid : ∀ s, (g s).id = s.id) (hnode : ∀ s, (g s).isNode = s.isNode)
    (hdescr : ∀ s, (g s).descr = s.descr) (htidy : ∀ s : Shape, s.Tidy → (g s).Tidy) :
    Dresses (change id g) id := by
  refine ⟨fun {sl node now} he hg => makes_change ?_⟩
  obtain ⟨s, rfl, hs, hn, hd, ht⟩ := hg
  refine ⟨g s, ?_, (hid s).trans hs, (hnode s).trans hn, (hdescr s).trans hd, htidy s ht⟩
  rw [he, ← hs]
  exact Slide.modify_between g fun t h => hs ▸ Slide.nextId_ne h

theorem Dresses.then {Q : β → Slide → Prop} {now : Slide} (hm : Dresses m id) (hid : id = sl.nextId)
    (hg : sl.Grows node now) (hf : ∀ a now, sl.Grows node now → Makes (f a) now Q (sl.MayGrow node)) :
    Makes (m >>= f) now Q (sl.MayGrow node) :=
  ((hm.makes hid hg).mono (fun _ _ h => h) fun _ h => .inr h).bind hf

end

/-! ## Colours and texts -/

theorem dresses_alike {id : ShapeId} {g : Shape → Shape} (h : ∀ s : Shape, s.Alike (g s)) :
    Dresses (change id g) id :=
  dresses_change (fun s => (h s).id) (fun s => (h s).isNode) (fun s => (h s).descr) fun s => (h s).tidy

theorem dresses_paintFill (id : ShapeId) (colour : Option Rgb) : Dresses (paintFill id colour) id :=
  dresses_alike fun ⟨_, _, _, _, form⟩ => by cases form <;> exact ⟨rfl, rfl, rfl, rfl, rfl⟩

theorem dresses_paintLine (id : ShapeId) (colour : Option Rgb) : Dresses (paintLine id colour) id :=
  dresses_alike fun ⟨_, _, _, _, form⟩ => by cases form <;> exact ⟨rfl, rfl, rfl, rfl, rfl⟩

theorem dresses_changeConnector (id : ShapeId) (g : Connector → Connector) :
    Dresses (changeConnector id g) id :=
  dresses_alike fun ⟨_, _, _, _, form⟩ => by cases form <;> exact ⟨rfl, rfl, rfl, rfl, rfl⟩

theorem dresses_setBody (id : ShapeId) {body : Body} (h : Descriptor.looksLike body.text = false) :
    Dresses (setBody id body) id :=
  dresses_change (fun _ => rfl) (fun s => Shape.withBody_isNode s body) (fun _ => rfl)
    fun _ ht => Shape.withBody_tidy ht h

/-- A label is set as a whole or up to what cannot be stored. -/
theorem setPlainText_cases (id : ShapeId) {text : String} (h : Descriptor.looksLike text = false) :
    ∃ body : Body, Descriptor.looksLike body.text = false ∧
      (setPlainText id text = setBody id body ∨ setPlainText id text = do setBody id body; throw .notStorable) := by
  have cut (before : List Char) (hb : before <+: Text.encodeControls text.toList) :
      Descriptor.looksLike (Body.ofText (String.ofList before) none).text = false :=
    Body.looksLike_ofText (Text.looksLike_of_prefix hb h)
  unfold setPlainText
  dsimp only
  split
  · exact ⟨Body.ofText text none, Body.looksLike_ofText h, .inl rfl⟩
  · refine ⟨_, ?_, .inr rfl⟩
    dsimp only
    refine cut _ ?_
    exact (List.rdropWhile_prefix _ _).trans (List.takeWhile_prefix _)

theorem dresses_setPlainText (id : ShapeId) {text : String} (h : Descriptor.looksLike text = false) :
    Dresses (setPlainText id text) id := by
  obtain ⟨body, hb, he | he⟩ := setPlainText_cases id h <;> rw [he]
  · exact dresses_setBody id hb
  · exact (dresses_setBody id hb).bind fun _ => (reads_throw _).dresses

theorem dresses_setText (desk : Desk) (id : ShapeId) {text : String} (h : Descriptor.looksLike text = false) :
    Dresses (setText desk id text) id := by
  refine (reads_shape id).dresses.bind fun s => .ite (reads_note _ _).dresses ?_
  refine (dresses_setPlainText id h).bind fun _ => ?_
  exact .ite ((reads_drawable _).dresses.bind fun _ => dresses_setBody id (Body.looksLike_ofText h))
    (dresses_pure _)

/-! ## Shapes and connectors -/

theorem makes_drawShape (desk : Desk) (name : String) (b : Box (Measure Float)) :
    Makes (drawShape desk name b) sl (fun id after => id = sl.nextId ∧ sl.Grows true after) (sl.MayGrow true) := by
  have checks (lengths : List Int) : Reads (lengths.forM fun length => ofNumber (Number.checkLength length)) :=
    reads_forM (fun _ => reads_ofNumber _) lengths
  unfold drawShape
  refine (reads_kindNamed name).followed (.inl rfl) fun kind => ?_
  refine (reads_ofNumber _).followed (.inl rfl) fun x => (reads_ofNumber _).followed (.inl rfl) fun y => ?_
  refine (reads_ofNumber _).followed (.inl rfl) fun w => (reads_ofNumber _).followed (.inl rfl) fun h => ?_
  refine (checks _).followed (.inl rfl) fun _ => ?_
  refine (makes_add (Q := fun id after => id = sl.nextId ∧ sl.Grows true after)
    ⟨rfl, _, rfl, rfl, rfl, rfl, rfl, rfl⟩).bind fun id now ⟨hid, hg⟩ => ?_
  have finish (now : Slide) (hg : sl.Grows true now) : Makes (do
      if desk.debug then notePlace name id b
      return id) now (fun id after => id = sl.nextId ∧ sl.Grows true after) (sl.MayGrow true) := by
    dsimp only
    split
    · exact (reads_notePlace name id b).followed (.inr hg) fun _ => makes_pure ⟨hid, hg⟩
    · exact makes_pure ⟨hid, hg⟩
  dsimp only
  split
  · refine (reads_drawable _).followed (.inr hg) fun fill => ?_
    refine (dresses_paintFill id fill).then hid hg fun _ now hg => ?_
    refine (reads_drawable _).followed (.inr hg) fun line => ?_
    exact (dresses_paintLine id line).then hid hg fun _ now hg => finish now hg
  · exact finish now hg

/-- A shape is drawn and gets its label, if it has one. -/
theorem makes_labelled {desk : Desk} {id : ShapeId} {label : String} {c : Prop} [Decidable c]
    {rest : Unit → Edit β} {Q : β → Slide → Prop} {now : Slide} (hl : Descriptor.looksLike label = false)
    (hid : id = sl.nextId) (hg : sl.Grows true now)
    (hr : ∀ now, sl.Grows true now → Makes (rest ()) now Q (sl.MayGrow true)) :
    Makes (if c then setText desk id label >>= rest else rest ()) now Q (sl.MayGrow true) := by
  split
  · exact (dresses_setText desk id hl).then hid hg fun _ now hg => hr now hg
  · exact hr now hg

/-! ## Texts of any kind

A label that is meant as a descriptor is taken for one only until the node stores another. -/

theorem makes_setBody_any {id : ShapeId} {body : Body} {now : Slide} {E : Slide → Prop} (hid : id = sl.nextId)
    (ha : sl.AddsNode now) : Makes (setBody id body) now (fun _ => sl.AddsNode) E := by
  obtain ⟨s, rfl, hs, hn, hd⟩ := ha
  refine makes_change ⟨s.withBody body, ?_, hs, (s.withBody_isNode body).trans hn, hd⟩
  rw [hid, ← hs]
  exact Slide.modify_between _ fun t h => hs ▸ Slide.nextId_ne h

theorem makes_setText_any (desk : Desk) {id : ShapeId} (text : String) {now : Slide} (hid : id = sl.nextId)
    (ha : sl.AddsNode now) : Makes (setText desk id text) now (fun _ => sl.AddsNode) sl.AddsNode := by
  have plain : Makes (setPlainText id text) now (fun _ => sl.AddsNode) sl.AddsNode := by
    unfold setPlainText
    dsimp only
    split
    · exact makes_setBody_any hid ha
    · exact (makes_setBody_any hid ha).bind fun _ _ ha => makes_throw ha
  refine (reads_shape id).followed ha fun s => .ite (fun _ => makes_note ha) fun _ => ?_
  refine plain.bind fun _ now ha => .ite (fun _ => ?_) fun _ => makes_pure ha
  exact (reads_drawable _).followed ha fun _ => makes_setBody_any hid ha

theorem makes_drawEdge (desk : Desk) (a b : Point Float) (style : EdgeStyle) :
    Makes (drawEdge desk a b style) sl (fun _ => sl.Grows false) (sl.MayGrow false) := by
  refine (reads_courseNamed _).followed (.inl rfl) fun course => ?_
  refine (reads_ofNumber _).followed (.inl rfl) fun x => (reads_ofNumber _).followed (.inl rfl) fun y => ?_
  refine (reads_ofNumber _).followed (.inl rfl) fun x' => (reads_ofNumber _).followed (.inl rfl) fun y' => ?_
  refine (makes_add (Q := fun id after => id = sl.nextId ∧ sl.Grows false after)
    ⟨rfl, _, rfl, rfl, rfl, rfl, rfl, rfl⟩).bind fun id now ⟨hid, hg⟩ => ?_
  refine (reads_drawable _).followed (.inr hg) fun colour => ?_
  refine (dresses_changeConnector id _).then hid hg fun _ now hg => ?_
  refine (reads_arrowType _).followed (.inr hg) fun head => ?_
  refine (dresses_changeConnector id _).then hid hg fun _ now hg => ?_
  refine (reads_arrowType _).followed (.inr hg) fun tail => ?_
  exact (dresses_changeConnector id _).then hid hg fun _ now hg => makes_pure hg

theorem makes_join (desk : Desk) (a b : ShapeId) (sideA sideB : Side) (style : EdgeStyle) :
    Makes (join desk a b sideA sideB style) sl (fun _ => sl.MayGrow false) (sl.MayGrow false) := by
  refine (reads_siteOn desk a sideA).followed (.inl rfl) fun pointA => ?_
  refine (reads_siteOn desk b sideB).followed (.inl rfl) fun pointB => ?_
  split
  · refine (makes_drawEdge _ _ _ _).bind fun edge now hg => ?_
    exact (reads_note _ _).followed (.inr hg) fun _ => makes_pure (.inr hg)
  · exact (reads_note _ _).followed (.inl rfl) fun _ => makes_pure (.inl rfl)

theorem makes_joinChild (desk : Desk) (c : Creation) (child : ShapeId) (side side' : Side)
    (style : EdgeStyle) : Makes (joinChild desk c child side side' style) sl
      (fun joined after => joined.parent = c.parent ∧ joined.created = c.created ∧ sl.MayGrow false after)
      (sl.MayGrow false) := by
  refine (makes_join desk _ _ _ _ _).bind fun edge now hg => ?_
  split <;> exact makes_pure ⟨rfl, rfl, hg⟩

theorem makes_addNode (desk : Desk) {text : String} (x y width height : Option (Measure Float))
    (h : Descriptor.looksLike text = false) :
    Makes (Editor.addNode desk text x y width height) sl (fun _ => sl.Grows true) (sl.MayGrow true) :=
  (makes_drawShape desk _ _).bind fun _ _ ⟨hid, hg⟩ =>
    makes_labelled h hid hg fun _ hg => makes_pure hg

/-! ## Keeping descriptors -/

theorem makes_setMemo (id : ShapeId) (text : String) :
    Makes (setMemo id text) sl (fun _ after => after = sl.modify id fun s => s.withMemo text) (· = sl) := by
  let kept := sl.modify id fun s => s.withMemo text
  refine (reads_shape id).followed rfl fun s => ?_
  refine (reads_requireStorable text).followed rfl fun _ => ?_
  refine (makes_change (Q := fun _ after => after = kept) rfl).bind fun _ after h => ?_
  -- What follows only logs, so nothing can fail once the text is kept.
  have last : Makes (if s.hasMisplacedText then
      note .debug s!"🔁 Migrated descriptor out of the text of shape {id}" else pure ()) after
      (fun _ after => after = kept) (· = sl) := by
    split
    · exact makes_note h
    · exact makes_pure h
  dsimp only
  split
  · exact (makes_note (Q := fun _ now => now = after) rfl).bind fun _ _ h => h ▸ last
  · exact last

theorem makes_store (id : ShapeId) (d : Descriptor) :
    Makes (store id d) sl (fun _ after => after = sl.storing id d) (· = sl) :=
  (makes_setMemo id d.render).bind fun _ _ h => makes_note h

/-- What follows a stored descriptor starts from the slide that keeps it. -/
theorem Makes.stored {id : ShapeId} {d : Descriptor} {f : Unit → Edit β} {R : β → Slide → Prop}
    {E : Slide → Prop} (hE : E sl) (hf : Makes (f ()) (sl.storing id d) R E) :
    Makes (store id d >>= f) sl R E := by
  have stored : Makes (store id d) sl (fun _ after => after = sl.storing id d) E := by
    refine (makes_store id d).mono (fun _ _ h => h) ?_
    rintro _ rfl
    exact hE
  refine stored.bind ?_
  rintro _ _ rfl
  exact hf

theorem makes_clearMemo (id : ShapeId) :
    Makes (clearMemo id) sl (fun _ after => after = sl.modify id fun s => s.withMemo "") (· = sl) := by
  refine (reads_memo id).followed rfl fun previous => (makes_setMemo id "").bind fun _ now h => ?_
  dsimp only
  split
  · exact (makes_note (Q := fun _ after => after = now) rfl).bind fun _ _ h' => makes_pure (h' ▸ h)
  · exact makes_pure h

end Edit

end FlowDeck
