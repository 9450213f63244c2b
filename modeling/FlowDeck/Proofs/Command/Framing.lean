import FlowDeck.Proofs.Command.Finding
import FlowDeck.Proofs.Deck.Frame

/-!
# The frame of every command

Commands draw in front of what is there, and write to few of the shapes that they find: to the node
that is given, to the parent that gets a sibling, to both nodes that are linked.
-/

namespace FlowDeck

open Slide Edit

variable {sl : Slide} {Written : ShapeId → Prop} {id : ShapeId}

def Request.Writes (sl : Slide) : Request → ShapeId → Prop
  | .initRoot node, id | .clear node, id | .setLayout node _, id | .setChildLayout node _ _, id => node = some id
  | .createChildren node _ count _ labels _, id =>
    node = some id ∧ 0 < if labels.isEmpty then count else (labels.length : Int)
  | .createSibling node _ _, id =>
    ∃ given d parent, node = some given ∧ sl.descriptorOf? given = some d ∧ sl.outline.parent? d = some (id, parent)
  | .link a b _, id => a = some id ∨ b = some id
  | .split .., _ | .connect .., _ | .select .., _ | .describe _, _ | .analyze, _ => False

namespace Edit

structure Frames {α : Type} (m : Edit α) (sl : Slide) (Written : ShapeId → Prop) : Prop where
  makes : Makes m sl (fun _ => sl.Framed Written) (sl.Framed Written)

variable {α β : Type} {m : Edit α} {f : α → Edit β} {V : α → Prop}

theorem Confined.frames (h : Confined m sl Written V) : Frames m sl Written :=
  ⟨(h.makes (.refl sl)).mono (fun _ _ h => h.1) fun _ h => h⟩

theorem Reads.frames (h : Reads m) : Frames m sl Written := h.confined.frames

theorem Asks.frames (hm : Asks m sl V) (hf : ∀ a, V a → Frames (f a) sl Written) : Frames (m >>= f) sl Written :=
  ⟨hm.followed (.refl sl) fun a h => (hf a h).makes⟩

/-- The descriptor that is required is the one that the shape of this number keeps. -/
theorem asks_requireDescriptor? {node : Option ShapeId} :
    Asks (requireDescriptor node) sl fun e => node = some e.1 ∧ sl.descriptorOf? e.1 = some e.2 := by
  refine asks_requireNode.bind fun id ⟨hid, _⟩ => ?_
  have read : Asks (descriptor? id) sl fun d => sl.descriptorOf? id = d :=
    asks_shape?.bind fun s hs => asks_pure (by rw [descriptorOf?, hs]; rfl)
  refine read.bind fun d hd => ?_
  cases d with
  | some d => exact asks_pure ⟨hid, hd⟩
  | none => exact asks_refuse

theorem Frames.ite {c : Prop} [Decidable c] {m' : Edit α} (h : c → Frames m sl Written)
    (h' : ¬c → Frames m' sl Written) : Frames (if c then m else m') sl Written := by
  split
  · next hc => exact h hc
  · next hc => exact h' hc

theorem confined_refused (r : Refusal) : Confined (refuse r >>= f) sl Written fun _ => True :=
  ⟨fun hn => (makes_refuse (Q := fun _ _ => False) hn).bind fun _ _ h => h.elim⟩

theorem confined_guard {c : Prop} [Decidable c] {r : Refusal} {rest : Unit → Edit β}
    (h : Confined (rest ()) sl Written fun _ => True) :
    Confined (if c then refuse r >>= rest else rest ()) sl Written fun _ => True :=
  .ite (confined_refused r) h

end Edit

namespace Command

theorem confined_drawChild (desk : Desk) (kind : String) (b : Box Float) (label : String) (d : Descriptor) :
    Confined (drawChild desk kind b label d) sl Written fun _ => True := by
  refine (confined_drawShape desk kind _).bind fun child hc => ?_
  have stored : Confined (do store child d; return child) sl Written fun _ => True :=
    (confined_store (.inl hc) d).bind fun _ _ => confined_pure trivial
  exact .ite ((confined_setText desk hc label).bind fun _ _ => stored) stored

theorem confined_joinChildren (desk : Desk) (text : String) (c : Creation) (children : List ShapeId) (side side' : Side)
    (style : EdgeStyle) : Confined (do
      let c ← children.foldlM (fun c child => joinChild desk c child side side' style) c
      note .info text
      return c) sl Written fun _ => True := by
  refine (confined_foldlM (fun _ _ => confined_joinChild desk _ _ _ _ _) _ _).bind fun creation _ => ?_
  exact (reads_note _ _).confines fun _ => confined_pure trivial

theorem confined_drawCell (desk : Desk) (label : String) (cell : Box Float) :
    Confined (drawCell desk label cell) sl Written fun _ => True := by
  refine (confined_drawShape desk _ _).bind fun node hn => .ite ?_ (confined_pure trivial)
  exact (confined_setText desk hn _).bind fun _ _ => confined_pure trivial

theorem frames_initRoot (node : Option ShapeId) : Frames (initRoot node) sl fun id => node = some id := by
  refine asks_requireNode.frames fun id ⟨hid, _⟩ => (reads_descriptor? id).asks.frames fun d _ => ?_
  apply Confined.frames (V := fun _ => True)
  have planted : Confined (plantRoot id) sl (fun id => node = some id) fun _ => True := confined_plantRoot hid
  cases d with
  | none => exact planted
  | some d => exact .ite ((reads_note _ _).confines fun _ => confined_pure trivial) planted

theorem frames_createChildren (desk : Desk) (node : Option ShapeId) (direction : String) (count : Int)
    (gap : Option (Measure Float)) (labels : List String) (edge : Option EdgeStyle) :
    Frames (createChildren desk node direction count gap labels edge) sl
      (Request.Writes sl (.createChildren node direction count gap labels edge)) := by
  refine asks_requireNode.frames fun id ⟨hid, _⟩ => (reads_requireSide direction).asks.frames fun direction _ => ?_
  refine .ite (fun _ => ((reads_note _ _).bind fun _ => reads_pure _).frames) fun hcount => ?_
  apply Confined.frames (V := fun _ => True)
  -- From here on there is something to create, so the given node may be written to.
  have written : node = some id ∧ 0 < if labels.isEmpty then count else (labels.length : Int) :=
    ⟨hid, Int.not_le.1 hcount⟩
  refine (reads_box id).confines fun parentBox => confined_guard ?_
  refine (reads_ofNumber _).confines fun gap => confined_guard ?_
  refine (confined_typed written).bind fun parent _ => reads_outline.confines fun outline => ?_
  refine (reads_boxes _).confines fun boxes => (reads_ofNumber _).confines fun corners => ?_
  refine (reads_ofNumber _).confines fun ids => (reads_shape id).confines fun s => ?_
  refine (confined_mapM (fun _ => confined_drawChild desk _ _ _ _) _).bind fun created _ => ?_
  exact (confined_store (.inr written) _).bind fun _ _ => confined_joinChildren desk _ _ _ _ _ _

theorem frames_createSibling (desk : Desk) (node : Option ShapeId) (gap : Option (Measure Float))
    (edge : Option EdgeStyle) :
    Frames (createSibling desk node gap edge) sl (Request.Writes sl (.createSibling node gap edge)) := by
  refine asks_requireDescriptor?.frames fun (given, d) ⟨hgiven, hd⟩ => ?_
  refine .ite (fun _ => (confined_refused _).frames) fun _ => ?_
  refine asks_outline.frames fun outline ho => ?_
  subst ho
  split
  · exact (reads_refuse _).frames
  next parentNode parent hparent =>
  have written : Request.Writes sl (.createSibling node gap edge) parentNode := ⟨given, d, parent, hgiven, hd, hparent⟩
  apply Confined.frames (V := fun _ => True)
  refine (reads_orFault _).confines fun layout => (reads_boxes _).confines fun boxes => ?_
  refine (reads_ofNumber _).confines fun corners => (reads_ofNumber _).confines fun id => ?_
  refine (reads_box given).confines fun size => (reads_shape given).confines fun s => ?_
  refine (confined_mapM (fun _ => confined_drawChild desk _ _ _ _) _).bind fun created _ => ?_
  exact (confined_store (.inr written) _).bind fun _ _ => confined_joinChildren desk _ _ _ _ _ _

theorem frames_split (desk : Desk) (node : Option ShapeId) (rows : List (List String))
    (padding paddingTop gap : Option (Measure Float)) :
    Frames (split desk node rows padding paddingTop gap) sl fun _ => False := by
  apply Confined.frames (V := fun _ => True)
  refine (reads_requireNode node).confines fun node => confined_guard ?_
  refine (reads_box node).confines fun parent => (reads_ofNumber _).confines fun refusal => ?_
  cases refusal with
  | some r => exact confined_refused r
  | none =>
    refine (reads_ofNumber _).confines fun cells => ?_
    refine (confined_mapM (fun _ => confined_mapM (fun _ => confined_drawCell desk _ _) _) _).bind fun created _ => ?_
    exact (reads_note _ _).confines fun _ => confined_pure trivial

theorem frames_connect (desk : Desk) (a b : Option ShapeId) (orientation : Option String) (edge : Option EdgeStyle) :
    Frames (connect desk a b orientation edge) sl fun _ => False := by
  apply Confined.frames (V := fun _ => True)
  refine (reads_requireTwo a b).confines fun (a, b) => ?_
  refine (reads_box a).confines fun boxA => (reads_box b).confines fun boxB => ?_
  cases orientation with
  | none => exact (reads_pure _).confines fun _ => confined_join desk _ _ _ _ _
  | some name => exact (reads_requireOrientation name).confines fun _ => confined_join desk _ _ _ _ _

theorem frames_link (desk : Desk) (a b : Option ShapeId) (edge : Option EdgeStyle) :
    Frames (link desk a b edge) sl fun id => a = some id ∨ b = some id := by
  refine asks_requireTwo.frames fun (x, y) ⟨⟨hx, _⟩, ⟨hy, _⟩, _⟩ => ?_
  refine (reads_descriptor? x).asks.frames fun first _ => (reads_descriptor? y).asks.frames fun second _ => ?_
  split
  next parentNode childNode chosen =>
  have given : (a = some parentNode ∨ b = some parentNode) ∧ (a = some childNode ∨ b = some childNode) := by
    split at chosen
    · obtain ⟨rfl, rfl⟩ := Prod.mk.inj chosen
      exact ⟨.inr hy, .inl hx⟩
    · obtain ⟨rfl, rfl⟩ := Prod.mk.inj chosen
      exact ⟨.inl hx, .inr hy⟩
  refine (reads_descriptor? parentNode).asks.frames fun d _ => ⟨makes_unlessAncestor _ _ d (.refl sl) ?_⟩
  refine Frames.makes (Confined.frames (V := fun _ => True) ?_)
  refine (confined_typed given.1).bind fun parent _ => reads_outline.confines fun outline => ?_
  refine (reads_ofNumber _).confines fun id => ⟨fun hn => makes_remark _ id _ ?_⟩
  refine Confined.makes (V := fun _ => True) ?_ hn
  refine (confined_store (.inr given.2) _).bind fun _ _ => (confined_store (.inr given.1) _).bind fun _ _ => ?_
  refine (reads_layoutBelow _).confines fun token => (reads_orFault _).confines fun layout => ?_
  refine (reads_box _).confines fun boxP => (reads_box _).confines fun boxC => ?_
  refine (confined_joinChild desk _ childNode _ _ _).bind fun creation _ => ?_
  exact (reads_note _ _).confines fun _ => confined_pure trivial

theorem frames_setLayout (node : Option ShapeId) (layout : Option String) :
    Frames (setLayout node layout) sl fun id => node = some id := by
  refine asks_requireDescriptor?.frames fun (given, d) ⟨hgiven, _⟩ => ?_
  apply Confined.frames (V := fun _ => True)
  refine (reads_requireLayout layout).confines fun token => ?_
  exact (confined_store (.inr hgiven) _).bind fun _ _ => confined_pure trivial

theorem frames_setChildLayout (node : Option ShapeId) (child : String) (layout : Option String) :
    Frames (setChildLayout node child layout) sl fun id => node = some id := by
  refine asks_requireDescriptor?.frames fun (given, d) ⟨hgiven, _⟩ => ?_
  apply Confined.frames (V := fun _ => True)
  refine confined_guard ((reads_requireLayout layout).confines fun token => ?_)
  exact (confined_store (.inr hgiven) _).bind fun _ _ => confined_pure trivial

end Command

open Command in
theorem Request.frames_perform (desk : Desk) (asked : Request) : Frames (asked.perform desk) sl (asked.Writes sl) := by
  have drop {α : Type} {m : Edit α} {Written : ShapeId → Prop} (h : Frames m sl Written) :
      Frames (do let _ ← m) sl Written := ⟨h.makes.bind fun _ _ h => makes_pure h⟩
  cases asked with
  | initRoot node => exact drop (frames_initRoot node)
  | createChildren node direction count gap labels edge => exact drop (frames_createChildren ..)
  | createSibling node gap edge => exact drop (frames_createSibling ..)
  | split node rows padding paddingTop gap => exact drop (frames_split ..)
  | connect a b orientation edge => exact drop (frames_connect ..)
  | link a b edge => exact drop (frames_link ..)
  | select scope node =>
    refine drop ⟨(makes_selectScope scope node).mono (fun _ _ h => ?_) fun _ h => ?_⟩
    all_goals rw [h]; exact .refl sl
  | describe node =>
    exact drop ((reads_requireNode node).bind fun _ => (reads_memo _).bind fun _ => reads_pure _).frames
  | clear node =>
    exact drop (asks_requireNode.frames fun _ ⟨hid, _⟩ => (confined_clearMemo hid).frames)
  | setLayout node layout => exact drop (frames_setLayout ..)
  | setChildLayout node child layout => exact drop (frames_setChildLayout ..)
  | analyze => exact drop reads_analyze.frames

/-- Whatever is asked for, and wherever it ends: the shapes that were there come first on the slide and in
their order, with their numbers, names, boxes, kinds and colours, and the new ones stand after them. Only
those that the request may write to differ at all, and they differ in their alternative texts and the text
inside: the title and the text only where they were meant as a descriptor. -/
theorem Request.perform_framed (desk : Desk) (asked : Request) (page : Page) :
    page.slide.Framed (asked.Writes page.slide) ((asked.perform desk).run.run page).2.slide :=
  (asked.frames_perform desk).makes.always rfl

end FlowDeck
