import FlowDeck.Proofs.Deck.Figures
import FlowDeck.Proofs.Deck.Joints
import FlowDeck.Proofs.Deck.Migrating

/-!
# Writing that cannot fail

Drawing, joining and storing break off for a few reasons only: a colour that cannot be drawn, a text that
cannot be stored, a line end that cannot be marked up, a length without a place on the grid, or a shape that
is not there. Without them they come to their end.
-/

namespace FlowDeck

def Point.OnGrid (p : Point Float) : Prop :=
  (∃ x, units p.x = .ok x) ∧ ∃ y, units p.y = .ok y

/-- The line end that the arrow stands for can be put into a slide. -/
def Markable (arrow : Option String) : Prop :=
  ∀ name, arrow.filter (· ≠ "") = some name →
    (Edit.arrowTypes.lookup (Text.upper name)).isSome ∨
      (Text.pastedValue? "type" Edit.lineEndTail (Text.lower name)).isSome

structure EdgeStyle.Marked (style : EdgeStyle) : Prop where
  head : Markable style.startArrow
  tail : Markable style.endArrow

def Slide.HasBox (sl : Slide) (id : ShapeId) (b : Box Float) : Prop :=
  ∃ s, sl.shape? id = some s ∧ s.box.pixels = .ok b

namespace Edit

variable {α β : Type} {m : Edit α} {f : α → Edit β} {sl now : Slide} {E E' : Slide → Prop}

/-- What is known to have a result goes the way that is known for its results. -/
theorem Makes.surely {Q : α → Slide → Prop} (h : Makes m sl Q E') (hs : Makes m sl (fun _ _ => True) fun _ => False) :
    Makes m sl Q E :=
  (h.and hs).mono (fun _ _ h => h.1) fun _ h => h.2.elim

structure Steady (m : Edit α) : Prop where
  makes : ∀ sl, Makes m sl (fun _ _ => True) fun _ => False

theorem Steady.ends (hm : Steady m) : Makes m sl (fun _ _ => True) E :=
  (hm.makes sl).mono (fun _ _ h => h) fun _ h => h.elim

theorem Steady.bind (hm : Steady m) (hf : ∀ a, Steady (f a)) : Steady (m >>= f) :=
  ⟨fun sl => (hm.makes sl).bind fun a now _ => (hf a).makes now⟩

theorem steady_pure (a : α) : Steady (pure a) := ⟨fun _ => makes_pure trivial⟩

theorem steady_note (level : LogLevel) (text : String) : Steady (note level text) := ⟨fun _ => makes_note trivial⟩

theorem steady_change (id : ShapeId) (g : Shape → Shape) : Steady (change id g) := ⟨fun _ => makes_change trivial⟩

theorem steady_add (title : String) (form : Form) : Steady (add title form) := ⟨fun _ => makes_add trivial⟩

theorem steady_ofNumber {x : Except NumberFault α} (h : ∃ a, x = .ok a) : Steady (ofNumber x) :=
  ⟨fun _ => makes_ofNumber.mono (fun _ _ _ => trivial) fun _ hx => h.elim hx.1⟩

theorem steady_drawable {colour : Option Rgb} (h : Drawable colour) : Steady (drawable colour) :=
  ⟨fun _ => makes_drawable.mono (fun _ _ _ => trivial) fun _ hd => hd.1 h⟩

theorem steady_courseNamed (lineType : String) : Steady (courseNamed lineType) := by
  unfold courseNamed
  split
  · exact steady_pure _
  · exact (steady_note _ _).bind fun _ => steady_pure _

theorem steady_arrowType {arrow : Option String} (h : Markable arrow) : Steady (arrowType arrow) := by
  unfold arrowType
  split
  · exact steady_pure _
  · next name hname =>
    split
    · exact steady_pure _
    · exact steady_pure _
    · next unlisted unmarked => simpa [unlisted, unmarked] using h name hname

theorem steady_drawEdge {desk : Desk} {a b : Point Float} {style : EdgeStyle} (hp : desk.Paints) (hm : style.Marked)
    (ha : a.OnGrid) (hb : b.OnGrid) : Steady (drawEdge desk a b style) := by
  refine (steady_courseNamed _).bind fun course => ?_
  refine (steady_ofNumber ha.1).bind fun x => (steady_ofNumber ha.2).bind fun y => ?_
  refine (steady_ofNumber hb.1).bind fun x' => (steady_ofNumber hb.2).bind fun y' => ?_
  refine (steady_add _ _).bind fun id => (steady_drawable hp.line).bind fun colour => ?_
  refine (steady_change _ _).bind fun _ => (steady_arrowType hm.head).bind fun head => ?_
  refine (steady_change _ _).bind fun _ => (steady_arrowType hm.tail).bind fun tail => ?_
  exact (steady_change _ _).bind fun _ => steady_pure _

/-! ## Measuring -/

theorem makes_shape_of {id : ShapeId} {s : Shape} (h : sl.shape? id = some s) :
    Makes (shape id) sl (fun t after => t = s ∧ after = sl) E :=
  makes_shape.mono (fun _ _ ⟨ht, he⟩ => ⟨Option.some.inj (ht.symm.trans h), he⟩) fun _ none =>
    (nomatch none.1.symm.trans h)

theorem makes_box {id : ShapeId} : Makes (box id) sl (fun b after => sl.HasBox id b ∧ after = sl)
    fun after => (∀ b, ¬sl.HasBox id b) ∧ after = sl := by
  refine makes_shape.followed (fun _ ⟨lacks, he⟩ => ⟨fun b ⟨s, hs, _⟩ => ?_, he⟩) fun s hs => ?_
  · cases lacks.symm.trans hs
  · refine makes_ofNumber.mono (fun b _ ⟨hb, he⟩ => ⟨⟨s, hs, hb⟩, he⟩) fun _ ⟨hopeless, he⟩ => ⟨?_, he⟩
    rintro b ⟨t, ht, hb⟩
    obtain rfl := Option.some.inj (hs.symm.trans ht)
    exact hopeless b hb

theorem makes_boxes {ids : List ShapeId} :
    Makes (boxes ids) sl (fun bs after => List.Forall₂ sl.HasBox ids bs ∧ after = sl)
      fun after => (∃ id ∈ ids, ∀ b, ¬sl.HasBox id b) ∧ after = sl := by
  refine makes_mapM_done (fun done bs now => List.Forall₂ sl.HasBox done bs ∧ now = sl) ?_ ⟨.nil, rfl⟩
  rintro done bs id hid _ ⟨read, rfl⟩
  refine makes_box.mono (fun b after ⟨hb, he⟩ => ?_) fun _ ⟨hopeless, he⟩ => ⟨⟨id, hid, hopeless⟩, he⟩
  exact ⟨List.rel_append read (.cons hb .nil), he⟩

/-! ## Storing -/

/-- A text that can be stored is stored, if the shape is there. -/
theorem makes_store_split {id : ShapeId} {s : Shape} (hs : now.shape? id = some s) (d : Descriptor) :
    Makes (store id d) now (fun _ after => Storable d.render ∧ after = now.storing id d)
      fun after => ¬Storable d.render ∧ after = now := by
  have kept : Makes (setMemo id d.render) now (fun _ after => Storable d.render ∧ after = now.storing id d)
      fun after => ¬Storable d.render ∧ after = now := by
    refine ⟨fun page hp => ?_⟩
    subst hp
    exact (leads_setMemo hs d.render).mono (fun _ _ h => ⟨h.1, h.2.1⟩) fun _ _ h => ⟨h.1, h.2.2 ▸ rfl⟩
  exact kept.bind fun _ _ h => makes_note h

theorem makes_store_text {id : ShapeId} {s : Shape} {d : Descriptor} (hs : sl.shape? id = some s)
    (hd : Storable d.render) : Makes (store id d) sl (fun _ after => after = sl.storing id d) E :=
  (makes_store_split hs d).mono (fun _ _ h => h.2) fun _ h => absurd hd h.1

theorem makes_store_of {id : ShapeId} {s : Shape} {d : Descriptor} (hs : sl.shape? id = some s) (hd : d.Storable) :
    Makes (store id d) sl (fun _ after => after = sl.storing id d) E :=
  makes_store_text hs hd.render

end Edit

end FlowDeck
