import FlowDeck.Proofs.Deck.Drawing

/-!
# Figures exactly as they are drawn

What a new node is like when it has been drawn and has got its text, and what it takes that drawing does not
break off: the box has a place on the grid, the colours can be drawn, and the text can be stored.
-/

namespace FlowDeck

/-- What is read as a descriptor is meant as one. -/
theorem Descriptor.looksLike_of_read? {text : String} {d : Descriptor} (h : read? text = some d) :
    looksLike text = true := by
  obtain ⟨p, hp, -⟩ := Option.bind_eq_some_iff.1 h
  rw [looksLike, List.isPrefixOf_iff_prefix, (Record.parts?_eq_some_iff.1 hp).2, Record.Parts.text,
    List.append_assoc, List.append_assoc]
  exact List.prefix_append _ _

/-- A text inside a shape reads as it would in a description. -/
theorem read?_misplaced (text : String) : Descriptor.read? ((misplaced? text).getD "") = Descriptor.read? text := by
  unfold misplaced?
  split
  · rw [Option.getD_some, Descriptor.read?, Record.toList_plain, Text.strip_strip]
    rfl
  · next unlike =>
    have none : Descriptor.read? "" = none := by decide
    cases hd : Descriptor.read? text with
    | none => exact none
    | some d => exact absurd (Descriptor.looksLike_of_read? hd) unlike

def Drawable (colour : Option Rgb) : Prop :=
  ∀ rgb, colour = some rgb → rgb.isDrawable

structure Desk.Paints (desk : Desk) : Prop where
  fill : ∀ paint, desk.paint = some paint → Drawable (colourOf paint.nodeFill)
  line : Drawable (colourOf (desk.paint.bind (·.nodeLine)))
  text : Drawable (colourOf (desk.paint.bind (·.textColour)))

/-- The box in whole units, which are short enough to be written. -/
structure Box.OnGrid (b : Box Float) (onGrid : Box Int) : Prop where
  x : FlowDeck.units b.x = .ok onGrid.x
  y : FlowDeck.units b.y = .ok onGrid.y
  width : FlowDeck.units b.width = .ok onGrid.width
  height : FlowDeck.units b.height = .ok onGrid.height
  short : ∀ n ∈ [onGrid.x, onGrid.y, onGrid.width, onGrid.height], Number.checkLength n = .ok ()

theorem Box.OnGrid.eq_mk {b : Box Float} {u : Box Int} {x y width height : Int} (hu : b.OnGrid u)
    (hx : FlowDeck.units b.x = .ok x) (hy : FlowDeck.units b.y = .ok y) (hw : FlowDeck.units b.width = .ok width)
    (hh : FlowDeck.units b.height = .ok height) : u = ⟨x, y, width, height⟩ := by
  obtain rfl : u.x = x := Except.ok.inj (hu.x.symm.trans hx)
  obtain rfl : u.y = y := Except.ok.inj (hu.y.symm.trans hy)
  obtain rfl : u.width = width := Except.ok.inj (hu.width.symm.trans hw)
  obtain rfl : u.height = height := Except.ok.inj (hu.height.symm.trans hh)
  rfl

/-- The text can be set inside a shape: none of its characters is set aside. -/
def Settable (text : String) : Prop :=
  ∀ c ∈ text.toList, Text.isSetAside c = false

def drawnKind (name : String) : String :=
  let kind := if name = "" then Kind.rectangle else Text.upper name
  Kind.kept (if (Kind.title? kind).isSome then kind else Kind.rectangle)

structure Shape.IsFigure (s : Shape) (name : String) (b : Box Float) (text : String) : Prop where
  descr : s.descr = none
  title : s.title = none
  form : ∃ onGrid fill line body, b.OnGrid onGrid ∧ body.text = text ∧
    s.form = .figure (drawnKind name) onGrid fill line body

/-- The shape is a figure as it is drawn for a kind with this name, of this width and this height. -/
def Shape.DrawnAs (s : Shape) (name : String) (width height : Float) : Prop :=
  ∃ onGrid fill line body, s.form = .figure (drawnKind name) onGrid fill line body ∧
    units width = .ok onGrid.width ∧ units height = .ok onGrid.height

def Shape.DrawnIn (s : Shape) (name : String) (b : Box Float) : Prop :=
  ∃ onGrid fill line body, b.OnGrid onGrid ∧ s.form = .figure (drawnKind name) onGrid fill line body

def Slide.AddsFigure (sl : Slide) (name : String) (b : Box Float) (text : String) (after : Slide) : Prop :=
  ∃ s : Shape, after = sl ++ [s] ∧ s.id = sl.nextId ∧ s.IsFigure name b text

namespace Shape

variable {s : Shape} {name text : String} {b : Box Float}

theorem IsFigure.isNode (h : s.IsFigure name b text) : s.isNode := by
  obtain ⟨onGrid, fill, line, body, -, -, hf⟩ := h.form
  rw [Shape.isNode, hf]

theorem IsFigure.withBody (h : s.IsFigure name b text) (body : Body) : (s.withBody body).IsFigure name b body.text where
  descr := h.descr
  title := h.title
  form := by
    obtain ⟨onGrid, fill, line, old, hb, -, hf⟩ := h.form
    exact ⟨onGrid, fill, line, body, hb, rfl, by rw [Shape.withBody, hf]⟩

/-- A new figure keeps a descriptor exactly if the text inside it reads as one. -/
theorem IsFigure.descriptor?_eq (h : s.IsFigure name b text) : s.descriptor? = Descriptor.read? text := by
  obtain ⟨onGrid, fill, line, body, -, rfl, hf⟩ := h.form
  have memo : s.memo = (misplaced? body.text).getD "" := by
    rw [Shape.memo, h.descr, h.title, body?, hf]
    rfl
  rw [descriptor?, memo, read?_misplaced]

theorem IsFigure.drawnIn (h : s.IsFigure name b text) : s.DrawnIn name b := by
  obtain ⟨onGrid, fill, line, body, hb, -, hf⟩ := h.form
  exact ⟨onGrid, fill, line, body, hb, hf⟩

namespace DrawnIn

variable (h : s.DrawnIn name b)
include h

theorem isNode : s.isNode := by
  obtain ⟨onGrid, fill, line, body, -, hf⟩ := h
  rw [Shape.isNode, hf]

theorem onGrid : b.OnGrid s.box := by
  obtain ⟨onGrid, fill, line, body, hb, hf⟩ := h
  rwa [Shape.box, hf]

theorem drawnAs : s.DrawnAs name b.width b.height := by
  obtain ⟨onGrid, fill, line, body, hb, hf⟩ := h
  exact ⟨onGrid, fill, line, body, hf, hb.width, hb.height⟩

theorem withMemo (memo : String) : (s.withMemo memo).DrawnIn name b := by
  obtain ⟨onGrid, fill, line, body, hb, hf⟩ := h
  unfold Shape.withMemo
  simp only
  split
  · exact ⟨onGrid, fill, line, {}, hb, by rw [Shape.withBody, hf]⟩
  · exact ⟨onGrid, fill, line, body, hb, hf⟩

end DrawnIn

end Shape

namespace Edit

variable {sl now : Slide} {name text : String} {b : Box Float} {id : ShapeId}

theorem makes_changeFigure {g : Shape → Shape} {text' : String} {E : Slide → Prop} (hid : id = sl.nextId)
    (hf : sl.AddsFigure name b text now) (hg : ∀ s : Shape, s.IsFigure name b text → (g s).IsFigure name b text')
    (hgid : ∀ s, (g s).id = s.id) : Makes (change id g) now (fun _ => sl.AddsFigure name b text') E := by
  obtain ⟨s, rfl, hs, hfig⟩ := hf
  refine makes_change ⟨g s, ?_, (hgid s).trans hs, hg s hfig⟩
  rw [hid, ← hs]
  exact Slide.modify_between g fun t ht => hs ▸ Slide.nextId_ne ht

theorem makes_drawable {colour : Option Rgb} :
    Makes (drawable colour) sl (fun c after => c = colour ∧ after = sl) fun after => ¬Drawable colour ∧ after = sl := by
  unfold drawable
  cases colour with
  | none => exact makes_pure ⟨rfl, rfl⟩
  | some rgb => exact .ite (fun _ => makes_pure ⟨rfl, rfl⟩) fun hd => makes_throw ⟨fun h => hd (h rgb rfl), rfl⟩

theorem makes_kindNamed (name : String) {E : Slide → Prop} :
    Makes (kindNamed name) sl (fun kind after => Kind.kept kind = drawnKind name ∧ after = sl) E := by
  unfold kindNamed drawnKind
  dsimp only
  refine .ite (fun h => makes_pure ⟨by rw [if_pos h], rfl⟩) fun h => ?_
  exact (makes_note (Q := fun _ after => after = sl) rfl).bind fun _ _ he => makes_pure ⟨by rw [if_neg h], he⟩

theorem makes_checkLengths (lengths : List Int) :
    Makes (lengths.forM fun length => ofNumber (Number.checkLength length)) sl
      (fun _ after => (∀ n ∈ lengths, Number.checkLength n = .ok ()) ∧ after = sl)
      fun after => (¬∀ n ∈ lengths, Number.checkLength n = .ok ()) ∧ after = sl := by
  induction lengths with
  | nil => exact makes_pure ⟨by simp, rfl⟩
  | cons n lengths ih =>
    refine makes_ofNumber.followed (fun _ h => ⟨fun hall => h.1 () (hall n List.mem_cons_self), h.2⟩) fun _ hn => ?_
    refine ih.mono (fun _ _ h => ⟨List.forall_mem_cons.2 ⟨hn, h.1⟩, h.2⟩) fun _ h => ⟨fun hall => h.1 ?_, h.2⟩
    exact fun m hm => hall m (List.mem_cons_of_mem _ hm)

/-- The place of a box of plain numbers can be noted. -/
theorem makes_notePlace (name : String) (id : ShapeId) (b : Box Float) {E : Slide → Prop} :
    Makes (notePlace name id ⟨.exact b.x, .exact b.y, .exact b.width, .exact b.height⟩) sl
      (fun _ after => True ∧ after = sl) E := by
  have rough (v : Float) : Makes (roughly (.exact v)) sl (fun _ after => True ∧ after = sl) E :=
    makes_ofNumber.followed (fun _ h => absurd rfl (h.1 v)) fun _ _ => makes_pure ⟨trivial, rfl⟩
  refine (rough _).followed (fun _ h => h) fun _ _ => (rough _).followed (fun _ h => h) fun _ _ => ?_
  refine (rough _).followed (fun _ h => h) fun _ _ => (rough _).followed (fun _ h => h) fun _ _ => ?_
  exact makes_note ⟨trivial, rfl⟩

section
variable {E : Slide → Prop} (colour : Option Rgb) (hid : id = sl.nextId) (hf : sl.AddsFigure name b text now)
include hid hf

theorem makes_paintFill : Makes (paintFill id colour) now (fun _ => sl.AddsFigure name b text) E := by
  refine makes_changeFigure hid hf (fun s h => ?_) fun ⟨_, _, _, _, form⟩ => by cases form <;> rfl
  obtain ⟨onGrid, fill, line, body, hb, ht, hform⟩ := h.form
  simp only [hform]
  exact ⟨h.descr, h.title, onGrid, colour, line, body, hb, ht, rfl⟩

theorem makes_paintLine : Makes (paintLine id colour) now (fun _ => sl.AddsFigure name b text) E := by
  refine makes_changeFigure hid hf (fun s h => ?_) fun ⟨_, _, _, _, form⟩ => by cases form <;> rfl
  obtain ⟨onGrid, fill, line, body, hb, ht, hform⟩ := h.form
  simp only [hform]
  exact ⟨h.descr, h.title, onGrid, fill, colour, body, hb, ht, rfl⟩

end

/-- The figure is drawn. A box without a place on the grid is found out before that, a colour that cannot be drawn
after it. -/
theorem makes_drawShapeAt (desk : Desk) (name : String) (b : Box Float) :
    Makes (drawShapeAt desk name b) sl (fun id after => id = sl.nextId ∧ sl.AddsFigure name b "" after)
      fun after => (¬∃ onGrid, b.OnGrid onGrid) ∧ after = sl ∨ ¬desk.Paints ∧ sl.AddsFigure name b "" after := by
  unfold drawShapeAt drawShape
  refine (makes_kindNamed name).followed (fun _ h => h) fun kind hkind => ?_
  refine makes_ofNumber.followed (fun _ h => .inl ⟨fun ⟨u, hu⟩ => h.1 _ hu.x, h.2⟩) fun x hx => ?_
  refine makes_ofNumber.followed (fun _ h => .inl ⟨fun ⟨u, hu⟩ => h.1 _ hu.y, h.2⟩) fun y hy => ?_
  refine makes_ofNumber.followed (fun _ h => .inl ⟨fun ⟨u, hu⟩ => h.1 _ hu.width, h.2⟩) fun width hwidth => ?_
  refine makes_ofNumber.followed (fun _ h => .inl ⟨fun ⟨u, hu⟩ => h.1 _ hu.height, h.2⟩) fun height hheight => ?_
  refine (makes_checkLengths _).followed (fun _ h => .inl ⟨fun ⟨u, hu⟩ => h.1 ?_, h.2⟩) fun _ hshort => ?_
  · obtain rfl := hu.eq_mk hx hy hwidth hheight
    exact hu.short
  have onGrid : b.OnGrid ⟨x, y, width, height⟩ := ⟨hx, hy, hwidth, hheight, hshort⟩
  refine (makes_add (Q := fun id after => id = sl.nextId ∧ sl.AddsFigure name b "" after)
    ⟨rfl, _, rfl, rfl, rfl, rfl, _, none, none, {}, onGrid, rfl, hkind ▸ rfl⟩).bind fun id now ⟨hid, hf⟩ => ?_
  refine Makes.mono (E := fun after => ¬desk.Paints ∧ sl.AddsFigure name b "" after) ?_ (fun _ _ h => h) fun _ => .inr
  have finish (now : Slide) (hf : sl.AddsFigure name b "" now) : Makes (do
      if desk.debug then notePlace name id ⟨.exact b.x, .exact b.y, .exact b.width, .exact b.height⟩
      return id) now (fun id after => id = sl.nextId ∧ sl.AddsFigure name b "" after)
      fun after => ¬desk.Paints ∧ sl.AddsFigure name b "" after := by
    refine .ite (fun _ => ?_) fun _ => makes_pure ⟨hid, hf⟩
    exact (makes_notePlace name id b).followed (fun _ h => h) fun _ _ => makes_pure ⟨hid, hf⟩
  dsimp only
  split
  · next paint hpaint =>
    refine makes_drawable.followed (fun _ h => ⟨fun hp => h.1 (hp.fill paint hpaint), h.2 ▸ hf⟩) fun fill _ => ?_
    refine (makes_paintFill fill hid hf).bind fun _ now hf => ?_
    refine makes_drawable.followed (fun _ h => ⟨fun hp => h.1 ?_, h.2 ▸ hf⟩) fun line _ => ?_
    · simpa [hpaint] using hp.line
    · exact (makes_paintLine line hid hf).bind fun _ now hf => finish now hf
  · exact finish now hf

/-! ## Texts -/

/-- The codes of control characters are made of plain ones. -/
theorem encodeControls_settable (h : Settable text) :
    ∀ c ∈ Text.encodeControls text.toList, Text.isSetAside c = false := by
  have codes : ∀ n < 32, ('_' :: 'x' :: (Text.hexadecimal 4 n).map Char.toUpper ++ ['_']).all
      fun c => !Text.isSetAside c := by decide +kernel
  intro c hc
  obtain ⟨a, ha, hc⟩ := List.mem_flatMap.1 hc
  unfold Text.encodeControl at hc
  split at hc
  · next control => simpa using List.all_eq_true.1 (codes a.toNat control.1) c hc
  · exact List.mem_singleton.1 hc ▸ h a ha

theorem shape?_figure (hf : sl.AddsFigure name b text now) :
    ∃ s, now.shape? sl.nextId = some s ∧ s.IsFigure name b text := by
  obtain ⟨s, rfl, hs, hfig⟩ := hf
  refine ⟨s, ?_, hfig⟩
  have old : sl.find? (fun t => t.id == sl.nextId) = none :=
    List.find?_eq_none.2 fun t ht => by simpa using Slide.nextId_ne ht
  rw [Slide.shape?, List.find?_append, old]
  simp [hs]

theorem makes_setBody {body : Body} {E : Slide → Prop} (hid : id = sl.nextId) (hf : sl.AddsFigure name b text now) :
    Makes (setBody id body) now (fun _ => sl.AddsFigure name b body.text) E :=
  makes_changeFigure hid hf (fun _ h => h.withBody body) fun _ => rfl

/-- The text is set, unless it cannot be stored or its colour cannot be drawn. -/
theorem makes_setText (desk : Desk) (label : String) (hid : id = sl.nextId) (hf : sl.AddsFigure name b text now) :
    Makes (setText desk id label) now (fun _ => sl.AddsFigure name b (Body.ofText label none).text)
      fun _ => ¬(desk.Paints ∧ Settable label) := by
  have plain : Makes (setPlainText id label) now (fun _ => sl.AddsFigure name b (Body.ofText label none).text)
      fun _ => ¬Settable label := by
    unfold setPlainText
    refine .ite (fun _ => makes_setBody hid hf) fun cut => (makes_setBody hid hf).bind fun _ _ _ => ?_
    refine makes_throw fun h => ?_
    exact cut (List.takeWhile_eq_self_iff.2 fun c hc => by simp [encodeControls_settable h c hc])
  obtain ⟨s, hs, hfig⟩ := shape?_figure hf
  refine makes_shape.followed (fun _ h _ => ?_) fun t ht => ?_
  · rw [hid, hs] at h
    cases h.1
  · obtain rfl : t = s := Option.some.inj ((hid ▸ ht).symm.trans hs)
    obtain ⟨_, _, _, body, -, -, hform⟩ := hfig.form
    have framed : t.body? = some body := by rw [Shape.body?, hform]
    refine .ite (fun none => by simp [framed] at none) fun _ => ?_
    refine (plain.mono (fun _ _ h => h) fun _ h hr => h hr.2).bind fun _ now hf => ?_
    refine .ite (fun _ => ?_) fun _ => makes_pure hf
    exact makes_drawable.followed (fun _ h hr => h.1 hr.1.text) fun _ _ => makes_setBody hid hf

end Edit

end FlowDeck
