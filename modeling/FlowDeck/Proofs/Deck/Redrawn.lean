import FlowDeck.Proofs.Deck.Drawing
import FlowDeck.Proofs.Deck.Frame
import FlowDeck.Proofs.Edit.Echoes

/-!
# The same drawing on another slide

What is drawn depends on the slide by its number alone. So the same work in front of two slides gives
shapes of the same content, and a connector between shapes that have their boxes in common is the same.
-/

namespace FlowDeck

namespace Shape

variable {s s' t t' : Shape}

def content (s : Shape) : Shape :=
  { s with id := 0, name := "" }

theorem content_withMemo (s : Shape) (text : String) : (s.withMemo text).content = s.content.withMemo text := by
  have inside : s.content.hasMisplacedText = s.hasMisplacedText := rfl
  by_cases misplaced : s.hasMisplacedText
  · simp only [withMemo, inside, misplaced, if_true]
    rfl
  · simp only [withMemo, inside, misplaced]
    rfl

theorem box_eq_of_content (h : s'.content = s.content) : s'.box = s.box :=
  show s'.content.box = s.content.box by rw [h]

theorem kind_eq_of_content (h : s'.content = s.content) : s'.kind = s.kind :=
  show s'.content.kind = s.content.kind by rw [h]

theorem body?_eq_of_content (h : s'.content = s.content) : s'.body? = s.body? :=
  show s'.content.body? = s.content.body? by rw [h]

end Shape

namespace Slide

variable {sl sl' now now' after after' : Slide} {id id' : ShapeId}

def DrawnAlike (sl : Slide) (id : ShapeId) (now sl' : Slide) (id' : ShapeId) (now' : Slide) : Prop :=
  ∃ s s' : Shape, (now = sl ++ [s] ∧ s.id = sl.nextId ∧ id = s.id) ∧
    (now' = sl' ++ [s'] ∧ s'.id = sl'.nextId ∧ id' = s'.id) ∧ s'.content = s.content

def AlikeAt (now : Slide) (id : ShapeId) (now' : Slide) (id' : ShapeId) : Prop :=
  ∃ s s', now.shape? id = some s ∧ now'.shape? id' = some s' ∧ s'.content = s.content

theorem AlikeAt.append (h : now.AlikeAt id now' id') (more more' : Slide) :
    AlikeAt (now ++ more) id (now' ++ more') id' := by
  obtain ⟨s, s', hs, hs', same⟩ := h
  exact ⟨s, s', shape?_append hs more, shape?_append hs' more', same⟩

/-- Each slide has come to have these shapes in front, with numbers of their own. One by one they have the same
content. -/
structure AddedAlike (sl now sl' now' : Slide) (new new' : List Shape) : Prop where
  eq : now = sl ++ new
  eq' : now' = sl' ++ new'
  fresh : sl.Fresh new
  fresh' : sl'.Fresh new'
  alike : List.Forall₂ (fun s s' => s'.content = s.content) new new'

theorem addedAlike_nil (sl sl' : Slide) : AddedAlike sl sl sl' sl' [] [] :=
  ⟨(List.append_nil sl).symm, (List.append_nil sl').symm, sl.fresh_nil, sl'.fresh_nil, .nil⟩

theorem AddedAlike.concat {new new' : List Shape} (h : sl.AddedAlike now sl' now' new new')
    (hd : now.DrawnAlike id after now' id' after') :
    ∃ s s', id = s.id ∧ id' = s'.id ∧ sl.AddedAlike after sl' after' (new ++ [s]) (new' ++ [s']) := by
  obtain ⟨s, s', ⟨rfl, hs, rfl⟩, ⟨rfl, hs', rfl⟩, same⟩ := hd
  obtain ⟨rfl, rfl, fresh, fresh', alike⟩ := h
  exact ⟨s, s', rfl, rfl, List.append_assoc .., List.append_assoc .., fresh.concat hs, fresh'.concat hs',
    List.rel_append alike (.cons same .nil)⟩

theorem DrawnAlike.alikeAt (h : sl.DrawnAlike id now sl' id' now') : now.AlikeAt id now' id' := by
  obtain ⟨s, s', ⟨rfl, hs, rfl⟩, ⟨rfl, hs', rfl⟩, same⟩ := h
  exact ⟨s, s', shape?_front hs, shape?_front hs', same⟩

theorem DrawnAlike.modify {g : Shape → Shape} (h : sl.DrawnAlike id now sl' id' now') (hid : ∀ s, (g s).id = s.id)
    (hg : ∀ s, (g s).content = g s.content) : sl.DrawnAlike id (now.modify id g) sl' id' (now'.modify id' g) := by
  obtain ⟨s, s', ⟨rfl, hs, rfl⟩, ⟨rfl, hs', rfl⟩, same⟩ := h
  refine ⟨g s, g s', ⟨?_, (hid s).trans hs, (hid s).symm⟩, ⟨?_, (hid s').trans hs', (hid s').symm⟩, ?_⟩
  · exact modify_between g fun t ht => hs ▸ nextId_ne ht
  · exact modify_between g fun t ht => hs' ▸ nextId_ne ht
  · rw [hg, hg, same]

end Slide

namespace Edit

open Slide

variable {α β : Type} {sl sl' now now' : Slide} {id id' : ShapeId}

/-! ## What does not depend on the slide -/

theorem shares_kindNamed (name : String) : Shares (kindNamed name) (kindNamed name) now now' :=
  .ite (shares_pure _) ((shares_note _ _ _ _).bind fun _ => shares_pure _)

theorem shares_notePlace (name : String) (b : Box (Measure Float)) :
    Shares (notePlace name id b) (notePlace name id' b) now now' := by
  have roughly (length : Measure Float) : Shares (roughly length) (roughly length) now now' :=
    (shares_ofNumber _).bind fun _ => shares_pure _
  exact (roughly _).bind fun _ => (roughly _).bind fun _ => (roughly _).bind fun _ => (roughly _).bind fun _ =>
    shares_note _ _ _ _

theorem shares_drawable (colour : Option Rgb) : Shares (drawable colour) (drawable colour) now now' := by
  cases colour with
  | none => exact shares_pure _
  | some rgb => exact .ite (shares_pure _) (shares_throw _)

theorem shares_courseNamed (lineType : String) : Shares (courseNamed lineType) (courseNamed lineType) now now' := by
  unfold courseNamed
  split
  · exact shares_pure _
  · exact (shares_note _ _ _ _).bind fun _ => shares_pure _

theorem shares_arrowType (arrow : Option String) : Shares (arrowType arrow) (arrowType arrow) now now' := by
  unfold arrowType
  split
  · exact shares_pure _
  · split
    · exact shares_pure _
    · exact shares_pure _
    · exact shares_throw _

/-! ## Shapes in front -/

structure DressAlike (m m' : Edit α) (id id' : ShapeId) : Prop where
  echoes : ∀ {sl now sl' now' : Slide}, sl.DrawnAlike id now sl' id' now' →
    Echoes m m' now now' fun a after a' after' => a = a' ∧ sl.DrawnAlike id after sl' id' after'

section
variable {m m' : Edit α} {f f' : α → Edit β}

theorem dressAlike_of_shares (h : ∀ now now', Shares m m' now now') : DressAlike m m' id id' where
  echoes hd := (h _ _).echoes.mono fun a after a' after' h => by
    obtain ⟨⟨rfl, rfl⟩, rfl⟩ := h
    exact ⟨rfl, hd⟩

theorem DressAlike.bind (hm : DressAlike m m' id id') (hf : ∀ a, DressAlike (f a) (f' a) id id') :
    DressAlike (m >>= f) (m' >>= f') id id' where
  echoes hd := (hm.echoes hd).bind fun a mid a' mid' h => by
    obtain ⟨rfl, hd⟩ := h
    exact (hf a).echoes hd

theorem DressAlike.ite {c : Prop} [Decidable c] {n n' : Edit α} (h : DressAlike m m' id id')
    (h' : DressAlike n n' id id') : DressAlike (if c then m else n) (if c then m' else n') id id' := by
  split
  · exact h
  · exact h'

theorem dressAlike_change {g : Shape → Shape} (hg : ∀ s, (g s).id = s.id ∧ (g s).content = g s.content) :
    DressAlike (change id g) (change id' g) id id' where
  echoes hd := by
    refine echoes_slide.bind fun sl mid sl' mid' h => ?_
    obtain ⟨⟨rfl, rfl⟩, rfl, rfl⟩ := h
    refine (echoes_setSlide _ _).mono fun a after a' after' h => ?_
    obtain ⟨rfl, rfl⟩ := h
    exact ⟨rfl, hd.modify (fun s => (hg s).1) fun s => (hg s).2⟩

end

theorem dressAlike_paintFill (colour : Option Rgb) :
    DressAlike (paintFill id colour) (paintFill id' colour) id id' := by
  apply dressAlike_change
  intro ⟨_, _, _, _, form⟩
  cases form <;> exact ⟨rfl, rfl⟩

theorem dressAlike_paintLine (colour : Option Rgb) :
    DressAlike (paintLine id colour) (paintLine id' colour) id id' := by
  apply dressAlike_change
  intro ⟨_, _, _, _, form⟩
  cases form <;> exact ⟨rfl, rfl⟩

theorem dressAlike_changeConnector (g : Connector → Connector) :
    DressAlike (changeConnector id g) (changeConnector id' g) id id' := by
  apply dressAlike_change
  intro ⟨_, _, _, _, form⟩
  cases form <;> exact ⟨rfl, rfl⟩

theorem dressAlike_setBody (body : Body) : DressAlike (setBody id body) (setBody id' body) id id' :=
  dressAlike_change fun _ => ⟨rfl, rfl⟩

theorem dressAlike_setPlainText (text : String) : DressAlike (setPlainText id text) (setPlainText id' text) id id' := by
  unfold setPlainText
  dsimp only
  refine .ite (dressAlike_setBody _) ((dressAlike_setBody _).bind fun _ => ?_)
  exact dressAlike_of_shares fun _ _ => shares_throw _

theorem dressAlike_setText (desk : Desk) (text : String) :
    DressAlike (setText desk id text) (setText desk id' text) id id' where
  echoes {sl now sl' now'} hd := by
    obtain ⟨s, s', ⟨rfl, hs, rfl⟩, ⟨rfl, hs', rfl⟩, same⟩ := hd
    have hd : sl.DrawnAlike s.id (sl ++ [s]) sl' s'.id (sl' ++ [s']) := ⟨s, s', ⟨rfl, hs, rfl⟩, ⟨rfl, hs', rfl⟩, same⟩
    refine (echoes_shape (shape?_front hs) (shape?_front hs')).bind fun t mid t' mid' read => ?_
    obtain ⟨⟨rfl, rfl⟩, rfl, rfl⟩ := read
    -- Whether there is room for a text is seen from the content.
    rw [Shape.body?_eq_of_content same]
    refine DressAlike.echoes (.ite (dressAlike_of_shares fun _ _ => shares_note _ _ _ _) ?_) hd
    refine (dressAlike_setPlainText text).bind fun _ => .ite ?_ (dressAlike_of_shares fun _ _ => shares_pure _)
    exact (dressAlike_of_shares fun _ _ => shares_drawable _).bind fun _ => dressAlike_setBody _

theorem echoes_add (title : String) (form : Form) : Echoes (add title form) (add title form) now now'
    fun id after id' after' => now.DrawnAlike id after now' id' after' := by
  refine echoes_slide.bind fun sl mid sl' mid' h => ?_
  obtain ⟨⟨rfl, rfl⟩, rfl, rfl⟩ := h
  refine (echoes_setSlide _ _).bind fun _ mid _ mid' h => ?_
  obtain ⟨rfl, rfl⟩ := h
  exact echoes_pure ⟨_, _, ⟨rfl, rfl, rfl⟩, ⟨rfl, rfl, rfl⟩, rfl⟩

theorem echoes_drawShape (desk : Desk) (name : String) (b : Box (Measure Float)) :
    Echoes (drawShape desk name b) (drawShape desk name b) now now'
      fun id after id' after' => now.DrawnAlike id after now' id' after' := by
  unfold drawShape
  refine (shares_kindNamed name).followed fun kind => (shares_ofNumber _).followed fun x => ?_
  refine (shares_ofNumber _).followed fun y => (shares_ofNumber _).followed fun w => ?_
  refine (shares_ofNumber _).followed fun h => (shares_forM (fun _ => shares_ofNumber _) _).followed fun _ => ?_
  refine (echoes_add _ _).bind fun id mid id' mid' hd => ?_
  have finish {last last' : Slide} (hd : now.DrawnAlike id last now' id' last') : Echoes
      (do
        if desk.debug then notePlace name id b
        return id)
      (do
        if desk.debug then notePlace name id' b
        return id') last last' fun id after id' after' => now.DrawnAlike id after now' id' after' := by
    dsimp only
    split
    · exact (shares_notePlace name b).followed fun _ => echoes_pure hd
    · exact echoes_pure hd
  dsimp only
  split
  · refine (shares_drawable _).followed fun fill => ((dressAlike_paintFill fill).echoes hd).bind fun _ _ _ _ h => ?_
    refine (shares_drawable _).followed fun line => ((dressAlike_paintLine line).echoes h.2).bind fun _ _ _ _ h => ?_
    exact finish h.2
  · exact finish hd

/-! ## Keeping descriptors -/

theorem echoes_change {g g' : Shape → Shape} : Echoes (change id g) (change id' g') now now'
    fun _ after _ after' => after = now.modify id g ∧ after' = now'.modify id' g' := by
  refine echoes_slide.bind fun sl mid sl' mid' h => ?_
  obtain ⟨⟨rfl, rfl⟩, rfl, rfl⟩ := h
  exact echoes_setSlide _ _

theorem echoes_store (d : Descriptor) (h : now.AlikeAt id now' id') : Echoes (store id d) (store id' d) now now'
    fun _ after _ after' => after = now.storing id d ∧ after' = now'.storing id' d := by
  have kept : Echoes (setMemo id d.render) (setMemo id' d.render) now now'
      fun _ after _ after' => after = now.storing id d ∧ after' = now'.storing id' d := by
    obtain ⟨s, s', hs, hs', same⟩ := h
    refine (echoes_shape hs hs').bind fun t mid t' mid' read => ?_
    obtain ⟨⟨rfl, rfl⟩, rfl, rfl⟩ := read
    have title : s'.hasMisplacedTitle = s.hasMisplacedTitle := by
      show s'.content.hasMisplacedTitle = s.content.hasMisplacedTitle
      rw [same]
    have text : s'.hasMisplacedText = s.hasMisplacedText := by
      show s'.content.hasMisplacedText = s.content.hasMisplacedText
      rw [same]
    rw [title, text]
    refine (shares_requireStorable _).followed fun _ => echoes_change.bind fun _ after _ after' changed => ?_
    have logged (text text' : String) : Echoes
        (if s.hasMisplacedText then note .debug text else pure ())
        (if s.hasMisplacedText then note .debug text' else pure ()) after after'
        fun _ last _ last' => last = now.storing id d ∧ last' = now'.storing id' d :=
      (Shares.ite (shares_note _ _ _ _) (shares_pure _)).echoes.mono fun _ _ _ _ same => by
        obtain ⟨⟨rfl, rfl⟩, -⟩ := same
        exact changed
    exact .ite (fun _ => (shares_note _ _ _ _).followed fun _ => logged _ _) fun _ => logged _ _
  exact kept.bind fun _ after _ after' h => (shares_note _ _ _ _).echoes.mono fun _ _ _ _ same => by
    obtain ⟨⟨rfl, rfl⟩, -⟩ := same
    exact h

/-! ## Connectors -/

theorem echoes_drawEdge (desk : Desk) (a b : Point Float) (style : EdgeStyle) :
    Echoes (drawEdge desk a b style) (drawEdge desk a b style) now now'
      fun id after id' after' => now.DrawnAlike id after now' id' after' := by
  refine (shares_courseNamed _).followed fun course => (shares_ofNumber _).followed fun x => ?_
  refine (shares_ofNumber _).followed fun y => (shares_ofNumber _).followed fun x' => ?_
  refine (shares_ofNumber _).followed fun y' => (echoes_add _ _).bind fun id mid id' mid' hd => ?_
  refine (shares_drawable _).followed fun colour => ((dressAlike_changeConnector _).echoes hd).bind fun _ _ _ _ h => ?_
  refine (shares_arrowType _).followed fun head => ((dressAlike_changeConnector _).echoes h.2).bind fun _ _ _ _ h => ?_
  refine (shares_arrowType _).followed fun tail => ((dressAlike_changeConnector _).echoes h.2).bind fun _ _ _ _ h => ?_
  exact echoes_pure h.2

structure EndsAlike (desk : Desk) (now : Slide) (id : ShapeId) (now' : Slide) (id' : ShapeId) : Prop where
  siteless : desk.siteless id' = desk.siteless id
  alike : now.AlikeAt id now' id'

theorem shares_siteOn (desk : Desk) (side : Side) (h : EndsAlike desk now id now' id') :
    Shares (siteOn desk id side) (siteOn desk id' side) now now' := by
  have listed : Shares (sitesOf desk id) (sitesOf desk id') now now' := by
    unfold sitesOf
    rw [h.siteless]
    refine .ite (shares_pure _) ⟨?_⟩
    obtain ⟨s, s', hs, hs', same⟩ := h.alike
    refine (echoes_shape hs hs').bind fun t mid t' mid' read => ?_
    obtain ⟨⟨rfl, rfl⟩, rfl, rfl⟩ := read
    rw [Shape.kind_eq_of_content same]
    exact ((shares_box hs hs' (Shape.box_eq_of_content same)).bind fun _ => shares_pure _).echoes
  exact listed.bind fun _ => shares_pure _

theorem echoes_join (desk : Desk) {a a' b b' : ShapeId} (side side' : Side) (style : EdgeStyle)
    (ha : EndsAlike desk now a now' a') (hb : EndsAlike desk now b now' b') :
    Echoes (join desk a b side side' style) (join desk a' b' side side' style) now now' fun edge after edge' after' =>
      (edge = none ∧ edge' = none) ∧ (after = now ∧ after' = now') ∨
      ∃ id id', (edge = some id ∧ edge' = some id') ∧ now.DrawnAlike id after now' id' after' := by
  refine (shares_siteOn desk side ha).followed fun pointA => (shares_siteOn desk side' hb).followed fun pointB => ?_
  split
  · refine (echoes_drawEdge desk _ _ style).bind fun id mid id' mid' hd => ?_
    exact (shares_note _ _ _ _).followed fun _ => echoes_pure (.inr ⟨id, id', ⟨rfl, rfl⟩, hd⟩)
  · exact (shares_note _ _ _ _).followed fun _ => echoes_pure (.inl ⟨⟨rfl, rfl⟩, rfl, rfl⟩)

theorem EndsAlike.append {desk : Desk} (h : EndsAlike desk now id now' id') (more more' : Slide) :
    EndsAlike desk (now ++ more) id (now' ++ more') id' :=
  ⟨h.siteless, h.alike.append more more'⟩

/-- Connectors have been drawn on both slides alike, and what the commands have created has come to list them. -/
def JoinsAlike (base base' : Slide) (c₀ c₀' c : Creation) (now : Slide) (c' : Creation) (now' : Slide) : Prop :=
  ∃ lines lines' skipped skipped', base.AddedAlike now base' now' lines lines' ∧
    c = { c₀ with edges := lines.map (·.id), skipped } ∧
    c' = { c₀' with edges := lines'.map (·.id), skipped := skipped' }

theorem echoes_joinChild (desk : Desk) {base base' : Slide} {c₀ c₀' c c' : Creation} {child child' : ShapeId}
    (side side' : Side) (style : EdgeStyle) (hp : EndsAlike desk base c₀.parent base' c₀'.parent)
    (hc : EndsAlike desk base child base' child') (h : JoinsAlike base base' c₀ c₀' c now c' now') :
    Echoes (joinChild desk c child side side' style) (joinChild desk c' child' side side' style) now now'
      (JoinsAlike base base' c₀ c₀') := by
  obtain ⟨lines, lines', skipped, skipped', added, rfl, rfl⟩ := h
  have ends {id id' : ShapeId} (h : EndsAlike desk base id base' id') : EndsAlike desk now id now' id' := by
    rw [added.eq, added.eq']
    exact h.append lines lines'
  refine (echoes_join desk side side' style (ends hp) (ends hc)).bind fun edge after edge' after' h => ?_
  rcases h with ⟨⟨rfl, rfl⟩, rfl, rfl⟩ | ⟨id, id', ⟨rfl, rfl⟩, hd⟩
  · exact echoes_pure ⟨lines, lines', _, _, added, rfl, rfl⟩
  · obtain ⟨s, s', rfl, rfl, added⟩ := added.concat hd
    refine echoes_pure ⟨_, _, skipped, skipped', added, ?_, ?_⟩
    · rw [List.map_append, List.map_singleton]
    · rw [List.map_append, List.map_singleton]

end Edit

end FlowDeck
