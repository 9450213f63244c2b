import FlowDeck.Command.Creation
import FlowDeck.Proofs.Deck.Slides
import FlowDeck.Proofs.Edit.Makes
import Mathlib.Data.List.Forall2

/-!
# What edits leave alone

The shapes of a slide come first in every slide that an edit makes of it, in their order, and what is
drawn stands after them. A shape that was there is the same afterwards, unless its number is one that
the edit writes to; and even then it only stores a descriptor.
-/

namespace FlowDeck

/-! ## Lists, entry by entry -/

section
variable {α β γ : Type} {R : α → β → Prop} {xs : List α} {ys : List β}

theorem map_eq_of_forall₂ {f : α → γ} {g : β → γ} (h : List.Forall₂ R xs ys) (hR : ∀ a b, R a b → g b = f a) :
    ys.map g = xs.map f := by
  induction h with
  | nil => rfl
  | cons h _ ih => rw [List.map_cons, List.map_cons, hR _ _ h, ih]

theorem forall_of_forall₂ {P : β → Prop} (h : List.Forall₂ R xs ys) (hR : ∀ a b, R a b → P b) : ∀ b ∈ ys, P b := by
  induction h with
  | nil => simp
  | cons h _ ih => exact List.forall_mem_cons.2 ⟨hR _ _ h, ih⟩

end

namespace Shape

variable {s t u : Shape}

def fill (s : Shape) : Option Rgb :=
  match s.form with
  | .figure _ _ fill _ _ => fill
  | _ => none

def line (s : Shape) : Option Rgb :=
  match s.form with
  | .figure _ _ _ line _ => line
  | _ => none

/-- Only the alternative texts differ and what is inside, the title and the text only where they were
meant as a descriptor. -/
structure Rewrites (s t : Shape) : Prop where
  id : t.id = s.id
  name : t.name = s.name
  box : t.box = s.box
  kind : t.kind = s.kind
  fill : t.fill = s.fill
  line : t.line = s.line
  title : t.title = s.title ∨ s.hasMisplacedTitle
  form : t.form = s.form ∨ s.hasMisplacedText

theorem Rewrites.trans (h : s.Rewrites t) (h' : t.Rewrites u) : s.Rewrites u where
  id := h'.id.trans h.id
  name := h'.name.trans h.name
  box := h'.box.trans h.box
  kind := h'.kind.trans h.kind
  fill := h'.fill.trans h.fill
  line := h'.line.trans h.line
  title := by
    rcases h.title with same | misplaced
    · have titled : t.hasMisplacedTitle = s.hasMisplacedTitle := by simp only [hasMisplacedTitle, same]
      rw [← same, ← titled]
      exact h'.title
    · exact .inr misplaced
  form := by
    rcases h.form with same | misplaced
    · have inside : t.hasMisplacedText = s.hasMisplacedText := by simp only [hasMisplacedText, body?, same]
      rw [← same, ← inside]
      exact h'.form
    · exact .inr misplaced

theorem rewrites_withBody (s : Shape) (body : Body) (h : s.hasMisplacedText) : s.Rewrites (s.withBody body) := by
  obtain ⟨id, name, descr, title, form⟩ := s
  cases form <;> exact ⟨rfl, rfl, rfl, rfl, rfl, rfl, .inl rfl, .inr h⟩

theorem rewrites_withMemo (s : Shape) (text : String) : s.Rewrites (s.withMemo text) := by
  let described : Shape :=
    { s with
      descr := if text = "" then none else some text
      title := if s.hasMisplacedTitle then none else s.title }
  have first : s.Rewrites described := by
    refine ⟨rfl, rfl, rfl, rfl, rfl, rfl, ?_, .inl rfl⟩
    by_cases misplaced : s.hasMisplacedTitle
    · exact .inr misplaced
    · exact .inl (if_neg misplaced)
  have all : s.withMemo text = if s.hasMisplacedText then described.withBody {} else described := rfl
  rw [all]
  split
  · next misplaced => exact first.trans (described.rewrites_withBody {} misplaced)
  · exact first

end Shape

namespace Slide

variable {sl sl' now after old new : Slide} {Written Written' : ShapeId → Prop} {id : ShapeId} {f : Shape → Shape}

/-! ## Numbers of their own -/

def Lacks (sl : Slide) (id : ShapeId) : Prop :=
  ∀ s ∈ sl, s.id ≠ id

theorem lacks_iff : sl.Lacks id ↔ id ∉ sl.map (·.id) := by
  simp [Lacks]

theorem lacks_congr (h : sl'.map (·.id) = sl.map (·.id)) : sl'.Lacks id ↔ sl.Lacks id := by
  rw [lacks_iff, lacks_iff, h]

theorem lacks_nextId (sl : Slide) : sl.Lacks sl.nextId :=
  fun _ hs => nextId_ne hs

theorem lacks_append : Lacks (sl ++ sl') id ↔ sl.Lacks id ∧ sl'.Lacks id := by
  simp only [Lacks, List.mem_append, or_imp, forall_and]

theorem Lacks.shape? (h : sl.Lacks id) : sl.shape? id = none := by
  rw [Slide.shape?, List.find?_eq_none]
  intro s hs
  simpa using h s hs

structure Fresh (sl more : Slide) : Prop where
  nodup : (more.map (·.id)).Nodup
  lacks : ∀ s ∈ more, sl.Lacks s.id

theorem fresh_nil (sl : Slide) : sl.Fresh [] :=
  ⟨List.nodup_nil, by simp⟩

theorem Fresh.append (h : sl.Fresh new) (h' : Fresh (sl ++ new) sl') : sl.Fresh (new ++ sl') where
  nodup := by
    rw [List.map_append, List.nodup_append]
    refine ⟨h.nodup, h'.nodup, fun n hn m hm => ?_⟩
    obtain ⟨s, hs, rfl⟩ := List.mem_map.1 hn
    obtain ⟨t, ht, rfl⟩ := List.mem_map.1 hm
    exact h'.lacks t ht s (List.mem_append_right _ hs)
  lacks s hs := by
    rcases List.mem_append.1 hs with hs | hs
    · exact h.lacks s hs
    · exact (lacks_append.1 (h'.lacks s hs)).1

theorem Fresh.concat {s : Shape} (h : sl.Fresh new) (hs : s.id = nextId (sl ++ new)) : sl.Fresh (new ++ [s]) := by
  refine h.append ⟨List.nodup_singleton _, fun t ht => ?_⟩
  rw [List.mem_singleton.1 ht, hs]
  exact lacks_nextId _

theorem Fresh.shape? {s : Shape} (h : sl.Fresh new) (hs : s ∈ new) : Slide.shape? (sl ++ new) s.id = some s := by
  have behind : Slide.shape? new s.id = some s := shape?_of_mem h.nodup hs
  rw [Slide.shape?, List.find?_append]
  rw [← Slide.shape?, (h.lacks s hs).shape?, Option.none_or]
  exact behind

/-- Fresh shapes go to the end of the outline. -/
theorem Fresh.outline (h : sl.Fresh new) : Slide.outline (sl ++ new) = sl.outline ++ new.filterMap Shape.entry? := by
  rw [outline_append h.lacks, outline_eq h.nodup]

theorem shape?_front {s : Shape} (hs : s.id = sl.nextId) : shape? (sl ++ [s]) s.id = some s :=
  Fresh.shape? (sl.fresh_nil.concat (by simpa using hs)) List.mem_cons_self

theorem modify_of_lacks (h : sl.Lacks id) : sl.modify id f = sl := by
  induction sl with
  | nil => rfl
  | cons s sl ih =>
    rw [modify, if_neg (h s List.mem_cons_self), ih fun t ht => h t (List.mem_cons_of_mem _ ht)]

/-- A change is made in front, if there is a shape of that number, else behind. -/
theorem modify_append (sl sl' : Slide) (id : ShapeId) (f : Shape → Shape) :
    modify (sl ++ sl') id f = sl.modify id f ++ sl' ∨
      sl.Lacks id ∧ modify (sl ++ sl') id f = sl ++ sl'.modify id f := by
  induction sl with
  | nil =>
    right
    rw [List.nil_append, List.nil_append]
    exact ⟨by simp [Lacks], rfl⟩
  | cons s sl ih =>
    rw [List.cons_append, modify, modify]
    by_cases hs : s.id = id
    · rw [if_pos hs, if_pos hs]
      exact .inl rfl
    · rw [if_neg hs, if_neg hs]
      rcases ih with same | ⟨lacks, same⟩
      · exact .inl (by rw [same]; rfl)
      · refine .inr ⟨fun t ht => ?_, by rw [same]; rfl⟩
        rcases List.mem_cons.1 ht with rfl | ht
        · exact hs
        · exact lacks t ht

/-! ## Slides in front of others -/

/-- The shape is as it was, or the edit has written to it. -/
def Stays (Written : ShapeId → Prop) (s t : Shape) : Prop :=
  t = s ∨ Written s.id ∧ s.Rewrites t

/-- All shapes of the slide are still there, in front of what is new, and differ only where something
was written. -/
def Framed (sl : Slide) (Written : ShapeId → Prop) (after : Slide) : Prop :=
  ∃ old new, after = old ++ new ∧ List.Forall₂ (Stays Written) sl old ∧ ∀ s ∈ new, sl.Lacks s.id

theorem Stays.id_eq {s t : Shape} (h : Stays Written s t) : t.id = s.id := by
  rcases h with rfl | ⟨-, h⟩
  · rfl
  · exact h.id

theorem ids_of_stays (h : List.Forall₂ (Stays Written) sl old) : old.map (·.id) = sl.map (·.id) :=
  map_eq_of_forall₂ h fun _ _ h => h.id_eq

theorem Framed.refl (sl : Slide) : sl.Framed Written sl := by
  refine ⟨sl, [], (List.append_nil sl).symm, ?_, by simp⟩
  exact List.forall₂_same.2 fun s _ => .inl rfl

theorem Framed.lacks_nextId (h : sl.Framed Written now) : sl.Lacks now.nextId := by
  obtain ⟨old, new, rfl, hold, -⟩ := h
  apply (lacks_congr (ids_of_stays hold)).1
  intro s hs
  exact nextId_ne (List.mem_append_left new hs)

theorem Framed.add (h : sl.Framed Written now) (title : String) (form : Form) :
    sl.Framed Written (now.add title form) := by
  have lacks := h.lacks_nextId
  obtain ⟨old, new, rfl, hold, hnew⟩ := h
  refine ⟨old, new ++ [⟨nextId (old ++ new), newName title (nextId (old ++ new)), none, none, form⟩], ?_, hold, ?_⟩
  · rw [Slide.add, List.append_assoc]
  · intro s hs
    rcases List.mem_append.1 hs with hs | hs
    · exact hnew s hs
    · rw [List.mem_singleton.1 hs]
      exact lacks

theorem stays_modify (h : List.Forall₂ (Stays Written) sl old) (hw : Written id) (hf : ∀ s : Shape, s.Rewrites (f s)) :
    List.Forall₂ (Stays Written) sl (old.modify id f) := by
  induction h with
  | nil => exact .nil
  | @cons s t sl old hst hrest ih =>
    rw [modify]
    split
    · next ht =>
      refine .cons (.inr ⟨hst.id_eq ▸ ht ▸ hw, ?_⟩) hrest
      rcases hst with rfl | ⟨-, hst⟩
      · exact hf t
      · exact hst.trans (hf t)
    · exact .cons hst ih

theorem Framed.modify (h : sl.Framed Written now) (hid : ∀ s, (f s).id = s.id)
    (hf : sl.Lacks id ∨ Written id ∧ ∀ s : Shape, s.Rewrites (f s)) : sl.Framed Written (now.modify id f) := by
  obtain ⟨old, new, rfl, hold, hnew⟩ := h
  rcases modify_append old new id f with same | ⟨-, same⟩
  · refine ⟨old.modify id f, new, same, ?_, hnew⟩
    rcases hf with lacks | ⟨hw, hf⟩
    -- A number that the slide lacks is that of a new shape, so no old one changes.
    · rw [modify_of_lacks ((lacks_congr (ids_of_stays hold)).2 lacks)]
      exact hold
    · exact stays_modify hold hw hf
  · refine ⟨old, new.modify id f, same, hold, fun s hs => ?_⟩
    rcases mem_modify hs with hs | ⟨t, ht, -, rfl⟩
    · exact hnew s hs
    · rw [hid]
      exact hnew t ht

end Slide

/-! ## Edits with a frame -/

namespace Edit

variable {α β : Type} {m : Edit α} {f : α → Edit β} {sl : Slide} {Written : ShapeId → Prop}
variable {V : α → Prop} {U : β → Prop} {id : ShapeId}

/-- From every slide that is framed by `sl`, the edit leads to such a slide, wherever it ends, and its
result satisfies `V`. -/
structure Confined (m : Edit α) (sl : Slide) (Written : ShapeId → Prop) (V : α → Prop) : Prop where
  makes : ∀ {now}, sl.Framed Written now →
    Makes m now (fun a after => sl.Framed Written after ∧ V a) (sl.Framed Written)

theorem Confined.bind (hm : Confined m sl Written V) (hf : ∀ a, V a → Confined (f a) sl Written U) :
    Confined (m >>= f) sl Written U :=
  ⟨fun h => (hm.makes h).bind fun a _ ⟨ha, hv⟩ => (hf a hv).makes ha⟩

theorem Reads.confined (hm : Reads m) : Confined m sl Written fun _ => True :=
  ⟨fun h => hm.makes h fun _ => ⟨h, trivial⟩⟩

theorem Reads.confines (hm : Reads m) (hf : ∀ a, Confined (f a) sl Written U) : Confined (m >>= f) sl Written U :=
  hm.confined.bind fun a _ => hf a

theorem confined_pure {a : α} (h : V a) : Confined (pure a) sl Written V :=
  ⟨fun hn => makes_pure ⟨hn, h⟩⟩

theorem confined_throw (fault : Fault) : Confined (throw fault : Edit α) sl Written V :=
  ⟨fun hn => makes_throw hn⟩

theorem Confined.ite {c : Prop} [Decidable c] {m' : Edit α} (h : Confined m sl Written V)
    (h' : Confined m' sl Written V) : Confined (if c then m else m') sl Written V := by
  split
  · exact h
  · exact h'

theorem confined_change {g : Shape → Shape} (hid : ∀ s, (g s).id = s.id)
    (h : sl.Lacks id ∨ Written id ∧ ∀ s : Shape, s.Rewrites (g s)) : Confined (change id g) sl Written fun _ => True :=
  ⟨fun hn => makes_change ⟨hn.modify hid h, trivial⟩⟩

theorem confined_add (title : String) (form : Form) : Confined (add title form) sl Written sl.Lacks :=
  ⟨fun hn => makes_add ⟨hn.add title form, hn.lacks_nextId⟩⟩

theorem confined_mapM {g : α → Edit β} (hg : ∀ a, Confined (g a) sl Written U) (xs : List α) :
    Confined (xs.mapM g) sl Written fun bs => ∀ b ∈ bs, U b := by
  refine ⟨fun hn => makes_mapM (fun _ done now => sl.Framed Written now ∧ ∀ b ∈ done, U b) ?_ ⟨hn, by simp⟩ |>.mono
    (fun _ _ h => h) fun _ h => h⟩
  intro x rest done now ⟨hn, hd⟩
  refine ((hg x).makes hn).mono (fun b after ⟨ha, hu⟩ => ⟨ha, fun c hc => ?_⟩) fun _ h => h
  rcases List.mem_append.1 hc with hc | hc
  · exact hd c hc
  · rwa [List.mem_singleton.1 hc]

theorem confined_foldlM {g : β → α → Edit β} (hg : ∀ b a, Confined (g b a) sl Written fun _ => True)
    (xs : List α) (b : β) : Confined (xs.foldlM g b) sl Written fun _ => True :=
  ⟨fun hn => makes_foldlM (fun _ now => sl.Framed Written now ∧ True)
    (fun b x _ h => (hg b x).makes h.1) ⟨hn, trivial⟩⟩

/-! ## Drawing -/

theorem confined_paintFill (h : sl.Lacks id) (colour : Option Rgb) :
    Confined (paintFill id colour) sl Written fun _ => True :=
  confined_change (fun ⟨_, _, _, _, form⟩ => by cases form <;> rfl) (.inl h)

theorem confined_paintLine (h : sl.Lacks id) (colour : Option Rgb) :
    Confined (paintLine id colour) sl Written fun _ => True :=
  confined_change (fun ⟨_, _, _, _, form⟩ => by cases form <;> rfl) (.inl h)

theorem confined_changeConnector (h : sl.Lacks id) (g : Connector → Connector) :
    Confined (changeConnector id g) sl Written fun _ => True :=
  confined_change (fun ⟨_, _, _, _, form⟩ => by cases form <;> rfl) (.inl h)

theorem confined_drawShape (desk : Desk) (name : String) (b : Box (Measure Float)) :
    Confined (drawShape desk name b) sl Written sl.Lacks := by
  unfold drawShape
  refine (reads_kindNamed name).confines fun kind => (reads_ofNumber _).confines fun x => ?_
  refine (reads_ofNumber _).confines fun y => (reads_ofNumber _).confines fun w => ?_
  refine (reads_ofNumber _).confines fun h => (reads_forM (fun _ => reads_ofNumber _) _).confines fun _ => ?_
  refine (confined_add _ _).bind fun id hid => ?_
  have finish : Confined (do
      if desk.debug then notePlace name id b
      return id) sl Written sl.Lacks := by
    dsimp only
    split
    · exact (reads_notePlace name id b).confines fun _ => confined_pure hid
    · exact confined_pure hid
  dsimp only
  split
  · refine (reads_drawable _).confines fun fill => (confined_paintFill hid fill).bind fun _ _ => ?_
    exact (reads_drawable _).confines fun line => (confined_paintLine hid line).bind fun _ _ => finish
  · exact finish

theorem confined_setBody (h : sl.Lacks id) (body : Body) : Confined (setBody id body) sl Written fun _ => True :=
  confined_change (fun _ => rfl) (.inl h)

theorem confined_setText (desk : Desk) (h : sl.Lacks id) (text : String) :
    Confined (setText desk id text) sl Written fun _ => True := by
  have plain : Confined (setPlainText id text) sl Written fun _ => True := by
    unfold setPlainText
    dsimp only
    split
    · exact confined_setBody h _
    · exact (confined_setBody h _).bind fun _ _ => confined_throw _
  refine (reads_shape id).confines fun s => .ite (reads_note _ _).confined ?_
  refine plain.bind fun _ _ => .ite ?_ (confined_pure trivial)
  exact (reads_drawable _).confines fun _ => confined_setBody h _

theorem confined_drawEdge (desk : Desk) (a b : Point Float) (style : EdgeStyle) :
    Confined (drawEdge desk a b style) sl Written sl.Lacks := by
  refine (reads_courseNamed _).confines fun course => (reads_ofNumber _).confines fun x => ?_
  refine (reads_ofNumber _).confines fun y => (reads_ofNumber _).confines fun x' => ?_
  refine (reads_ofNumber _).confines fun y' => (confined_add _ _).bind fun id hid => ?_
  refine (reads_drawable _).confines fun colour => (confined_changeConnector hid _).bind fun _ _ => ?_
  refine (reads_arrowType _).confines fun head => (confined_changeConnector hid _).bind fun _ _ => ?_
  refine (reads_arrowType _).confines fun tail => (confined_changeConnector hid _).bind fun _ _ => ?_
  exact confined_pure hid

theorem confined_join (desk : Desk) (a b : ShapeId) (sideA sideB : Side) (style : EdgeStyle) :
    Confined (join desk a b sideA sideB style) sl Written fun _ => True := by
  refine (reads_siteOn desk a sideA).confines fun pointA => (reads_siteOn desk b sideB).confines fun pointB => ?_
  split
  · exact (confined_drawEdge desk _ _ style).bind fun edge _ => (reads_note _ _).confines fun _ => confined_pure trivial
  · exact (reads_note _ _).confines fun _ => confined_pure trivial

theorem confined_joinChild (desk : Desk) (c : Creation) (child : ShapeId) (side side' : Side) (style : EdgeStyle) :
    Confined (joinChild desk c child side side' style) sl Written fun _ => True := by
  refine (confined_join desk _ _ _ _ _).bind fun edge _ => ?_
  cases edge with
  | some edge => exact confined_pure trivial
  | none => exact confined_pure trivial

/-! ## Descriptors -/

theorem confined_setMemo (h : sl.Lacks id ∨ Written id) (text : String) :
    Confined (setMemo id text) sl Written fun _ => True := by
  refine (reads_shape id).confines fun s => (reads_requireStorable text).confines fun _ => ?_
  have kept : Confined (change id fun s => s.withMemo text) sl Written fun _ => True := by
    apply confined_change
    · intro s
      exact s.withMemo_id text
    · exact h.imp_right fun hw => ⟨hw, fun s => s.rewrites_withMemo text⟩
  refine kept.bind fun _ _ => ?_
  have last : Confined (if s.hasMisplacedText then
      note .debug s!"🔁 Migrated descriptor out of the text of shape {id}" else pure ()) sl Written fun _ => True :=
    .ite (reads_note _ _).confined (confined_pure trivial)
  exact .ite ((reads_note _ _).confines fun _ => last) last

theorem confined_store (h : sl.Lacks id ∨ Written id) (d : Descriptor) :
    Confined (store id d) sl Written fun _ => True :=
  (confined_setMemo h d.render).bind fun _ _ => (reads_note _ _).confined

theorem confined_clearMemo (h : Written id) : Confined (clearMemo id) sl Written fun _ => True := by
  refine (reads_memo id).confines fun previous => (confined_setMemo (.inr h) "").bind fun _ _ => ?_
  exact .ite ((reads_note _ _).confines fun _ => confined_pure trivial) (confined_pure trivial)

theorem confined_plantRoot (h : Written id) : Confined (plantRoot id) sl Written fun _ => True := by
  refine reads_outline.confines fun outline => (reads_ofNumber _).confines fun root => ?_
  exact (confined_store (.inr h) root).bind fun _ _ => (reads_note _ _).confines fun _ => confined_pure trivial

theorem confined_typed (h : Written id) : Confined (typed id) sl Written fun _ => True := by
  have ensured : Confined (ensureDescriptor id) sl Written fun _ => True := by
    refine reads_outline.confines fun outline => ?_
    split
    · exact confined_pure trivial
    · exact (confined_plantRoot h).bind fun _ _ => reads_outline.confines fun _ => confined_pure trivial
  refine ensured.bind fun d _ => ?_
  cases d with
  | some d => exact confined_pure trivial
  | none => exact confined_throw _

end Edit

end FlowDeck
