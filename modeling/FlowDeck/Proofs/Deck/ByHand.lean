import FlowDeck.Editor.Session
import FlowDeck.Proofs.Deck.Orderly

/-!
# Edits by hand on orderly slides

Whatever users draw, group, delete, move, rename and label, an orderly slide stays orderly, as long as
they write no descriptors themselves.
-/

namespace FlowDeck

open Slide Edit

variable {sl : Slide} {id : ShapeId}

namespace Edit

theorem reads_requireWithin (bounds : Int × Int) (length : Int) : Reads (requireWithin bounds length) := by
  unfold requireWithin
  exact .ite (reads_throw _) (reads_pure _)

theorem makes_adjust (bounds : Int × Int) (length : Int) (set : Box Int → Box Int) (h : sl.Orderly) :
    Makes (adjust id bounds length set) sl (fun _ => sl.Kept) sl.Kept := by
  refine (reads_requireWithin bounds length).followed (.refl h) fun _ => makes_change ?_
  have alike (s : Shape) : s.Alike (s.withBox (set s.box)) := s.alike_withBox _
  exact h.kept_modify (fun s => (alike s).id) (fun s => (alike s).isNode) (fun s => (alike s).descr)
    fun s => (alike s).tidy

theorem makes_place (box : Box Int) (h : sl.Orderly) :
    Makes (Edit.place id box) sl (fun _ => sl.Kept) sl.Kept := by
  have further (bounds : Int × Int) (length : Int) (set : Box Int → Box Int) {now : Slide} (hk : sl.Kept now) :
      Makes (adjust id bounds length set) now (fun _ => sl.Kept) sl.Kept :=
    (makes_adjust bounds length set hk.orderly).since hk
  refine (further _ _ _ (.refl h)).bind fun _ now hk => (further _ _ _ hk).bind fun _ now hk => ?_
  exact (further _ _ _ hk).bind fun _ now hk => further _ _ _ hk

theorem makes_setPlainText {text : String} (h : sl.Orderly) (hl : Descriptor.looksLike text = false) :
    Makes (setPlainText id text) sl (fun _ => sl.Kept) sl.Kept := by
  have set {body : Body} (hb : Descriptor.looksLike body.text = false) :
      Makes (setBody id body) sl (fun _ => sl.Kept) sl.Kept :=
    makes_change (h.kept_modify (fun _ => rfl) (fun s => s.withBody_isNode body) (fun _ => rfl)
      fun _ ht => Shape.withBody_tidy ht hb)
  obtain ⟨body, hb, he | he⟩ := setPlainText_cases id hl <;> rw [he]
  · exact set hb
  · exact (set hb).bind fun _ _ hk => makes_throw hk

end Edit

theorem Slide.Orderly.kept_group (h : sl.Orderly) (members : List ShapeId) : sl.Kept (sl.group members) := by
  have rest := h.kept_filter fun s => !members.contains s.id
  let group : Shape := {
    id := sl.freeId, name := newName "Group" sl.freeId
    form := .group ⟨0, 0, 0, 0⟩ ((sl.filter fun s => members.contains s.id).flatMap (·.ids)) }
  have new : ∀ t ∈ sl.filter fun s => !members.contains s.id, t.id ≠ group.id := fun t ht he =>
    freeId_not_mem_ids (he ▸ id_mem_ids (List.mem_of_mem_filter ht))
  obtain ⟨ho, same⟩ := rest.orderly.append new rfl ⟨rfl, rfl⟩
  exact rest.trans (kept_of_subset ho (same ▸ List.Subset.refl _))

theorem HandEdit.makes_perform {edit : HandEdit} (h : sl.Orderly) (hp : (Step.byHand edit).IsPlain) :
    Makes edit.perform sl (fun _ => sl.Kept) sl.Kept := by
  cases edit with
  | drawTextBox box text =>
    have hl := hp.1 text List.mem_cons_self
    refine (reads_ofNumber _).followed (.refl h) fun box => ?_
    refine (makes_add (Q := fun id after => id = sl.nextId ∧ sl.Grows true after)
      ⟨rfl, _, rfl, rfl, rfl, rfl, rfl, rfl⟩).bind fun id now ⟨hid, hg⟩ => ?_
    have done {now : Slide} (hg : sl.Grows true now) : sl.Kept now := h.kept_mayGrow (.inr hg)
    refine (((dresses_setPlainText id hl).makes hid hg).mono (fun _ _ hg => done hg) fun _ hg => done hg).bind ?_
    exact fun _ _ hk => makes_pure hk
  | drawTable box =>
    refine (reads_ofNumber _).followed (.refl h) fun box => ?_
    refine (reads_requireWithin _ _).followed (.refl h) fun _ => ?_
    refine (reads_requireWithin _ _).followed (.refl h) fun _ => ?_
    refine (makes_add (Q := fun _ => sl.Grows true) ⟨_, rfl, rfl, rfl, rfl, rfl, rfl⟩).bind fun _ now hg => ?_
    exact makes_pure (h.kept_mayGrow (.inr hg))
  | group members =>
    refine (reads_forM (fun id => (reads_shape id).bind fun _ => reads_pure _) members).followed (.refl h) fun _ => ?_
    refine asks_slide.followed (.refl h) fun slide hs => ?_
    subst hs
    refine (makes_setSlide (Q := fun _ => slide.Kept) (h.kept_group members)).bind fun _ now hk => ?_
    exact ((makes_place _ hk.orderly).since hk).bind fun _ _ hk => makes_pure hk
  | delete id =>
    refine (reads_shape id).followed (.refl h) fun _ => asks_slide.followed (.refl h) fun slide hs => ?_
    subst hs
    exact (makes_setSlide (Q := fun _ => slide.Kept) (h.kept_filter _)).bind fun _ _ hk => makes_pure hk
  | place id box =>
    refine (reads_shape id).followed (.refl h) fun _ => (makes_place box h).bind fun _ _ hk => makes_pure hk
  | rename id name =>
    refine (reads_shape id).followed (.refl h) fun _ => (reads_requireStorable name).followed (.refl h) fun _ => ?_
    refine (makes_change (Q := fun _ => sl.Kept) ?_).bind fun _ _ hk => makes_pure hk
    exact h.kept_modify (fun _ => rfl) (fun _ => rfl) (fun _ => rfl) fun _ ht => ⟨ht.title, ht.text⟩
  | write id text =>
    have hl := hp.1 text List.mem_cons_self
    exact (reads_shape id).followed (.refl h) fun _ => (makes_setPlainText h hl).bind fun _ _ hk => makes_pure hk
  | setTitle id title =>
    have hl : title.any Descriptor.looksLike = false := by
      cases title with
      | none => rfl
      | some text => exact hp.1 text List.mem_cons_self
    have storable : Reads (title.forM requireStorable) := by
      cases title with
      | none => exact reads_pure _
      | some text => exact reads_requireStorable text
    refine (reads_shape id).followed (.refl h) fun _ => storable.followed (.refl h) fun _ => ?_
    refine (makes_change (Q := fun _ => sl.Kept) ?_).bind fun _ _ hk => makes_pure hk
    exact h.kept_modify (fun _ => rfl) (fun _ => rfl) (fun _ => rfl) fun _ ht => ⟨hl, ht.text⟩
  | setDescr id descr => cases hp.2

end FlowDeck
