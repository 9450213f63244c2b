import FlowDeck.Proofs.Edit.Makes
import Mathlib.Data.List.Forall2

/-!
# The same work on another slide

An edit that is done on another slide comes to a result there as well, as long as what it reads is the
same. What the two come to is related step by step.
-/

namespace FlowDeck.Edit

variable {α β γ : Type} {m m' : Edit α} {f f' : α → Edit β} {now now' : Slide}
variable {Q Q' : α → Slide → α → Slide → Prop} {R : β → Slide → β → Slide → Prop}

/-- Where `m` ends with a result on a page with the slide `now`, `m'` ends with one on every page with the
slide `now'`, and what they come to satisfies `R`. -/
structure Echoes (m m' : Edit α) (now now' : Slide) (R : α → Slide → α → Slide → Prop) : Prop where
  ends : ∀ {page page' after : Page} {a : α}, page.slide = now → page'.slide = now' →
    m.run.run page = (.ok a, after) →
    ∃ a' after', m'.run.run page' = (.ok a', after') ∧ R a after.slide a' after'.slide

theorem Echoes.mono (h : Echoes m m' now now' Q)
    (hQ : ∀ a after a' after', Q a after a' after' → Q' a after a' after') :
    Echoes m m' now now' Q' where
  ends hp hp' hr := by
    obtain ⟨a', after', hr', h⟩ := h.ends hp hp' hr
    exact ⟨a', after', hr', hQ _ _ _ _ h⟩

theorem Echoes.bind (hm : Echoes m m' now now' Q)
    (hf : ∀ a mid a' mid', Q a mid a' mid' → Echoes (f a) (f' a') mid mid' R) :
    Echoes (m >>= f) (m' >>= f') now now' R where
  ends hp hp' hr := by
    obtain ⟨a, mid, hma, hfa⟩ := run_bind_ok.1 hr
    obtain ⟨a', mid', hma', h⟩ := hm.ends hp hp' hma
    obtain ⟨b', after', hfa', h'⟩ := (hf _ _ _ _ h).ends rfl rfl hfa
    exact ⟨b', after', run_bind_ok.2 ⟨a', mid', hma', hfa'⟩, h'⟩

theorem Echoes.ended {page last : Page} {a : α} (h : Echoes m m' now now' Q) (hp : page.slide = now)
    (run : m.run.run page = (.ok a, last)) : Makes m' now' (fun _ _ => True) fun _ => False where
  leads page' hp' := by
    obtain ⟨a', last', run', -⟩ := h.ends hp hp' run
    unfold Leads
    rw [run']
    trivial

theorem echoes_pure {a a' : α} (h : Q a now a' now') : Echoes (pure a) (pure a') now now' Q where
  ends hp hp' hr := by
    cases hr
    exact ⟨a', _, rfl, by rw [hp, hp']; exact h⟩

theorem echoes_throw (fault : Fault) : Echoes (throw fault) m' now now' Q where
  ends _ _ hr := by cases hr

theorem echoes_refused {r : Refusal} (f f' : γ → Edit β) : Echoes (refuse r >>= f) (refuse r >>= f') now now' R where
  ends _ _ hr := by cases hr

theorem Echoes.ite {c : Prop} [Decidable c] {n n' : Edit α} (h : c → Echoes m m' now now' Q)
    (h' : ¬c → Echoes n n' now now' Q) : Echoes (if c then m else n) (if c then m' else n') now now' Q := by
  split
  · next hc => exact h hc
  · next hc => exact h' hc

theorem Echoes.guard {c : Prop} [Decidable c] {r : Refusal} {rest rest' : Unit → Edit β}
    (h : Echoes (rest ()) (rest' ()) now now' R) :
    Echoes (if c then refuse r >>= rest else rest ()) (if c then refuse r >>= rest' else rest' ()) now now' R :=
  .ite (fun _ => echoes_refused rest rest') fun _ => h

theorem echoes_setSlide (new new' : Slide) :
    Echoes (setSlide new) (setSlide new') now now' fun _ after _ after' => after = new ∧ after' = new' where
  ends _ _ hr := by
    cases hr
    exact ⟨_, _, rfl, rfl, rfl⟩

/-! ## Reading the same -/

/-- Both edits change no shape, and where the one reads something from its slide, the other reads the same
from the other slide. -/
structure Shares (m m' : Edit α) (now now' : Slide) : Prop where
  echoes : Echoes m m' now now' fun a mid a' mid' => (now = mid ∧ now' = mid') ∧ a = a'

theorem Shares.followed (hm : Shares m m' now now') (hf : ∀ a, Echoes (f a) (f' a) now now' R) :
    Echoes (m >>= f) (m' >>= f') now now' R := by
  refine hm.echoes.bind fun a mid a' mid' h => ?_
  obtain ⟨⟨rfl, rfl⟩, rfl⟩ := h
  exact hf a

theorem Shares.bind (hm : Shares m m' now now') (hf : ∀ a, Shares (f a) (f' a) now now') :
    Shares (m >>= f) (m' >>= f') now now' :=
  ⟨hm.followed fun a => (hf a).echoes⟩

theorem shares_pure (a : α) : Shares (pure a) (pure a) now now' :=
  ⟨echoes_pure ⟨⟨rfl, rfl⟩, rfl⟩⟩

theorem shares_throw (fault : Fault) : Shares (throw fault) m' now now' :=
  ⟨echoes_throw fault⟩

theorem Shares.ite {c : Prop} [Decidable c] {n n' : Edit α} (h : Shares m m' now now') (h' : Shares n n' now now') :
    Shares (if c then m else n) (if c then m' else n') now now' :=
  ⟨.ite (fun _ => h.echoes) fun _ => h'.echoes⟩

theorem shares_note (level level' : LogLevel) (text text' : String) :
    Shares (note level text) (note level' text') now now' where
  echoes.ends hp hp' hr := by
    cases hr
    exact ⟨_, _, rfl, ⟨hp.symm, hp'.symm⟩, rfl⟩

theorem shares_ofNumber (x : Except NumberFault α) : Shares (ofNumber x) (ofNumber x) now now' := by
  cases x with
  | ok a => exact shares_pure a
  | error fault => exact shares_throw _

theorem shares_orFault (x : Except Fault α) : Shares (orFault x) (orFault x) now now' := by
  cases x with
  | ok a => exact shares_pure a
  | error fault => exact shares_throw fault

theorem shares_requireStorable (text : String) : Shares (requireStorable text) (requireStorable text) now now' :=
  .ite (shares_pure _) (shares_throw _)

theorem shares_forM {g : γ → Edit Unit} (hg : ∀ x, Shares (g x) (g x) now now') (xs : List γ) :
    Shares (xs.forM g) (xs.forM g) now now' := by
  induction xs with
  | nil => exact shares_pure _
  | cons x xs ih => exact (hg x).bind fun _ => ih

theorem echoes_slide : Echoes slide slide now now' fun sl mid sl' mid' =>
    (now = mid ∧ now' = mid') ∧ now = sl ∧ now' = sl' where
  ends hp hp' hr := by
    cases hr
    exact ⟨_, _, rfl, ⟨hp.symm, hp'.symm⟩, hp.symm, hp'.symm⟩

theorem echoes_outline : Echoes outline outline now now' fun o mid o' mid' =>
    (now = mid ∧ now' = mid') ∧ o = now.outline ∧ o' = now'.outline := by
  refine echoes_slide.bind fun sl mid sl' mid' h => ?_
  obtain ⟨⟨rfl, rfl⟩, rfl, rfl⟩ := h
  exact echoes_pure ⟨⟨rfl, rfl⟩, rfl, rfl⟩

section
variable {id id' : ShapeId} {s s' : Shape}

theorem echoes_shape (hs : now.shape? id = some s) (hs' : now'.shape? id' = some s') :
    Echoes (shape id) (shape id') now now' fun t mid t' mid' => (now = mid ∧ now' = mid') ∧ s = t ∧ s' = t' := by
  refine echoes_slide.bind fun sl mid sl' mid' h => ?_
  obtain ⟨⟨rfl, rfl⟩, rfl, rfl⟩ := h
  rw [hs, hs']
  exact echoes_pure ⟨⟨rfl, rfl⟩, rfl, rfl⟩

theorem shares_box (hs : now.shape? id = some s) (hs' : now'.shape? id' = some s') (same : s'.box = s.box) :
    Shares (box id) (box id') now now' where
  echoes := by
    refine (echoes_shape hs hs').bind fun t mid t' mid' read => ?_
    obtain ⟨⟨rfl, rfl⟩, rfl, rfl⟩ := read
    rw [same]
    exact (shares_ofNumber _).echoes

end

theorem shares_boxes {ids : List ShapeId}
    (h : ∀ id ∈ ids, ∃ s s', now.shape? id = some s ∧ now'.shape? id = some s' ∧ s'.box = s.box) :
    Shares (boxes ids) (boxes ids) now now' := by
  unfold boxes
  induction ids with
  | nil => exact shares_pure _
  | cons id ids ih =>
    obtain ⟨s, s', hs, hs', same⟩ := h id List.mem_cons_self
    rw [List.mapM_cons]
    refine (shares_box hs hs' same).bind fun b => ?_
    exact (ih fun id hid => h id (List.mem_cons_of_mem _ hid)).bind fun bs => shares_pure _

/-! ## Loops -/

theorem echoes_mapM {g : γ → Edit α} (I : List α → Slide → List α → Slide → Prop)
    (step : ∀ x done now done' now', I done now done' now' →
      Echoes (g x) (g x) now now' fun a after a' after' => I (done ++ [a]) after (done' ++ [a']) after')
    (xs : List γ) (h : I [] now [] now') : Echoes (xs.mapM g) (xs.mapM g) now now' I := by
  suffices all : ∀ done done', I done now done' now' → Echoes (xs.mapM g) (xs.mapM g) now now'
      fun as after as' after' => I (done ++ as) after (done' ++ as') after' from (all [] [] h).mono fun _ _ _ _ h => h
  clear h
  -- The invariant speaks of what is done, so the induction is over what is left, from any slides.
  induction xs generalizing now now' with
  | nil =>
    intro done done' h
    exact echoes_pure (by simpa using h)
  | cons x xs ih =>
    intro done done' h
    rw [List.mapM_cons]
    refine (step x done now done' now' h).bind fun a mid a' mid' h => ?_
    refine (ih _ _ h).bind fun as last as' last' h => echoes_pure ?_
    simpa using h

theorem echoes_foldlM {g g' : β → γ → Edit β} {T : γ → γ → Prop} (I : β → Slide → β → Slide → Prop)
    (step : ∀ x x', T x x' → ∀ b now b' now', I b now b' now' → Echoes (g b x) (g' b' x') now now' I)
    {xs xs' : List γ} (hx : List.Forall₂ T xs xs') {b b' : β} (h : I b now b' now') :
    Echoes (xs.foldlM g b) (xs'.foldlM g' b') now now' I := by
  induction hx generalizing now now' b b' with
  | nil => exact echoes_pure h
  | cons hx _ ih =>
    rw [List.foldlM_cons, List.foldlM_cons]
    exact (step _ _ hx b now b' now' h).bind fun b mid b' mid' h => ih h

end FlowDeck.Edit
