import FlowDeck.Proofs.Edit.Reads

/-!
# The same edit on another page

An edit takes nothing from the log and nothing from the selection. So where it ends with a result,
it does the same on any page with the same shapes, and so does another edit that leaves out what is
only logged.
-/

namespace FlowDeck.Edit

variable {α β γ : Type} {m m' : Edit α} {f f' : α → Edit β}

/-- Where `m` ends with a result, `m'` ends with the same result and the same shapes on every page
with the shapes that `m` began with. -/
structure Follows (m m' : Edit α) : Prop where
  ends : ∀ {page page' after : Page} {a : α}, page.slide = page'.slide → m.run.run page = (.ok a, after) →
    ∃ after', m'.run.run page' = (.ok a, after') ∧ after.slide = after'.slide

theorem Follows.bind (hm : Follows m m') (hf : ∀ a, Follows (f a) (f' a)) : Follows (m >>= f) (m' >>= f') where
  ends hs hr := by
    obtain ⟨a, mid, hma, hfa⟩ := run_bind_ok.1 hr
    obtain ⟨mid', hma', hs'⟩ := hm.ends hs hma
    obtain ⟨after', hfa', hs''⟩ := (hf a).ends hs' hfa
    exact ⟨after', run_bind_ok.2 ⟨a, mid', hma', hfa'⟩, hs''⟩

theorem follows_pure (a : α) : Follows (pure a) (pure a) where
  ends hs hr := by
    cases hr
    exact ⟨_, rfl, hs⟩

/-- An edit that faults gives nothing to follow. -/
theorem follows_throw (fault : Fault) : Follows (throw fault) m' where
  ends _ hr := by cases hr

theorem follows_refuse (r : Refusal) : Follows (refuse r) m' := follows_throw _

theorem follows_refused (r : Refusal) (f : γ → Edit α) : Follows (refuse r >>= f) m' where
  ends _ hr := by cases hr

theorem Follows.ite {c : Prop} [Decidable c] {n n' : Edit α} (h : c → Follows m m') (h' : ¬c → Follows n n') :
    Follows (if c then m else n) (if c then m' else n') := by
  split
  · next hc => exact h hc
  · next hc => exact h' hc

theorem Follows.guard {c : Prop} [Decidable c] {r : Refusal} {rest rest' : Unit → Edit α}
    (h : Follows (rest ()) (rest' ())) :
    Follows (if c then refuse r >>= rest else rest ()) (if c then refuse r >>= rest' else rest' ()) :=
  .ite (fun _ => follows_refused r _) fun _ => h

/-- What is only logged may be left out. -/
theorem Reads.leftOut {n : Edit γ} (hn : Reads n) (h : Follows m m') : Follows (n >>= fun _ => m) m' where
  ends {page _ _ _} hs hr := by
    obtain ⟨_, mid, hna, hma⟩ := run_bind_ok.1 hr
    have same := ((hn.leads page).ok hna).1
    exact h.ends (same.trans hs) hma

/-! ## Single steps -/

theorem follows_slide : Follows slide slide where
  ends hs hr := by
    cases hr
    exact ⟨_, by rw [hs]; rfl, hs⟩

theorem follows_setSlide (sl : Slide) : Follows (setSlide sl) (setSlide sl) where
  ends _ hr := by
    cases hr
    exact ⟨_, rfl, rfl⟩

theorem follows_note (level : LogLevel) (text : String) : Follows (note level text) (note level text) where
  ends hs hr := by
    cases hr
    exact ⟨_, rfl, hs⟩

theorem follows_select (id : ShapeId) (additive : Bool) : Follows (select id additive) (select id additive) where
  ends hs hr := by
    cases hr
    exact ⟨_, rfl, hs⟩

theorem follows_ofNumber (x : Except NumberFault α) : Follows (ofNumber x) (ofNumber x) := by
  cases x with
  | ok a => exact follows_pure a
  | error fault => exact follows_throw _

theorem follows_orFault (x : Except Fault α) : Follows (orFault x) (orFault x) := by
  cases x with
  | ok a => exact follows_pure a
  | error fault => exact follows_throw _

theorem follows_change (id : ShapeId) (g : Shape → Shape) : Follows (change id g) (change id g) :=
  follows_slide.bind fun _ => follows_setSlide _

theorem follows_add (title : String) (form : Form) : Follows (add title form) (add title form) :=
  follows_slide.bind fun _ => (follows_setSlide _).bind fun _ => follows_pure _

theorem follows_shape (id : ShapeId) : Follows (shape id) (shape id) := by
  refine follows_slide.bind fun sl => ?_
  split
  · exact follows_pure _
  · exact follows_throw _

theorem follows_box (id : ShapeId) : Follows (box id) (box id) :=
  (follows_shape id).bind fun _ => follows_ofNumber _

theorem follows_requireStorable (text : String) : Follows (requireStorable text) (requireStorable text) :=
  .ite (fun _ => follows_pure _) fun _ => follows_throw _

/-! ## Loops -/

theorem follows_mapM {g g' : α → Edit β} (h : ∀ a, Follows (g a) (g' a)) (xs : List α) :
    Follows (xs.mapM g) (xs.mapM g') := by
  induction xs with
  | nil => exact follows_pure _
  | cons x xs ih =>
    rw [List.mapM_cons, List.mapM_cons]
    exact (h x).bind fun _ => ih.bind fun _ => follows_pure _

theorem follows_forM {g g' : α → Edit Unit} (h : ∀ a, Follows (g a) (g' a)) (xs : List α) :
    Follows (xs.forM g) (xs.forM g') := by
  induction xs with
  | nil => exact follows_pure _
  | cons x xs ih => exact (h x).bind fun _ => ih

theorem follows_foldlM {g g' : β → α → Edit β} (h : ∀ b a, Follows (g b a) (g' b a)) (xs : List α) (b : β) :
    Follows (xs.foldlM g b) (xs.foldlM g' b) := by
  induction xs generalizing b with
  | nil => exact follows_pure _
  | cons x xs ih =>
    rw [List.foldlM_cons, List.foldlM_cons]
    exact (h b x).bind fun b => ih b

theorem follows_forIn {g g' : α → Unit → Edit (ForInStep Unit)} (h : ∀ a, Follows (g a ()) (g' a ())) (xs : List α) :
    Follows (forIn xs () g) (forIn xs () g') := by
  induction xs with
  | nil => exact follows_pure _
  | cons x xs ih =>
    rw [List.forIn_cons, List.forIn_cons]
    refine (h x).bind fun next => ?_
    cases next with
    | done => exact follows_pure _
    | yield => exact ih

/-! ## Reading the page -/

theorem follows_boxes (ids : List ShapeId) : Follows (boxes ids) (boxes ids) := follows_mapM follows_box ids

theorem follows_outline : Follows outline outline := follows_slide.bind fun _ => follows_pure _

theorem follows_memo (id : ShapeId) : Follows (memo id) (memo id) :=
  (follows_shape id).bind fun _ => follows_pure _

theorem follows_descriptor? (id : ShapeId) : Follows (descriptor? id) (descriptor? id) :=
  (follows_shape id).bind fun _ => follows_pure _

theorem follows_requireNode (node : Option ShapeId) : Follows (requireNode node) (requireNode node) := by
  unfold requireNode
  cases node with
  | none => exact follows_refuse _
  | some id => exact follows_slide.bind fun _ => .ite (fun _ => follows_pure _) fun _ => follows_refuse _

theorem follows_requireDescriptor (node : Option ShapeId) :
    Follows (requireDescriptor node) (requireDescriptor node) := by
  refine (follows_requireNode node).bind fun id => (follows_descriptor? id).bind fun d => ?_
  cases d with
  | some d => exact follows_pure _
  | none => exact follows_refuse _

end FlowDeck.Edit
