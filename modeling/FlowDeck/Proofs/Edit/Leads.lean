import FlowDeck.Deck.Page

/-!
# Where edits lead

What an edit does is followed from the page it starts on: `Leads` says where it ends, with a
result or with a fault. An edit keeps what it has done when it faults, so the page counts in both
cases.
-/

namespace FlowDeck.Edit

variable {α β : Type}

/-- On `page`, the edit ends with a result and a page that satisfy `Q`, or with a fault and a page
that satisfy `E`. -/
def Leads (m : Edit α) (page : Page) (Q : α → Page → Prop) (E : Fault → Page → Prop) : Prop :=
  match m.run.run page with
  | (.ok a, after) => Q a after
  | (.error fault, after) => E fault after

section
variable {m : Edit α} {f : α → Edit β} {page after : Page}
variable {Q Q' : α → Page → Prop} {R : β → Page → Prop} {E E' : Fault → Page → Prop}

theorem Leads.mono (h : Leads m page Q E) (hQ : ∀ a after, Q a after → Q' a after)
    (hE : ∀ fault after, E fault after → E' fault after) : Leads m page Q' E' := by
  unfold Leads at *
  rcases hm : m.run.run page with ⟨fault | a, after⟩ <;> rw [hm] at h
  · exact hE _ _ h
  · exact hQ _ _ h

theorem Leads.and (h : Leads m page Q E) (h' : Leads m page Q' E') :
    Leads m page (fun a after => Q a after ∧ Q' a after) fun fault after => E fault after ∧ E' fault after := by
  unfold Leads at *
  rcases hm : m.run.run page with ⟨fault | a, after⟩ <;> rw [hm] at h h'
  · exact ⟨h, h'⟩
  · exact ⟨h, h'⟩

theorem Leads.ok {a : α} (h : Leads m page Q E) (hm : m.run.run page = (.ok a, after)) : Q a after := by
  rw [Leads, hm] at h; exact h

theorem Leads.error {fault : Fault} (h : Leads m page Q E) (hm : m.run.run page = (.error fault, after)) :
    E fault after := by
  rw [Leads, hm] at h; exact h

theorem run_eq {result : Except Fault α} (h : (m.run.run page).1 = result) :
    m.run.run page = (result, (m.run.run page).2) :=
  Prod.ext h rfl

/-- What holds of the page in both cases holds of it in the end. -/
theorem Leads.always {P : Page → Prop} (h : Leads m page (fun _ => P) fun _ => P) :
    P (m.run.run page).2 := by
  rcases hm : m.run.run page with ⟨fault | a, after⟩
  · exact h.error hm
  · exact h.ok hm

/-! ## Single steps -/

theorem leads_pure {a : α} : Leads (pure a) page Q E ↔ Q a page := Iff.rfl

theorem leads_throw {fault : Fault} : Leads (throw fault : Edit α) page Q E ↔ E fault page := Iff.rfl

theorem run_bind : (m >>= f).run.run page = match m.run.run page with
    | (.ok a, after) => (f a).run.run after
    | (.error fault, after) => (.error fault, after) := by
  simp only [ExceptT.run_bind, StateT.run_bind]
  rcases m.run.run page with ⟨fault | a, after⟩ <;> rfl

/-- A sequence ends with a result if both its parts do. -/
theorem run_bind_ok {b : β} : (m >>= f).run.run page = (.ok b, after) ↔
    ∃ a mid, m.run.run page = (.ok a, mid) ∧ (f a).run.run mid = (.ok b, after) := by
  rw [run_bind]
  rcases m.run.run page with ⟨fault | a, mid⟩
  · exact ⟨nofun, fun ⟨_, _, h, _⟩ => nomatch h⟩
  · exact ⟨fun h => ⟨a, mid, rfl, h⟩, fun ⟨_, _, h, h'⟩ => by cases h; exact h'⟩

theorem leads_bind :
    Leads (m >>= f) page R E ↔ Leads m page (fun a after => Leads (f a) after R E) E := by
  unfold Leads
  rw [run_bind]
  rcases m.run.run page with ⟨fault | a, after⟩ <;> rfl

theorem leads_slide {Q : Slide → Page → Prop} : Leads slide page Q E ↔ Q page.slide page := Iff.rfl

theorem leads_setSlide {sl : Slide} {Q : Unit → Page → Prop} :
    Leads (setSlide sl) page Q E ↔ Q () { page with slide := sl } := Iff.rfl

theorem leads_note {level : LogLevel} {text : String} {Q : Unit → Page → Prop} :
    Leads (note level text) page Q E ↔ Q () (page.noted level text) := Iff.rfl

theorem leads_refuse {r : Refusal} : Leads (refuse r : Edit α) page Q E ↔ E (.refused r) page := Iff.rfl

theorem leads_ofNumber {x : Except NumberFault α} :
    Leads (ofNumber x) page Q E ↔
      (∀ a, x = .ok a → Q a page) ∧ ∀ fault, x = .error fault → E (.number fault) page := by
  cases x with
  | ok a => exact ⟨fun h => ⟨fun _ e => Except.ok.inj e ▸ h, nofun⟩, fun h => h.1 a rfl⟩
  | error fault => exact ⟨fun h => ⟨nofun, fun _ e => Except.error.inj e ▸ h⟩, fun h => h.2 fault rfl⟩

theorem leads_orFault {x : Except Fault α} :
    Leads (orFault x) page Q E ↔
      (∀ a, x = .ok a → Q a page) ∧ ∀ fault, x = .error fault → E fault page := by
  cases x with
  | ok a => exact ⟨fun h => ⟨fun _ e => Except.ok.inj e ▸ h, nofun⟩, fun h => h.1 a rfl⟩
  | error fault => exact ⟨fun h => ⟨nofun, fun _ e => Except.error.inj e ▸ h⟩, fun h => h.2 fault rfl⟩

theorem leads_shape {id : ShapeId} {Q : Shape → Page → Prop} :
    Leads (shape id) page Q E ↔
      (∀ s, page.slide.shape? id = some s → Q s page) ∧
        (page.slide.shape? id = none → E (.noShape (some id)) page) := by
  rw [shape, leads_bind, leads_slide]
  cases page.slide.shape? id with
  | none => simp only [leads_throw, reduceCtorEq, false_imp_iff, implies_true, true_and, true_imp_iff]
  | some s => simp only [leads_pure, Option.some.injEq, forall_eq', reduceCtorEq, false_imp_iff, and_true]

theorem leads_change {id : ShapeId} {g : Shape → Shape} {Q : Unit → Page → Prop} :
    Leads (change id g) page Q E ↔ Q () { page with slide := page.slide.modify id g } := by
  rw [change, leads_bind, leads_slide, leads_setSlide]

theorem leads_add {title : String} {form : Form} {Q : ShapeId → Page → Prop} :
    Leads (add title form) page Q E ↔
      Q page.slide.nextId { page with slide := page.slide.add title form } := by
  rw [add, leads_bind, leads_slide, leads_bind, leads_setSlide, leads_pure]

theorem leads_requireStorable {text : String} {Q : Unit → Page → Prop}
    (hQ : text.toList.all Text.isStorable → Q () page) (hE : E .notStorable page) :
    Leads (requireStorable text) page Q E := by
  unfold requireStorable
  split
  · next h => exact hQ h
  · exact hE

theorem leads_box {id : ShapeId} {Q : Box Float → Page → Prop} (hQ : ∀ b, Q b page)
    (hE : ∀ fault, (∀ r, fault ≠ .refused r) → E fault page) : Leads (box id) page Q E := by
  rw [box, leads_bind, leads_shape]
  refine ⟨fun s _ => leads_ofNumber.2 ⟨fun b _ => hQ b, fun _ _ => hE _ nofun⟩, fun _ => hE _ nofun⟩

theorem leads_select {id : ShapeId} {additive : Bool} {Q : Unit → Page → Prop} :
    Leads (select id additive) page Q E ↔
      Q () { page with
        selection := if additive then Outline.insertLast page.selection id else [id] } := Iff.rfl

/-! ## Loops -/

theorem leads_mapM {g : α → Edit β} (I : List α → List β → Page → Prop)
    (step : ∀ x rest done page, I (x :: rest) done page →
      Leads (g x) page (fun b => I rest (done ++ [b])) E) :
    ∀ {xs : List α} {page : Page}, I xs [] page → Leads (xs.mapM g) page (I []) E := by
  have go : ∀ (xs : List α) (done : List β) (page : Page), I xs done page →
      Leads (xs.mapM g) page (fun more => I [] (done ++ more)) E := by
    intro xs
    induction xs with
    | nil =>
      intro done page h
      rw [List.mapM_nil, leads_pure, List.append_nil]
      exact h
    | cons x xs ih =>
      intro done page h
      rw [List.mapM_cons, leads_bind]
      refine (step x xs done page h).mono (fun b after hb => ?_) fun _ _ h => h
      rw [leads_bind]
      refine (ih _ after hb).mono (fun more after h => ?_) fun _ _ h => h
      rw [leads_pure]
      simpa using h
  intro xs page h
  exact go xs [] page h

theorem run_mapM_concat {g : α → Edit β} {xs : List α} {x : α} {bs : List β} {b : β} {page mid after : Page}
    (hxs : (xs.mapM g).run.run page = (.ok bs, mid)) (hx : (g x).run.run mid = (.ok b, after)) :
    ((xs ++ [x]).mapM g).run.run page = (.ok (bs ++ [b]), after) := by
  rw [List.mapM_append]
  refine run_bind_ok.2 ⟨bs, mid, hxs, run_bind_ok.2 ⟨[b], after, ?_, rfl⟩⟩
  rw [List.mapM_cons]
  exact run_bind_ok.2 ⟨b, after, hx, rfl⟩

theorem leads_forM {g : α → Edit Unit} (I : List α → Page → Prop)
    (step : ∀ x rest page, I (x :: rest) page → Leads (g x) page (fun _ => I rest) E) :
    ∀ {xs : List α} {page : Page}, I xs page → Leads (xs.forM g) page (fun _ => I []) E := by
  intro xs
  induction xs with
  | nil => exact fun h => h
  | cons x xs ih =>
    intro page h
    exact leads_bind.2 ((step x xs page h).mono (fun _ _ h => ih h) fun _ _ h => h)

theorem leads_foldlM {g : β → α → Edit β} (I : List α → β → Page → Prop)
    (step : ∀ x rest b page, I (x :: rest) b page → Leads (g b x) page (I rest) E) :
    ∀ {xs : List α} {b : β} {page : Page}, I xs b page → Leads (xs.foldlM g b) page (I []) E := by
  intro xs
  induction xs with
  | nil => exact fun h => h
  | cons x xs ih =>
    intro b page h
    rw [List.foldlM_cons, leads_bind]
    exact (step x xs b page h).mono (fun _ _ h => ih h) fun _ _ h => h

/-- A loop keeps what each of its rounds keeps, wherever it ends. -/
theorem leads_forIn {g : α → Unit → Edit (ForInStep Unit)} (I : Page → Prop)
    (step : ∀ x page, I page → Leads (g x ()) page (fun _ => I) E) :
    ∀ {xs : List α} {page : Page}, I page → Leads (forIn xs () g) page (fun _ => I) E := by
  intro xs
  induction xs with
  | nil => exact fun h => h
  | cons x xs ih =>
    intro page h
    rw [List.forIn_cons, leads_bind]
    refine (step x page h).mono (fun next after h => ?_) fun _ _ h => h
    cases next with
    | done => exact h
    | yield => exact ih h

end

-- From here on edits are followed step by step, never run as a whole.
attribute [irreducible] Leads

end FlowDeck.Edit
