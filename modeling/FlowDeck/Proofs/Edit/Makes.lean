import FlowDeck.Proofs.Edit.Reads

/-!
# What becomes of a slide

Most properties of edits are about the slide alone. `Makes` says what an edit makes of it, without
the selection and the log.
-/

namespace FlowDeck.Edit

variable {α β : Type} {m : Edit α} {f : α → Edit β} {sl : Slide}
variable {Q Q' : α → Slide → Prop} {R : β → Slide → Prop} {E E' : Slide → Prop}

/-- On this slide, the edit ends with a result and a slide that satisfy `Q`, or with a fault and a
slide that satisfies `E`. -/
structure Makes (m : Edit α) (sl : Slide) (Q : α → Slide → Prop) (E : Slide → Prop) : Prop where
  leads : ∀ page, page.slide = sl →
    Leads m page (fun a after => Q a after.slide) fun _ after => E after.slide

theorem Makes.mono (h : Makes m sl Q E) (hQ : ∀ a after, Q a after → Q' a after)
    (hE : ∀ after, E after → E' after) : Makes m sl Q' E' where
  leads page hp := (h.leads page hp).mono (fun a _ h => hQ a _ h) fun _ _ h => hE _ h

theorem Makes.bind (hm : Makes m sl Q E) (hf : ∀ a after, Q a after → Makes (f a) after R E) :
    Makes (m >>= f) sl R E where
  leads page hp := leads_bind.2 ((hm.leads page hp).mono (fun a after h => (hf a _ h).leads after rfl)
    fun _ _ h => h)

/-- Whatever is followed twice ends the same way. -/
theorem Makes.and {E'' : Slide → Prop} (h : Makes m sl Q E) (h' : Makes m sl Q' E'') :
    Makes m sl (fun a after => Q a after ∧ Q' a after) fun after => E after ∧ E'' after where
  leads page hp := (h.leads page hp).and (h'.leads page hp)

/-- What holds of the slide in both cases holds of it in the end. -/
theorem Makes.always (h : Makes m sl (fun _ => E) E) {page : Page} (hp : page.slide = sl) :
    E (m.run.run page).2.slide :=
  Leads.always (P := fun after => E after.slide) (h.leads page hp)

/-- An edit that does not fault comes to a result. -/
theorem Makes.ended (h : Makes m sl Q E) {page : Page} (hp : page.slide = sl)
    (hf : ¬∃ fault, (m.run.run page).1 = .error fault) : ∃ a, Q a (m.run.run page).2.slide := by
  cases hr : (m.run.run page).1 with
  | error fault => exact absurd ⟨fault, hr⟩ hf
  | ok a => exact ⟨a, (h.leads page hp).ok (run_eq hr)⟩

/-- An edit that cannot fault comes to a result. -/
theorem Makes.runs (h : Makes m sl Q fun _ => False) {page : Page} (hp : page.slide = sl) :
    ∃ a last, m.run.run page = (.ok a, last) ∧ Q a last.slide := by
  rcases hm : m.run.run page with ⟨fault | a, last⟩
  · exact ((h.leads page hp).error hm).elim
  · exact ⟨a, last, rfl, (h.leads page hp).ok hm⟩

/-- An edit that cannot come to a result faults. -/
theorem Makes.faults (h : Makes m sl (fun _ _ => False) E) {page : Page} (hp : page.slide = sl) :
    ∃ fault last, m.run.run page = (.error fault, last) ∧ E last.slide := by
  rcases hm : m.run.run page with ⟨fault | a, last⟩
  · exact ⟨fault, last, rfl, (h.leads page hp).error hm⟩
  · exact ((h.leads page hp).ok hm).elim

/-- Where results and faults tell by a condition which of them there is. -/
theorem Makes.faults_iff {P : Prop} {page : Page} (h : Makes m page.slide (fun _ _ => P) fun _ => ¬P) :
    (∃ fault, (m.run.run page).1 = .error fault) ↔ ¬P := by
  constructor
  · intro ⟨fault, hr⟩
    exact (h.leads page rfl).error (run_eq hr)
  · intro hP
    cases hr : (m.run.run page).1 with
    | error fault => exact ⟨fault, rfl⟩
    | ok a => exact absurd ((h.leads page rfl).ok (run_eq hr)) hP

/-- What is not looked at. -/
theorem makes_any {P : Prop} (h : P) : Makes m sl (fun _ _ => P) fun _ => True where
  leads page hp := by
    unfold Leads
    rcases m.run.run page with ⟨fault | a, last⟩
    · trivial
    · exact h

theorem makes_then (hf : ∀ a after, Makes (f a) after R fun _ => True) : Makes (m >>= f) sl R fun _ => True :=
  (makes_any trivial).bind fun a after _ => hf a after

theorem Reads.makes (hm : Reads m) (hE : E sl) (hQ : ∀ a, Q a sl) : Makes m sl Q E where
  leads page hp := (hm.leads page).mono (fun a after h => by rw [h.1, hp]; exact hQ a)
    fun _ after h => by rw [h.1, hp]; exact hE

theorem makes_pure {a : α} (h : Q a sl) : Makes (pure a) sl Q E where
  leads _ hp := leads_pure.2 (hp.symm ▸ h)

theorem makes_throw {fault : Fault} (h : E sl) : Makes (throw fault) sl Q E where
  leads _ hp := leads_throw.2 (hp.symm ▸ h)

theorem makes_refuse {r : Refusal} (h : E sl) : Makes (refuse r) sl Q E where
  leads _ hp := leads_refuse.2 (hp.symm ▸ h)

theorem Makes.ite {c : Prop} [Decidable c] {m' : Edit α} (h : c → Makes m sl Q E) (h' : ¬c → Makes m' sl Q E) :
    Makes (if c then m else m') sl Q E := by
  split
  · next hc => exact h hc
  · next hc => exact h' hc

/-- What is done if it is not refused. -/
theorem Makes.unless {c : Prop} [Decidable c] {r : Refusal} {rest : Unit → Edit β} (hE : E sl)
    (h : ¬c → Makes (rest ()) sl R E) : Makes (if c then refuse r >>= rest else rest ()) sl R E :=
  .ite (fun _ => (makes_refuse (Q := fun _ _ => False) hE).bind fun _ _ h => h.elim) h

theorem Makes.guard {c : Prop} [Decidable c] {r : Refusal} {rest : Unit → Edit β} (hE : E sl)
    (h : Makes (rest ()) sl R E) : Makes (if c then refuse r >>= rest else rest ()) sl R E :=
  .unless hE fun _ => h

theorem makes_setSlide {new : Slide} {Q : Unit → Slide → Prop} (h : Q () new) :
    Makes (setSlide new) sl Q E where
  leads _ _ := leads_setSlide.2 h

theorem makes_note {level : LogLevel} {text : String} {Q : Unit → Slide → Prop} (h : Q () sl) :
    Makes (note level text) sl Q E where
  leads _ hp := leads_note.2 (hp.symm ▸ h)

theorem makes_change {id : ShapeId} {g : Shape → Shape} {Q : Unit → Slide → Prop}
    (h : Q () (sl.modify id g)) : Makes (change id g) sl Q E where
  leads _ hp := leads_change.2 (hp.symm ▸ h)

theorem makes_select {id : ShapeId} {additive : Bool} {Q : Unit → Slide → Prop} (h : Q () sl) :
    Makes (select id additive) sl Q E where
  leads _ hp := leads_select.2 (hp.symm ▸ h)

theorem makes_add {title : String} {form : Form} {Q : ShapeId → Slide → Prop}
    (h : Q sl.nextId (sl.add title form)) : Makes (add title form) sl Q E where
  leads _ hp := leads_add.2 (hp.symm ▸ h)

/-! ## Asking -/

/-- On this slide, the edit changes nothing of it, and its result, if there is one, satisfies `V`. -/
structure Asks (m : Edit α) (sl : Slide) (V : α → Prop) : Prop where
  makes : Makes m sl (fun a after => after = sl ∧ V a) (· = sl)

theorem Asks.followed {V : α → Prop} (hm : Asks m sl V) (hE : E sl) (hf : ∀ a, V a → Makes (f a) sl R E) :
    Makes (m >>= f) sl R E :=
  (hm.makes.mono (fun _ _ h => h) fun _ h => h ▸ hE).bind fun a _ h => h.1 ▸ hf a h.2

theorem Asks.bind {V : α → Prop} {W : β → Prop} (hm : Asks m sl V) (hf : ∀ a, V a → Asks (f a) sl W) :
    Asks (m >>= f) sl W :=
  ⟨hm.followed rfl fun a h => (hf a h).makes⟩

theorem Asks.mono {V W : α → Prop} (h : Asks m sl V) (hV : ∀ a, V a → W a) : Asks m sl W :=
  ⟨h.makes.mono (fun a _ h => ⟨h.1, hV a h.2⟩) fun _ h => h⟩

theorem Reads.asks (hm : Reads m) : Asks m sl fun _ => True :=
  ⟨hm.makes rfl fun _ => ⟨rfl, trivial⟩⟩

theorem Reads.followed (hm : Reads m) (hE : E sl) (hf : ∀ a, Makes (f a) sl R E) : Makes (m >>= f) sl R E :=
  hm.asks.followed hE fun a _ => hf a

theorem asks_pure {a : α} {V : α → Prop} (h : V a) : Asks (pure a) sl V :=
  ⟨makes_pure ⟨rfl, h⟩⟩

theorem asks_refuse {r : Refusal} {V : α → Prop} : Asks (refuse r) sl V :=
  ⟨makes_refuse rfl⟩

theorem asks_slide : Asks slide sl (· = sl) :=
  ⟨⟨fun _ hp => leads_slide.2 ⟨hp, hp⟩⟩⟩

theorem asks_ofNumber {x : Except NumberFault α} : Asks (ofNumber x) sl fun a => x = .ok a :=
  ⟨⟨fun _ hp => leads_ofNumber.2 ⟨fun _ h => ⟨hp, h⟩, fun _ _ => hp⟩⟩⟩

theorem asks_orFault {x : Except Fault α} : Asks (orFault x) sl fun a => x = .ok a :=
  ⟨⟨fun _ hp => leads_orFault.2 ⟨fun _ h => ⟨hp, h⟩, fun _ _ => hp⟩⟩⟩

/-- The shape that is found is the first of its number. -/
theorem asks_shape? {id : ShapeId} : Asks (shape id) sl fun s => sl.shape? id = some s :=
  ⟨⟨fun _ hp => leads_shape.2 ⟨fun _ hs => ⟨hp, hp ▸ hs⟩, fun _ => hp⟩⟩⟩

theorem asks_box {id : ShapeId} : Asks (box id) sl fun b => ∃ s, sl.shape? id = some s ∧ s.box.pixels = .ok b :=
  asks_shape?.bind fun s hs => asks_ofNumber.mono fun _ hb => ⟨s, hs, hb⟩

theorem asks_outline : Asks outline sl (· = sl.outline) :=
  asks_slide.bind fun _ h => asks_pure (h ▸ rfl)

theorem asks_descriptor? {id : ShapeId} : Asks (descriptor? id) sl (· = sl.descriptorOf? id) :=
  asks_shape?.bind fun s hs => asks_pure (by rw [Slide.descriptorOf?, hs, Option.bind_some])

/-- A node that is asked for is on the slide. -/
theorem asks_requireNode {node : Option ShapeId} :
    Asks (requireNode node) sl fun id => node = some id ∧ sl.hasNode id := by
  unfold requireNode
  cases node with
  | none => exact asks_refuse
  | some id =>
    refine asks_slide.bind fun now h => ?_
    split
    · next hn => exact asks_pure ⟨rfl, h ▸ hn⟩
    · exact asks_refuse

/-! What is asked for may be known to be there, so it counts on what condition there is no answer. -/

theorem Makes.followed {V : α → Prop} (hm : Makes m sl (fun a after => V a ∧ after = sl) E')
    (hE : ∀ after, E' after → E after) (hf : ∀ a, V a → Makes (f a) sl R E) : Makes (m >>= f) sl R E := by
  refine (hm.mono (fun _ _ h => h) hE).bind ?_
  rintro a _ ⟨ha, rfl⟩
  exact hf a ha

theorem makes_ofNumber {x : Except NumberFault α} :
    Makes (ofNumber x) sl (fun a after => x = .ok a ∧ after = sl) fun after => (∀ a, x ≠ .ok a) ∧ after = sl where
  leads _ hp := leads_ofNumber.2 ⟨fun _ h => ⟨h, hp⟩, fun _ h => ⟨fun _ ha => (nomatch h.symm.trans ha), hp⟩⟩

theorem makes_shape {id : ShapeId} : Makes (shape id) sl (fun s after => sl.shape? id = some s ∧ after = sl)
    fun after => sl.shape? id = none ∧ after = sl where
  leads _ hp := leads_shape.2 ⟨fun _ hs => ⟨hp ▸ hs, hp⟩, fun h => ⟨hp ▸ h, hp⟩⟩

/-- The outline can always be read. -/
theorem makes_outline : Makes outline sl (fun outline after => outline = sl.outline ∧ after = sl) E where
  leads page hp := by
    rw [outline, leads_bind, leads_slide, leads_pure]
    exact ⟨hp ▸ rfl, hp⟩

/-! ## Loops -/

theorem makes_mapM {g : α → Edit β} (I : List α → List β → Slide → Prop)
    (step : ∀ x rest done sl, I (x :: rest) done sl → Makes (g x) sl (fun b => I rest (done ++ [b])) E)
    {xs : List α} (h : I xs [] sl) : Makes (xs.mapM g) sl (I []) E where
  leads _ hp := leads_mapM (fun rest done page => I rest done page.slide)
    (fun x rest done page h => (step x rest done page.slide h).leads page rfl) (hp.symm ▸ h)

/-- What a loop keeps may depend on what it has still to go through. -/
theorem makes_foldlM_rest {g : β → α → Edit β} (I : List α → β → Slide → Prop)
    (step : ∀ x rest b sl, I (x :: rest) b sl → Makes (g b x) sl (I rest) E)
    {xs : List α} {b : β} (h : I xs b sl) : Makes (xs.foldlM g b) sl (I []) E where
  leads _ hp := leads_foldlM (fun rest b page => I rest b page.slide)
    (fun x rest b page h => (step x rest b page.slide h).leads page rfl) (hp.symm ▸ h)

theorem makes_foldlM {g : β → α → Edit β} (I : β → Slide → Prop)
    (step : ∀ b x sl, I b sl → Makes (g b x) sl I E)
    {xs : List α} {b : β} (h : I b sl) : Makes (xs.foldlM g b) sl I E :=
  makes_foldlM_rest (fun _ => I) (fun x _ b sl h => step b x sl h) h

/-! What a loop has come to may depend on what it has gone through. -/

theorem makes_mapM_done {g : α → Edit β} {xs : List α} (I : List α → List β → Slide → Prop)
    (step : ∀ done bs, ∀ x ∈ xs, ∀ sl, I done bs sl → Makes (g x) sl (fun b => I (done ++ [x]) (bs ++ [b])) E)
    (h : I [] [] sl) : Makes (xs.mapM g) sl (I xs) E := by
  refine (makes_mapM (fun rest bs now => ∃ done, done ++ rest = xs ∧ I done bs now) ?_ ⟨[], rfl, h⟩).mono
    (fun bs after ⟨done, he, h⟩ => ?_) fun _ h => h
  · intro x rest bs now ⟨done, he, h⟩
    refine (step done bs x (by simp [← he]) now h).mono (fun b after h => ?_) fun _ h => h
    exact ⟨done ++ [x], by rw [List.append_assoc]; exact he, h⟩
  · rw [List.append_nil] at he
    exact he ▸ h

theorem makes_mapM_singleton {g : α → Edit β} {x : α} {Q : β → Slide → Prop} (h : Makes (g x) sl Q E) :
    Makes ([x].mapM g) sl (fun bs after => ∃ b, bs = [b] ∧ Q b after) E := by
  rw [List.mapM_cons]
  refine h.bind fun b after hb => ?_
  rw [List.mapM_nil, pure_bind]
  exact makes_pure ⟨b, rfl, hb⟩

theorem makes_foldlM_done {g : β → α → Edit β} (I : List α → β → Slide → Prop)
    (step : ∀ done x b sl, I done b sl → Makes (g b x) sl (I (done ++ [x])) E)
    {xs : List α} {b : β} (h : I [] b sl) : Makes (xs.foldlM g b) sl (I xs) E := by
  refine (makes_foldlM_rest (fun rest b now => ∃ done, done ++ rest = xs ∧ I done b now) ?_ ⟨[], rfl, h⟩).mono
    (fun b after ⟨done, he, h⟩ => ?_) fun _ h => h
  · intro x rest b now ⟨done, he, h⟩
    refine (step done x b now h).mono (fun b after h => ?_) fun _ h => h
    exact ⟨done ++ [x], by rw [List.append_assoc]; exact he, h⟩
  · rw [List.append_nil] at he
    exact he ▸ h

theorem makes_forIn {g : α → Unit → Edit (ForInStep Unit)} (I : Slide → Prop)
    (step : ∀ x sl, I sl → Makes (g x ()) sl (fun _ => I) E)
    {xs : List α} (h : I sl) : Makes (forIn xs () g) sl (fun _ => I) E where
  leads _ hp := leads_forIn (fun page => I page.slide) (fun x page h => (step x page.slide h).leads page rfl)
    (hp.symm ▸ h)

end FlowDeck.Edit
