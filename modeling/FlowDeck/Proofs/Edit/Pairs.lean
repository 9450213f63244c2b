import FlowDeck.Proofs.Edit.Makes

/-!
# Two edits of one page

Two edits that begin alike come to the same page, as long as they do the same. Where they part, each is
followed from there.
-/

namespace FlowDeck.Edit

variable {α β : Type} {m m' : Edit α} {f f' : α → Edit β} {sl : Slide}
variable {Q : α → Slide → Prop} {E E' : Slide → Prop}
variable {R : β → Slide → β → Slide → Prop} {R' : α → Slide → α → Slide → Prop}

/-- If both edits end with a result on a page with this slide, what they come to satisfies `R`. -/
structure Pairs (m m' : Edit α) (sl : Slide) (R : α → Slide → α → Slide → Prop) : Prop where
  ends : ∀ {page after after' : Page} {a a' : α}, page.slide = sl → m.run.run page = (.ok a, after) →
    m'.run.run page = (.ok a', after') → R a after.slide a' after'.slide

theorem Pairs.mono {S : β → Slide → β → Slide → Prop} {n n' : Edit β} (h : Pairs n n' sl R)
    (hR : ∀ b after b' after', R b after b' after' → S b after b' after') : Pairs n n' sl S where
  ends hp hr hr' := hR _ _ _ _ (h.ends hp hr hr')

theorem Makes.pairs (hm : Makes m sl Q E) (hf : ∀ a mid, Q a mid → Pairs (f a) (f' a) mid R) :
    Pairs (m >>= f) (m >>= f') sl R where
  ends hp hr hr' := by
    obtain ⟨a, mid, hma, hfa⟩ := run_bind_ok.1 hr
    obtain ⟨a', mid', hma', hfa'⟩ := run_bind_ok.1 hr'
    obtain ⟨same, rfl⟩ := Prod.mk.inj (hma'.symm.trans hma)
    obtain rfl := Except.ok.inj same
    exact (hf _ _ ((hm.leads _ hp).ok hma)).ends rfl hfa hfa'

theorem Asks.pairs {V : α → Prop} (hm : Asks m sl V) (hf : ∀ a, V a → Pairs (f a) (f' a) sl R) :
    Pairs (m >>= f) (m >>= f') sl R :=
  hm.makes.pairs fun a _ h => h.1 ▸ hf a h.2

theorem Reads.pairs (hm : Reads m) (hf : ∀ a, Pairs (f a) (f' a) sl R) : Pairs (m >>= f) (m >>= f') sl R :=
  hm.asks.pairs fun a _ => hf a

theorem pairs_pure {b b' : β} (h : R b sl b' sl) : Pairs (pure b) (pure b') sl R where
  ends hp hr hr' := by
    cases hr
    cases hr'
    exact hp ▸ h

theorem pairs_refuse (r : Refusal) : Pairs (refuse r) m' sl R' where
  ends _ hr _ := by cases hr

theorem pairs_refused {γ : Type} (r : Refusal) (f f' : γ → Edit β) : Pairs (refuse r >>= f) (refuse r >>= f') sl R where
  ends _ hr _ := by cases hr

theorem Pairs.ite {c : Prop} [Decidable c] {n n' n₂ n₂' : Edit β} (h : c → Pairs n n' sl R)
    (h' : ¬c → Pairs n₂ n₂' sl R) : Pairs (if c then n else n₂) (if c then n' else n₂') sl R := by
  split
  · next hc => exact h hc
  · next hc => exact h' hc

theorem Pairs.guard {c : Prop} [Decidable c] {r : Refusal} {rest rest' : Unit → Edit β}
    (h : Pairs (rest ()) (rest' ()) sl R) :
    Pairs (if c then refuse r >>= rest else rest ()) (if c then refuse r >>= rest' else rest' ()) sl R :=
  .ite (fun _ => pairs_refused r rest rest') fun _ => h

theorem Makes.both {n n' : Edit β} {S S' : β → Slide → Prop} (h : Makes n sl S E) (h' : Makes n' sl S' E')
    (hR : ∀ b after b' after', S b after → S' b' after' → R b after b' after') : Pairs n n' sl R where
  ends hp hr hr' := hR _ _ _ _ ((h.leads _ hp).ok hr) ((h'.leads _ hp).ok hr')

end FlowDeck.Edit
