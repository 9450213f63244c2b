import FlowDeck.Deck.Drawing
import FlowDeck.Deck.Memo
import FlowDeck.Proofs.Text.Pieces

/-!
# Labels are no descriptors

A label that is not meant as a descriptor is not taken for one inside a shape, whatever becomes of
its control characters, and however much of it is left when it cannot be stored.
-/

namespace FlowDeck.Text

open FlowDeck.Record (opening)

variable {p : Char → Bool} {s t w : List Char}

theorem opening_eq : opening = ['g', 'r', 'a', 'p', 'h', '['] := by decide

/-- A word that ends in a character that stays is not cut by trimming what follows it. -/
theorem prefix_rdropWhile {c : Char} (hc : p c = false) (h : w ++ [c] <+: s) : w ++ [c] <+: s.rdropWhile p := by
  obtain ⟨rest, rfl⟩ := h
  induction rest using List.reverseRecOn with
  | nil =>
    have kept : (w ++ [c]).rdropWhile p = w ++ [c] := List.rdropWhile_concat_neg _ _ _ (by simp [hc])
    simp [kept]
  | append_singleton rest d ih =>
    rw [← List.append_assoc]
    cases hd : p d with
    | true => rwa [List.rdropWhile_concat_pos _ _ _ hd]
    | false =>
      rw [List.rdropWhile_concat_neg _ _ _ (by simp [hd]), List.append_assoc]
      exact List.prefix_append _ _

theorem looksLike_iff {text : String} :
    Descriptor.looksLike text = true ↔ opening <+: text.toList.dropWhile isBlank := by
  rw [Descriptor.looksLike, List.isPrefixOf_iff_prefix, strip, trim_eq]
  exact ⟨fun h => h.trans (List.rdropWhile_prefix _ _),
    fun h => by
      rw [opening_eq] at h ⊢
      exact prefix_rdropWhile (w := ['g', 'r', 'a', 'p', 'h']) (c := '[') (by decide) h⟩

theorem prefix_dropWhile (h : s <+: t) (hne : s.dropWhile p ≠ []) : s.dropWhile p <+: t.dropWhile p := by
  obtain ⟨rest, rfl⟩ := h
  induction s with
  | nil => exact absurd rfl hne
  | cons c s ih =>
    rw [List.cons_append]
    cases hc : p c with
    | true =>
      rw [List.dropWhile_cons_of_pos hc] at hne ⊢
      rw [List.dropWhile_cons_of_pos hc]
      exact ih hne
    | false =>
      rw [List.dropWhile_cons_of_neg (by simp [hc]), List.dropWhile_cons_of_neg (by simp [hc])]
      exact List.prefix_append _ _

/-- A control character is written by a code that begins with a low line; others stand for themselves. -/
theorem encodeControl_cases (c : Char) : encodeControl c = [c] ∨ ∃ code, encodeControl c = '_' :: code := by
  unfold encodeControl
  split
  · exact .inr ⟨_, rfl⟩
  · exact .inl rfl

theorem encodeControls_cons (c : Char) (s : List Char) :
    encodeControls (c :: s) = encodeControl c ++ encodeControls s := rfl

/-- A word without a low line is not made of codes. -/
theorem prefix_of_encodeControls (hw : '_' ∉ w) (h : w <+: encodeControls s) : w <+: s := by
  induction s generalizing w with
  | nil => exact h
  | cons c s ih =>
    cases w with
    | nil => exact List.nil_prefix
    | cons a w =>
      rw [encodeControls_cons] at h
      rcases encodeControl_cases c with he | ⟨code, he⟩ <;> rw [he, List.cons_append, List.cons_prefix_cons] at h
      · obtain ⟨rfl, h⟩ := h
        exact List.cons_prefix_cons.2 ⟨rfl, ih (fun hm => hw (List.mem_cons_of_mem _ hm)) h⟩
      · exact absurd (h.1 ▸ List.mem_cons_self) hw

theorem opening_of_encodeControls (h : opening <+: (encodeControls s).dropWhile isBlank) :
    opening <+: s.dropWhile isBlank := by
  induction s with
  | nil => exact h
  | cons c s ih =>
    rw [encodeControls_cons] at h
    rcases encodeControl_cases c with he | ⟨code, he⟩ <;> rw [he, List.cons_append] at h
    · rw [List.nil_append] at h
      cases hc : isBlank c with
      | true =>
        rw [List.dropWhile_cons_of_pos hc] at h ⊢
        exact ih h
      | false =>
        rw [List.dropWhile_cons_of_neg (by simp [hc]), opening_eq, List.cons_prefix_cons] at h ⊢
        exact ⟨h.1, prefix_of_encodeControls (by decide) h.2⟩
    · rw [List.dropWhile_cons_of_neg (by decide), opening_eq, List.cons_prefix_cons] at h
      exact absurd h.1 (by decide)

theorem looksLike_encodeControls {text : String} (h : Descriptor.looksLike text = false) :
    Descriptor.looksLike (String.ofList (encodeControls text.toList)) = false := by
  rw [Bool.eq_false_iff, ne_eq, looksLike_iff] at h ⊢
  rw [String.toList_ofList]
  exact fun he => h (opening_of_encodeControls he)

/-- What is left of a text of which the end is missing is no descriptor either. -/
theorem looksLike_of_prefix {text : String} (hs : s <+: encodeControls text.toList)
    (h : Descriptor.looksLike text = false) : Descriptor.looksLike (String.ofList s) = false := by
  rw [Bool.eq_false_iff, ne_eq, looksLike_iff] at h ⊢
  rw [String.toList_ofList]
  intro he
  have hne : s.dropWhile isBlank ≠ [] := fun hn => absurd (hn ▸ he) (by decide)
  exact h (opening_of_encodeControls (he.trans (prefix_dropWhile hs hne)))

theorem looksLike_strip {s : List Char} :
    Descriptor.looksLike (String.ofList (strip s)) = Descriptor.looksLike (String.ofList s) := by
  rw [Descriptor.looksLike, Descriptor.looksLike, String.toList_ofList, String.toList_ofList, strip_strip]

end FlowDeck.Text

namespace FlowDeck

theorem Body.looksLike_ofText {text : String} {colour : Option Rgb}
    (h : Descriptor.looksLike text = false) : Descriptor.looksLike (Body.ofText text colour).text = false :=
  Text.looksLike_encodeControls h

end FlowDeck
