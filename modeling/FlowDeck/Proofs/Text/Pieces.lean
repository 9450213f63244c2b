import FlowDeck.Text.Blank
import Mathlib.Data.List.DropRight

/-!
# Pieces of a text

Stripping cuts at the ends only: what is left is a stretch of the text, and a text is left alone
when neither its first nor its last character is white space. Splitting at a mark gives
pieces of the text without the mark.
-/

namespace FlowDeck.Text

variable {p : Char → Bool} {s t : List Char} {c : Char}

theorem trim_eq (p : Char → Bool) (s : List Char) : trim p s = (s.dropWhile p).rdropWhile p := rfl

/-! ## What is left -/

theorem trim_infix : trim p s <:+: s :=
  (List.rdropWhile_prefix p _).isInfix.trans (List.dropWhile_suffix p).isInfix

theorem mem_of_mem_trim (h : c ∈ trim p s) : c ∈ s :=
  trim_infix.subset h

/-- The first character that is left is the first one that stays at the front. -/
theorem head?_trim (h : (trim p s).head? = some c) : p c = false := by
  rw [trim_eq] at h
  have hd : (s.dropWhile p).head? = some c := by
    obtain ⟨t, ht⟩ := List.rdropWhile_prefix p (s.dropWhile p)
    rw [← ht, List.head?_append, h]; rfl
  have := List.head?_dropWhile_not p s
  rw [hd] at this
  simpa using this

theorem getLast?_trim (h : (trim p s).getLast? = some c) : p c = false := by
  rw [trim_eq] at h
  have hne : (s.dropWhile p).rdropWhile p ≠ [] := by rintro hnil; simp [hnil] at h
  rw [List.getLast?_eq_some_getLast hne, Option.some.injEq] at h
  subst h
  simpa using List.rdropWhile_last_not p (s.dropWhile p) hne

theorem trim_eq_self (hf : ∀ c, s.head? = some c → p c = false)
    (hl : ∀ c, s.getLast? = some c → p c = false) : trim p s = s := by
  have hd : s.dropWhile p = s := by
    cases s with
    | nil => rfl
    | cons c s => exact List.dropWhile_cons_of_neg (by simp [hf c rfl])
  rw [trim_eq, hd, List.rdropWhile_eq_self_iff]
  intro hne
  simp [hl _ (List.getLast?_eq_some_getLast hne)]

theorem trim_trim : trim p (trim p s) = trim p s :=
  trim_eq_self (fun _ h => head?_trim h) fun _ h => getLast?_trim h

/-- What stands between two characters that stay is left alone, whatever it is. -/
theorem trim_bracketed {a b : Char} (ha : p a = false) (hb : p b = false) :
    trim p (a :: s ++ [b]) = a :: s ++ [b] := by
  refine trim_eq_self (fun c hc => ?_) fun c hc => ?_
  · obtain rfl : a = c := by simpa using hc
    exact ha
  · obtain rfl : b = c := by simpa [List.getLast?_cons] using hc
    exact hb

theorem strip_strip : strip (strip s) = strip s := trim_trim

theorem mem_of_mem_strip (h : c ∈ strip s) : c ∈ s := mem_of_mem_trim h

/-! ## Splitting at a mark -/

theorem mem_splitOn {m : Char} {piece : List Char} (h : piece ∈ s.splitOn m) :
    m ∉ piece ∧ ∀ c ∈ piece, c ∈ s := by
  induction s generalizing piece with
  | nil =>
    obtain rfl : piece = [] := by simpa using h
    simp
  | cons d s ih =>
    rw [List.splitOn_cons_eq_if_modifyHead] at h
    by_cases hd : d = m
    · simp only [hd, beq_self_eq_true, if_true, List.mem_cons] at h
      rcases h with rfl | h
      · simp
      · exact ⟨(ih h).1, fun c hc => List.mem_cons_of_mem _ ((ih h).2 c hc)⟩
    · -- The first piece of the rest begins with the character as well.
      obtain ⟨first, others, hs⟩ := List.exists_cons_of_ne_nil (List.splitOn_ne_nil m s)
      simp only [beq_iff_eq, hd, if_false, hs, List.modifyHead_cons, List.mem_cons] at h
      rcases h with rfl | h
      · have hf : m ∉ first ∧ ∀ c ∈ first, c ∈ s := ih (by simp [hs])
        refine ⟨?_, fun c hc => ?_⟩
        · simpa [Ne.symm hd] using hf.1
        · rcases List.mem_cons.1 hc with rfl | hc
          · exact List.mem_cons_self
          · exact List.mem_cons_of_mem _ (hf.2 c hc)
      · have ho : m ∉ piece ∧ ∀ c ∈ piece, c ∈ s := ih (by simp [hs, h])
        exact ⟨ho.1, fun c hc => List.mem_cons_of_mem _ (ho.2 c hc)⟩

theorem mem_intercalate {sep : List Char} : ∀ {pieces : List (List Char)},
    c ∈ sep.intercalate pieces → c ∈ sep ∨ ∃ piece ∈ pieces, c ∈ piece
  | [], h => by simp at h
  | [piece], h => .inr ⟨piece, by simp, by simpa using h⟩
  | first :: second :: others, h => by
    rw [List.intercalate_cons_cons, List.mem_append, List.mem_append] at h
    rcases h with (h | h) | h
    · exact .inr ⟨first, by simp, h⟩
    · exact .inl h
    · rcases mem_intercalate h with h | ⟨piece, hp, hc⟩
      · exact .inl h
      · exact .inr ⟨piece, List.mem_cons_of_mem _ hp, hc⟩

end FlowDeck.Text
