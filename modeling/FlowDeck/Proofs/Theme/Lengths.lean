import FlowDeck.Proofs.Theme.Colours

/-!
# Which texts are lengths

A length is found in the value of a variable, wherever in it a number of pixels begins first. So a value with
something in front of the number or behind it is a length as well, and not the one that it says.
-/

namespace FlowDeck.Theme

open Text (isDigit)

structure IsPixels (s : List Char) (negative : Bool) (digits : List Char) : Prop where
  digit : ∀ c ∈ digits, isDigit c
  some : digits ≠ []
  text : s = (if negative then ['-'] else []) ++ digits ++ "px".toList

def pixelCount (negative : Bool) (digits : List Char) : Int :=
  if negative then -(Text.number digits : Int) else Text.number digits

structure FirstPixels (value before s after : List Char) (negative : Bool) (digits : List Char) : Prop where
  split : value = before ++ s ++ after
  pixels : IsPixels s negative digits
  first : ∀ before' s' after' negative' digits', value = before' ++ s' ++ after' → IsPixels s' negative' digits' →
    before.length ≤ before'.length

variable {s value digits : List Char} {negative : Bool} {theme : Theme} {name : String}

/-! ## Where a number of pixels begins -/

def unsignedPixels? (s : List Char) : Option (List Char) :=
  let (digits, rest) := Number.takeDigits s
  if digits.isEmpty || !"px".toList.isPrefixOf rest then none else some digits

theorem pixelsHere?_minus : pixelsHere? ('-' :: s) = (unsignedPixels? s).map (true, ·) := by
  unfold pixelsHere? unsignedPixels?
  simp only [List.head?_cons, List.drop_one, List.tail_cons, beq_self_eq_true, if_true]
  split <;> rfl

theorem pixelsHere?_plain (h : s.head? ≠ some '-') : pixelsHere? s = (unsignedPixels? s).map (false, ·) := by
  have plain : (s.head? == some '-') = false := by simpa using h
  unfold pixelsHere? unsignedPixels?
  simp only [plain, Bool.false_eq_true, if_false]
  split <;> rfl

theorem takeDigits_unit {after : List Char} (hd : ∀ c ∈ digits, isDigit c) :
    Number.takeDigits (digits ++ ("px".toList ++ after)) = (digits, "px".toList ++ after) := by
  have unit : isDigit 'p' = false := by decide
  unfold Number.takeDigits
  rw [List.takeWhile_append_of_pos hd, List.dropWhile_append_of_pos hd]
  simp [unit]

theorem unsignedPixels?_eq_some_iff : unsignedPixels? s = some digits ↔
    digits ≠ [] ∧ (∀ c ∈ digits, isDigit c) ∧ ∃ after, s = digits ++ ("px".toList ++ after) := by
  constructor
  · intro h
    unfold unsignedPixels? Number.takeDigits at h
    dsimp only at h
    split at h
    · cases h
    · next found =>
      simp only [Bool.or_eq_true, List.isEmpty_iff, Bool.not_eq_true', not_or, Bool.not_eq_false,
        List.isPrefixOf_iff_prefix] at found
      obtain ⟨some, after, unit⟩ := found
      cases h
      refine ⟨some, fun c hc => List.mem_takeWhile_imp hc, after, ?_⟩
      rw [unit, List.takeWhile_append_dropWhile]
  · rintro ⟨some, hd, after, rfl⟩
    unfold unsignedPixels?
    rw [takeDigits_unit hd]
    simp [some]

theorem head?_ne_minus {after : List Char} (hd : ∀ c ∈ digits, isDigit c) :
    (digits ++ ("px".toList ++ after)).head? ≠ some '-' := by
  have sign : isDigit '-' = false := by decide
  cases digits with
  | nil => simp
  | cons c digits =>
    intro h
    have := hd c List.mem_cons_self
    simp_all

/-- A number of pixels begins a text exactly if it is read there. -/
theorem pixelsHere?_eq_some_iff :
    pixelsHere? s = some (negative, digits) ↔ ∃ t after, s = t ++ after ∧ IsPixels t negative digits := by
  constructor
  · intro h
    by_cases minus : s.head? = some '-'
    · obtain ⟨rest, rfl⟩ := List.head?_eq_some_iff.1 minus
      rw [pixelsHere?_minus, Option.map_eq_some_iff] at h
      obtain ⟨digits', h, e⟩ := h
      cases e
      obtain ⟨some, hd, after, rfl⟩ := unsignedPixels?_eq_some_iff.1 h
      exact ⟨_, after, by simp, hd, some, rfl⟩
    · rw [pixelsHere?_plain minus, Option.map_eq_some_iff] at h
      obtain ⟨digits', h, e⟩ := h
      cases e
      obtain ⟨some, hd, after, rfl⟩ := unsignedPixels?_eq_some_iff.1 h
      exact ⟨_, after, by simp, hd, some, rfl⟩
  · rintro ⟨t, after, rfl, h⟩
    have here := unsignedPixels?_eq_some_iff.2 ⟨h.some, h.digit, after, rfl⟩
    rw [h.text]
    cases negative with
    | true =>
      have sign : (if true then ['-'] else []) ++ digits ++ "px".toList ++ after =
          '-' :: (digits ++ ("px".toList ++ after)) := by simp
      rw [sign, pixelsHere?_minus, here]
      rfl
    | false =>
      have plain : (if false then ['-'] else []) ++ digits ++ "px".toList ++ after =
          digits ++ ("px".toList ++ after) := by simp
      rw [plain, pixelsHere?_plain (head?_ne_minus h.digit), here]
      rfl

/-! ## The first one -/

theorem not_isPixels_nil : ¬IsPixels [] negative digits := by
  intro h
  simpa using h.text

theorem pixelsHere?_eq_none_iff : pixelsHere? s = none ↔
    ∀ t after negative digits, s = t ++ after → ¬IsPixels t negative digits := by
  rw [Option.eq_none_iff_forall_ne_some]
  constructor
  · intro none t after negative digits h pixels
    exact none (negative, digits) (pixelsHere?_eq_some_iff.2 ⟨t, after, h, pixels⟩)
  · intro none (negative, digits) here
    obtain ⟨t, after, h, pixels⟩ := pixelsHere?_eq_some_iff.1 here
    exact none t after negative digits h pixels

theorem firstPixels?_eq_none_iff : firstPixels? s = none ↔
    ∀ before t after negative digits, s = before ++ t ++ after → ¬IsPixels t negative digits := by
  induction s with
  | nil =>
    refine iff_of_true rfl fun before t after negative digits h pixels => ?_
    obtain ⟨-, rfl, -⟩ : before = [] ∧ t = [] ∧ after = [] := by simpa using h.symm
    exact not_isPixels_nil pixels
  | cons c s ih =>
    rw [firstPixels?, Option.or_eq_none_iff, pixelsHere?_eq_none_iff, ih]
    constructor
    · intro ⟨here, later⟩ before t after negative digits h
      cases before with
      | nil => exact here t after negative digits h
      | cons d before => exact later before t after negative digits (List.cons.inj h).2
    · intro none
      constructor
      · intro t after negative digits h
        exact none [] t after negative digits h
      · intro before t after negative digits h
        exact none (c :: before) t after negative digits (congrArg (c :: ·) h)

section
variable {c d : Char} {before t after : List Char}

theorem FirstPixels.cons (h : FirstPixels s before t after negative digits) (none : pixelsHere? (c :: s) = none) :
    FirstPixels (c :: s) (c :: before) t after negative digits where
  split := congrArg (c :: ·) h.split
  pixels := h.pixels
  first before' t' after' negative' digits' h' pixels := by
    cases before' with
    | nil => exact absurd pixels (pixelsHere?_eq_none_iff.1 none t' after' negative' digits' h')
    | cons _ before' =>
      have := h.first before' t' after' negative' digits' (List.cons.inj h').2 pixels
      exact Nat.succ_le_succ this

theorem FirstPixels.tail (h : FirstPixels (c :: s) (d :: before) t after negative digits) :
    FirstPixels s before t after negative digits where
  split := (List.cons.inj h.split).2
  pixels := h.pixels
  first before' t' after' negative' digits' h' pixels :=
    Nat.le_of_succ_le_succ (h.first (c :: before') t' after' negative' digits' (congrArg (c :: ·) h') pixels)

theorem FirstPixels.head (h : FirstPixels (c :: s) (d :: before) t after negative digits) :
    pixelsHere? (c :: s) = none := by
  refine pixelsHere?_eq_none_iff.2 fun t' after' negative' digits' h' pixels => ?_
  have := h.first [] t' after' negative' digits' h' pixels
  simp at this

end

theorem firstPixels?_eq_some_iff : firstPixels? s = some (negative, digits) ↔
    ∃ before t after, FirstPixels s before t after negative digits := by
  induction s with
  | nil =>
    refine iff_of_false nofun fun ⟨before, t, after, h⟩ => ?_
    obtain ⟨-, rfl, -⟩ : before = [] ∧ t = [] ∧ after = [] := by simpa using h.split.symm
    exact not_isPixels_nil h.pixels
  | cons c s ih =>
    rw [firstPixels?, Option.or_eq_some_iff, ih, pixelsHere?_eq_some_iff]
    constructor
    · rintro (⟨t, after, h, pixels⟩ | ⟨none, before, t, after, h⟩)
      · exact ⟨[], t, after, h, pixels, fun _ _ _ _ _ _ _ => Nat.zero_le _⟩
      · exact ⟨c :: before, t, after, h.cons none⟩
    · intro ⟨before, t, after, h⟩
      cases before with
      | nil => exact .inl ⟨t, after, h.split, h.pixels⟩
      | cons d before => exact .inr ⟨h.head, before, t, after, h.tail⟩

/-- The text is a number of pixels as a whole if nothing is in front of the first one in it or behind it. -/
theorem FirstPixels.whole_iff {before t after : List Char} (h : FirstPixels value before t after negative digits) :
    (∃ negative' digits', IsPixels value negative' digits' ∧
      pixelCount negative digits = pixelCount negative' digits') ↔ before = [] ∧ after = [] := by
  constructor
  · rintro ⟨negative', digits', whole, -⟩
    have start : before = [] := by
      have := h.first [] value [] negative' digits' (by simp) whole
      simpa using this
    have split : value = t ++ after := by simpa [start] using h.split
    have here := pixelsHere?_eq_some_iff.2 ⟨t, after, split, h.pixels⟩
    have again := pixelsHere?_eq_some_iff.2 ⟨value, [], (List.append_nil value).symm, whole⟩
    cases here.symm.trans again
    have same : t = value := h.pixels.text.trans whole.text.symm
    exact ⟨start, by simpa [same] using split⟩
  · rintro ⟨rfl, rfl⟩
    have whole : value = t := by simpa using h.split
    exact ⟨negative, digits, whole ▸ h.pixels, rfl⟩

/-! ## Lengths -/

theorem length_of_error {fault : ThemeFault} (h : theme.raw name = .error fault) :
    theme.length name = .error fault := by
  unfold Theme.length
  rw [h]
  rfl

theorem length_of_none {value : String} (h : theme.raw name = .ok value) (none : firstPixels? value.toList = none) :
    theme.length name = .error (.notPixels name value) := by
  unfold Theme.length
  simp only [h, bind, Except.bind, none]
  rfl

theorem length_of_some {value : String} (h : theme.raw name = .ok value)
    (found : firstPixels? value.toList = some (negative, digits)) : theme.length name =
      if digits.length ≤ Number.maxDigits then .ok (pixelCount negative digits)
      else .error (.number (.tooManyDigits digits.length)) := by
  unfold Theme.length
  by_cases short : digits.length ≤ Number.maxDigits
  · simp only [h, bind, Except.bind, found, Number.checkDigits, if_pos short]
    rfl
  · simp only [h, bind, Except.bind, found, Number.checkDigits, if_neg short]
    rfl

/-- A variable that is a length is the first number of pixels in its value, as far as that has not too many digits,
and a value without one is refused. So it is the number that the value says exactly if nothing is in front of that
number and nothing behind it. -/
theorem length_found (theme : Theme) (name : String) :
    (∀ fault, theme.raw name = .error fault → theme.length name = .error fault) ∧
    ∀ value, theme.raw name = .ok value →
      ((∃ before t after negative digits, FirstPixels value.toList before t after negative digits) ∨
        (∀ before t after negative digits, value.toList = before ++ t ++ after → ¬IsPixels t negative digits) ∧
          theme.length name = .error (.notPixels name value)) ∧
      ∀ before t after negative digits, FirstPixels value.toList before t after negative digits →
        (theme.length name =
          if digits.length ≤ Number.maxDigits then .ok (pixelCount negative digits)
          else .error (.number (.tooManyDigits digits.length))) ∧
        ∀ n, theme.length name = .ok n →
          ((∃ negative' digits', IsPixels value.toList negative' digits' ∧ n = pixelCount negative' digits') ↔
            before = [] ∧ after = []) := by
  refine ⟨fun fault h => length_of_error h, fun value h => ⟨?_, fun before t after negative digits first => ?_⟩⟩
  · cases found : firstPixels? value.toList with
    | none => exact .inr ⟨firstPixels?_eq_none_iff.1 found, length_of_none h found⟩
    | some pixels =>
      obtain ⟨before, t, after, first⟩ := firstPixels?_eq_some_iff.1 found
      exact .inl ⟨before, t, after, _, _, first⟩
  · have read := length_of_some h (firstPixels?_eq_some_iff.2 ⟨before, t, after, first⟩)
    refine ⟨read, fun n hn => ?_⟩
    rw [read] at hn
    split at hn
    · obtain rfl := Except.ok.inj hn
      exact first.whole_iff
    · cases hn

/-- A fraction is the number behind its point. -/
theorem length_found_fraction :
    length ⟨"fraction", ":root \x7b --a: 1.5px; \x7d"⟩ "a" = .ok 5 ∧
      ¬∃ negative digits, IsPixels "1.5px".toList negative digits ∧ 5 = pixelCount negative digits := by
  have raw : Theme.raw ⟨"fraction", ":root \x7b --a: 1.5px; \x7d"⟩ "a" = .ok "1.5px" := by decide +kernel
  have found : firstPixels? "1.5px".toList = some (false, ['5']) := by decide +kernel
  obtain ⟨before, t, after, first⟩ := firstPixels?_eq_some_iff.1 found
  obtain ⟨read, whole⟩ := ((length_found _ "a").2 _ raw).2 _ _ _ _ _ first
  have five : length ⟨"fraction", ":root \x7b --a: 1.5px; \x7d"⟩ "a" = .ok 5 := read.trans (by decide)
  refine ⟨five, fun h => ?_⟩
  obtain ⟨rfl, -⟩ := (whole 5 five).1 h
  have split := first.split
  rw [first.pixels.text] at split
  simp at split

end FlowDeck.Theme
