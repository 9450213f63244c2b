import FlowDeck.Editor.Open
import FlowDeck.Proofs.Deck.Steady
import FlowDeck.Proofs.Theme.Blocks

/-!
# Which texts are colours

A colour is read from pairs of characters, and a pair is read as a number in base sixteen. That reading takes more
than two of the sixteen digits: it takes the digits of other scripts, a sign in place of the first digit, and a
blank in place of either. What it takes is said here without the reader (`Reads`), beside what colours are meant to
be (`Spells`). A pair with a minus sign is a component below zero, which cannot be drawn.
-/

namespace FlowDeck

open Text (digitIn? isBlank digit?)
open Number (isNumberBlank takeSign trimBlanks)

variable {a b c : Char} {x y : Nat} {n : Int}

/-! ## Digits -/

theorem Text.exists_zero (h : digit? c = some x) : ∃ z ∈ Text.zeros, c.toNat = z + x ∧ x < 10 := by
  unfold digit? at h
  obtain ⟨z, hz, rfl⟩ := Option.map_eq_some_iff.1 h
  have near := List.find?_some hz
  simp only [Bool.and_eq_true, decide_eq_true_eq] at near
  exact ⟨z, List.mem_of_find?_eq_some hz, by omega⟩

/-- No digit of any script is white space. -/
theorem Text.isBlank_of_digit? (h : digit? c = some x) : isBlank c = false := by
  have dark : ∀ z ∈ Text.zeros, ∀ x < 10, isBlank (Char.ofNat (z + x)) = false := by decide +kernel
  obtain ⟨z, hz, hc, hx⟩ := Text.exists_zero h
  have := dark z hz x hx
  rwa [← hc, Char.ofNat_toNat] at this

theorem hexDigit?_cases (h : hexDigit? c = some x) :
    (97 ≤ c.toNat ∧ c.toNat ≤ 102) ∧ x = c.toNat - 97 + 10 ∨
      (65 ≤ c.toNat ∧ c.toNat ≤ 70) ∧ x = c.toNat - 65 + 10 ∨ digit? c = some x := by
  unfold hexDigit? at h
  split at h
  · next range => exact .inl ⟨range, by simpa using h.symm⟩
  · split at h
    · next range => exact .inr (.inl ⟨range, by simpa using h.symm⟩)
    · exact .inr (.inr h)

theorem lt_of_hexDigit? (h : hexDigit? c = some x) : x < 16 := by
  rcases hexDigit?_cases h with ⟨range, rfl⟩ | ⟨range, rfl⟩ | digit
  · omega
  · omega
  · obtain ⟨z, -, -, hx⟩ := Text.exists_zero digit
    omega

theorem not_blank_of_hexDigit? (h : hexDigit? c = some x) : isNumberBlank c = false := by
  have letter (low : 65 ≤ c.toNat) (high : c.toNat ≤ 102) : isBlank c = false := by
    simp only [isBlank, Bool.or_eq_false_iff, Bool.and_eq_false_iff, decide_eq_false_iff_not, beq_eq_false_iff_ne]
    omega
  have dark : isBlank c = false := by
    rcases hexDigit?_cases h with ⟨range, -⟩ | ⟨range, -⟩ | digit
    · exact letter (by omega) (by omega)
    · exact letter (by omega) (by omega)
    · exact Text.isBlank_of_digit? digit
  simp [isNumberBlank, dark]

theorem hexDigit?_plus : hexDigit? '+' = none := by decide

theorem hexDigit?_minus : hexDigit? '-' = none := by decide

theorem hexDigit?_of_digitIn? (h : digitIn? 16 c = some x) : hexDigit? c = some x := by
  have small : c.toNat < 128 := by
    unfold digitIn? at h
    by_cases decimal : '0' ≤ c ∧ c ≤ '9'
    · have : c.toNat ≤ 57 := decimal.2
      omega
    · by_contra large
      have upper : c.toLower = c := by
        refine dif_neg fun capital => large ?_
        have : c.toNat ≤ 90 := capital.2
        omega
      have letter : ¬c ≤ 'f' := fun l => large (by have : c.toNat ≤ 102 := l; omega)
      simp [decimal, upper, letter] at h
  -- The two readings differ on how they are put together only, so the characters of ASCII are gone through.
  have listed : ∀ n < 128, (digitIn? 16 (Char.ofNat n)).all fun x => hexDigit? (Char.ofNat n) == some x := by
    decide +kernel
  have found := listed c.toNat small
  rw [Char.ofNat_toNat, h] at found
  simpa using found

/-! ## Pairs -/

/-- What a pair of characters is read as: digits of any script and letters, or one of them with a sign in
front or a blank beside it. -/
inductive Pair : Char → Char → Int → Prop
  | digits {a b : Char} {x y : Nat} (ha : hexDigit? a = some x) (hb : hexDigit? b = some y) :
    Pair a b (16 * x + y : Nat)
  | plus {b : Char} {y : Nat} (hb : hexDigit? b = some y) : Pair '+' b y
  | minus {b : Char} {y : Nat} (hb : hexDigit? b = some y) : Pair '-' b (-y)
  | after {a b : Char} {y : Nat} (ha : isNumberBlank a) (hb : hexDigit? b = some y) : Pair a b y
  | before {a b : Char} {x : Nat} (ha : hexDigit? a = some x) (hb : isNumberBlank b) : Pair a b x

theorem trimBlanks_pair (a b : Char) : trimBlanks [a, b] =
    if isNumberBlank a then (if isNumberBlank b then [] else [b]) else if isNumberBlank b then [a] else [a, b] := by
  unfold trimBlanks Text.trim Text.trimEnd
  by_cases ha : isNumberBlank a
  · by_cases hb : isNumberBlank b <;> simp [ha, hb]
  · by_cases hb : isNumberBlank b <;> simp [ha, hb]

/-- A character by itself is a digit or nothing. -/
theorem component?_single {s : List Char} (h : trimBlanks s = [c]) : component? s = (hexDigit? c).map Nat.cast := by
  by_cases plus : c = '+'
  · simp [component?, h, takeSign, plus, hexDigit?_plus]
  · by_cases minus : c = '-'
    · simp [component?, h, takeSign, minus, hexDigit?_minus]
    · cases hc : hexDigit? c <;> simp [component?, h, takeSign, plus, minus, hc]

theorem component?_double {s : List Char} (h : trimBlanks s = [a, b]) : component? s =
    if a = '+' then (hexDigit? b).map Nat.cast else if a = '-' then (hexDigit? b).map fun y : Nat => -(y : Int)
    else do return ((16 * (← hexDigit? a) + (← hexDigit? b) : Nat) : Int) := by
  by_cases plus : a = '+'
  · cases hb : hexDigit? b <;> simp [component?, h, takeSign, plus, hb]
  · by_cases minus : a = '-'
    · cases hb : hexDigit? b <;> simp [component?, h, takeSign, minus, hb]
    · cases ha : hexDigit? a <;> cases hb : hexDigit? b <;> simp [component?, h, takeSign, plus, minus, ha, hb]

theorem component?_pair_iff : component? [a, b] = some n ↔ Pair a b n := by
  have whole := trimBlanks_pair a b
  constructor
  · intro h
    by_cases ha : isNumberBlank a
    · by_cases hb : isNumberBlank b
      · simp [component?, whole, ha, hb, takeSign] at h
      · rw [component?_single (by simpa [ha, hb] using whole)] at h
        obtain ⟨y, hy, rfl⟩ := Option.map_eq_some_iff.1 h
        exact .after ha hy
    · by_cases hb : isNumberBlank b
      · rw [component?_single (by simpa [ha, hb] using whole)] at h
        obtain ⟨x, hx, rfl⟩ := Option.map_eq_some_iff.1 h
        exact .before hx hb
      · rw [component?_double (by simpa [ha, hb] using whole)] at h
        split at h
        · next plus =>
          obtain ⟨y, hy, rfl⟩ := Option.map_eq_some_iff.1 h
          exact plus ▸ .plus hy
        · split at h
          · next minus =>
            obtain ⟨y, hy, rfl⟩ := Option.map_eq_some_iff.1 h
            exact minus ▸ .minus hy
          · simp only [Option.bind_eq_bind, Option.bind_eq_some_iff] at h
            obtain ⟨x, hx, y, hy, h⟩ := h
            cases h
            exact .digits hx hy
  · intro h
    cases h with
    | digits ha hb =>
      have plus : a ≠ '+' := fun e => by simp [e, hexDigit?_plus] at ha
      have minus : a ≠ '-' := fun e => by simp [e, hexDigit?_minus] at ha
      rw [component?_double (by simpa [not_blank_of_hexDigit? ha, not_blank_of_hexDigit? hb] using whole)]
      simp [plus, minus, ha, hb]
    | plus hb =>
      have sign : isNumberBlank '+' = false := by decide
      rw [component?_double (by simpa [sign, not_blank_of_hexDigit? hb] using whole)]
      simp [hb]
    | minus hb =>
      have sign : isNumberBlank '-' = false := by decide
      rw [component?_double (by simpa [sign, not_blank_of_hexDigit? hb] using whole)]
      simp [hb]
    | after ha hb =>
      rw [component?_single (by simpa [ha, not_blank_of_hexDigit? hb] using whole)]
      simp [hb]
    | before ha hb =>
      rw [component?_single (by simpa [hb, not_blank_of_hexDigit? ha] using whole)]
      simp [ha]

namespace Rgb

def core (text : String) : List Char :=
  (Text.strip text.toList).dropWhile (· == '#')

/-- Three or six of the sixteen digits, with the components that they are written for. -/
inductive Spells : List Char → Rgb → Prop
  | short {a b c : Char} {x y z : Nat} (ha : digitIn? 16 a = some x) (hb : digitIn? 16 b = some y)
    (hc : digitIn? 16 c = some z) : Spells [a, b, c] ⟨(16 * x + x : Nat), (16 * y + y : Nat), (16 * z + z : Nat)⟩
  | long {a b c d e f : Char} {u v w x y z : Nat} (ha : digitIn? 16 a = some u) (hb : digitIn? 16 b = some v)
    (hc : digitIn? 16 c = some w) (hd : digitIn? 16 d = some x) (he : digitIn? 16 e = some y)
    (hf : digitIn? 16 f = some z) :
    Spells [a, b, c, d, e, f] ⟨(16 * u + v : Nat), (16 * w + x : Nat), (16 * y + z : Nat)⟩

inductive Reads : List Char → Rgb → Prop
  | short {a b c : Char} {x y z : Nat} (ha : hexDigit? a = some x) (hb : hexDigit? b = some y)
    (hc : hexDigit? c = some z) : Reads [a, b, c] ⟨(16 * x + x : Nat), (16 * y + y : Nat), (16 * z + z : Nat)⟩
  | long {a b c d e f : Char} {red green blue : Int} (hr : Pair a b red) (hg : Pair c d green) (hb : Pair e f blue) :
    Reads [a, b, c, d, e, f] ⟨red, green, blue⟩

def Negative (s : List Char) : Prop :=
  ∃ (c : Char) (x : Nat), ['-', c] <:+: s ∧ hexDigit? c = some x ∧ x ≠ 0

variable {s : List Char} {colour : Rgb} {text : String}

theorem pair_twice_iff : Pair a a n ↔ ∃ x : Nat, hexDigit? a = some x ∧ n = (16 * x + x : Nat) := by
  constructor
  · intro h
    cases h with
    | digits ha hb => exact ⟨_, ha, by rw [Option.some.inj (ha.symm.trans hb)]⟩
    | plus hb => simp [hexDigit?_plus] at hb
    | minus hb => simp [hexDigit?_minus] at hb
    | after ha hb => simp [not_blank_of_hexDigit? hb] at ha
    | before ha hb => simp [not_blank_of_hexDigit? ha] at hb
  · rintro ⟨x, hx, rfl⟩
    exact .digits hx hx

theorem read?_eq_some_iff : read? text = some colour ↔ Reads (core text) colour := by
  unfold read? core
  generalize (Text.strip text.toList).dropWhile (· == '#') = s
  constructor
  · intro h
    split at h
    · next a b c d e f six =>
      simp only [Option.bind_eq_bind, Option.bind_eq_some_iff, component?_pair_iff] at h
      obtain ⟨red, hr, green, hg, blue, hb, h⟩ := h
      cases h
      unfold sixDigits at six
      split at six
      · next three =>
        obtain ⟨p, q, r, rfl⟩ := List.length_eq_three.1 three
        simp only [List.flatMap_cons, List.flatMap_nil, List.cons_append, List.nil_append, List.cons.injEq,
          and_true] at six
        obtain ⟨rfl, rfl, rfl, rfl, rfl, rfl⟩ := six
        obtain ⟨x, hx, rfl⟩ := pair_twice_iff.1 hr
        obtain ⟨y, hy, rfl⟩ := pair_twice_iff.1 hg
        obtain ⟨z, hz, rfl⟩ := pair_twice_iff.1 hb
        exact .short hx hy hz
      · subst six
        exact .long hr hg hb
    · cases h
  · intro h
    cases h with
    | short ha hb hc =>
      have red := component?_pair_iff.2 (pair_twice_iff.2 ⟨_, ha, rfl⟩)
      have green := component?_pair_iff.2 (pair_twice_iff.2 ⟨_, hb, rfl⟩)
      have blue := component?_pair_iff.2 (pair_twice_iff.2 ⟨_, hc, rfl⟩)
      simp [sixDigits, red, green, blue]
    | long hr hg hb =>
      have red := component?_pair_iff.2 hr
      have green := component?_pair_iff.2 hg
      have blue := component?_pair_iff.2 hb
      simp [sixDigits, red, green, blue]

/-! ## What the digits of a colour say -/

theorem pair_of_digits (h : Pair a b n) (ha : digitIn? 16 a = some x) (hb : digitIn? 16 b = some y) :
    n = (16 * x + y : Nat) := by
  have read := component?_pair_iff.2 (.digits (hexDigit?_of_digitIn? ha) (hexDigit?_of_digitIn? hb))
  exact Option.some.inj ((component?_pair_iff.2 h).symm.trans read)

/-- What colours are meant to be is read, as what it says. -/
theorem Spells.reads (h : Spells s colour) : Reads s colour := by
  cases h with
  | short ha hb hc => exact .short (hexDigit?_of_digitIn? ha) (hexDigit?_of_digitIn? hb) (hexDigit?_of_digitIn? hc)
  | long ha hb hc hd he hf =>
    exact .long (.digits (hexDigit?_of_digitIn? ha) (hexDigit?_of_digitIn? hb))
      (.digits (hexDigit?_of_digitIn? hc) (hexDigit?_of_digitIn? hd))
      (.digits (hexDigit?_of_digitIn? he) (hexDigit?_of_digitIn? hf))

theorem Reads.spells_iff (h : Reads s colour) : Spells s colour ↔ ∀ c ∈ s, (digitIn? 16 c).isSome := by
  constructor
  · intro spelt
    cases spelt with
    | short ha hb hc => simp [ha, hb, hc]
    | long ha hb hc hd he hf => simp [ha, hb, hc, hd, he, hf]
  · intro digits
    cases h with
    | short hx hy hz =>
      simp only [List.forall_mem_cons, List.not_mem_nil, false_imp_iff, implies_true, and_true,
        Option.isSome_iff_exists] at digits
      obtain ⟨⟨x, ha⟩, ⟨y, hb⟩, ⟨z, hc⟩⟩ := digits
      cases hx.symm.trans (hexDigit?_of_digitIn? ha)
      cases hy.symm.trans (hexDigit?_of_digitIn? hb)
      cases hz.symm.trans (hexDigit?_of_digitIn? hc)
      exact .short ha hb hc
    | long red green blue =>
      simp only [List.forall_mem_cons, List.not_mem_nil, false_imp_iff, implies_true, and_true,
        Option.isSome_iff_exists] at digits
      obtain ⟨⟨u, ha⟩, ⟨v, hb⟩, ⟨w, hc⟩, ⟨x, hd⟩, ⟨y, he⟩, ⟨z, hf⟩⟩ := digits
      cases pair_of_digits red ha hb
      cases pair_of_digits green hc hd
      cases pair_of_digits blue he hf
      exact .long ha hb hc hd he hf

theorem isDrawable_mk {red green blue : Int} : isDrawable ⟨red, green, blue⟩ ↔
    (0 ≤ red ∧ red ≤ 255) ∧ (0 ≤ green ∧ green ≤ 255) ∧ (0 ≤ blue ∧ blue ≤ 255) := by
  simp [isDrawable]

/-- A minus sign can only be the first of a pair, and a component is out of range only there. -/
theorem pair_sign (h : Pair a b n) :
    b ≠ '-' ∧ n ≤ 255 ∧ (n < 0 ↔ a = '-' ∧ ∃ x, hexDigit? b = some x ∧ x ≠ 0) := by
  have digit {c : Char} {x : Nat} (hc : hexDigit? c = some x) : c ≠ '-' ∧ x < 16 := by
    refine ⟨fun e => ?_, lt_of_hexDigit? hc⟩
    simp [e, hexDigit?_minus] at hc
  have minus : isNumberBlank '-' = false := by decide
  cases h with
  | digits ha hb =>
    have := digit ha
    have := digit hb
    refine ⟨(digit hb).1, by omega, ?_⟩
    simp only [(digit ha).1, false_and, iff_false]
    omega
  | plus hb =>
    have := digit hb
    refine ⟨(digit hb).1, by omega, ?_⟩
    simp only [show ('+' : Char) ≠ '-' by decide, false_and, iff_false]
    omega
  | minus hb =>
    refine ⟨(digit hb).1, by omega, ?_⟩
    simp only [hb, true_and, Option.some.injEq, exists_eq_left']
    omega
  | after ha hb =>
    have := digit hb
    have blank : a ≠ '-' := by
      intro e
      simp [e, minus] at ha
    refine ⟨(digit hb).1, by omega, ?_⟩
    simp only [blank, false_and, iff_false]
    omega
  | before ha hb =>
    have := digit ha
    refine ⟨?_, by omega, ?_⟩
    · intro e
      simp [e, minus] at hb
    · simp only [(digit ha).1, false_and, iff_false]
      omega

theorem Reads.isDrawable_iff (h : Reads s colour) : colour.isDrawable ↔ ¬Negative s := by
  cases h with
  | short ha hb hc =>
    rw [isDrawable_mk]
    have := lt_of_hexDigit? ha
    have := lt_of_hexDigit? hb
    have := lt_of_hexDigit? hc
    refine iff_of_true ⟨⟨by omega, by omega⟩, ⟨by omega, by omega⟩, by omega, by omega⟩ ?_
    rintro ⟨c, x, signed, hx, -⟩
    have first : '-' ∈ _ := signed.subset List.mem_cons_self
    simp only [List.mem_cons, List.not_mem_nil, or_false] at first
    rcases first with rfl | rfl | rfl
    · simp [hexDigit?_minus] at ha
    · simp [hexDigit?_minus] at hb
    · simp [hexDigit?_minus] at hc
  | @long a b c d e f red green blue hr hg hb =>
    obtain ⟨b_ne, hr, red_neg⟩ := pair_sign hr
    obtain ⟨d_ne, hg, green_neg⟩ := pair_sign hg
    obtain ⟨f_ne, hb, blue_neg⟩ := pair_sign hb
    have signs : Negative [a, b, c, d, e, f] ↔ red < 0 ∨ green < 0 ∨ blue < 0 := by
      rw [red_neg, green_neg, blue_neg]
      unfold Negative
      simp only [List.infix_cons_iff, List.cons_prefix_cons, List.nil_prefix, List.infix_nil, List.prefix_nil,
        reduceCtorEq, eq_comm (a := '-')]
      grind
    rw [isDrawable_mk, signs]
    omega

end Rgb

/-! ## Drawing with the colours of a theme -/

def Offends (text : Option String) : Prop :=
  ∃ t, text = some t ∧ Rgb.Negative (Rgb.core t)

theorem bind_ok_iff {α β ε : Type} {x : Except ε α} {f : α → Except ε β} {b : β} :
    x >>= f = .ok b ↔ ∃ a, x = .ok a ∧ f a = .ok b := by
  cases x with
  | error e => exact ⟨nofun, fun ⟨a, ha, _⟩ => nomatch ha⟩
  | ok a => exact ⟨fun h => ⟨a, rfl, h⟩, fun ⟨a', ha, h⟩ => Except.ok.inj ha ▸ h⟩

theorem Theme.reads_of_colour {theme : Theme} {name : String} {text : Option String}
    (h : theme.colour name = .ok text) : ∀ t, text = some t → ∃ colour, Rgb.read? t = some colour := by
  intro t ht
  subst ht
  unfold Theme.colour at h
  obtain ⟨vars, -, h⟩ := bind_ok_iff.1 h
  dsimp only at h
  split at h
  · cases h
  · split at h
    · cases h
    · next read =>
      obtain rfl := Option.some.inj (Except.ok.inj h)
      exact Option.ne_none_iff_exists'.1 (by simpa using read)

structure Style.Coloured (style : Style) : Prop where
  fill : ∀ t, style.nodeFill = some t → ∃ colour, Rgb.read? t = some colour
  line : ∀ t, style.nodeLine = some t → ∃ colour, Rgb.read? t = some colour
  text : ∀ t, style.textColour = some t → ∃ colour, Rgb.read? t = some colour

theorem Theme.coloured_of_style {theme : Theme} {style : Style} (h : theme.style = .ok style) : style.Coloured := by
  unfold Theme.style at h
  simp only [bind_ok_iff] at h
  obtain ⟨_, -, _, -, _, -, _, -, _, -, _, -, _, -, fill, hfill, line, hline, text, htext, _, -, _, -, _, -, h⟩ := h
  obtain rfl := Except.ok.inj h
  exact ⟨reads_of_colour hfill, reads_of_colour hline, reads_of_colour htext⟩

theorem drawable_iff {text : Option String} (h : ∀ t, text = some t → ∃ colour, Rgb.read? t = some colour) :
    Drawable (colourOf text) ↔ ¬Offends text := by
  unfold Drawable colourOf Offends
  cases text with
  | none => simp
  | some t =>
    obtain ⟨colour, read⟩ := h t rfl
    simp only [Option.bind_some, read, Option.some.injEq, forall_eq', exists_eq_left']
    exact (Rgb.read?_eq_some_iff.1 read).isDrawable_iff

namespace Edit

variable {sl : Slide} {style : Style}

theorem makes_drawable_passed {colour : Option Rgb} :
    Makes (drawable colour) sl (fun _ _ => Drawable colour) fun _ => True := by
  unfold drawable
  cases colour with
  | none => exact makes_pure nofun
  | some rgb =>
    refine .ite (fun h => makes_pure fun rgb' e => ?_) fun _ => makes_throw trivial
    exact Option.some.inj e ▸ h

/-- A node has been drawn only if the colours inside it and around it can be drawn. -/
theorem makes_drawShapeAt_passed (desk : Desk) {paint : Style} (hp : desk.paint = some paint) (name : String)
    (b : Box Float) : Makes (drawShapeAt desk name b) sl
      (fun _ _ => Drawable (colourOf paint.nodeFill) ∧ Drawable (colourOf paint.nodeLine)) fun _ => True := by
  unfold drawShapeAt drawShape
  refine makes_then fun kind _ => makes_then fun x _ => makes_then fun y _ => makes_then fun width _ => ?_
  refine makes_then fun height _ => makes_then fun _ _ => makes_then fun id _ => ?_
  rw [hp]
  refine makes_drawable_passed.bind fun fill _ hfill => makes_then fun _ _ => ?_
  refine makes_drawable_passed.bind fun line _ hline => makes_then fun _ _ => ?_
  exact .ite (fun _ => makes_then fun _ _ => makes_pure ⟨hfill, hline⟩) fun _ => makes_pure ⟨hfill, hline⟩

theorem makes_drawEdge_passed (desk : Desk) {paint : Style} (hp : desk.paint = some paint) (a b : Point Float)
    (edge : EdgeStyle) :
    Makes (drawEdge desk a b edge) sl (fun _ _ => Drawable (colourOf paint.nodeLine)) fun _ => True := by
  unfold drawEdge
  refine makes_then fun course _ => makes_then fun x _ => makes_then fun y _ => makes_then fun toX _ => ?_
  refine makes_then fun toY _ => makes_then fun id _ => ?_
  rw [hp]
  refine makes_drawable_passed.bind fun colour _ hcolour => makes_then fun _ _ => makes_then fun head _ => ?_
  exact makes_then fun _ _ => makes_then fun tail _ => makes_then fun _ _ => makes_pure hcolour

/-- Of the colours of the style only those that are drawn with count. -/
theorem makes_drawShapeAt_coloured (name : String) {b : Box Float} (hb : ∃ onGrid, b.OnGrid onGrid) :
    Makes (drawShapeAt (Editor.deskOf style) name b) sl
      (fun _ _ => Drawable (colourOf style.nodeFill) ∧ Drawable (colourOf style.nodeLine))
      fun _ => ¬(Drawable (colourOf style.nodeFill) ∧ Drawable (colourOf style.nodeLine)) := by
  -- What is drawn is the same with the colour of texts left out, which then need not be one that can be drawn.
  have drawn : Makes (drawShapeAt (Editor.deskOf style) name b) sl _ _ :=
    makes_drawShapeAt { Editor.deskOf style with paint := some { style with textColour := none } } name b
  refine ((makes_drawShapeAt_passed _ rfl name b).and drawn).mono (fun _ _ h => h.1)
    fun _ h ⟨fill, line⟩ => h.2.elim (fun off => off.1 hb) fun faded => faded.1 ⟨fun paint e => ?_, line, nofun⟩
  obtain rfl := Option.some.inj e
  exact fill

theorem makes_drawEdge_coloured {a b : Point Float} {edge : EdgeStyle} (ha : a.OnGrid) (hb : b.OnGrid)
    (hm : edge.Marked) : Makes (drawEdge (Editor.deskOf style) a b edge) sl
      (fun _ _ => Drawable (colourOf style.nodeLine)) fun _ => ¬Drawable (colourOf style.nodeLine) := by
  by_cases line : Drawable (colourOf style.nodeLine)
  · have paints : Desk.Paints { Editor.deskOf style with
        paint := some { style with nodeFill := none, textColour := none } } := by
      refine ⟨fun paint e => ?_, line, nofun⟩
      obtain rfl := Option.some.inj e
      exact nofun
    have drawn := steady_drawEdge paints hm ha hb
    exact Makes.mono drawn.ends (fun _ _ _ => line) fun _ h => h
  · exact (makes_drawEdge_passed _ rfl a b edge).mono (fun _ _ h => h) fun _ _ => line

/-- A text that has something to be coloured can be set if its colour can be drawn. -/
theorem makes_setText_coloured {id : ShapeId} {s : Shape} {label : String} (hs : sl.shape? id = some s)
    (framed : s.body?.isSome) (hl : Settable label) (runs : (Body.ofText label none).colours ≠ []) :
    Makes (setText (Editor.deskOf style) id label) sl
      (fun _ _ => Drawable (colourOf style.textColour)) fun _ => ¬Drawable (colourOf style.textColour) := by
  unfold setText
  refine (makes_shape_of hs).followed (fun _ h => h) fun t ht => ?_
  subst ht
  refine .ite (fun none => by simp [Option.isNone_iff_eq_none.1 none] at framed) fun _ => ?_
  have plain : Steady (setPlainText id label) := by
    have clean : ((Text.encodeControls label.toList).takeWhile fun c => !Text.isSetAside c) =
        Text.encodeControls label.toList :=
      List.takeWhile_eq_self_iff.2 fun c hc => by simp [encodeControls_settable hl c hc]
    unfold setPlainText
    dsimp only
    rw [if_pos clean]
    exact steady_change _ _
  refine plain.ends.bind fun _ now _ => ?_
  refine .ite (fun _ => ?_) fun none => ?_
  · refine (makes_drawable.and makes_drawable_passed).mono (fun _ _ h => h.2) (fun _ h => h.1.1) |>.bind fun _ _ h => ?_
    exact (steady_change _ _).ends.mono (fun _ _ _ => h) fun _ h => h
  · refine absurd ?_ none
    simpa [Body.ofText] using runs

end Edit

open Edit Rgb in
/-- Every colour of three or six of the sixteen digits is read as what it says, and can be drawn. Others are read as
well: the reading takes more than those digits, and what it takes is a colour as it is meant exactly if all its
characters are among them. A colour with a minus sign in front of a digit can be read and not drawn. A theme gets
past its reading with such a colour, and then drawing nodes, connectors or texts with it fails, and with no other. -/
theorem Theme.colours_drawn (theme : Theme) (page : Page) :
    (∀ text colour, Spells (core text) colour → read? text = some colour ∧ colour.isDrawable) ∧
    (∀ text colour, read? text = some colour ↔ Reads (core text) colour) ∧
    (∀ text colour, read? text = some colour →
      (Spells (core text) colour ↔ ∀ c ∈ core text, (digitIn? 16 c).isSome) ∧
      (colour.isDrawable ↔ ¬Negative (core text))) ∧
    ∀ style, theme.style = .ok style →
      (∀ name b, (∃ onGrid, b.OnGrid onGrid) →
        ((∃ fault, ((drawShapeAt (Editor.deskOf style) name b).run.run page).1 = .error fault) ↔
          Offends style.nodeFill ∨ Offends style.nodeLine)) ∧
      (∀ a b edge, a.OnGrid → b.OnGrid → edge.Marked →
        ((∃ fault, ((drawEdge (Editor.deskOf style) a b edge).run.run page).1 = .error fault) ↔
          Offends style.nodeLine)) ∧
      ∀ id s label, page.slide.shape? id = some s → s.body?.isSome → Settable label →
        (Body.ofText label none).colours ≠ [] →
        ((∃ fault, ((setText (Editor.deskOf style) id label).run.run page).1 = .error fault) ↔
          Offends style.textColour) := by
  refine ⟨fun text colour spelt => ?_, fun text colour => read?_eq_some_iff, fun text colour read => ?_, ?_⟩
  · have read := spelt.reads
    refine ⟨read?_eq_some_iff.2 read, read.isDrawable_iff.2 fun ⟨c, x, signed, _⟩ => ?_⟩
    have digit := read.spells_iff.1 spelt '-' (signed.subset List.mem_cons_self)
    exact absurd digit (by decide)
  · have read := read?_eq_some_iff.1 read
    exact ⟨read.spells_iff, read.isDrawable_iff⟩
  · intro style h
    have coloured := Theme.coloured_of_style h
    refine ⟨fun name b hb => ?_, fun a b edge ha hb hm => ?_, fun id s label hs framed hl runs => ?_⟩
    · rw [(makes_drawShapeAt_coloured name hb).faults_iff, drawable_iff coloured.fill, drawable_iff coloured.line,
        not_and_or, not_not, not_not]
    · rw [(makes_drawEdge_coloured ha hb hm).faults_iff, drawable_iff coloured.line, not_not]
    · rw [(makes_setText_coloured hs framed hl runs).faults_iff, drawable_iff coloured.text, not_not]

/-- What a theme has to declare, and a colour for the inside of nodes with a sign in every pair. -/
def signedBlock : List Char :=
  ["--node-gap:1px;", "--node-width:9px;", "--node-height:9px;", "--node-kind:A;", "--line-type:A;",
    "--start-arrow:A;", "--end-arrow:A;", "--node-fill:#-1-1-1;", "--grid-padding:1px;", "--grid-padding-top:1px;",
    "--grid-gap:1px;"].flatMap String.toList

def signedTheme : Theme :=
  ⟨"signed", String.ofList (":root\x7b".toList ++ signedBlock ++ ['}'])⟩

def signedVariables : Theme.Variables :=
  [("node-gap", "1px"), ("node-width", "9px"), ("node-height", "9px"), ("node-kind", "A"), ("line-type", "A"),
    ("start-arrow", "A"), ("end-arrow", "A"), ("node-fill", "#-1-1-1"), ("grid-padding", "1px"),
    ("grid-padding-top", "1px"), ("grid-gap", "1px")]

theorem declared_signedTheme : signedTheme.declared = .ok signedVariables := by
  have block : Theme.block? (":root\x7b".toList ++ signedBlock ++ ['}']) = some signedBlock := by decide +kernel
  have listed : Theme.assigned (Theme.declarations signedBlock) = signedVariables := by decide +kernel
  have vars : Theme.variables? signedTheme.sheet = some signedVariables :=
    (Theme.variables?_ofList _).trans (by rw [block, Option.map_some, Option.map_some, listed])
  rw [Theme.declared, vars]

theorem style_signedTheme : ∃ style, signedTheme.style = .ok style ∧ style.nodeFill = some "#-1-1-1" := by
  have filled : signedTheme.style.toOption.map (·.nodeFill) = some (some "#-1-1-1") := by
    simp only [Theme.style, Theme.length, Theme.word, Theme.colour, Theme.raw, declared_signedTheme]
    -- The names are compared by `simp`, which is faster at it than the kernel.
    simp only [bind, Except.bind, pure, Except.pure, Theme.Variables.get?, signedVariables, List.lookup_cons_self,
      List.lookup_cons, List.lookup_nil, String.reduceBEq, String.reduceEq, String.reduceToList,
      String.toList_ofList, Option.getD_some, Option.getD_none, Except.map_ok, true_or, false_or, if_true, if_false,
      Option.isNone_iff_eq_none, Option.map_eq_some_iff]
    decide +kernel
  cases read : signedTheme.style with
  | error fault =>
    rw [read] at filled
    cases filled
  | ok style =>
    rw [read] at filled
    exact ⟨style, rfl, Option.some.inj filled⟩

/-- Three pairs with a sign in front are a colour that a theme gets past its reading with. It is none of three or six
digits, and no node can be drawn with it. -/
theorem Theme.colours_drawn_signed :
    Rgb.read? "#-1-1-1" = some ⟨-1, -1, -1⟩ ∧ ¬Rgb.Spells (Rgb.core "#-1-1-1") ⟨-1, -1, -1⟩ ∧
    ∃ style, signedTheme.style = .ok style ∧ ∃ fault,
      ((Edit.drawShapeAt (Editor.deskOf style) "RECTANGLE" ⟨40, 40, 160, 60⟩).run.run {}).1 = .error fault := by
  have read : Rgb.read? "#-1-1-1" = some ⟨-1, -1, -1⟩ := by decide +kernel
  obtain ⟨-, -, meant, drawn⟩ := colours_drawn signedTheme {}
  refine ⟨read, fun spelt => ?_, ?_⟩
  · have digits := (meant "#-1-1-1" _ read).1.1 spelt '-' (by decide +kernel)
    exact absurd digits (by decide)
  · obtain ⟨style, hstyle, fill⟩ := style_signedTheme
    have onGrid : Box.OnGrid ⟨40, 40, 160, 60⟩ ⟨381000, 381000, 1524000, 571500⟩ := by
      constructor <;> decide +kernel
    refine ⟨style, hstyle, ((drawn style hstyle).1 _ _ ⟨_, onGrid⟩).2 (.inl ⟨_, fill, '1', 1, ?_⟩)⟩
    decide +kernel

end FlowDeck
