import FlowDeck.Proofs.Deck.Frame
import FlowDeck.Proofs.Hierarchy.Storable

/-!
# Storing a descriptor text

A text is stored in the description of a shape, whatever it says and wherever a descriptor was kept before. It is
found again there, an empty one as none, and what was kept in one of the old places is gone. A text that the slide
cannot hold is refused before anything is done.
-/

namespace FlowDeck

namespace Text

/-- The characters of marked-up text: tab, line feed and carriage return, and all others from the blank on but for
surrogates and the two code points that are set aside. -/
def IsMarkupChar (c : Char) : Prop :=
  c.toNat = 0x9 ∨ c.toNat = 0xA ∨ c.toNat = 0xD ∨ (0x20 ≤ c.toNat ∧ c.toNat ≤ 0xD7FF) ∨
    (0xE000 ≤ c.toNat ∧ c.toNat ≤ 0xFFFD) ∨ (0x10000 ≤ c.toNat ∧ c.toNat ≤ 0x10FFFF)

theorem isStorable_iff {c : Char} : isStorable c ↔ IsMarkupChar c := by
  have valid : c.toNat < 0xD800 ∨ 0xDFFF < c.toNat ∧ c.toNat < 0x110000 := c.valid
  have char_eq (d : Char) : c = d ↔ c.toNat = d.toNat := ⟨fun h => h ▸ rfl, fun h => Char.toNat_inj.1 h⟩
  have tab : '\t'.toNat = 0x9 := rfl
  have lineFeed : '\n'.toNat = 0xA := rfl
  have carriageReturn : '\r'.toNat = 0xD := rfl
  simp only [isStorable, isSetAside, IsMarkupChar, char_eq, tab, lineFeed, carriageReturn, Bool.and_eq_true,
    Bool.or_eq_true, decide_eq_true_eq, Bool.not_eq_true', Bool.or_eq_false_iff, beq_eq_false_iff_ne]
  omega

end Text

theorem storable_iff {text : String} : Storable text ↔ ∀ c ∈ text.toList, Text.IsMarkupChar c :=
  forall₂_congr fun _ _ => Text.isStorable_iff

namespace Shape

variable {s : Shape}

def bare (s : Shape) : Shape :=
  { s.withBody {} with descr := none, title := none }

theorem bare_withMemo (s : Shape) (text : String) : (s.withMemo text).bare = s.bare := by
  obtain ⟨id, name, descr, title, form⟩ := s
  unfold withMemo
  dsimp only
  split <;> cases form <;> rfl

theorem title_withMemo (h : s.hasMisplacedTitle = false) (text : String) : (s.withMemo text).title = s.title :=
  (s.rewrites_withMemo text).title.resolve_right (by simp [h])

theorem body?_withMemo (h : s.hasMisplacedText = false) (text : String) : (s.withMemo text).body? = s.body? := by
  have form : (s.withMemo text).form = s.form := (s.rewrites_withMemo text).form.resolve_right (by simp [h])
  unfold body?
  rw [form]

end Shape

namespace Slide

variable {sl : Slide} {id : ShapeId} {s : Shape}

/-- The shape that a number stands for is the first one with that number. -/
theorem exists_between (hs : sl.shape? id = some s) :
    ∃ front behind : Slide, sl = front ++ s :: behind ∧ front.Lacks id ∧ s.id = id := by
  obtain ⟨hid, front, behind, parts, others⟩ := List.find?_eq_some_iff_append.1 hs
  exact ⟨front, behind, parts, fun t ht => by simpa using others t ht, by simpa using hid⟩

end Slide

namespace Edit

variable {page : Page} {id : ShapeId} {s : Shape}

theorem run_memo (hs : page.slide.shape? id = some s) : (memo id).run.run page = (.ok s.memo, page) := by
  have found : (shape id).run.run page = (.ok s, page) := by
    refine run_bind_ok.2 ⟨page.slide, page, rfl, ?_⟩
    rw [hs]
    rfl
  exact run_bind_ok.2 ⟨s, page, found, rfl⟩

/-- A text is stored if it can be, else nothing is done. What is noted about it is in the log only. -/
theorem leads_setMemo (hs : page.slide.shape? id = some s) (text : String) :
    Leads (setMemo id text) page
      (fun _ after => Storable text ∧ after.slide = page.slide.modify id (fun s => s.withMemo text) ∧
        after.selection = page.selection)
      fun fault after => ¬ Storable text ∧ fault = .notStorable ∧ after = page := by
  rw [setMemo, leads_bind, leads_shape]
  refine ⟨fun found hf => ?_, fun hf => by rw [hs] at hf; cases hf⟩
  rw [leads_bind, requireStorable]
  split
  · next ok =>
    have storable : Storable text := fun c hc => List.all_eq_true.1 ok c hc
    rw [leads_pure, leads_bind, leads_change]
    dsimp only
    -- The notes leave slide and selection alone, whichever of them are made.
    split
    · refine leads_bind.2 (leads_note.2 ?_)
      split
      · exact leads_note.2 ⟨storable, rfl, rfl⟩
      · exact leads_pure.2 ⟨storable, rfl, rfl⟩
    · split
      · exact leads_note.2 ⟨storable, rfl, rfl⟩
      · exact leads_pure.2 ⟨storable, rfl, rfl⟩
  · next refused => exact leads_throw.2 ⟨fun storable => refused (List.all_eq_true.2 storable), rfl, rfl⟩

end Edit

open Edit Slide

/-- A text is refused if one of its characters has no place on a slide, and then nothing has changed. Else it is found
again as it was stored, neither the title nor the text inside the shape is meant as a descriptor any more, each of them
is as it was unless it was one, and nothing else about this shape or any other has changed. -/
theorem setMemo_migrates {page : Page} {id : ShapeId} {s : Shape} (hs : page.slide.shape? id = some s) (text : String) :
    ((∃ c ∈ text.toList, ¬ Text.IsMarkupChar c) ∧ (setMemo id text).run.run page = (.error .notStorable, page)) ∨
      (∀ c ∈ text.toList, Text.IsMarkupChar c) ∧ ∃ after front t behind,
        (setMemo id text).run.run page = (.ok (), after) ∧ (memo id).run.run after = (.ok text, after) ∧
          t.Tidy ∧ (s.hasMisplacedTitle = false → t.title = s.title) ∧
          (s.hasMisplacedText = false → t.body? = s.body?) ∧ t.bare = s.bare ∧
          page.slide = front ++ s :: behind ∧ after.slide = front ++ t :: behind ∧ after.selection = page.selection := by
  have led := leads_setMemo hs text
  obtain ⟨front, behind, parts, lacks, hid⟩ := exists_between hs
  rcases hm : (setMemo id text).run.run page with ⟨fault | _, after⟩
  · obtain ⟨refused, rfl, rfl⟩ := led.error hm
    rw [storable_iff] at refused
    push Not at refused
    exact .inl ⟨refused, rfl⟩
  · obtain ⟨storable, slide, selection⟩ := led.ok hm
    have written : after.slide = front ++ s.withMemo text :: behind := by
      rw [slide, parts, ← hid, modify_between _ (hid ▸ lacks)]
    have there : after.slide.shape? id = some (s.withMemo text) := by
      rw [slide, shape?_modify_self (fun s => s.withMemo_id text), hs]
      rfl
    have read := run_memo there
    rw [Shape.memo_withMemo] at read
    exact .inr ⟨storable_iff.1 storable, after, front, s.withMemo text, behind, rfl, read, s.withMemo_tidy text,
      fun h => Shape.title_withMemo h text, fun h => Shape.body?_withMemo h text, s.bare_withMemo text, parts, written,
      selection⟩

def outdated : Shape :=
  ⟨3, "", some "", some " graph[][A7][]", .figure "OVAL" ⟨0, 0, 0, 0⟩ none none ⟨"\tgraph[A1", [none]⟩⟩

def oldDeck : Page where
  slide := [⟨2, "", some "graph[](LR)[A1][]", none, .textBox ⟨0, 0, 0, 0⟩ {}⟩, outdated,
    ⟨4, "", none, some "graph[][A8][]", .table ⟨0, 0, 0, 0⟩⟩]

theorem setMemo_migrates_oldDeck : (memo 3).run.run oldDeck = (.ok "graph[][A7][]", oldDeck) ∧
    ∃ after, (setMemo 3 "").run.run oldDeck = (.ok (), after) ∧ (memo 3).run.run after = (.ok "", after) := by
  have here : oldDeck.slide.shape? 3 = some outdated := rfl
  have kept : outdated.memo = "graph[][A7][]" := by decide +kernel
  refine ⟨kept ▸ run_memo here, ?_⟩
  rcases setMemo_migrates here "" with ⟨⟨c, hc, -⟩, -⟩ | ⟨-, after, -, -, -, ends, read, -⟩
  · simp at hc
  · exact ⟨after, ends, read⟩

end FlowDeck
