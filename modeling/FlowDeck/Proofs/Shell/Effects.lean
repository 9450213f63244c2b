import FlowDeck.Proofs.Shell.Sequence

/-!
# What a call leaves in the folder

A call writes at most one file, and only at its end. Where it faults, or only reads, no file is another
than before. Otherwise the deck stands under the path it is saved to, with the suffix of decks. One of its
slides has been worked on, and its other slides and all other files are as they were.
-/

namespace FlowDeck

/-- One file has been written. It is the deck at this path, and every other place holds what it held. -/
structure Folder.WritesOnly (folder written : Folder) (path : Path) (deck : Deck) : Prop where
  deck : written.deck? path = some deck
  other : ∃ place, written.place? path = some place ∧ written.sheets.lookup place = none ∧
    ∀ elsewhere, elsewhere ≠ place → written.decks.lookup elsewhere = folder.decks.lookup elsewhere ∧
      written.sheets.lookup elsewhere = folder.sheets.lookup elsewhere

theorem Folder.Holds.writesOnly {folder written : Folder} {path : Path} {deck : Deck}
    (h : folder.Holds written path deck) : folder.WritesOnly written path deck := by
  refine ⟨h.deck?, ?_⟩
  obtain ⟨place, hplace, -, hsheets, hdecks⟩ := h.place
  refine ⟨place, hplace, ?_, ?_⟩
  · rw [hsheets, lookup_filter_self]
  · intro elsewhere hne
    have last : [(place, deck)].lookup elsewhere = none := by
      simp [List.lookup_cons, beq_false_of_ne hne]
    constructor
    · rw [hdecks, List.lookup_append, lookup_filter_ne _ hne, last, Option.or_none]
    · rw [hsheets, lookup_filter_ne _ hne]

namespace Shell

open Edit

variable {folder : Folder} {call : Call} {words : List String} {rule : DashRule}

def Call.target (call : Call) : Path :=
  ((call.output.map Path.ofText).getD (Path.ofText call.deck)).withSuffix Editor.deckSuffix

/-- The call is about a slide that its deck has, and leaves all other slides as they are. -/
structure Call.KeepsOthers (call : Call) (folder : Folder) : Prop where
  slide : call.slide = some (call.index : Int)
  within : call.index < (folder.opened (Path.ofText call.deck)).length
  length : (call.edited folder).length = (folder.opened (Path.ofText call.deck)).length
  others : ∀ i ≠ call.index, (call.edited folder)[i]? = (folder.opened (Path.ofText call.deck))[i]?

theorem Call.Opens.keepsOthers {style : Style} {start page : Page} {printed : String}
    (h : call.Opens folder style start page printed) : call.KeepsOthers folder where
  slide := h.slide
  within := (List.getElem?_eq_some_iff.1 h.begun).1
  length := List.length_set
  others _ hi := List.getElem?_set_ne hi.symm

theorem folder_of_failure (fault : Fault) (printed : String) (log : List LogEntry) (left : Folder) :
    (Call.run.failure call fault printed log left).folder = left := by
  unfold Call.run.failure
  split <;> rfl

theorem Call.widens_run (h : (call.run folder).ending ≠ .done ∨ call.action.readsOnly = true) :
    folder.Widens (call.run folder).folder := by
  unfold Call.run at h ⊢
  split at h
  · exact .refl folder
  · next printed output deck page hr =>
    split at h
    · cases h with
      | inl h => exact absurd rfl h
      | inr h =>
        have output_eq := (edit_ok hr).2
        rw [if_pos h] at output_eq
        cases output_eq
    · next fault left hsave =>
      rw [folder_of_failure]
      exact Editor.widens_saveDeck hsave
  · rw [folder_of_failure]
    exact .refl folder

theorem Call.holds_target (h : (call.run folder).ending = .done) (hw : call.action.readsOnly = false) :
    call.target.suffix = Editor.deckSuffix ∧ folder.Holds (call.run folder).folder call.target (call.edited folder) ∧
      call.KeepsOthers folder := by
  obtain ⟨printed, output, page, hedit, -, hleft⟩ := Call.run_done h
  obtain ⟨⟨style, start, opens⟩, output_eq⟩ := edit_ok hedit
  rw [hw] at output_eq
  subst output_eq
  obtain ⟨⟨path, saved⟩, hsave⟩ := hleft
  obtain ⟨hpath, holds⟩ := Editor.holds_saveDeck_savedPath hsave
  obtain ⟨rfl, hsuffix⟩ := Editor.savedPath_eq hpath
  exact ⟨hsuffix, holds, opens.keepsOthers⟩

/-- A call that faults, or whose action only reads, leaves every file as it was. Every other call writes
one file, at its output or else where its deck is, under the suffix of decks: the deck that it has opened,
where one slide is as its action has left it and all others are as they were. It does not matter what
drops a double dash. -/
theorem run_writesOnly_target (h : Call.readBy rule words = .ok call) :
    ((runBy rule words folder).ending ≠ .done ∨ call.action.readsOnly = true →
      (runBy rule words folder).folder.decks = folder.decks ∧
        (runBy rule words folder).folder.sheets = folder.sheets) ∧
    ((runBy rule words folder).ending = .done ∧ call.action.readsOnly = false →
      call.target.suffix = Editor.deckSuffix ∧
        folder.WritesOnly (runBy rule words folder).folder call.target (call.edited folder) ∧
        call.KeepsOthers folder) := by
  have eq : runBy rule words folder = call.run folder := by rw [runBy, h]
  rw [eq]
  constructor
  · intro quiet
    have widens := Call.widens_run quiet
    exact ⟨widens.decks, widens.sheets⟩
  · intro ⟨done, writes⟩
    obtain ⟨suffix, holds, others⟩ := Call.holds_target done writes
    exact ⟨suffix, holds.writesOnly, others⟩

def twoSlides : Folder :=
  { sheetFolder with
    decks := [(Path.ofText "deck.pptx", [[⟨2, "Table 1", none, none, .table ⟨0, 0, 9525, 9525⟩⟩], []])] }

/-- A call that draws a node on the second slide, where the output is a double dash. -/
def drawing : List String := ["deck.pptx", "--output=--", "-s", "1", "--theme", "plain.css", "add-node"]

def mistaken : List String := ["deck.pptx", "-o", "out/copy", "-s", "2", "add-node"]

/-- Where options drop a double dash the deck itself is written, else a file of that name. -/
theorem run_writesOnly_target_drawing :
    (∀ rule, ∃ call, Call.readBy rule drawing = .ok call ∧ (runBy rule drawing twoSlides).ending = .done ∧
      call.target = Path.ofText (match rule with | .everywhere => "deck.pptx" | .inPlaces => "--.pptx") ∧
      twoSlides.WritesOnly (runBy rule drawing twoSlides).folder call.target (call.edited twoSlides) ∧
      (call.edited twoSlides)[0]? = some [⟨2, "Table 1", none, none, .table ⟨0, 0, 9525, 9525⟩⟩]) ∧
    (∃ call, Call.read mistaken = .ok call ∧ call.target = Path.ofText "out/copy.pptx") ∧
      (run mistaken twoSlides).ending = .reported ∧ (run mistaken twoSlides).folder.decks = twoSlides.decks := by
  constructor
  · intro rule
    have reads : ((Call.readBy rule drawing).toOption.map fun call =>
        (call.target, call.action.readsOnly, call.index, call.deck)) =
        some (Path.ofText (match rule with | .everywhere => "deck.pptx" | .inPlaces => "--.pptx"), false, 1,
          "deck.pptx") := by
      cases rule <;> decide +kernel
    have done : (runBy rule drawing twoSlides).ending = .done := by cases rule <;> decide +kernel
    cases hd : Call.readBy rule drawing with
    | error stop => rw [hd] at reads; cases reads
    | ok call =>
    rw [hd] at reads
    obtain ⟨target, reads⟩ := Prod.mk.inj (Option.some.inj reads)
    obtain ⟨writes, reads⟩ := Prod.mk.inj reads
    obtain ⟨index, deck⟩ := Prod.mk.inj reads
    obtain ⟨-, written, kept⟩ := (run_writesOnly_target hd).2 ⟨done, writes⟩
    refine ⟨call, rfl, done, target, written, ?_⟩
    rw [kept.others 0 (by rw [index]; decide), deck]
    decide +kernel
  · have reads : ((Call.read mistaken).toOption.map fun call => call.target) = some (Path.ofText "out/copy.pptx") := by
      decide +kernel
    have ends : (run mistaken twoSlides).ending = .reported := by decide +kernel
    cases hm : Call.read mistaken with
    | error stop => rw [hm] at reads; cases reads
    | ok call =>
    rw [hm] at reads
    have failed : (run mistaken twoSlides).ending ≠ .done := by
      rw [ends]
      decide
    exact ⟨⟨call, rfl, Option.some.inj reads⟩, ends, ((run_writesOnly_target hm).1 (.inl failed)).1⟩

end Shell

end FlowDeck
