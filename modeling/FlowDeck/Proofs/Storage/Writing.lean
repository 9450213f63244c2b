import FlowDeck.Editor.Open
import Mathlib.Data.List.TakeWhile

/-!
# Writing into folders

A deck that has been written is at its path from then on. No other file goes, and no path leads to
another place than before: there are only more directories.
-/

namespace FlowDeck

namespace Path

variable {path other place : Path}

/-- A path that does not end by going up leads to a place of its name. -/
theorem parts_step {part : String} (h : part ≠ "..") : (place.step part).parts = place.parts ++ [part] := by
  rw [step, if_pos (.inl h)]

theorem suffix_eq_of_name (h : path.name = "" ∨ path.name = "..") : path.suffix = "" := by
  rw [suffix]
  rcases h with h | h
  · rw [h]; decide
  · rw [h]; decide

theorem name_of_suffix (h : path.suffix ≠ "") : path.parts.getLast? = some path.name ∧ path.name ≠ ".." := by
  have hname : path.name ≠ "" := fun hn => h (suffix_eq_of_name (.inl hn))
  refine ⟨?_, fun hn => h (suffix_eq_of_name (.inr hn))⟩
  cases hl : path.parts.getLast? with
  | none => exact absurd (by rw [name, hl]; rfl) hname
  | some last => rw [name, hl]; rfl

/-! ## Suffixes -/

/-- What stands after the last point of a text that has one. -/
theorem exists_lastPoint {letters : List Char} (h : '.' ∈ letters) :
    ∃ stem tail, letters = stem ++ '.' :: tail ∧ (letters.reverse.takeWhile (· != '.')).reverse = tail := by
  obtain ⟨point, rest, hdrop⟩ := List.exists_cons_of_ne_nil (l := letters.reverse.dropWhile (· != '.'))
    fun hnil => by simpa using List.dropWhile_eq_nil_iff.1 hnil '.' (List.mem_reverse.2 h)
  obtain rfl : point = '.' := by
    have := List.head?_dropWhile_not (· != '.') letters.reverse
    rw [hdrop] at this
    simpa using this
  have parts := congrArg List.reverse (List.takeWhile_append_dropWhile (p := (· != '.')) (l := letters.reverse))
  rw [hdrop, List.reverse_append, List.reverse_reverse, List.reverse_cons, List.append_assoc] at parts
  exact ⟨rest.reverse, _, parts.symm, rfl⟩

/-- A name with a suffix is a stem and the suffix. -/
theorem splitSuffix_append (file : String) : (splitSuffix file).1 ++ (splitSuffix file).2 = file := by
  unfold splitSuffix
  simp only
  split
  · exact String.append_empty
  next h =>
  simp only [not_or, Decidable.not_not] at h
  obtain ⟨stem, tail, hfile, htail⟩ := exists_lastPoint h.1
  have short : file.toList.take (file.toList.length - tail.length - 1) = stem := by
    rw [hfile, List.length_append, List.length_cons]
    exact List.take_left' (by omega)
  rw [htail, short, ← String.ofList_append, ← hfile, String.ofList_toList]

theorem stem_ne {file : String} (h : file ≠ "") : (splitSuffix file).1 ≠ "" := by
  unfold splitSuffix
  simp only
  split
  · exact h
  next hs =>
  simp only [not_or, Decidable.not_not] at hs
  exact fun he => hs.2.2 (String.ofList_injective he)

/-- A stem and a suffix are taken apart again. -/
theorem splitSuffix_of_append {stem suffix : String} {tail : List Char} (hs : stem ≠ "")
    (hsuffix : suffix.toList = '.' :: tail) (ht : tail ≠ []) (hpoint : '.' ∉ tail) :
    splitSuffix (stem ++ suffix) = (stem, suffix) := by
  have letters : (stem ++ suffix).toList = stem.toList ++ '.' :: tail := by rw [String.toList_append, hsuffix]
  have last : ((stem ++ suffix).toList.reverse.takeWhile (· != '.')).reverse = tail := by
    rw [letters, List.reverse_append, List.reverse_cons, List.append_assoc, List.takeWhile_append_of_pos]
    · simp
    · intro c hc
      have : c ∈ tail := List.mem_reverse.1 hc
      exact bne_iff_ne.2 fun he => hpoint (he ▸ this)
  have short : (stem ++ suffix).toList.take ((stem ++ suffix).toList.length - tail.length - 1) = stem.toList := by
    rw [letters, List.length_append, List.length_cons]
    exact List.take_left' (by omega)
  unfold splitSuffix
  simp only [last, short]
  rw [if_neg]
  · rw [← hsuffix, String.ofList_toList, String.ofList_toList]
  · simp only [not_or, Decidable.not_not, ht, not_false_eq_true, true_and]
    refine ⟨?_, fun he => hs (String.toList_eq_nil_iff.1 he)⟩
    rw [letters]
    simp

theorem name_withSuffix (suffix : String) : (path.withSuffix suffix).name = (splitSuffix path.name).1 ++ suffix := by
  rw [name, withSuffix, List.getLast?_concat, Option.getD_some]

/-- A path that has the suffix already keeps its name. -/
theorem withSuffix_self (h : path.suffix ≠ "") : path.withSuffix path.suffix = path := by
  obtain ⟨parts, hparts⟩ := List.getLast?_eq_some_iff.1 (name_of_suffix h).1
  have named := splitSuffix_append path.name
  rw [withSuffix, parent, suffix, named, hparts, List.dropLast_concat, ← hparts]

theorem suffix_withSuffix {suffix : String} {tail : List Char} (hn : path.name ≠ "")
    (hsuffix : suffix.toList = '.' :: tail) (ht : tail ≠ []) (hpoint : '.' ∉ tail) :
    (path.withSuffix suffix).suffix = suffix := by
  rw [Path.suffix, name_withSuffix, splitSuffix_of_append (stem_ne hn) hsuffix ht hpoint]

end Path

namespace Folder

variable {folder ready written : Folder} {path other place : Path} {deck : Deck}

structure Widens (folder ready : Folder) : Prop where
  directories : folder.directories ⊆ ready.directories
  sheets : ready.sheets = folder.sheets
  decks : ready.decks = folder.decks

theorem Widens.refl (folder : Folder) : folder.Widens folder := ⟨List.Subset.refl _, rfl, rfl⟩

theorem Widens.trans {last : Folder} (h : folder.Widens ready) (h' : ready.Widens last) : folder.Widens last :=
  ⟨List.Subset.trans h.directories h'.directories, h'.sheets.trans h.sheets, h'.decks.trans h.decks⟩

theorem hasDirectory_mono (h : folder.directories ⊆ ready.directories) (hd : folder.hasDirectory place = true) :
    ready.hasDirectory place = true := by
  simp only [hasDirectory, Bool.or_eq_true, List.contains_iff_mem] at hd ⊢
  exact hd.imp_right fun hm => h hm

theorem place?_mono (h : folder.directories ⊆ ready.directories) (hp : folder.place? path = some place) :
    ready.place? path = some place := by
  unfold place? at *
  generalize path.start = start at hp ⊢
  generalize path.parts = parts at hp ⊢
  induction parts generalizing start with
  | nil => exact hp
  | cons part parts ih =>
    rw [List.foldlM_cons] at hp ⊢
    obtain ⟨next, hnext, hrest⟩ := Option.bind_eq_some_iff.1 hp
    refine Option.bind_eq_some_iff.2 ⟨next, ?_, ih next hrest⟩
    split at hnext
    · next hd => rw [if_pos (hasDirectory_mono h hd)]; exact hnext
    · cases hnext

/-- A path leads to a place of its name. -/
theorem name_of_place? (h : folder.place? path = some place) {name : String} (hn : path.parts.getLast? = some name)
    (hup : name ≠ "..") : place.parts.getLast? = some name := by
  obtain ⟨parts, hparts⟩ := List.getLast?_eq_some_iff.1 hn
  rw [place?, hparts, List.foldlM_append] at h
  obtain ⟨before, -, hlast⟩ := Option.bind_eq_some_iff.1 h
  simp only [List.foldlM_cons, List.foldlM_nil] at hlast
  split at hlast
  · obtain rfl := Option.some.inj hlast
    rw [Path.parts_step hup, List.getLast?_concat]
  · cases hlast

/-! ## Making directories -/

theorem widens_makeDirectory (h : folder.makeDirectory place = .ok ready) : folder.Widens ready := by
  unfold makeDirectory at h
  split at h
  · cases h; exact .refl _
  · split at h
    · cases h
    · cases h; exact ⟨List.subset_append_left _ _, rfl, rfl⟩

/-- A walk only adds directories when each of its steps does. -/
theorem widens_walk {walk : Folder × Path → String → Except Fault (Folder × Path)}
    (hw : ∀ start part next, walk start part = .ok next → start.1.Widens next.1) (parts : List String)
    {start last : Folder × Path} (h : parts.foldlM walk start = .ok last) : start.1.Widens last.1 := by
  induction parts generalizing start with
  | nil => cases h; exact .refl _
  | cons part parts ih =>
    rw [List.foldlM_cons] at h
    cases hn : walk start part with
    | error fault => rw [hn] at h; cases h
    | ok next => rw [hn] at h; exact (hw start part next hn).trans (ih h)

theorem widens_makeDirectories (h : folder.makeDirectories path = .ok ready) : folder.Widens ready := by
  unfold makeDirectories at h
  split at h
  · cases h
  simp only [bind, Except.bind, pure, Except.pure] at h
  split at h
  · cases h
  next last walked =>
  cases h
  refine widens_walk (fun start part next hn => ?_) _ walked
  split at hn
  · cases hn
  next made hm => cases hn; exact widens_makeDirectory hm

/-! ## Writing a deck -/

/-- What is left where a deck has been written: the folder is wider, and at the place of the path there
is the deck and nothing else. -/
structure Holds (folder written : Folder) (path : Path) (deck : Deck) : Prop where
  directories : folder.directories ⊆ written.directories
  place : ∃ place, written.place? path = some place ∧ written.hasDirectory place = false ∧
    written.sheets = folder.sheets.filter (fun sheet => sheet.1 ≠ place) ∧
    written.decks = folder.decks.filter (fun deck => deck.1 ≠ place) ++ [(place, deck)]

theorem holds_writeDeck (h : folder.writeDeck path deck = .ok written) : folder.Holds written path deck := by
  simp only [writeDeck, clear, bind, Except.bind] at h
  split at h
  · cases h
  next cleared hc =>
  obtain rfl := Except.ok.inj h
  split at hc
  · cases hc
  next wide hw =>
  have widens := widens_makeDirectories hw
  split at hc
  · cases hc
  split at hc
  · cases hc
  next place hp =>
  split at hc
  · cases hc
  next hd =>
  obtain rfl := Except.ok.inj hc
  refine ⟨widens.directories, place, hp, by simpa [hasDirectory] using hd, ?_, ?_⟩
  · rw [← widens.sheets]
  · rw [← widens.decks]

theorem Holds.widened {before : Folder} (h : folder.Holds written path deck) (hw : before.Widens folder) :
    before.Holds written path deck where
  directories := List.Subset.trans hw.directories h.directories
  place := by rw [← hw.sheets, ← hw.decks]; exact h.place

theorem lookup_filter_self {α β : Type} [DecidableEq α] (xs : List (α × β)) (a : α) :
    (xs.filter fun x => x.1 ≠ a).lookup a = none := by
  rw [List.lookup_eq_none_iff]
  intro x hx
  have other : x.1 ≠ a := by simpa using (List.mem_filter.1 hx).2
  exact bne_iff_ne.2 other.symm

theorem lookup_filter_ne {α β : Type} [DecidableEq α] (xs : List (α × β)) {a b : α} (h : b ≠ a) :
    (xs.filter fun x => x.1 ≠ a).lookup b = xs.lookup b := by
  induction xs with
  | nil => rfl
  | cons x xs ih =>
    by_cases hx : x.1 = a
    · rw [List.filter_cons_of_neg (by simpa using hx), ih, List.lookup_cons, hx, beq_false_of_ne h]
    · rw [List.filter_cons_of_pos (by simpa using hx), List.lookup_cons, List.lookup_cons, ih]

theorem Holds.deck? (h : folder.Holds written path deck) : written.deck? path = some deck := by
  obtain ⟨place, hp, -, -, hd⟩ := h.place
  rw [Folder.deck?, hp, Option.bind_some, hd, List.lookup_append, lookup_filter_self]
  rw [Option.none_or, List.lookup_cons_self]

/-- A style sheet that is at a path of another suffix stays there. -/
theorem Holds.sheet? (h : folder.Holds written path deck) {sheet : String} (hs : folder.sheet? other = some sheet)
    (hp : path.suffix ≠ "") (ho : other.suffix ≠ "") (hne : other.suffix ≠ path.suffix) :
    written.sheet? other = some sheet := by
  obtain ⟨place, hplace, -, hsheets, -⟩ := h.place
  obtain ⟨place', hplace', hl⟩ := Option.bind_eq_some_iff.1 hs
  have there := place?_mono h.directories hplace'
  have names : place' ≠ place := by
    rintro rfl
    obtain ⟨hlast, hup⟩ := Path.name_of_suffix hp
    obtain ⟨hlast', hup'⟩ := Path.name_of_suffix ho
    have same := (name_of_place? hplace hlast hup).symm.trans (name_of_place? there hlast' hup')
    exact hne (by rw [Path.suffix, Path.suffix, Option.some.inj same])
  rw [Folder.sheet?, there, Option.bind_some, hsheets, lookup_filter_ne _ names]
  exact hl

end Folder

end FlowDeck
