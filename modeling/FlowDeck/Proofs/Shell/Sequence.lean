import FlowDeck.Proofs.Command.Following
import FlowDeck.Proofs.Command.Keeping
import FlowDeck.Proofs.Storage.Writing
import FlowDeck.Shell.Run

/-!
# Calls one after the other

Each call opens its deck anew and saves it under a path with the suffix of decks. So calls on a deck
whose path has that suffix do together what one editor does that performs their actions in order.
-/

namespace FlowDeck

structure Folder.IsFree (folder : Folder) (path : Path) : Prop where
  directory : folder.isDirectory path = false
  sheet : folder.sheet? path = none
  deck : folder.deck? path = none

def Folder.opened (folder : Folder) (path : Path) : Deck :=
  (folder.deck? path).getD Editor.newDeck

theorem Folder.IsFree.opened {folder : Folder} {path : Path} (h : folder.IsFree path) :
    folder.opened path = Editor.newDeck := by
  rw [Folder.opened, h.deck, Option.getD_none]

theorem Folder.Holds.opened {folder written : Folder} {path : Path} {deck : Deck} (h : folder.Holds written path deck) :
    written.opened path = deck := by
  rw [Folder.opened, h.deck?, Option.getD_some]

namespace Editor

variable {folder ready written : Folder} {deck : Path} {theme : String} {style : Style} {page saved : Page}

/-- A deck that can be opened has these slides, and the page is not touched yet. -/
theorem openDeck_ok {slides : Deck} {now : Page} (h : (openDeck folder deck).run.run page = (.ok slides, now)) :
    slides = folder.opened deck ∧ now.slide = page.slide := by
  unfold openDeck at h
  by_cases directory : folder.isDirectory deck
  · rw [if_pos directory] at h
    cases h
  rw [if_neg directory] at h
  by_cases sheet : (folder.sheet? deck).isSome
  · rw [if_pos sheet] at h
    cases h
  rw [if_neg sheet] at h
  rw [Folder.opened]
  cases hd : folder.deck? deck with
  | none =>
    rw [hd] at h
    cases h
    exact ⟨rfl, rfl⟩
  | some slides =>
    rw [hd] at h
    cases h
    exact ⟨rfl, rfl⟩

/-- Work begins on the slide of this index, if the deck has one. -/
theorem turnTo_ok {slides : Deck} {index : Int} {i : Nat} {now : Page}
    (h : (turnTo slides index).run.run page = (.ok i, now)) : index = i ∧ slides[i]? = some now.slide := by
  unfold turnTo at h
  cases index with
  | ofNat n =>
    cases hs : slides[n]? with
    | none =>
      simp only [hs] at h
      cases h
    | some slide =>
      simp only [hs] at h
      cases h
      exact ⟨rfl, hs⟩
  | negSucc n => cases h

/-- A deck is saved under its path with the suffix of decks. -/
theorem savedPath_eq {path : Path} (h : savedPath deck = .ok path) :
    path = deck.withSuffix deckSuffix ∧ path.suffix = deckSuffix := by
  unfold savedPath at h
  split at h
  · next hs =>
    cases h
    refine ⟨?_, hs⟩
    rw [← hs, Path.withSuffix_self (by rw [hs]; decide)]
  split at h
  · cases h
  next hn =>
  cases h
  have letters : deckSuffix.toList = '.' :: "pptx".toList := rfl
  exact ⟨rfl, Path.suffix_withSuffix hn letters (by decide) (by decide)⟩

theorem holds_saveDeck_savedPath {slides : Deck} {path : Path}
    (h : saveDeck folder (some deck) slides page = (.ok (path, saved), written)) :
    savedPath deck = .ok path ∧ folder.Holds written path slides := by
  simp only [saveDeck, Option.elim_some] at h
  split at h
  · cases h
  next path' hp =>
  split at h
  · cases h
  next ready hr =>
  split at h
  · cases h
  next written hw =>
  cases h
  exact ⟨hp, (Folder.holds_writeDeck hw).widened (Folder.widens_makeDirectories hr)⟩

theorem holds_saveDeck {slides : Deck} {path : Path} (hs : deck.suffix = deckSuffix)
    (h : saveDeck folder (some deck) slides page = (.ok (path, saved), written)) :
    folder.Holds written deck slides := by
  obtain ⟨hp, holds⟩ := holds_saveDeck_savedPath h
  have same : savedPath deck = .ok deck := if_pos hs
  cases same.symm.trans hp
  exact holds

/-- Where no deck can be saved, nothing is written but directories. -/
theorem widens_saveDeck {slides : Deck} {path : Option Path} {fault : Fault}
    (h : saveDeck folder path slides page = (.error fault, written)) : folder.Widens written := by
  unfold saveDeck at h
  split at h
  · cases h; exact .refl _
  split at h
  · cases h; exact .refl _
  next hr =>
  split at h
  · cases h; exact Folder.widens_makeDirectories hr
  · cases h

/-- A deck that is written does not change styles: style sheets have another suffix. -/
theorem styleNamed_written {slides : Deck} (h : folder.Holds written deck slides) (hs : deck.suffix = deckSuffix)
    (hl : styleNamed folder theme = .ok style) : styleNamed written theme = .ok style := by
  unfold styleNamed Theme.load at hl ⊢
  generalize found : Theme.locate folder.sheet? theme = located at hl
  suffices Theme.locate written.sheet? theme = located by
    rw [this]
    exact hl
  subst found
  by_cases css : (Path.ofText theme).suffix = ".css"
  · cases hsheet : folder.sheet? (Path.ofText theme) with
    | some sheet =>
      have there := h.sheet? hsheet (by rw [hs]; decide) (by rw [css]; decide) (by rw [css, hs]; decide)
      simp only [Theme.locate, if_pos css, hsheet, there]
    | none => simp only [Theme.locate, if_pos css, hsheet, Except.map, Except.bind, reduceCtorEq] at hl
  · simp only [Theme.locate, if_neg css]

end Editor

namespace Shell

open Edit Command

variable {folder : Folder} {deck : Path} {theme : String} {style : Style} {call : Call} {calls before : List Call}

deriving instance DecidableEq for Ending

/-! ## Actions -/

theorem reads_node (key : String) : Reads (Editor.node key) := by
  refine reads_slide.bind fun sl => ?_
  split
  · exact reads_pure _
  · exact reads_throw _

theorem reads_require {α : Type} (what : String) (value : Option α) : Reads (require what value) := by
  cases value with
  | some a => exact reads_pure a
  | none => exact reads_throw _

theorem follows_node (key : String) : Follows (Editor.node key) (Editor.node key) := by
  refine follows_slide.bind fun sl => ?_
  split
  · exact follows_pure _
  · exact follows_throw _

theorem follows_require {α : Type} (what : String) (value : Option α) :
    Follows (require what value) (require what value) := by
  cases value with
  | some a => exact follows_pure a
  | none => exact follows_throw _

theorem follows_drawChildren (desk : Desk) (shape direction : String) (count : Option Int)
    (gap : Option (Measure Float)) (labels : List (Option String)) :
    Follows (drawChildren desk shape direction count gap labels)
      (drawChildren desk.quiet shape direction count gap labels) := by
  refine (follows_node shape).bind fun node => ?_
  have created (count : Int) :=
    follows_createChildren desk (some node) none direction count gap (labels.map (·.getD ""))
  have filled (label : Option String) :
      Follows (do let _ ← require "text" label) (do let _ ← require "text" label) :=
    (follows_require "text" label).bind fun _ => follows_pure _
  have counted (count : Int) := (created count).bind fun creation =>
    (follows_forM filled labels).bind fun _ => follows_pure creation
  have rest := Follows.ite (c := labels.isEmpty = true) (fun _ => (follows_require "count" count).bind counted)
    fun _ => (follows_pure 0).bind counted
  exact .ite (fun _ => (follows_requireSide direction).bind fun _ => rest) fun _ => rest

/-- Actions do the same on all pages with the same shapes, whether or not places are logged. -/
theorem Action.follows_perform (desk : Desk) (action : Action) :
    Follows (action.perform desk) (action.perform desk.quiet) := by
  have onShape {α : Type} {g g' : Option ShapeId → Edit α} (h : ∀ node, Follows (g node) (g' node)) (shape : String)
      (f : α → String) :
      Follows (do return f (← g (some (← Editor.node shape)))) (do return f (← g' (some (← Editor.node shape)))) :=
    (follows_node shape).bind fun _ => (h _).bind fun _ => follows_pure _
  cases action with
  | addNode label x y =>
    exact (follows_addNode desk label x y none none).bind fun _ => follows_pure _
  | initRoot shape => exact onShape follows_initRoot shape _
  | addChildren shape direction count gap labels =>
    exact (follows_drawChildren desk shape direction count gap labels).bind fun _ => follows_pure _
  | addSibling shape gap => exact onShape (fun node => follows_createSibling desk node none gap) shape _
  | connect first second =>
    refine (follows_node first).bind fun a => (follows_node second).bind fun b => ?_
    exact (follows_link desk (some a) (some b) none).bind fun _ => follows_pure _
  | link first second orientation =>
    refine (follows_node first).bind fun a => (follows_node second).bind fun b => ?_
    exact (follows_connect desk (some a) (some b) none orientation).bind fun _ => follows_pure _
  | select shape scope =>
    refine (follows_require "scope" scope).bind fun scope => ?_
    exact onShape (fun node => follows_selectScope node scope) shape _
  | describe shape => exact onShape follows_describe shape _
  | clear shape => exact onShape follows_clear shape _
  | setLayout shape layout => exact onShape (fun node => follows_setLayout node (some layout)) shape _
  | setChildLayout shape child layout =>
    exact onShape (fun node => follows_setChildLayout node child (some layout)) shape _
  | split shape rows padding paddingTop gap =>
    refine (follows_mapM (fun row => follows_require "row" row) rows).bind fun rows => ?_
    exact onShape (fun node => follows_split desk node rows padding paddingTop gap) shape _
  | analyze => exact follows_analyze.bind fun _ => follows_pure _

/-- What only reads leaves the shapes as they are. -/
theorem Action.makes_readsOnly (desk : Desk) {action : Action} (h : action.readsOnly = true) (sl : Slide) :
    Makes (action.perform desk) sl (fun _ after => after = sl) (· = sl) := by
  have read {α : Type} {m : Edit α} (hm : Reads m) : Makes m sl (fun _ after => after = sl) (· = sl) :=
    hm.makes rfl fun _ => rfl
  cases action with
  | select shape scope =>
    refine (reads_require "scope" scope).followed rfl fun scope => (reads_node shape).followed rfl fun node => ?_
    exact (makes_selectScope scope (some node)).bind fun _ _ hs => makes_pure hs
  | describe shape =>
    refine read <| (reads_node shape).bind fun node => Reads.bind ?_ fun _ => reads_pure _
    exact (reads_requireNode _).bind fun _ => (reads_memo _).bind fun _ => reads_pure _
  | analyze => exact read (reads_analyze.bind fun _ => reads_pure _)
  | _ => cases h

/-! ## One call -/

structure Call.IsOn (call : Call) (deck : Path) (theme : String) : Prop where
  deck : Path.ofText call.deck = deck
  output : call.output = none
  slide : call.slide = some 0
  theme : call.theme = some theme

def Call.index (call : Call) : Nat :=
  (call.slide.getD 0).toNat

/-- The deck at the end of a call, which is saved unless the call only reads: the one that was opened, with
its slide as the page has come to be. -/
def Call.edited (call : Call) (folder : Folder) : Deck :=
  (folder.opened (Path.ofText call.deck)).set call.index ((call.edit folder).run.run {}).2.slide

/-- What a call that comes to something has opened, and from where it has performed its action. -/
structure Call.Opens (call : Call) (folder : Folder) (style : Style) (start page : Page) (printed : String) : Prop where
  slide : call.slide = some (call.index : Int)
  theme : ∃ theme, call.theme = some theme ∧ Editor.styleNamed folder theme = .ok style
  begun : (folder.opened (Path.ofText call.deck))[call.index]? = some start.slide
  performed : (call.action.perform { Editor.deskOf style with debug := call.debug }).run.run start = (.ok printed, page)

theorem Call.edit_ok {printed : String} {output : Option (Path × Deck)} {page : Page}
    (h : (call.edit folder).run.run {} = (.ok (printed, output), page)) :
    (∃ style start, call.Opens folder style start page printed) ∧
      output = if call.action.readsOnly then none
        else some ((call.output.map Path.ofText).getD (Path.ofText call.deck), call.edited folder) := by
  have left : ((call.edit folder).run.run {}).2.slide = page.slide := by rw [h]
  obtain ⟨slides, now, hopen, rest⟩ := run_bind_ok.1 h
  obtain ⟨rfl, -⟩ := Editor.openDeck_ok hopen
  obtain ⟨index, now, hslide, rest⟩ := run_bind_ok.1 rest
  obtain ⟨i, start, hturn, rest⟩ := run_bind_ok.1 rest
  obtain ⟨theme, now', htheme, rest⟩ := run_bind_ok.1 rest
  obtain ⟨desk, now', hdesk, rest⟩ := run_bind_ok.1 rest
  obtain ⟨style, last, hstyle, hdesk⟩ := run_bind_ok.1 hdesk
  obtain ⟨text, last', hperform, hend⟩ := run_bind_ok.1 rest
  obtain ⟨rfl, hstart⟩ := Editor.turnTo_ok hturn
  have slide : call.slide = some (i : Int) := by
    cases hs : call.slide with
    | none => rw [hs] at hslide; cases hslide
    | some n => rw [hs] at hslide; cases hslide; rfl
  have index : call.index = i := by rw [Call.index, slide, Option.getD_some, Int.toNat_natCast]
  cases ht : call.theme with
  | none => rw [ht] at htheme; cases htheme
  | some name =>
  rw [ht] at htheme
  cases htheme
  cases found : Editor.styleNamed folder theme with
  | error fault => rw [found] at hstyle; cases hstyle
  | ok style' =>
  rw [found] at hstyle
  cases hstyle
  cases hdesk
  have edited : call.edited folder = (folder.opened (Path.ofText call.deck)).set i page.slide := by
    rw [Call.edited, index, left]
  rw [edited]
  cases hr : call.action.readsOnly
  all_goals
    rw [hr] at hend
    cases hend
    exact ⟨⟨_, start, index ▸ slide, ⟨theme, ht, found⟩, index ▸ hstart, hperform⟩, rfl⟩

theorem Call.run_done (h : (call.run folder).ending = .done) :
    ∃ printed output page, (call.edit folder).run.run {} = (.ok (printed, output), page) ∧
      (call.run folder).printed = printed ∧
      match output with
      | none => (call.run folder).folder = folder
      | some (path, deck) =>
        ∃ saved, Editor.saveDeck folder (some path) deck page = (.ok saved, (call.run folder).folder) := by
  have failed (fault : Fault) (printed : String) (log : List LogEntry) (left : Folder) :
      (Call.run.failure call fault printed log left).ending ≠ .done := by
    unfold Call.run.failure
    split <;> nofun
  unfold Call.run at h ⊢
  split at h
  · next printed page hr =>
    rw [hr]
    exact ⟨printed, none, page, rfl, rfl, rfl⟩
  · next printed output deck page hr =>
    rw [hr]
    split at h
    · next path saved left hsave =>
      exact ⟨printed, some (output, deck), page, rfl, rfl, _, hsave⟩
    · exact absurd h (failed _ _ _ _)
  · exact absurd h (failed _ _ _ _)

/-- What a call does that comes to its end: it performs its action on the slide that it opens, and either
only reads, or the deck is saved with the slide after that. -/
structure Call.Done (call : Call) (folder : Folder) (deck : Path) (desk : Desk) : Prop where
  performed : ∃ start page, (folder.opened deck)[0]? = some start.slide ∧
    (call.action.perform desk).run.run start = (.ok (call.run folder).printed, page) ∧
    call.edited folder = (folder.opened deck).set 0 page.slide
  left : (call.action.readsOnly = true ∧ (call.run folder).folder = folder) ∨
    (call.action.readsOnly = false ∧ folder.Holds (call.run folder).folder deck (call.edited folder))

theorem Call.done_of_run (hon : call.IsOn deck theme) (hs : deck.suffix = Editor.deckSuffix)
    (h : (call.run folder).ending = .done) : ∃ style, Editor.styleNamed folder theme = .ok style ∧
      call.Done folder deck { Editor.deskOf style with debug := call.debug } := by
  obtain ⟨printed, output, page, hedit, hprinted, hleft⟩ := Call.run_done h
  obtain ⟨⟨style, start, opens⟩, houtput⟩ := Call.edit_ok hedit
  obtain ⟨name, hname, hstyle⟩ := opens.theme
  obtain rfl := Option.some.inj (hname.symm.trans hon.theme)
  have index : call.index = 0 := by rw [Call.index, hon.slide]; rfl
  have edited : call.edited folder = (folder.opened deck).set 0 page.slide := by
    rw [Call.edited, hedit, index, hon.deck]
  have begun : (folder.opened deck)[0]? = some start.slide := by
    rw [← opens.begun, index, hon.deck]
  refine ⟨style, hstyle, ⟨start, page, begun, hprinted ▸ opens.performed, edited⟩, ?_⟩
  rw [hon.output, hon.deck, Option.map_none, Option.getD_none] at houtput
  subst houtput
  cases hr : call.action.readsOnly with
  | true =>
    rw [hr] at hleft
    exact .inl ⟨rfl, hleft⟩
  | false =>
    rw [hr] at hleft
    obtain ⟨⟨path, saved⟩, hsave⟩ := hleft
    exact .inr ⟨rfl, Editor.holds_saveDeck hs hsave⟩

/-! ## All calls -/

/-- What calls come to, one after the other: the folder, the deck that the last of them to save has
saved, and what each of them has printed. -/
structure Progress where
  folder : Folder
  saved : Deck := Editor.newDeck
  outcomes : List Outcome := []

def Progress.next (now : Progress) (call : Call) : Progress where
  folder := (call.run now.folder).folder
  saved := if call.action.readsOnly then now.saved else call.edited now.folder
  outcomes := now.outcomes ++ [call.run now.folder]

def progress (folder : Folder) (calls : List Call) : Progress :=
  calls.foldl Progress.next { folder }

/-- One editor that performs actions on a deck, all on the same page. The result is what is printed. -/
def performAll (folder : Folder) (deck : Path) (theme : String) (actions : List Action) : Edit (List String) := do
  let slides ← Editor.openDeck folder deck
  let _ ← Editor.turnTo slides 0
  let desk ← Editor.setUp folder theme false
  actions.mapM (Action.perform desk)

theorem progress_append (folder : Folder) (calls : List Call) (call : Call) :
    progress folder (calls ++ [call]) = (progress folder calls).next call := by
  rw [progress, List.foldl_append]; rfl

theorem outcomes_mono (h : before <+: calls) :
    (progress folder before).outcomes <+: (progress folder calls).outcomes := by
  induction calls using List.reverseRecOn with
  | nil =>
    obtain rfl := List.prefix_nil.1 h
    exact List.prefix_rfl
  | append_singleton calls call ih =>
    rcases List.prefix_concat_iff.1 h with rfl | hb
    · exact List.prefix_rfl
    · rw [progress_append]
      exact (ih hb).trans (List.prefix_append _ _)

structure Progress.Agrees (now : Progress) (deck : Path) (theme : String) (style : Style) (actions : List Action) :
    Prop where
  opened : now.folder.opened deck = now.saved
  styled : Editor.styleNamed now.folder theme = .ok style
  edited : ∃ page, (actions.mapM (Action.perform (Editor.deskOf style))).run.run {} =
      (.ok (now.outcomes.map (·.printed)), page) ∧
    now.saved = [page.slide]

theorem Progress.Agrees.next {now : Progress} {actions : List Action} (h : now.Agrees deck theme style actions)
    (hon : call.IsOn deck theme) (hs : deck.suffix = Editor.deckSuffix) (hd : (call.run now.folder).ending = .done) :
    (now.next call).Agrees deck theme style (actions ++ [call.action]) := by
  obtain ⟨style', hstyle, done⟩ := Call.done_of_run hon hs hd
  obtain rfl : style' = style := Except.ok.inj (hstyle.symm.trans h.styled)
  obtain ⟨start, page, hstart, hperform, hedited⟩ := done.performed
  obtain ⟨last, hlast, hsaved⟩ := h.edited
  -- In one editor the action begins where the last one has ended.
  rw [h.opened, hsaved] at hstart hedited
  have same : start.slide = last.slide := (Option.some.inj hstart).symm
  obtain ⟨page', hperform', hpage⟩ := (Action.follows_perform _ call.action).ends same hperform
  have quiet : ({ Editor.deskOf style' with debug := call.debug } : Desk).quiet = Editor.deskOf style' := rfl
  rw [quiet] at hperform'
  have both := run_mapM_concat hlast hperform'
  have printed : (now.next call).outcomes.map (·.printed) =
      now.outcomes.map (·.printed) ++ [(call.run now.folder).printed] := by
    simp [Progress.next]
  rw [← printed] at both
  have agrees (hopened : (call.run now.folder).folder.opened deck = (now.next call).saved)
      (hstyle : Editor.styleNamed (call.run now.folder).folder theme = .ok style')
      (hsaved : (now.next call).saved = [page.slide]) :
      (now.next call).Agrees deck theme style' (actions ++ [call.action]) :=
    ⟨hopened, hstyle, page', both, hpage ▸ hsaved⟩
  rcases done.left with ⟨hr, hfolder⟩ | ⟨hr, holds⟩
  · have kept : page.slide = last.slide := by
      have reads := Action.makes_readsOnly { Editor.deskOf style' with debug := call.debug } hr start.slide
      rw [(reads.leads start rfl).ok hperform, same]
    have saved : (now.next call).saved = now.saved := if_pos hr
    refine agrees ?_ ?_ ?_
    · rw [hfolder, saved, h.opened]
    · rw [hfolder, h.styled]
    · rw [saved, hsaved, kept]
  · have saved : (now.next call).saved = call.edited now.folder := by
      rw [Progress.next, hr]; rfl
    refine agrees ?_ (Editor.styleNamed_written holds hs h.styled) ?_
    · rw [saved, holds.opened]
    · rw [saved, hedited]
      rfl

/-- On a deck that is not there, one editor begins with an empty page. -/
theorem run_performAll (hfree : folder.IsFree deck) (hstyle : Editor.styleNamed folder theme = .ok style)
    (actions : List Action) : (performAll folder deck theme actions).run.run {} =
      (actions.mapM (Action.perform (Editor.deskOf style))).run.run {} := by
  simp only [performAll, Editor.openDeck, hfree.directory, hfree.sheet, hfree.deck, Editor.setUp, hstyle]
  rfl

/-- Calls on a deck that is not there yet, all with the first slide, one theme and no other output, that
all come to their ends: each of them opens the deck that the last one before it to save has saved, or a new
one. So after each of them that deck has one slide, the one that a single editor comes to that performs their
actions in order, and it prints the same. -/
theorem calls_refine (folder : Folder) (deck : Path) (theme : String) (calls : List Call)
    (hs : deck.suffix = Editor.deckSuffix) (hfree : folder.IsFree deck) (hon : ∀ call ∈ calls, call.IsOn deck theme)
    (hdone : ∀ outcome ∈ (progress folder calls).outcomes, outcome.ending = .done) :
    (∀ before, before <+: calls → (progress folder before).folder.opened deck = (progress folder before).saved) ∧
      ∀ before call, before ++ [call] <+: calls →
        ∃ page, (performAll folder deck theme ((before ++ [call]).map (·.action))).run.run {} =
            (.ok ((progress folder (before ++ [call])).outcomes.map (·.printed)), page) ∧
          (progress folder (before ++ [call])).saved = [page.slide] := by
  have done {before : List Call} {call : Call} (hb : before ++ [call] <+: calls) :
      (call.run (progress folder before).folder).ending = .done := by
    refine hdone _ ((outcomes_mono hb).subset ?_)
    rw [progress_append]
    exact List.mem_append_right _ List.mem_cons_self
  have agrees {style : Style} (hstyle : Editor.styleNamed folder theme = .ok style) (before : List Call)
      (hb : before <+: calls) : (progress folder before).Agrees deck theme style (before.map (·.action)) := by
    induction before using List.reverseRecOn with
    | nil => exact ⟨hfree.opened, hstyle, {}, rfl, rfl⟩
    | append_singleton before call ih =>
      have next := (ih ((List.prefix_append _ _).trans hb)).next
        (hon call (hb.subset (List.mem_append_right _ List.mem_cons_self))) hs (done hb)
      rw [progress_append, List.map_append]
      exact next
  have styled {before : List Call} {call : Call} (hb : before ++ [call] <+: calls) :
      ∃ style, Editor.styleNamed folder theme = .ok style := by
    obtain ⟨first, rest, rfl⟩ := List.exists_cons_of_ne_nil (List.ne_nil_of_mem
      (hb.subset (List.mem_append_right _ List.mem_cons_self)))
    have ends : (first.run folder).ending = .done := @done [] first ⟨rest, rfl⟩
    obtain ⟨style, hstyle, -⟩ := Call.done_of_run (hon first List.mem_cons_self) hs ends
    exact ⟨style, hstyle⟩
  constructor
  · intro before hb
    cases before using List.reverseRecOn with
    | nil => exact hfree.opened
    | append_singleton earlier last =>
      obtain ⟨style, hstyle⟩ := styled hb
      exact (agrees hstyle _ hb).opened
  · intro before call hb
    obtain ⟨style, hstyle⟩ := styled hb
    rw [run_performAll hfree hstyle]
    exact (agrees hstyle _ hb).edited

def sheetFolder : Folder where
  sheets := [(Path.ofText "plain.css",
    ":root\x7b--node-gap:1px;--node-width:1px;--node-height:1px;--node-kind:OVAL;--line-type:BENT;" ++
      "--start-arrow:NONE;--end-arrow:NONE;--grid-padding:1px;--grid-padding-top:1px;--grid-gap:1px;\x7d")]

def firstCalls : List Call :=
  [⟨"deck.pptx", none, some 0, some "plain.css", false, .addNode "" none none⟩,
    ⟨"deck.pptx", none, some 0, some "plain.css", true, .addNode "" none none⟩,
    ⟨"deck.pptx", none, some 0, some "plain.css", false, .describe "2"⟩]

theorem calls_refine_firstCalls :
    (progress sheetFolder firstCalls).folder.opened (Path.ofText "deck.pptx") =
        (progress sheetFolder firstCalls).saved ∧
      ∃ page, (performAll sheetFolder (Path.ofText "deck.pptx") "plain.css" (firstCalls.map (·.action))).run.run {} =
          (.ok ((progress sheetFolder firstCalls).outcomes.map (·.printed)), page) ∧
        (progress sheetFolder firstCalls).saved = [page.slide] := by
  have free : sheetFolder.IsFree (Path.ofText "deck.pptx") :=
    ⟨by decide +kernel, by decide +kernel, by decide +kernel⟩
  have on : ∀ call ∈ firstCalls, call.IsOn (Path.ofText "deck.pptx") "plain.css" := by
    intro call hc
    simp only [firstCalls, List.mem_cons, List.not_mem_nil, or_false] at hc
    rcases hc with rfl | rfl | rfl <;> exact ⟨rfl, rfl, rfl, rfl⟩
  have done : ∀ outcome ∈ (progress sheetFolder firstCalls).outcomes, outcome.ending = .done := by
    decide +kernel
  obtain ⟨opened, edited⟩ := calls_refine sheetFolder (Path.ofText "deck.pptx") "plain.css" firstCalls
    (by decide +kernel) free on done
  exact ⟨opened firstCalls List.prefix_rfl, edited (firstCalls.take 2) _ List.prefix_rfl⟩

end Shell

end FlowDeck
