import FlowDeck.Arrange.Site
import FlowDeck.Command.Scope
import FlowDeck.Number.Reading
import FlowDeck.Plane.Side
import FlowDeck.Shell.Form
import FlowDeck.Text.Casing

/-!
# Calls

A call of the editor names a deck, what to do with it, and options for both. Values may be left
blank; whether that is a fault shows only where they are used, so that blank ones are kept.
-/

namespace FlowDeck.Shell

/-- What is done with the slide of a deck. Shapes are given by number or by name. -/
inductive Action where
  | addNode (text : String) (x y : Option (Measure Float))
  | initRoot (shape : String)
  /-- The count and the labels may be blank. -/
  | addChildren (shape direction : String) (count : Option Int) (gap : Option (Measure Float))
      (labels : List (Option String))
  | addSibling (shape : String) (gap : Option (Measure Float))
  | connect (first second : String)
  | link (first second : String) (orientation : Option String)
  /-- The scope may be blank. -/
  | select (shape : String) (scope : Option Scope)
  | describe (shape : String)
  | clear (shape : String)
  | setLayout (shape layout : String)
  | setChildLayout (shape child layout : String)
  /-- Rows may be blank. -/
  | split (shape : String) (rows : List (Option (List String)))
      (padding paddingTop gap : Option (Measure Float))
  | analyze

def Action.readsOnly : Action → Bool
  | .select .. | .describe _ | .analyze => true
  | _ => false

structure Call where
  deck : String
  output : Option String
  slide : Option Int
  theme : Option String
  debug : Bool
  action : Action

/-! ## Values -/

def int? (s : String) : Option Int := Number.readInt? s.toList

def float? (s : String) : Option Float := Number.readFloat? s.toList

def anyText : Effect := .value fun _ => true

def anInt : Effect := .value fun s => (int? s).isSome

def aFloat : Effect := .value fun s => (float? s).isSome

def aSide : Effect := .value fun s => (Side.ofName? (Text.upper s)).isSome

def anOrientation : Effect := .value fun s => (Orientation.ofName? s).isSome

def aScope : Effect := .value fun s => (Scope.ofName? s).isSome

/-! ## Forms -/

def helpOption : Opt := ⟨"help", ["-h", "--help"], .help⟩

def option (key : String) (effect : Effect) : Opt := ⟨key, ["--" ++ key], effect⟩

def shapePlace : Place := ⟨"shape", .one⟩

def callForm : Form where
  options := [
    helpOption,
    ⟨"output", ["--output", "-o"], anyText⟩,
    ⟨"slide", ["--slide", "-s"], anInt⟩,
    ⟨"theme", ["--theme", "-t"], anyText⟩,
    ⟨"debug", ["--debug"], .flag⟩]
  places := [⟨"deck", .one⟩, ⟨"action", .rest⟩]

def actionForms : List (String × Form) := [
  ("add-node", ⟨[helpOption, option "text" anyText, option "x" aFloat, option "y" aFloat], [], []⟩),
  ("init-root", ⟨[helpOption], [shapePlace], []⟩),
  ("add-children", ⟨[helpOption, ⟨"direction", ["--direction", "-d"], aSide⟩,
    ⟨"count", ["--count", "-n"], anInt⟩, option "gap" aFloat, option "text" anyText],
    [shapePlace], []⟩),
  ("add-sibling", ⟨[helpOption, option "gap" aFloat], [shapePlace], []⟩),
  ("connect", ⟨[helpOption], [⟨"first", .one⟩, ⟨"second", .one⟩], []⟩),
  ("link", ⟨[helpOption, option "orientation" anOrientation],
    [⟨"first", .one⟩, ⟨"second", .one⟩], []⟩),
  ("select", ⟨[helpOption, option "scope" aScope], [shapePlace], []⟩),
  ("describe", ⟨[helpOption], [shapePlace], []⟩),
  ("clear", ⟨[helpOption], [shapePlace], []⟩),
  ("set-layout", ⟨[helpOption, option "child" anyText],
    [shapePlace, ⟨"layout", .optional⟩], []⟩),
  ("split", ⟨[helpOption, option "row" anyText, option "padding" aFloat,
    option "padding-top" aFloat, option "gap" aFloat], [shapePlace], ["row"]⟩),
  ("analyze", ⟨[helpOption], [], []⟩)]

namespace Reading

/-- A text as it shows in messages when it is blank. -/
def blankText : String := "[]"

def shapeAt (r : Reading) (key : String) : String :=
  ((r.last? key).getD none).getD blankText

def textAt (r : Reading) (key : String) : String :=
  ((r.last? key).getD none).getD ""

def lengthAt? (r : Reading) (key : String) : Option (Measure Float) :=
  (r.last? key).map fun value => ((value.bind float?).map Measure.exact).getD .blank

/-- The integer that is given, or else this one; none if it is blank. -/
def intAt (r : Reading) (key : String) (default : Int) : Option Int :=
  (r.last? key).elim (some default) fun value => value.bind int?

def cells (row : String) : List String :=
  (row.toList.splitOn '|').map String.ofList

def action? (r : Reading) (name : String) : Option Action :=
  let shape := r.shapeAt "shape"
  match name with
  | "add-node" => some (.addNode (r.textAt "text") (r.lengthAt? "x") (r.lengthAt? "y"))
  | "init-root" => some (.initRoot shape)
  | "add-children" =>
    let direction := ((r.last? "direction").getD (some Side.bottom.name)).getD blankText
    some (.addChildren shape (Text.upper direction) (r.intAt "count" 1) (r.lengthAt? "gap")
      (r.all "text"))
  | "add-sibling" => some (.addSibling shape (r.lengthAt? "gap"))
  | "connect" => some (.connect (r.shapeAt "first") (r.shapeAt "second"))
  | "link" =>
    let orientation := (r.last? "orientation").map (·.getD blankText)
    some (.link (r.shapeAt "first") (r.shapeAt "second") orientation)
  | "select" =>
    let scope := (r.last? "scope").elim (some .siblings) fun name => name.bind Scope.ofName?
    some (.select shape scope)
  | "describe" => some (.describe shape)
  | "clear" => some (.clear shape)
  | "set-layout" =>
    let child := r.textAt "child"
    if child = "" then some (.setLayout shape (r.textAt "layout"))
    else some (.setChildLayout shape child (r.textAt "layout"))
  | "split" =>
    some (.split shape ((r.all "row").map (·.map cells)) (r.lengthAt? "padding")
      (r.lengthAt? "padding-top") (r.lengthAt? "gap"))
  | "analyze" => some .analyze
  | _ => none

end Reading

def Call.readBy (rule : DashRule) (words : List String) : Except Stop Call := do
  let r ← callForm.read rule words
  match r.rest with
  | [] => throw .misuse
  | name :: more =>
    match actionForms.lookup name with
    | none => throw .misuse
    | some form =>
      let own ← form.read rule more
      if r.surplus || own.surplus then throw .misuse
      match own.action? name with
      | none => throw .misuse
      | some action =>
        return {
          deck := r.textAt "deck"
          output := (r.last? "output").getD none
          slide := r.intAt "slide" 0
          theme := (r.last? "theme").getD (some "default")
          debug := r.has "debug"
          action }

def Call.read (words : List String) : Except Stop Call :=
  Call.readBy .everywhere words

end FlowDeck.Shell
