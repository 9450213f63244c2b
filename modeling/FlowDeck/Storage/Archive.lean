import FlowDeck.Deck.Shape
import FlowDeck.Storage.Coding
import FlowDeck.Storage.Field

/-!
# Deck files

A deck is stored as lines of fields, a heading and then one line for each slide. Reading a file
gives back the deck that was written.
-/

namespace FlowDeck

namespace Coding

/-- A turn of a connector, or none. -/
def bool : Coding Bool :=
  named [false, true] (fun b => if b then "turned" else "straight") fun b => by cases b <;> decide

def box : Coding (Box Int) :=
  ((int.pair int).pair (int.pair int)).made
    (fun b => ((b.x, b.y), b.width, b.height))
    (fun ((x, y), width, height) => ⟨x, y, width, height⟩)
    fun _ => rfl

def colour : Coding Rgb :=
  (int.pair (int.pair int)).made
    (fun c => (c.red, c.green, c.blue))
    (fun (red, green, blue) => ⟨red, green, blue⟩)
    fun _ => rfl

def body : Coding Body :=
  (text.pair (list (option colour))).made
    (fun b => (b.text, b.colours))
    (fun (text, colours) => ⟨text, colours⟩)
    fun _ => rfl

def course : Coding Course :=
  named [.straight, .bent, .curved] Course.geometry fun a => by cases a <;> decide

def connector : Coding Connector :=
  ((course.pair (box.pair (bool.pair bool))).pair
    ((int.pair (option colour)).pair ((option text).pair (option text)))).made
    (fun c => ((c.course, c.box, c.leftward, c.upward), (c.width, c.colour), c.head, c.tail))
    (fun ((course, box, leftward, upward), (width, colour), head, tail) =>
      { course, box, leftward, upward, width, colour, head, tail })
    fun _ => rfl

def figure : Coding (String × Box Int × (Option Rgb × Option Rgb) × Body) :=
  text.pair (box.pair ((option colour).pair (option colour) |>.pair body))

/-- What a shape is, after a word for its form. -/
def form : Coding Form where
  write
    | .figure kind b fill line inside => "figure" :: figure.write (kind, b, (fill, line), inside)
    | .textBox b inside => "text" :: (box.pair body).write (b, inside)
    | .table b => "table" :: box.write b
    | .connector line => "connector" :: connector.write line
    | .group b inside => "group" :: (box.pair (list int)).write (b, inside)
  read?
    | "figure" :: rest => (figure.read? rest).map fun ((kind, b, (fill, line), inside), rest) =>
      (.figure kind b fill line inside, rest)
    | "text" :: rest => ((box.pair body).read? rest).map fun ((b, inside), rest) =>
      (.textBox b inside, rest)
    | "table" :: rest => (box.read? rest).map fun (b, rest) => (.table b, rest)
    | "connector" :: rest => (connector.read? rest).map fun (line, rest) =>
      (.connector line, rest)
    | "group" :: rest => ((box.pair (list int)).read? rest).map fun ((b, inside), rest) =>
      (.group b inside, rest)
    | _ => none
  read?_write a rest := by
    cases a <;> simp only [List.cons_append, read?_write, Option.map_some]

def shape : Coding Shape :=
  ((int.pair text).pair ((option text).pair (option text)) |>.pair form).made
    (fun s => (((s.id, s.name), s.descr, s.title), s.form))
    (fun (((id, name), descr, title), form) => { id, name, descr, title, form })
    fun _ => rfl

def slide : Coding Slide := list shape

end Coding

namespace Archive

def heading : List Char := "slides".toList

def lines (deck : Deck) : List (List Char) :=
  heading :: deck.map fun slide => Field.line (Coding.slide.write slide)

def write (deck : Deck) : String :=
  String.ofList (['\n'].intercalate (lines deck))

def read? (file : String) : Option Deck :=
  match file.toList.splitOn '\n' with
  | first :: slides =>
    if first = heading then
      slides.mapM fun line => (Field.readLine? line).bind Coding.slide.readAll?
    else none
  | [] => none

theorem splitOn_write (deck : Deck) :
    (write deck).toList.splitOn '\n' = lines deck := by
  rw [write, String.toList_ofList]
  refine List.splitOn_intercalate '\n' (fun l hl => ?_) (by simp [lines])
  rcases List.mem_cons.1 hl with rfl | hl
  · decide
  · obtain ⟨s, -, rfl⟩ := List.mem_map.1 hl
    exact Field.newline_notMem_line _

theorem write_slide_ne_nil (slide : Slide) : Coding.slide.write slide ≠ [] := by
  simp [Coding.slide, Coding.list, Coding.int]

theorem read?_write (deck : Deck) : read? (write deck) = some deck := by
  simp only [read?, splitOn_write, lines, if_true]
  exact Field.mapM_eq_some (fun slide => by
    simp [Field.readLine?_line (write_slide_ne_nil slide), Coding.readAll?_write]) deck

end Archive

end FlowDeck
