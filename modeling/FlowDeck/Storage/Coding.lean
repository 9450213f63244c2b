import Std.Data.String.ToInt

/-!
# Rows of fields

Values are stored as rows of fields, one after the other. Codings are composed of smaller ones,
and each reads back what it has written, whatever fields follow.
-/

namespace FlowDeck

structure Coding (α : Type) where
  write : α → List String
  /-- The value that the first fields denote, and the fields that follow. -/
  read? : List String → Option (α × List String)
  read?_write (a : α) (rest : List String) : read? (write a ++ rest) = some (a, rest)

namespace Coding

variable {α β : Type}

def text : Coding String where
  write s := [s]
  read?
    | [] => none
    | s :: rest => some (s, rest)
  read?_write _ _ := rfl

def int : Coding Int where
  write n := [n.repr]
  read?
    | [] => none
    | s :: rest => s.toInt?.map fun n => (n, rest)
  read?_write n rest := by simp [Int.toInt?_repr]

/-- Values with names of their own, for a list that has all of them. -/
def named [DecidableEq α] (all : List α) (name : α → String)
    (find_name : ∀ a, all.find? (fun b => name b == name a) = some a) : Coding α where
  write a := [name a]
  read?
    | [] => none
    | s :: rest => (all.find? fun b => name b == s).map fun a => (a, rest)
  read?_write a rest := by simp [find_name]

def option (c : Coding α) : Coding (Option α) where
  write
    | none => ["-"]
    | some a => "+" :: c.write a
  read?
    | "-" :: rest => some (none, rest)
    | "+" :: rest => (c.read? rest).map fun (a, rest) => (some a, rest)
    | _ => none
  read?_write a rest := by
    cases a with
    | none => rfl
    | some a => simp [c.read?_write]

def pair (c : Coding α) (d : Coding β) : Coding (α × β) where
  write p := c.write p.1 ++ d.write p.2
  read? fields := (c.read? fields).bind fun (a, rest) =>
    (d.read? rest).map fun (b, rest) => ((a, b), rest)
  read?_write p rest := by simp [c.read?_write, d.read?_write]

def readMany? (c : Coding α) : Nat → List String → Option (List α × List String)
  | 0, fields => some ([], fields)
  | n + 1, fields => (c.read? fields).bind fun (a, rest) =>
      (readMany? c n rest).map fun (others, rest) => (a :: others, rest)

theorem readMany?_flatMap (c : Coding α) (xs : List α) (rest : List String) :
    c.readMany? xs.length (xs.flatMap c.write ++ rest) = some (xs, rest) := by
  induction xs with
  | nil => rfl
  | cons x xs ih => simp [readMany?, c.read?_write, ih]

/-- A list, after the number of its members. -/
def list (c : Coding α) : Coding (List α) where
  write xs := int.write xs.length ++ xs.flatMap c.write
  read? fields := (int.read? fields).bind fun (n, rest) => c.readMany? n.toNat rest
  read?_write xs rest := by simp [int.read?_write, readMany?_flatMap]

/-- Values that are made of others, by the parts of which they are made. -/
def made (c : Coding β) (parts : α → β) (make : β → α) (make_parts : ∀ a, make (parts a) = a) :
    Coding α where
  write a := c.write (parts a)
  read? fields := (c.read? fields).map fun (b, rest) => (make b, rest)
  read?_write a rest := by simp [c.read?_write, make_parts]

def readAll? (c : Coding α) (fields : List String) : Option α :=
  match c.read? fields with
  | some (a, []) => some a
  | _ => none

theorem readAll?_write (c : Coding α) (a : α) : c.readAll? (c.write a) = some a := by
  have h := c.read?_write a []
  rw [List.append_nil] at h
  simp [readAll?, h]

end Coding

end FlowDeck
