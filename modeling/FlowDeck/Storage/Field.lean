/-!
# Fields of a line

Tabs separate the fields of a line, so inside a field they are written with a backslash, and so
are line ends and backslashes themselves.
-/

namespace FlowDeck.Field

def encodeChar (c : Char) : List Char :=
  if c = '\\' then ['\\', '\\']
  else if c = '\t' then ['\\', 't']
  else if c = '\n' then ['\\', 'n']
  else [c]

def encode (s : List Char) : List Char :=
  s.flatMap encodeChar

/-- The text of a field, unless a backslash stands where none can. -/
def decode? : List Char → Option (List Char)
  | [] => some []
  | '\\' :: '\\' :: rest => (decode? rest).map ('\\' :: ·)
  | '\\' :: 't' :: rest => (decode? rest).map ('\t' :: ·)
  | '\\' :: 'n' :: rest => (decode? rest).map ('\n' :: ·)
  | c :: rest => if c = '\\' then none else (decode? rest).map (c :: ·)

theorem decode?_encodeChar_append (c : Char) (rest : List Char) :
    decode? (encodeChar c ++ rest) = (decode? rest).map (c :: ·) := by
  unfold encodeChar
  split
  · simp [decode?, *]
  split
  · simp [decode?, *]
  split
  · simp [decode?, *]
  · simp [decode?, *]

theorem decode?_encode (s : List Char) : decode? (encode s) = some s := by
  induction s with
  | nil => rfl
  | cons c s ih =>
    rw [encode, List.flatMap_cons, decode?_encodeChar_append]
    exact congrArg (Option.map (c :: ·)) ih

/-- Neither tabs nor line ends stand in a field. -/
theorem notMem_encode {c : Char} (hc : c = '\t' ∨ c = '\n') (s : List Char) : c ∉ encode s := by
  simp only [encode, List.mem_flatMap, not_exists, not_and]
  intro d _
  unfold encodeChar
  grind

def line (fields : List String) : List Char :=
  ['\t'].intercalate (fields.map fun field => encode field.toList)

def readLine? (s : List Char) : Option (List String) :=
  (s.splitOn '\t').mapM fun field => (decode? field).map String.ofList

theorem mapM_eq_some {α β : Type} {f : α → Option β} {g : β → α} (h : ∀ b, f (g b) = some b)
    (bs : List β) : (bs.map g).mapM f = some bs := by
  induction bs with
  | nil => rfl
  | cons b bs ih => simp [h, ih]

theorem readLine?_line {fields : List String} (h : fields ≠ []) :
    readLine? (line fields) = some fields := by
  have apart : (line fields).splitOn '\t' = fields.map fun field => encode field.toList :=
    List.splitOn_intercalate '\t'
      (by
        intro l hl
        obtain ⟨field, -, rfl⟩ := List.mem_map.1 hl
        exact notMem_encode (.inl rfl) _)
      (by simpa using h)
  rw [readLine?, apart]
  exact mapM_eq_some (fun field => by simp [decode?_encode]) fields

theorem newline_notMem_line (fields : List String) : '\n' ∉ line fields := by
  unfold line
  induction fields with
  | nil => simp
  | cons field fields ih =>
    have head := notMem_encode (.inr rfl) field.toList
    cases fields with
    | nil => simpa using head
    | cons other fields =>
      simp only [List.map_cons, List.intercalate_cons_cons, List.mem_append,
        List.mem_singleton] at ih ⊢
      grind

end FlowDeck.Field
