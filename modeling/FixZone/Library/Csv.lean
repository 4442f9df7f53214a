import Mathlib.Data.List.Basic

/-!
# Comma-separated values

A writer that puts every field in quotes and doubles those in it, and a reader of the format that
goes through a text character by character, in quotes or not. A text is a cell if the reader, at the
beginning of a field, takes it up as a field and would end it with any separator (`IsCell`): a field
in quotes is one whatever is in it, and so is one without quotes and separators. Cells between
commas are a line (`IsLine`), and lines between line ends are read as their rows (`read_lines`).
-/

namespace FixZone.Library.Csv

/-! ### Writing -/

/-- What a character of a field is written as. -/
def escapeChar (c : Char) : List Char := if c = '"' then ['"', '"'] else [c]

/-- A field in quotes. -/
def quote (field : String) : List Char := '"' :: field.toList.flatMap escapeChar ++ ['"']

/-- A row, all of whose fields are in quotes. -/
def writeRow (fields : List String) : List Char := [','].intercalate (fields.map quote)

/-! ### Reading -/

/-- Where a reader is: at the beginning of a field, in one without quotes, in quotes, or behind a
quote that has closed them unless it is followed by another. -/
inductive Mode where
  | start | plain | quoted | closed
  deriving DecidableEq

/-- The rows that a reader is through with, the fields of the next one, and the field it is in. -/
structure Reader where
  rows : List (List String)
  row : List String := []
  field : List Char := []
  mode : Mode := .start

variable (r : Reader) (c : Char)

/-- The field goes on. -/
def Reader.goOn (mode : Mode) : Reader := { r with field := r.field ++ [c], mode }

/-- The fields of the row, if it ended here. -/
def Reader.fields : List String := r.row ++ [String.ofList r.field]

/-- The row ends here. -/
def Reader.endRow : Reader := { rows := r.rows ++ [r.fields] }

/-- A character outside quotes. -/
def Reader.outside : Reader :=
  if c = ',' then { rows := r.rows, row := r.fields }
  else if c = '\n' then r.endRow
  else r.goOn c .plain

/-- A character. -/
def Reader.next : Reader :=
  match r.mode with
  | .start => if c = '"' then { r with mode := .quoted } else r.outside c
  | .plain => r.outside c
  | .quoted => if c = '"' then { r with mode := .closed } else r.goOn c .quoted
  | .closed => if c = '"' then r.goOn c .quoted else r.outside c

/-- The rows at the end of a text, which may end with a line end. -/
def Reader.finish : List (List String) :=
  if r.mode = .start ∧ r.row = [] then r.rows else r.endRow.rows

/-- The rows of a text. -/
def read (text : List Char) : List (List String) :=
  (text.foldl Reader.next { rows := [] }).finish

example : read "id,note\n1,\"a \"\"b\"\", c\"".toList =
    [["id", "note"], ["1", "a \"b\", c"]] := by
  decide +kernel

/-! ### Cells -/

/-- The reader takes a text up as a field, and would end it with a separator. -/
def IsCell (text : List Char) (field : String) : Prop :=
  ∃ mode, (mode = .plain ∨ mode = .closed) ∧ ∀ rows row,
    text.foldl Reader.next { rows, row } = { rows, row, field := field.toList, mode }

variable {r} {c}

theorem foldl_escapeChar (hmode : r.mode = .quoted) (field : List Char) :
    (field.flatMap escapeChar).foldl Reader.next r = { r with field := r.field ++ field } := by
  induction field generalizing r with
  | nil => simp
  | cons c field ih =>
    have hread : (escapeChar c).foldl Reader.next r = r.goOn c .quoted := by
      unfold escapeChar
      split
      · next hquote =>
        subst hquote
        simp [Reader.next, Reader.goOn, hmode]
      · next hquote => simp [Reader.next, Reader.goOn, hmode, hquote]
    rw [List.flatMap_cons, List.foldl_append, hread, ih rfl]
    simp [Reader.goOn, hmode]

/-- A field in quotes is a cell, whatever is in it. -/
theorem isCell_quote (field : String) : IsCell (quote field) field := by
  refine ⟨.closed, .inr rfl, fun rows row => ?_⟩
  rw [quote, List.cons_append, List.foldl_cons, List.foldl_append]
  have hopen : Reader.next { rows, row } '"' = { rows, row, mode := .quoted } := by
    simp [Reader.next]
  rw [hopen, foldl_escapeChar rfl]
  simp [Reader.next]

/-- The characters of which a field without quotes may consist. -/
def isPlain (c : Char) : Bool := c ≠ '"' && c ≠ ',' && c ≠ '\n'

theorem foldl_isPlain (hmode : r.mode = .plain) {text : List Char}
    (h : ∀ c ∈ text, isPlain c = true) :
    text.foldl Reader.next r = { r with field := r.field ++ text } := by
  induction text generalizing r with
  | nil => simp
  | cons c text ih =>
    have hplain := h c List.mem_cons_self
    simp only [isPlain, Bool.and_eq_true, decide_eq_true_eq] at hplain
    have hread : r.next c = r.goOn c .plain := by
      simp [Reader.next, Reader.outside, hmode, hplain]
    rw [List.foldl_cons, hread, ih rfl fun c' hc' => h c' (List.mem_cons_of_mem _ hc')]
    simp [Reader.goOn, hmode]

/-- A field without quotes is a cell. -/
theorem isCell_plain {field : String} (hne : field ≠ "")
    (h : field.toList.all isPlain = true) : IsCell field.toList field := by
  refine ⟨.plain, .inl rfl, fun rows row => ?_⟩
  have hall := List.all_eq_true.mp h
  cases hchars : field.toList with
  | nil => exact absurd (String.toList_eq_nil_iff.mp hchars) hne
  | cons c text =>
    rw [hchars] at hall
    have hplain := hall c List.mem_cons_self
    simp only [isPlain, Bool.and_eq_true, decide_eq_true_eq] at hplain
    have hread : Reader.next { rows, row } c = { rows, row, field := [c], mode := .plain } := by
      simp [Reader.next, Reader.outside, Reader.goOn, hplain]
    rw [List.foldl_cons, hread,
      foldl_isPlain rfl fun c' hc' => hall c' (List.mem_cons_of_mem _ hc')]
    rfl

/-! ### Lines -/

/-- The reader takes a text up as a row, and would end it with a separator. -/
def IsLine (text : List Char) (fields : List String) : Prop :=
  ∀ rows row, ∃ r : Reader, text.foldl Reader.next { rows, row } = r ∧
    (r.mode = .plain ∨ r.mode = .closed) ∧ r.rows = rows ∧ r.fields = row ++ fields

theorem IsCell.isLine {text : List Char} {field : String} (h : IsCell text field) :
    IsLine text [field] := by
  obtain ⟨mode, hmode, hread⟩ := h
  intro rows row
  refine ⟨_, hread rows row, hmode, rfl, ?_⟩
  simp [Reader.fields]

/-- A separator outside quotes is taken as one. -/
theorem next_of_mode (hmode : r.mode = .plain ∨ r.mode = .closed) (hc : c ≠ '"') :
    r.next c = r.outside c := by
  rcases hmode with hmode | hmode
  · simp [Reader.next, hmode]
  · simp [Reader.next, hmode, hc]

theorem IsCell.cons {text rest : List Char} {field : String} {fields : List String}
    (h : IsCell text field) (hrest : IsLine rest fields) :
    IsLine (text ++ ',' :: rest) (field :: fields) := by
  obtain ⟨mode, hmode, hread⟩ := h
  intro rows row
  obtain ⟨r, hr, hend, hrows, hfields⟩ := hrest rows (row ++ [field])
  refine ⟨r, ?_, hend, hrows, by rw [hfields, List.append_assoc]; rfl⟩
  rw [List.foldl_append, List.foldl_cons, hread, next_of_mode hmode (by decide)]
  simpa [Reader.outside, Reader.fields] using hr

/-- Cells between commas are a line. -/
theorem isLine_intercalate (cells : List (List Char × String)) (hne : cells ≠ [])
    (h : ∀ cell ∈ cells, IsCell cell.1 cell.2) :
    IsLine ([','].intercalate (cells.map Prod.fst)) (cells.map Prod.snd) := by
  induction cells with
  | nil => exact absurd rfl hne
  | cons cell cells ih =>
    have hcell := h cell List.mem_cons_self
    cases cells with
    | nil => simpa [List.intercalate] using hcell.isLine
    | cons next cells =>
      have hrest := ih (List.cons_ne_nil _ _) fun cell' h' => h cell' (List.mem_cons_of_mem _ h')
      simpa [List.intercalate] using hcell.cons hrest

/-- What is written for a row is a line. -/
theorem isLine_writeRow {fields : List String} (hne : fields ≠ []) :
    IsLine (writeRow fields) fields := by
  have hcells := isLine_intercalate (fields.map fun field => (quote field, field))
    (by simpa using hne) (by simpa using fun field _ => isCell_quote field)
  simpa [writeRow, Function.comp_def] using hcells

/-! ### Texts -/

/-- The rows of a text, after those that the reader is through with. -/
def readFrom (rows : List (List String)) (text : List Char) : List (List String) :=
  (text.foldl Reader.next { rows }).finish

theorem IsLine.readFrom {line : List Char} {fields : List String} (h : IsLine line fields)
    (rows : List (List String)) : readFrom rows line = rows ++ [fields] := by
  obtain ⟨r, hr, hmode, hrows, hfields⟩ := h rows []
  have hend : ¬(r.mode = .start ∧ r.row = []) := by
    rintro ⟨hstart, -⟩
    rw [hstart] at hmode
    exact hmode.elim nofun nofun
  rw [Csv.readFrom, hr, Reader.finish, if_neg hend, Reader.endRow, hrows, hfields, List.nil_append]

theorem IsLine.readFrom_append {line : List Char} {fields : List String} (h : IsLine line fields)
    (rows : List (List String)) (rest : List Char) :
    Csv.readFrom rows (line ++ '\n' :: rest) = Csv.readFrom (rows ++ [fields]) rest := by
  obtain ⟨r, hr, hmode, hrows, hfields⟩ := h rows []
  have hnext : r.next '\n' = { rows := rows ++ [fields] } := by
    rw [next_of_mode hmode (by decide)]
    simp [Reader.outside, Reader.endRow, hrows, hfields]
  rw [Csv.readFrom, List.foldl_append, hr, List.foldl_cons, hnext]
  rfl

/-- Lines between line ends are read as their rows. -/
theorem readFrom_intercalate (lines : List (List Char × List String))
    (h : ∀ line ∈ lines, IsLine line.1 line.2) (rows : List (List String)) :
    readFrom rows (['\n'].intercalate (lines.map Prod.fst)) = rows ++ lines.map Prod.snd := by
  induction lines generalizing rows with
  | nil => simp [readFrom, List.intercalate, Reader.finish]
  | cons line lines ih =>
    have hline := h line List.mem_cons_self
    cases lines with
    | nil => simpa [List.intercalate] using hline.readFrom rows
    | cons next lines =>
      have hrest := ih (fun line' h' => h line' (List.mem_cons_of_mem _ h')) (rows ++ [line.2])
      rw [← hline.readFrom_append] at hrest
      simpa [List.intercalate] using hrest

/-- **Round trip.** A header and the rows that were written below it are read back, whatever texts
are in them. -/
theorem read_lines {header : List Char} {names : List String} (hheader : IsLine header names)
    (rows : List (List String)) (hne : ∀ row ∈ rows, row ≠ []) :
    read (header ++ '\n' :: ['\n'].intercalate (rows.map writeRow)) = names :: rows := by
  have hlines := readFrom_intercalate (rows.map fun row => (writeRow row, row))
    (by simpa using fun row hrow => isLine_writeRow (hne row hrow)) [names]
  have hfrom := hheader.readFrom_append [] (['\n'].intercalate (rows.map writeRow))
  refine hfrom.trans ?_
  simpa [Function.comp_def] using hlines

end FixZone.Library.Csv
