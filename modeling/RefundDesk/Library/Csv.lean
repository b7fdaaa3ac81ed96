import Mathlib.Data.List.Basic

-- Comma-separated values as RFC 4180 has them
namespace Csv

abbrev Cell := List Char

abbrev Record := List Cell

-- Where the reader is: at the start of a field, in a field without or with quotation marks, behind a
-- quotation mark within the latter, or between the two characters of a line break.
inductive Place
  | start
  | plain
  | quoted
  | closing
  | lineBreak
  deriving DecidableEq, Repr

def addChar (c : Char) : List Record → List Record
  | (cell :: record) :: records => ((c :: cell) :: record) :: records
  | records                     => records

def addCell : List Record → List Record
  | record :: records => ([] :: record) :: records
  | []                => []

-- The records of a text from a place on, of which the first one goes on with the field that is read.
-- A line break at the end of the text starts no record.
def readFrom : Place → List Char → Option (List Record)
  | .start, [] | .plain, [] | .closing, [] => some [[[]]]
  | .quoted, [] | .lineBreak, []           => none
  | .quoted, c :: cs                       =>
    if c = '"' then readFrom .closing cs else (readFrom .quoted cs).map (addChar c)
  | .lineBreak, c :: cs                    =>
    if c = '\n' then
      if cs = [] then some [[[]]] else (readFrom .start cs).map ([[]] :: ·)
    else
      none
  | .closing, c :: cs                      =>
    if c = '"' then (readFrom .quoted cs).map (addChar '"')
    else if c = ',' then (readFrom .start cs).map addCell
    else if c = '\r' then readFrom .lineBreak cs
    else none
  | .start, c :: cs                        =>
    if c = '"' then readFrom .quoted cs
    else if c = ',' then (readFrom .start cs).map addCell
    else if c = '\r' then readFrom .lineBreak cs
    else if c = '\n' then none
    else (readFrom .plain cs).map (addChar c)
  | .plain, c :: cs                        =>
    if c = ',' then (readFrom .start cs).map addCell
    else if c = '\r' then readFrom .lineBreak cs
    else if c = '"' ∨ c = '\n' then none
    else (readFrom .plain cs).map (addChar c)

def read (text : List Char) : Option (List Record) :=
  readFrom .start text

example : read "a,\"b\"\"\r\n\"\r\nc".toList =
    some [["a".toList, "b\"\r\n".toList], ["c".toList]] := by decide

def escape (cell : Cell) : List Char :=
  cell.flatMap fun c => if c = '"' then ['"', '"'] else [c]

def quote (cell : Cell) : List Char :=
  '"' :: (escape cell ++ ['"'])

def lineEnd : List Char :=
  ['\r', '\n']

variable {cell : Cell} {cells : Record} {rest : List Char} {records : List Record}

-- The characters of a field that is quoted are read up to the quotation mark at its end.
theorem readFrom_escape (cell : Cell) (rest : List Char) :
    readFrom .quoted (escape cell ++ '"' :: rest) =
      cell.foldr (fun c read => read.map (addChar c)) (readFrom .closing rest) := by
  induction cell with
  | nil          => simp [escape, readFrom]
  | cons c cs ih =>
    rw [List.foldr_cons, ← ih]
    by_cases hc : c = '"'
    · subst hc
      simp [escape, readFrom]
    · simp [escape, readFrom, hc]

theorem foldr_addChar (cell : Cell) (record : Record) (records : List Record) :
    cell.foldr (fun c read => read.map (addChar c)) (some (([] :: record) :: records)) =
      some ((cell :: record) :: records) := by
  induction cell with
  | nil          => rfl
  | cons c cs ih => rw [List.foldr_cons, ih]; rfl

-- What is read behind a line break
def readRest (rest : List Char) : Option (List Record) :=
  if rest = [] then some [] else readFrom .start rest

theorem readFrom_lineEnd (h : readRest rest = some records) :
    readFrom .closing (lineEnd ++ rest) = some ([[]] :: records) := by
  unfold readRest at h
  by_cases hrest : rest = []
  · rw [if_pos hrest, Option.some.injEq] at h
    simp [lineEnd, readFrom, hrest, ← h]
  · rw [if_neg hrest] at h
    simp [lineEnd, readFrom, hrest, h]

theorem readFrom_quote (cell : Cell) {following : List Char} {record : Record}
    (h : readFrom .closing following = some (([] :: record) :: records)) :
    readFrom .start (quote cell ++ following) = some ((cell :: record) :: records) := by
  have hescape := readFrom_escape cell following
  rw [h, foldr_addChar] at hescape
  rw [quote, List.cons_append, List.append_assoc, readFrom, if_pos rfl]
  exact hescape

-- The fields of a record with a line break behind them
theorem readFrom_record (hne : cells ≠ []) (h : readRest rest = some records) :
    readFrom .start ([','].intercalate (cells.map quote) ++ lineEnd ++ rest) =
      some (cells :: records) := by
  induction cells with
  | nil             => exact absurd rfl hne
  | cons cell cells ih =>
    cases cells with
    | nil             =>
      rw [List.map_singleton, List.intercalate_singleton, List.append_assoc]
      exact readFrom_quote _ (readFrom_lineEnd h)
    | cons cell' cells =>
      have hcells := ih (List.cons_ne_nil _ _)
      have hcomma : readFrom .closing
          (',' :: ([','].intercalate ((cell' :: cells).map quote) ++ lineEnd ++ rest)) =
            some (([] :: cell' :: cells) :: records) := by
        rw [readFrom, if_neg (by decide), if_pos rfl, hcells]
        rfl
      have hquote := readFrom_quote cell hcomma
      rw [List.map_cons, List.map_cons, List.intercalate_cons_cons]
      simpa using hquote

def lines (records : List Record) : List Char :=
  records.flatMap fun record => [','].intercalate (record.map quote) ++ lineEnd

-- Records that are quoted, each with a line break behind it, are read back.
theorem readRest_lines (h : ∀ record ∈ records, record ≠ []) :
    readRest (lines records) = some records := by
  induction records with
  | nil                    => rfl
  | cons record records ih =>
    rw [List.forall_mem_cons] at h
    have hrecord := readFrom_record h.1 (ih h.2)
    rw [lines, List.flatMap_cons, ← lines, readRest, if_neg (by simp [lineEnd]), hrecord]

theorem read_lines (hne : records ≠ []) (h : ∀ record ∈ records, record ≠ []) :
    read (lines records) = some records := by
  have hrest := readRest_lines h
  unfold readRest at hrest
  rw [if_neg] at hrest
  · exact hrest
  · cases records with
    | nil         => exact absurd rfl hne
    | cons record => simp [lines, lineEnd]

theorem intercalate_lineEnd (hne : records ≠ []) :
    lineEnd.intercalate (records.map fun record => [','].intercalate (record.map quote)) ++
      lineEnd = lines records := by
  induction records with
  | nil                    => exact absurd rfl hne
  | cons record records ih =>
    cases records with
    | nil                     => simp [lines]
    | cons record' records =>
      have hrecords := ih (List.cons_ne_nil _ _)
      rw [List.map_cons] at hrecords
      rw [List.map_cons, List.map_cons, List.intercalate_cons_cons, List.append_assoc, hrecords]
      simp [lines]

end Csv
