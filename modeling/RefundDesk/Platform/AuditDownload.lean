import RefundDesk.Library.Csv
import RefundDesk.Platform.Repository

namespace RefundDesk

open Csv

namespace AuditDownload

-- The columns of an audit event that the export reads
structure AuditEvent where
  occurredAt    : Timestamp
  action        : String
  entityType    : String
  entityId      : String
  actorType     : String
  actorId       : Option String
  schemaVersion : Int
  deriving DecidableEq, Repr

-- `[=+\-@\t\r\n]`
def isFormulaChar (c : Char) : Bool :=
  c ∈ ['=', '+', '-', '@', '\t', '\r', '\n']

def startsFormula : Cell → Bool
  | []     => false
  | c :: _ => isFormulaChar c

def formulaSafe (value : Cell) : Cell :=
  if startsFormula value then '\'' :: value else value

def safeCsvCell (value : Cell) : List Char :=
  quote (formulaSafe value)

def header : List String :=
  ["occurred_at", "action", "entity_type", "entity_id", "actor_type", "actor_id", "schema_version"]

def AuditEvent.cells (event : AuditEvent) : List String := [
  isoText event.occurredAt, event.action, event.entityType, event.entityId, event.actorType,
  event.actorId.getD "", toString event.schemaVersion
]

def renderRow (cells : List String) : List Char :=
  [','].intercalate (cells.map fun cell => safeCsvCell cell.toList)

def renderRedactedAuditCsv (events : List AuditEvent) : List Char :=
  let rows := events.map fun event => renderRow event.cells
  renderRow header ++ lineEnd ++ lineEnd.intercalate rows ++ lineEnd

-- A cell stands for a value: it is the value, or the value behind the mark that neutralises it.
def Decodes (value : String) (cell : Cell) : Prop :=
  cell = value.toList ∨ startsFormula value.toList ∧ cell = '\'' :: value.toList

-- A record has a cell for each of the seven values of an event.
structure Represents (event : AuditEvent) (record : Record) : Prop where
  seven   : record.length = 7
  decodes : List.Forall₂ Decodes event.cells record

-- The text is read as the header and one record for each event, and no cell starts a formula.
structure WellFormedCsv (events : List AuditEvent) (text : List Char) : Prop where
  records : ∃ records, read text = some (header.map String.toList :: records) ∧
    List.Forall₂ Represents events records
  safe    : ∀ records, read text = some records →
    ∀ record ∈ records, ∀ cell ∈ record, ¬startsFormula cell

section Csv

variable {events : List AuditEvent} {event : AuditEvent} {value : Cell}

def safeCells (cells : List String) : Record :=
  cells.map fun cell => formulaSafe cell.toList

theorem renderRow_eq (cells : List String) :
    renderRow cells = [','].intercalate ((safeCells cells).map quote) := by
  rw [renderRow, safeCells, List.map_map]
  rfl

theorem not_startsFormula_formulaSafe : ¬startsFormula (formulaSafe value) := by
  unfold formulaSafe
  split_ifs with h
  · simp [startsFormula, isFormulaChar]
  · exact h

theorem decodes_formulaSafe (cell : String) : Decodes cell (formulaSafe cell.toList) := by
  unfold formulaSafe
  split_ifs with h
  · exact .inr ⟨h, rfl⟩
  · exact .inl rfl

theorem represents_safeCells (event : AuditEvent) : Represents event (safeCells event.cells) where
  seven   := by simp [safeCells, AuditEvent.cells]
  decodes := by
    rw [safeCells, List.forall₂_map_right_iff]
    exact List.forall₂_same.mpr fun cell _ => decodes_formulaSafe cell

theorem safeCells_header : safeCells header = header.map String.toList := by
  decide

theorem renderRedactedAuditCsv_eq (hne : events ≠ []) :
    renderRedactedAuditCsv events =
      lines (safeCells header :: events.map fun event => safeCells event.cells) := by
  have hrows := @intercalate_lineEnd (events.map fun event => safeCells event.cells)
    (by simpa using hne)
  rw [List.map_map] at hrows
  rw [renderRedactedAuditCsv, List.append_assoc]
  simp only [renderRow_eq]
  rw [lines, List.flatMap_cons, ← lines, ← hrows]
  rfl

-- What is read back: where there is no event, the line break that ends the rows ends an empty one.
theorem read_renderRedactedAuditCsv (events : List AuditEvent) :
    read (renderRedactedAuditCsv events) =
    some (safeCells header ::
      if events = [] then [[[]]] else events.map fun event => safeCells event.cells) := by
  by_cases hne : events = []
  · subst hne
    decide
  · have hrecords : ∀ record ∈ safeCells header :: events.map fun event => safeCells event.cells,
        record ≠ [] := by
      rw [List.forall_mem_cons, List.forall_mem_map]
      exact ⟨by simp [safeCells, header], fun _ _ => by simp [safeCells, AuditEvent.cells]⟩
    rw [if_neg hne, renderRedactedAuditCsv_eq hne]
    exact read_lines (List.cons_ne_nil _ _) hrecords

theorem not_startsFormula_safeCells {cells : List String} :
    ∀ cell ∈ safeCells cells, ¬startsFormula cell :=
  List.forall_mem_map.mpr fun _ _ => not_startsFormula_formulaSafe

theorem safe_of_read {records : List Record}
    (h : read (renderRedactedAuditCsv events) = some records) :
    ∀ record ∈ records, ∀ cell ∈ record, ¬startsFormula cell := by
  rw [read_renderRedactedAuditCsv, Option.some.injEq] at h
  rw [← h, List.forall_mem_cons]
  refine ⟨not_startsFormula_safeCells, ?_⟩
  split_ifs
  · simp [startsFormula]
  · exact List.forall_mem_map.mpr fun _ _ => not_startsFormula_safeCells

end Csv

-- The export is well formed exactly when there is an event. No cell of it starts a formula in either
-- case.
theorem audit_csv_iff (events : List AuditEvent) :
    (WellFormedCsv events (renderRedactedAuditCsv events) ↔ events ≠ []) ∧
      ∀ records, read (renderRedactedAuditCsv events) = some records →
        ∀ record ∈ records, ∀ cell ∈ record, ¬startsFormula cell := by
  refine ⟨?_, fun records => safe_of_read⟩
  constructor
  · rintro h rfl
    obtain ⟨records, hread, hrepresents⟩ := h.records
    rw [read_renderRedactedAuditCsv, if_pos rfl, Option.some.injEq, List.cons.injEq] at hread
    rw [← hread.2] at hrepresents
    cases hrepresents
  · intro hne
    have hread := read_renderRedactedAuditCsv events
    rw [if_neg hne, safeCells_header] at hread
    refine ⟨⟨_, hread, ?_⟩, fun records => safe_of_read⟩
    rw [List.forall₂_map_right_iff]
    exact List.forall₂_same.mpr fun event _ => represents_safeCells event

-- An export without events has a second record, with one empty cell.
theorem audit_csv_counterexample :
    read (renderRedactedAuditCsv []) = some [header.map String.toList, [[]]] ∧
      ¬WellFormedCsv [] (renderRedactedAuditCsv []) := by
  have hread : read (renderRedactedAuditCsv []) = some [header.map String.toList, [[]]] := by
    rw [read_renderRedactedAuditCsv, if_pos rfl, safeCells_header]
  refine ⟨hread, fun h => ?_⟩
  obtain ⟨records, hrecords, hrepresents⟩ := h.records
  rw [hread, Option.some.injEq, List.cons.injEq] at hrecords
  rw [← hrecords.2] at hrepresents
  cases hrepresents

end AuditDownload
end RefundDesk
