import RefundDesk.Deploy.TransitionJournal
import RefundDesk.Library.CrashDisk
import RefundDesk.Library.JsonIntegers

open Utf16 CrashDisk

namespace RefundDesk

namespace TransitionJournal

-- The journal and the commit marker are files of one directory. The temporary files have names that
-- are not in use.
inductive ControlFile
  | journal
  | marker
  | temporary (n : Nat)
  deriving DecidableEq, Repr

abbrev ControlDirectory := Disk ControlFile CodeUnit

-- What a command does to the directory, one step of the file system after the other, and what it
-- returns when it was not cut. Owners and modes of files are left out.
structure Plan (α : Type) where
  steps  : List (ControlDirectory → ControlDirectory)
  result : Except String α

def refuse {α : Type} (error : String) : Plan α :=
  ⟨[], .error error⟩

section Commands

variable {ν : Type} (numbers : PythonNumbers ν) (d : ControlDirectory) (candidate : Json ν)

def resume (payload text : Text) : Except String String := do
  let existing ← loadJournal numbers text
  if canonicalBytes numbers existing ≠ payload then
    throw "unfinished transition differs from the requested release"
  pure "resumed"

def createJournal (payload : Text) : List (ControlDirectory → ControlDirectory) := [
  (·.create .journal), (·.write d.created payload), (·.fsync d.created), (·.fsyncDirectory)
]

def prepare : Plan String :=
  match validateJournal numbers candidate with
  | .error error => refuse error
  | .ok _        =>
    let payload := canonicalBytes numbers candidate
    match d.read .journal with
    | some text => ⟨[], resume numbers payload text⟩
    | none      => ⟨createJournal d payload, .ok "created"⟩

def markerBytes : Text :=
  canonicalBytes numbers (withStatus candidate "committed")

-- `durable_replace` syncs the temporary file once more, and the marker.
def writeCommitMarker (marker : Text) : List (ControlDirectory → ControlDirectory) := [
  (·.create (.temporary d.created)), (·.write d.created marker), (·.fsync d.created),
  (·.fsync d.created), (·.rename (.temporary d.created) .marker), (·.fsync d.created),
  (·.fsyncDirectory)
]

def removeJournal : List (ControlDirectory → ControlDirectory) :=
  [(·.unlink .journal), (·.fsyncDirectory)]

def complete : Plan Unit :=
  match validateJournal numbers candidate with
  | .error error => refuse error
  | .ok _        =>
    match d.read .journal with
    | none      => refuse "transition journal cannot be inspected"
    | some text =>
      match loadJournal numbers text with
      | .error error => refuse error
      | .ok existing =>
        if canonicalBytes numbers existing ≠ canonicalBytes numbers candidate then
          refuse "transition journal changed before commit"
        else
          ⟨writeCommitMarker d (markerBytes numbers candidate) ++ removeJournal, .ok ()⟩

end Commands

-- A candidate is what was loaded from its file. A dictionary of Python has every key once.
structure Candidate (ν : Type) where
  value      : Json ν
  wellFormed : value.WellFormed

inductive Command (ν : Type)
  | prepare (candidate : Candidate ν)
  | complete (candidate : Candidate ν)

section Runs

variable {ν : Type} (numbers : PythonNumbers ν)

def Command.steps (d : ControlDirectory) :
    Command ν → List (ControlDirectory → ControlDirectory)
  | .prepare candidate  => (TransitionJournal.prepare numbers d candidate.value).steps
  | .complete candidate => (TransitionJournal.complete numbers d candidate.value).steps

def applySteps (steps : List (ControlDirectory → ControlDirectory)) (d : ControlDirectory) :
    ControlDirectory :=
  steps.foldl (fun d step => step d) d

-- The journal that was on the disk last
def lastJournal (last journal : Option Text) : Option Text :=
  journal.or last

-- Commands run one after the other to their end or until a crash before one of their steps, and
-- `allowed` says where a crash may come. `last` is the journal that was on the disk last.
inductive Run (allowed : ControlDirectory → Command ν → Nat → Prop) :
    Option Text → ControlDirectory → Prop
  | start : Run allowed none .empty
  | finish {last : Option Text} {d : ControlDirectory} (command : Command ν) :
    Run allowed last d →
    Run allowed (lastJournal last ((applySteps (command.steps numbers d) d).read .journal))
      (applySteps (command.steps numbers d) d)
  | cut {last : Option Text} {d d' : ControlDirectory} (command : Command ν) (k : Nat) :
    Run allowed last d → k ≤ (command.steps numbers d).length → allowed d command k →
    Disk.Crash 0 (applySteps ((command.steps numbers d).take k) d) d' →
    Run allowed (lastJournal last (d'.read .journal)) d'

-- No crash comes between the creation of the journal and the sync of its data.
def Spared (d : ControlDirectory) : Command ν → Nat → Prop
  | .prepare _, k  => d.read .journal = none → k ≠ 1 ∧ k ≠ 2
  | .complete _, _ => True

-- The contents of a journal or a marker of a candidate that is valid
def IsJournalOf (candidate : Candidate ν) (text : Text) : Prop :=
  validateJournal numbers candidate.value = .ok () ∧ text = canonicalBytes numbers candidate.value

def IsMarkerOf (candidate : Candidate ν) (text : Text) : Prop :=
  text = markerBytes numbers candidate.value

-- The journal is that of one candidate, and when it is gone, the candidate was committed whose
-- journal was there last.
structure Atomic (last journal marker : Option Text) : Prop where
  canonical : ∀ text, journal = some text → ∃ candidate, IsJournalOf numbers candidate text
  latest    : ∀ text, journal = some text → last = some text
  committed : journal = none → ∀ text, last = some text →
    ∃ candidate, IsJournalOf numbers candidate text ∧
      ∃ bytes, marker = some bytes ∧ IsMarkerOf numbers candidate bytes

end Runs

section Steps

variable {P : ControlDirectory → Prop} {steps : List (ControlDirectory → ControlDirectory)}
  {d : ControlDirectory}

-- `P` holds before each of the steps and after the last one.
def Throughout (P : ControlDirectory → Prop) :
    List (ControlDirectory → ControlDirectory) → ControlDirectory → Prop
  | [], d            => P d
  | step :: steps, d => P d ∧ Throughout P steps (step d)

theorem Throughout.take (h : Throughout P steps d) (k : Nat) :
    P (applySteps (steps.take k) d) := by
  induction steps generalizing d k with
  | nil =>
    rw [List.take_nil]
    exact h
  | cons step steps ih =>
    cases k with
    | zero   => exact h.1
    | succ k => exact ih h.2 k

end Steps

section Invariant

variable {ν : Type} {numbers : PythonNumbers ν} {last journal marker : Option Text} {text : Text}
  {candidate : Candidate ν} {d d' : ControlDirectory}

theorem lastJournal_eq (h : Atomic numbers last journal marker) :
    lastJournal last journal = last := by
  cases journal with
  | none      => rfl
  | some text => exact (h.latest text rfl).symm

theorem atomic_some (last : Option Text) (h : IsJournalOf numbers candidate text)
    (marker : Option Text) : Atomic numbers (lastJournal last (some text)) (some text) marker where
  canonical _ htext := by
    cases htext
    exact ⟨candidate, h⟩
  latest _ htext    := htext
  committed habsent := by cases habsent

def Known (d : ControlDirectory) : Prop :=
  d.Known .journal ∧ d.Known .marker

-- The journal and the marker are on the disk.
structure Settled (numbers : PythonNumbers ν) (last : Option Text) (d : ControlDirectory) : Prop where
  known   : Known d
  journal : d.Leaves .journal (· = d.read .journal)
  marker  : d.Leaves .marker (· = d.read .marker)
  atomic  : Atomic numbers last (d.read .journal) (d.read .marker)

-- Whatever a crash leaves of the journal and the marker goes together.
structure Survives (numbers : PythonNumbers ν) (last : Option Text) (d : ControlDirectory)
    (J M : Option Text → Prop) : Prop where
  known   : Known d
  journal : d.Leaves .journal J
  marker  : d.Leaves .marker M
  atomic  : ∀ journal marker, J journal → M marker →
    Atomic numbers (lastJournal last journal) journal marker

theorem settled_empty : Settled numbers none .empty where
  known   := by constructor <;> intro id hid <;> simp [Disk.empty] at hid
  journal := by intro entry hentry; simp [Disk.empty] at hentry; subst hentry; rfl
  marker  := by intro entry hentry; simp [Disk.empty] at hentry; subst hentry; rfl
  atomic  := {
    canonical := fun _ htext => by cases htext
    latest    := fun _ htext => by cases htext
    committed := fun _ _ htext => by cases htext
  }

theorem Settled.survives (h : Settled numbers last d) :
    Survives numbers last d (· = d.read .journal) (· = d.read .marker) where
  known   := h.known
  journal := h.journal
  marker  := h.marker
  atomic _ _ hjournal hmarker := by
    subst hjournal hmarker
    rw [lastJournal_eq h.atomic]
    exact h.atomic

theorem Survives.crash {J M : Option Text → Prop} (h : Survives numbers last d J M)
    (hcrash : Disk.Crash 0 d d') : Settled numbers (lastJournal last (d'.read .journal)) d' where
  known   := ⟨h.known.1.crash hcrash, h.known.2.crash hcrash⟩
  journal := Disk.leaves_of_crash hcrash _
  marker  := Disk.leaves_of_crash hcrash _
  atomic  := h.atomic _ _ (h.journal.crash hcrash).read (h.marker.crash hcrash).read

-- Nothing is left to lose at the end of a command.
theorem Survives.settled (h : Survives numbers last d (· = journal) (· = marker)) :
    Settled numbers (lastJournal last (d.read .journal)) d := by
  have hjournal := h.journal.read
  have hmarker := h.marker.read
  exact {
    known   := h.known
    journal := hjournal ▸ h.journal
    marker  := hmarker ▸ h.marker
    atomic  := h.atomic _ _ hjournal hmarker
  }

end Invariant

section Prepare

variable {ν : Type} {numbers : PythonNumbers ν} {last : Option Text} {payload : Text}
  {candidate : Candidate ν} {d d' : ControlDirectory}

theorem prepare_eq (hvalid : validateJournal numbers candidate.value = .ok ())
    (hnone : d.read .journal = none) : prepare numbers d candidate.value =
      ⟨createJournal d (canonicalBytes numbers candidate.value), .ok "created"⟩ := by
  rw [prepare, hvalid]
  dsimp only
  rw [hnone]

theorem prepare_steps (numbers : PythonNumbers ν) (candidate : Candidate ν)
    (d : ControlDirectory) :
    (prepare numbers d candidate.value).steps = [] ∨
      validateJournal numbers candidate.value = .ok () ∧ d.read .journal = none ∧
      (prepare numbers d candidate.value).steps =
        createJournal d (canonicalBytes numbers candidate.value) := by
  cases hvalid : validateJournal numbers candidate.value with
  | error error =>
    refine .inl ?_
    rw [prepare, hvalid]
    rfl
  | ok _        =>
    cases hjournal : d.read .journal with
    | some text =>
      refine .inl ?_
      rw [prepare, hvalid]
      dsimp only
      rw [hjournal]
    | none      => exact .inr ⟨rfl, rfl, by rw [prepare_eq hvalid hjournal]⟩

variable (h : Settled numbers last d) (hjournal : IsJournalOf numbers candidate payload)
  (hnone : d.read .journal = none)

include h hjournal hnone

-- Once its data are synced the journal is there or it is not.
theorem survives_created : Survives numbers last
    (((d.create .journal).write d.created payload).fsync d.created)
    (fun journal => journal = none ∨ journal = some payload) (· = d.read .marker) where
  known   := ⟨((h.known.1.create _).write _ _).fsync _, ((h.known.2.create _).write _ _).fsync _⟩
  journal := by
    have hleaves := h.journal.mono (Q := fun journal => journal = none ∨ journal = some payload)
      fun contents hcontents => .inl (hcontents.trans hnone)
    exact hleaves.fsync_created h.known.1 (.inr rfl)
  marker  := (h.marker.write_created h.known.2 (by decide) payload).fsync d.created
  atomic journal marker hleft hmarker := by
    rcases hleft with rfl | rfl
    · have hatomic := h.survives.atomic none marker hnone.symm hmarker
      exact hatomic
    · exact atomic_some last hjournal marker

theorem survives_prepared : Survives numbers last
    (((d.create .journal).write d.created payload).fsync d.created).fsyncDirectory
    (· = some payload) (· = d.read .marker) where
  known   :=
    have hknown := (survives_created h hjournal hnone).known
    ⟨hknown.1.fsyncDirectory, hknown.2.fsyncDirectory⟩
  journal := by
    refine Disk.leaves_fsyncDirectory ?_
    simp [Disk.OnDisk, Disk.fsync, Disk.write, Disk.create, Disk.point]
  marker  := (survives_created h hjournal hnone).marker.fsyncDirectory
  atomic journal marker hcreated _ := by
    subst hcreated
    exact atomic_some last hjournal marker

end Prepare

section Complete

variable {ν : Type} {numbers : PythonNumbers ν} {last : Option Text} {payload bytes : Text}
  {candidate : Candidate ν} {d d' : ControlDirectory}

theorem complete_steps (numbers : PythonNumbers ν) (candidate : Candidate ν)
    (d : ControlDirectory) :
    (complete numbers d candidate.value).steps = [] ∨
      ∃ text, d.read .journal = some text ∧ ∃ existing, loadJournal numbers text = .ok existing ∧
      validateJournal numbers candidate.value = .ok () ∧
      canonicalBytes numbers existing = canonicalBytes numbers candidate.value ∧
      (complete numbers d candidate.value).steps =
        writeCommitMarker d (markerBytes numbers candidate.value) ++ removeJournal := by
  unfold complete
  cases hvalid : validateJournal numbers candidate.value with
  | error error => exact .inl rfl
  | ok _        =>
    dsimp only
    cases hjournal : d.read .journal with
    | none      => exact .inl rfl
    | some text =>
      dsimp only
      cases hload : loadJournal numbers text with
      | error error => exact .inl rfl
      | ok existing =>
        dsimp only
        split_ifs with hbytes
        · exact .inl rfl
        · exact .inr ⟨text, rfl, existing, hload, rfl, not_not.mp hbytes, rfl⟩

-- What the steps of `writeCommitMarker` leave of the marker, and what can be read of its file
structure Staged (d d' : ControlDirectory) (bytes : Text) : Prop where
  known     : Known d'
  created   : d.created < d'.created
  journal   : d'.Leaves .journal (· = d.read .journal)
  marker    : d'.Leaves .marker (· = d.read .marker)
  temporary : d'.entries (.temporary d.created) = some d.created
  data      : d'.files d.created = ⟨bytes, true⟩

theorem staged (h : Settled numbers last d) (bytes : Text) : Staged d
    (((d.create (.temporary d.created)).write d.created bytes).fsync d.created) bytes where
  known     := ⟨((h.known.1.create _).write _ _).fsync _, ((h.known.2.create _).write _ _).fsync _⟩
  created   := Nat.lt_succ_self _
  journal   := (h.journal.write_created h.known.1 (by simp) bytes).fsync d.created
  marker    := (h.marker.write_created h.known.2 (by simp) bytes).fsync d.created
  temporary := by simp [Disk.fsync, Disk.write, Disk.create, Disk.point]
  data      := by simp [Disk.fsync, Disk.write, Disk.create]

theorem Staged.fsync (h : Staged d d' bytes) : Staged d (d'.fsync d.created) bytes where
  known     := ⟨h.known.1.fsync _, h.known.2.fsync _⟩
  created   := h.created
  journal   := h.journal.fsync _
  marker    := h.marker.fsync _
  temporary := h.temporary
  data      := by simp [Disk.fsync, h.data]

-- The marker stands for the new file or still for the earlier one.
structure Renamed (d d' : ControlDirectory) (bytes : Text) : Prop where
  known   : Known d'
  journal : d'.Leaves .journal (· = d.read .journal)
  marker  : d'.Leaves .marker fun marker => marker = d.read .marker ∨ marker = some bytes
  entry   : d'.entries .marker = some d.created
  data    : d'.files d.created = ⟨bytes, true⟩

theorem Staged.rename (h : Staged d d' bytes) :
    Renamed d (d'.rename (.temporary d.created) .marker) bytes where
  known   := by
    have hentry : ∀ id, d'.entries (.temporary d.created) = some id → id < d'.created := by
      intro id hid
      rw [h.temporary, Option.some.injEq] at hid
      exact hid ▸ h.created
    have hnone : ∀ id : Nat, (none : Option Nat) = some id → id < d'.created := by simp
    exact ⟨(h.known.1.point hentry).point hnone, (h.known.2.point hentry).point hnone⟩
  journal := (h.journal.point_of_ne (by simp) _).point_of_ne (by simp) none
  marker  := by
    have hmarker := h.marker.mono
      (Q := fun marker => marker = d.read .marker ∨ marker = some bytes) fun _ => .inl
    refine (hmarker.point ?_).point_of_ne (by simp) none
    rw [h.temporary]
    simp [Disk.OnDisk, h.data]
  entry   := by simp [Disk.rename, Disk.point, h.temporary]
  data    := h.data

theorem Renamed.fsync (h : Renamed d d' bytes) : Renamed d (d'.fsync d.created) bytes where
  known   := ⟨h.known.1.fsync _, h.known.2.fsync _⟩
  journal := h.journal.fsync _
  marker  := h.marker.fsync _
  entry   := h.entry
  data    := by simp [Disk.fsync, h.data]

variable (hjournal : IsJournalOf numbers candidate payload)

include hjournal

theorem Renamed.survives (h : Renamed d d' bytes) (hsome : d.read .journal = some payload)
    (last : Option Text) : Survives numbers last d' (· = some payload)
      fun marker => marker = d.read .marker ∨ marker = some bytes where
  known   := h.known
  journal := hsome ▸ h.journal
  marker  := h.marker
  atomic journal marker hpresent _ := by
    subst hpresent
    exact atomic_some last hjournal marker

theorem Renamed.survives_synced (h : Renamed d d' bytes) (hsome : d.read .journal = some payload)
    (last : Option Text) :
    Survives numbers last d'.fsyncDirectory (· = some payload) (· = some bytes) where
  known   := ⟨h.known.1.fsyncDirectory, h.known.2.fsyncDirectory⟩
  journal := hsome ▸ h.journal.fsyncDirectory
  marker  := by
    refine Disk.leaves_fsyncDirectory ?_
    rw [h.entry]
    simp [Disk.OnDisk, h.data]
  atomic journal marker hpresent _ := by
    subst hpresent
    exact atomic_some last hjournal marker

-- The journal goes when the marker is on the disk.
theorem Survives.unlink (h : Survives numbers last d (· = some payload) (· = some bytes))
    (hlast : last = some payload) (hbytes : IsMarkerOf numbers candidate bytes) :
    Survives numbers last (d.unlink .journal)
      (fun journal => journal = none ∨ journal = some payload) (· = some bytes) where
  known   :=
    have hnone : ∀ id : Nat, (none : Option Nat) = some id → id < d.created := by simp
    ⟨h.known.1.point hnone, h.known.2.point hnone⟩
  journal := by
    have hleaves := h.journal.mono (Q := fun journal => journal = none ∨ journal = some payload)
      fun _ => .inr
    exact hleaves.point (.inl rfl)
  marker  := h.marker.point_of_ne (by simp) none
  atomic journal marker hleft hmarker := by
    rcases hleft with rfl | rfl
    · subst hlast
      exact {
        canonical := fun _ htext => by cases htext
        latest    := fun _ htext => by cases htext
        committed := fun _ text htext => by
          cases htext
          exact ⟨candidate, hjournal, bytes, hmarker, hbytes⟩
      }
    · exact atomic_some last hjournal marker

theorem throughout_complete (h : Settled numbers last d) (hsome : d.read .journal = some payload)
    (hbytes : IsMarkerOf numbers candidate bytes) :
    Throughout (fun d' => ∃ J M, Survives numbers last d' J M)
      (writeCommitMarker d bytes ++ removeJournal) d ∧
    Settled numbers (lastJournal last
        ((applySteps (writeCommitMarker d bytes ++ removeJournal) d).read .journal))
      (applySteps (writeCommitMarker d bytes ++ removeJournal) d) := by
  have hlast : last = some payload := h.atomic.latest _ hsome
  have hstaged := staged h bytes
  have hsurvives {d' : ControlDirectory} (hstaged : Staged d d' bytes) :
      ∃ J M, Survives numbers last d' J M :=
    ⟨_, _, hstaged.known, hstaged.journal, hstaged.marker, h.survives.atomic⟩
  have hrenamed := hstaged.fsync.rename
  have hsynced := hrenamed.fsync.survives_synced hjournal hsome last
  have hunlinked := hsynced.unlink hjournal hlast hbytes
  have hremoved : Survives numbers last
      ((((((((((d.create (.temporary d.created)).write d.created bytes).fsync d.created).fsync
        d.created).rename (.temporary d.created) .marker).fsync d.created).fsyncDirectory).unlink
        .journal)).fsyncDirectory) (· = none) (· = some bytes) := {
    known   := ⟨hunlinked.known.1.fsyncDirectory, hunlinked.known.2.fsyncDirectory⟩
    journal := by
      refine Disk.leaves_fsyncDirectory ?_
      simp [Disk.OnDisk, Disk.unlink, Disk.point]
    marker  := hunlinked.marker.fsyncDirectory
    atomic  := fun journal marker hgone => hunlinked.atomic journal marker (.inl hgone)
  }
  have hcreated : Survives numbers last (d.create (.temporary d.created))
      (· = d.read .journal) (· = d.read .marker) := {
    known   := ⟨h.known.1.create _, h.known.2.create _⟩
    journal := h.journal.create_of_ne h.known.1 (by simp)
    marker  := h.marker.create_of_ne h.known.2 (by simp)
    atomic  := h.survives.atomic
  }
  have hwritten : Survives numbers last
      ((d.create (.temporary d.created)).write d.created bytes)
      (· = d.read .journal) (· = d.read .marker) := {
    known   := ⟨(h.known.1.create _).write _ _, (h.known.2.create _).write _ _⟩
    journal := h.journal.write_created h.known.1 (by simp) bytes
    marker  := h.marker.write_created h.known.2 (by simp) bytes
    atomic  := h.survives.atomic
  }
  exact ⟨⟨⟨_, _, h.survives⟩, ⟨_, _, hcreated⟩, ⟨_, _, hwritten⟩, hsurvives hstaged,
    hsurvives hstaged.fsync, ⟨_, _, hrenamed.survives hjournal hsome last⟩,
    ⟨_, _, hrenamed.fsync.survives hjournal hsome last⟩, ⟨_, _, hsynced⟩, ⟨_, _, hunlinked⟩,
    ⟨_, _, hremoved⟩⟩, hremoved.settled⟩

end Complete

section Invariance

variable {ν : Type} {numbers : PythonNumbers ν} {last : Option Text} {text : Text}
  {candidate : Candidate ν} {d d' : ControlDirectory}

theorem loadJournal_of_isJournalOf (h : IsJournalOf numbers candidate text) :
    loadJournal numbers text = .ok (sorted candidate.value) := by
  rw [h.2]
  exact loadJournal_canonicalBytes candidate.wellFormed h.1

-- A candidate is completed when its journal is there.
theorem complete_cases (h : Settled numbers last d) (candidate : Candidate ν) :
    (complete numbers d candidate.value).steps = [] ∨
      ∃ text, d.read .journal = some text ∧ IsJournalOf numbers candidate text ∧
      (complete numbers d candidate.value).steps =
        writeCommitMarker d (markerBytes numbers candidate.value) ++ removeJournal := by
  rcases complete_steps numbers candidate d with hsteps | hsteps
  · exact .inl hsteps
  · obtain ⟨text, htext, existing, hload, hvalid, hbytes, hsteps⟩ := hsteps
    obtain ⟨previous, hprevious⟩ := h.atomic.canonical text htext
    rw [loadJournal_of_isJournalOf hprevious] at hload
    cases hload
    rw [canonicalBytes_sorted previous.wellFormed] at hbytes
    exact .inr ⟨text, htext, ⟨hvalid, hprevious.2.trans hbytes⟩, hsteps⟩

theorem Settled.finish (h : Settled numbers last d) (command : Command ν) :
    Settled numbers
      (lastJournal last ((applySteps (command.steps numbers d) d).read .journal))
      (applySteps (command.steps numbers d) d) := by
  have hnone : Settled numbers (lastJournal last ((applySteps [] d).read .journal))
      (applySteps [] d) := h.survives.settled
  cases command with
  | prepare candidate =>
    rcases prepare_steps numbers candidate d with hsteps | ⟨hvalid, habsent, hsteps⟩
    · rw [Command.steps, hsteps]
      exact hnone
    · rw [Command.steps, hsteps]
      exact (survives_prepared h ⟨hvalid, rfl⟩ habsent).settled
  | complete candidate =>
    rcases complete_cases h candidate with hsteps | ⟨text, htext, hjournal, hsteps⟩
    · rw [Command.steps, hsteps]
      exact hnone
    · rw [Command.steps, hsteps]
      exact (throughout_complete hjournal h htext rfl).2

theorem Settled.cut (h : Settled numbers last d) (command : Command ν) {k : Nat}
    (hspared : Spared d command k)
    (hcrash : Disk.Crash 0 (applySteps ((command.steps numbers d).take k) d) d') :
    Settled numbers (lastJournal last (d'.read .journal)) d' := by
  cases command with
  | prepare candidate =>
    rcases prepare_steps numbers candidate d with hsteps | ⟨hvalid, habsent, hsteps⟩
    · rw [Command.steps, hsteps, List.take_nil] at hcrash
      exact h.survives.crash hcrash
    · rw [Command.steps, hsteps] at hcrash
      have hwindow := hspared habsent
      match k, hwindow with
      | 0, _     => exact h.survives.crash hcrash
      | 3, _     => exact (survives_created h ⟨hvalid, rfl⟩ habsent).crash hcrash
      | k + 4, _ =>
        have htake : (createJournal d (canonicalBytes numbers candidate.value)).take (k + 4) =
            createJournal d (canonicalBytes numbers candidate.value) :=
          List.take_of_length_le (by simp [createJournal])
        rw [htake] at hcrash
        exact (survives_prepared h ⟨hvalid, rfl⟩ habsent).crash hcrash
  | complete candidate =>
    rcases complete_cases h candidate with hsteps | ⟨text, htext, hjournal, hsteps⟩
    · rw [Command.steps, hsteps, List.take_nil] at hcrash
      exact h.survives.crash hcrash
    · rw [Command.steps, hsteps] at hcrash
      obtain ⟨J, M, hsurvives⟩ := (throughout_complete hjournal h htext rfl).1.take k
      exact hsurvives.crash hcrash

theorem settled_run (h : Run numbers Spared last d) : Settled numbers last d := by
  induction h with
  | start                                  => exact settled_empty
  | finish command _ ih                    => exact ih.finish command
  | cut command k _ _ hspared hcrash ih    => exact ih.cut command hspared hcrash

end Invariance

section CrashAtomicity

variable {ν : Type} {numbers : PythonNumbers ν} {last : Option Text} {candidate : Candidate ν}
  {d : ControlDirectory} {k : Nat}

-- What is on the disk between commands: no journal or that of a candidate, no journal only when the
-- last one was committed, and a `prepare` that creates the journal, resumes it or changes nothing.
structure CrashAtomic (numbers : PythonNumbers ν) (last : Option Text) (d : ControlDirectory) :
    Prop where
  canonical : d.read .journal = none ∨
    ∃ text candidate, d.read .journal = some text ∧ IsJournalOf numbers candidate text
  committed : d.read .journal = none → ∀ text, last = some text →
    ∃ candidate, IsJournalOf numbers candidate text ∧
      ∃ bytes, d.read .marker = some bytes ∧ IsMarkerOf numbers candidate bytes
  resumes   : ∀ candidate text, IsJournalOf numbers candidate text →
    d.read .journal = none ∨ d.read .journal = some text →
    (prepare numbers d candidate.value).result ∈ [.ok "created", .ok "resumed"]
  refuses   : ∀ candidate text, d.read .journal = some text → ¬IsJournalOf numbers candidate text →
    (∃ error, (prepare numbers d candidate.value).result = .error error) ∧
    (prepare numbers d candidate.value).steps = []

theorem prepare_resumes {text : Text}
    (hjournal : IsJournalOf numbers candidate text)
    (hread : d.read .journal = none ∨ d.read .journal = some text) :
    (prepare numbers d candidate.value).result ∈ [.ok "created", .ok "resumed"] := by
  rcases hread with hread | hread
  · rw [prepare_eq hjournal.1 hread]
    exact List.mem_cons_self
  · have hload := loadJournal_of_isJournalOf hjournal
    rw [prepare, hjournal.1]
    dsimp only
    rw [hread]
    simp [resume, hload, canonicalBytes_sorted candidate.wellFormed, bind, Except.bind, pure,
      Except.pure]

theorem Settled.refuses {text : Text} (h : Settled numbers last d)
    (hread : d.read .journal = some text) (hother : ¬IsJournalOf numbers candidate text) :
    (∃ error, (prepare numbers d candidate.value).result = .error error) ∧
    (prepare numbers d candidate.value).steps = [] := by
  cases hvalid : validateJournal numbers candidate.value with
  | error error =>
    rw [prepare, hvalid]
    exact ⟨⟨error, rfl⟩, rfl⟩
  | ok _        =>
    obtain ⟨previous, hprevious⟩ := h.atomic.canonical text hread
    have hload := loadJournal_of_isJournalOf hprevious
    have hbytes : canonicalBytes numbers previous.value ≠ canonicalBytes numbers candidate.value :=
      fun heq => hother ⟨hvalid, hprevious.2.trans heq⟩
    rw [prepare, hvalid]
    dsimp only
    rw [hread]
    refine ⟨⟨"unfinished transition differs from the requested release", ?_⟩, rfl⟩
    simp [resume, hload, canonicalBytes_sorted previous.wellFormed, hbytes, bind, Except.bind,
      throw, throwThe, MonadExceptOf.throw]

theorem Settled.crashAtomic (h : Settled numbers last d) : CrashAtomic numbers last d where
  canonical := by
    cases hread : d.read .journal with
    | none      => exact .inl rfl
    | some text =>
      obtain ⟨candidate, hjournal⟩ := h.atomic.canonical text hread
      exact .inr ⟨text, candidate, rfl, hjournal⟩
  committed := h.atomic.committed
  resumes candidate text hjournal hread := prepare_resumes hjournal hread
  refuses candidate text hread hother := h.refuses hread hother

-- A crash in between can leave a journal that is empty.
theorem exists_torn (candidate : Candidate ν) (d : ControlDirectory)
    (hvalid : validateJournal numbers candidate.value = .ok ())
    (habsent : d.read .journal = none) (hk : k = 1 ∨ k = 2) :
    ∃ d', Disk.Crash 0 (applySteps
        (((Command.prepare candidate).steps numbers d).take k) d) d' ∧
      ∀ last, ¬CrashAtomic numbers last d' := by
  refine ⟨_, Disk.crash_lost 0 _, fun last hatomic => ?_⟩
  have hread : (Disk.lost (applySteps (((Command.prepare candidate).steps numbers d).take k) d)).read
      .journal = some [] := by
    rw [Command.steps, prepare_eq hvalid habsent]
    rcases hk with rfl | rfl
    · simp [createJournal, applySteps, Disk.lost, Disk.read, Disk.create, Disk.point]
    · simp [createJournal, applySteps, Disk.lost, Disk.read, Disk.write, Disk.create, Disk.point]
  rcases hatomic.canonical with hnone | ⟨text, previous, hsome, hjournal⟩
  · rw [hread] at hnone
    cases hnone
  · rw [hread, Option.some.injEq] at hsome
    exact canonicalBytes_ne_nil previous.value (hsome.trans hjournal.2).symm

end CrashAtomicity

section Release

variable {ν : Type} (numbers : PythonNumbers ν)

-- A run is crash-atomic when no crash comes between the creation of a journal and the sync of its
-- data, and where one comes there it may leave a journal that no command can read.
theorem journal_crash_atomic :
    (∀ last d, Run numbers Spared last d → CrashAtomic numbers last d) ∧
    ∀ (candidate : Candidate ν) (d : ControlDirectory) (k : Nat),
      validateJournal numbers candidate.value = .ok () → d.read .journal = none → k = 1 ∨ k = 2 →
      ∃ d', Disk.Crash 0 (applySteps (((Command.prepare candidate).steps numbers d).take k) d) d' ∧
        ∀ last, ¬CrashAtomic numbers last d' :=
  ⟨fun _ _ hrun => (settled_run hrun).crashAtomic,
    fun candidate d _ hvalid habsent hk => exists_torn candidate d hvalid habsent hk⟩

-- The first release of a host
def sha256Text : Text := ofString "sha256:" ++ List.replicate 64 0x61

def sample (key : String) (value : Json Int) : Text × Json Int := (ofString key, value)

def firstFingerprints (v1 : Json Int) : Json Int :=
  .obj (families.map fun family => sample family (.obj [sample "v1" v1, sample "v2" .null]))

def firstStates (state : Json Int) : Json Int :=
  .obj (families.map fun family => sample family state)

def firstTransition : Json Int := .obj [
  sample "schemaVersion" (.num 1),
  sample "status" (.str (ofString "in_progress")),
  sample "from" (.obj [
    sample "revision" .null, sample "recorded" (.bool false),
    sample "states" (firstStates .null), sample "fingerprints" (firstFingerprints .null)
  ]),
  sample "to" (.obj [
    sample "revision" (.str (List.replicate 40 0x61)), sample "recorded" (.bool true),
    sample "states" (firstStates (.str (ofString "legacy"))),
    sample "fingerprints" (firstFingerprints (.str sha256Text))
  ])
]

def pythonIntegers : PythonNumbers Int where
  format := Json.integerFormat
  isOne  := fun n => n = 1

theorem validateJournal_firstTransition :
    validateJournal pythonIntegers firstTransition = .ok () := by
  rfl

theorem wellFormed_families {value : Json Int} (h : value.WellFormed) :
    (Json.obj (families.map fun family => sample family value)).WellFormed := by
  have hkeys : (families.map ofString).Nodup := by decide
  refine .obj hkeys fun member hmember => ?_
  obtain ⟨family, -, rfl⟩ := List.mem_map.mp hmember
  exact h

theorem wellFormed_firstFingerprints {v1 : Json Int} (h : v1.WellFormed) :
    (firstFingerprints v1).WellFormed := by
  have hkeys : (versions.map ofString).Nodup := by decide
  refine wellFormed_families (.obj hkeys ?_)
  simp only [sample, List.forall_mem_cons]
  exact ⟨h, .null, List.forall_mem_nil _⟩

theorem wellFormed_firstTransition : firstTransition.WellFormed := by
  refine .obj (by decide) ?_
  simp only [sample, List.forall_mem_cons]
  refine ⟨.num, .str, .obj (by decide) ?_, .obj (by decide) ?_, List.forall_mem_nil _⟩
  all_goals simp only [List.forall_mem_cons]
  · exact ⟨.null, .bool, wellFormed_families .null, wellFormed_firstFingerprints .null,
      List.forall_mem_nil _⟩
  · exact ⟨.str, .bool, wellFormed_families .str, wellFormed_firstFingerprints .str,
      List.forall_mem_nil _⟩

def firstCandidate : Candidate Int where
  value      := firstTransition
  wellFormed := wellFormed_firstTransition

-- The first release prepares its journal.
theorem journal_crash_atomic_first :
    ∃ last d, d.read .journal = some (canonicalBytes pythonIntegers firstTransition) ∧
      CrashAtomic pythonIntegers last d := by
  have hrun := Run.finish (.prepare firstCandidate) (@Run.start _ pythonIntegers Spared)
  refine ⟨_, _, ?_, (journal_crash_atomic pythonIntegers).1 _ _ hrun⟩
  rw [Command.steps, prepare_eq validateJournal_firstTransition rfl]
  simp [createJournal, applySteps, Disk.read, Disk.fsyncDirectory, Disk.fsync, Disk.write,
    Disk.create, Disk.point, firstCandidate]

-- The machine stops right after the journal was created, and its entry is on the disk.
theorem journal_crash_atomic_counterexample :
    ¬∀ last d, Run pythonIntegers (fun _ _ _ => True) last d → CrashAtomic pythonIntegers last d := by
  intro h
  obtain ⟨d', hcrash, hnot⟩ := exists_torn (k := 1) firstCandidate .empty
    validateJournal_firstTransition rfl (.inl rfl)
  refine hnot _ (h _ d' (.cut (.prepare firstCandidate) 1 .start ?_ trivial hcrash))
  rw [Command.steps, prepare_eq validateJournal_firstTransition rfl]
  decide

end Release

end TransitionJournal

end RefundDesk
