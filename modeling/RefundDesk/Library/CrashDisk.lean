import Mathlib.Data.List.Forall2
import Mathlib.Logic.Function.Basic
import Mathlib.Tactic.SplitIfs

namespace CrashDisk

-- The data of a file are lost at a crash until the file was synced.
structure File (β : Type) where
  data   : List β
  synced : Bool

-- A directory and the files that were created in it. An entry is the file that a name stands for,
-- and the earlier entries are those it has had since the directory was synced.
structure Disk (ν β : Type) where
  files   : Nat → File β
  created : Nat
  entries : ν → Option Nat
  earlier : ν → List (Option Nat)

variable {ν β : Type}

def Disk.empty : Disk ν β where
  files   := fun _ => ⟨[], true⟩
  created := 0
  entries := fun _ => none
  earlier := fun _ => []

namespace Disk

section Operations

variable (d : Disk ν β)

def read (name : ν) : Option (List β) :=
  (d.entries name).map fun id => (d.files id).data

def write (id : Nat) (data : List β) : Disk ν β :=
  { d with files := Function.update d.files id ⟨data, false⟩ }

def fsync (id : Nat) : Disk ν β :=
  { d with files := Function.update d.files id { d.files id with synced := true } }

def fsyncDirectory : Disk ν β :=
  { d with earlier := fun _ => [] }

variable [DecidableEq ν]

def point (name : ν) (entry : Option Nat) : Disk ν β :=
  { d with
    entries := Function.update d.entries name entry
    earlier := Function.update d.earlier name (d.entries name :: d.earlier name) }

-- The file that is created has the number `d.created`.
def create (name : ν) : Disk ν β :=
  { d.point name (some d.created) with
    files   := Function.update d.files d.created ⟨[], false⟩
    created := d.created + 1 }

def rename (source target : ν) : Disk ν β :=
  (d.point target (d.entries source)).point source none

def unlink (name : ν) : Disk ν β :=
  d.point name none

end Operations

-- What remains of data that were not synced: their end may be missing, and any of the rest may be
-- blank.
def Remains (blank : β) (data remains : List β) : Prop :=
  List.Forall₂ (fun kept written => kept = written ∨ kept = blank) remains
    (data.take remains.length)

-- Each entry is lost or kept for itself, and what is left is on the disk.
structure Crash (blank : β) (d d' : Disk ν β) : Prop where
  entries  : ∀ name, d'.entries name ∈ d.entries name :: d.earlier name
  earlier  : ∀ name, d'.earlier name = []
  synced   : ∀ id, (d'.files id).synced = true
  kept     : ∀ id, (d.files id).synced = true → (d'.files id).data = (d.files id).data
  unsynced : ∀ id, (d.files id).synced = false →
    Remains blank (d.files id).data (d'.files id).data
  created  : d'.created = d.created

-- What a file or its absence is on the disk
def OnDisk (d : Disk ν β) (P : Option (List β) → Prop) : Option Nat → Prop
  | none    => P none
  | some id => (d.files id).synced = true ∧ P (some (d.files id).data)

-- Whatever a crash leaves of a name, its data were synced and it meets `P`.
def Leaves (d : Disk ν β) (name : ν) (P : Option (List β) → Prop) : Prop :=
  ∀ entry ∈ d.entries name :: d.earlier name, d.OnDisk P entry

-- The files of the entries of a name have been created.
def Known (d : Disk ν β) (name : ν) : Prop :=
  ∀ id, some id ∈ d.entries name :: d.earlier name → id < d.created

variable {d d' : Disk ν β} {name other : ν} {P Q : Option (List β) → Prop} {blank : β} {id : Nat}
  {data : List β} {entry : Option Nat}

section Leaves

theorem OnDisk.mono (h : d.OnDisk P entry) (hPQ : ∀ contents, P contents → Q contents) :
    d.OnDisk Q entry := by
  cases entry with
  | none    => exact hPQ _ h
  | some id => exact ⟨h.1, hPQ _ h.2⟩

theorem Leaves.mono (h : d.Leaves name P) (hPQ : ∀ contents, P contents → Q contents) :
    d.Leaves name Q :=
  fun entry hentry => (h entry hentry).mono hPQ

theorem Leaves.read (h : d.Leaves name P) : P (d.read name) := by
  have hentry := h (d.entries name) List.mem_cons_self
  unfold Disk.read
  cases hname : d.entries name with
  | none    => rwa [hname] at hentry
  | some id =>
    rw [hname] at hentry
    exact hentry.2

theorem Leaves.fsync (h : d.Leaves name P) (id : Nat) : (d.fsync id).Leaves name P := by
  intro entry hentry
  have hon := h entry hentry
  cases entry with
  | none      => exact hon
  | some file =>
    by_cases hfile : file = id
    · subst hfile
      simpa [OnDisk, Disk.fsync] using hon.2
    · simpa [OnDisk, Disk.fsync, hfile] using hon

-- The data of a file that no entry of the name stands for
theorem Leaves.write (h : d.Leaves name P)
    (hid : some id ∉ d.entries name :: d.earlier name) (data : List β) :
    (d.write id data).Leaves name P := by
  intro entry hentry
  have hon := h entry hentry
  cases entry with
  | none      => exact hon
  | some file =>
    have hfile : file ≠ id := by
      rintro rfl
      exact hid hentry
    simpa [OnDisk, Disk.write, hfile] using hon

theorem leaves_fsyncDirectory (h : d.OnDisk P (d.entries name)) :
    d.fsyncDirectory.Leaves name P := by
  intro entry hentry
  rw [fsyncDirectory, List.mem_singleton] at hentry
  subst hentry
  exact h

theorem Leaves.fsyncDirectory (h : d.Leaves name P) : d.fsyncDirectory.Leaves name P :=
  leaves_fsyncDirectory (h _ List.mem_cons_self)

variable [DecidableEq ν]

theorem Leaves.point (h : d.Leaves name P) (hentry : d.OnDisk P entry) :
    (d.point name entry).Leaves name P := by
  intro entry' hentry'
  simp only [Disk.point, Function.update_self, List.mem_cons] at hentry'
  rcases hentry' with rfl | hentry'
  · exact hentry
  · exact h entry' (List.mem_cons.mpr hentry')

theorem Leaves.point_of_ne (h : d.Leaves name P) (hne : name ≠ other) (entry : Option Nat) :
    (d.point other entry).Leaves name P := by
  intro entry' hentry'
  simp only [Disk.point, Function.update_of_ne hne] at hentry'
  exact h entry' hentry'

theorem Leaves.create_of_ne (h : d.Leaves name P) (hknown : d.Known name) (hne : name ≠ other) :
    (d.create other).Leaves name P := by
  intro entry hentry
  have hon := h.point_of_ne hne (some d.created) entry hentry
  cases entry with
  | none      => exact hon
  | some file =>
    have hmem : some file ∈ d.entries name :: d.earlier name := by
      simpa [Disk.create, Disk.point, hne] using hentry
    have hfile : file ≠ d.created := Nat.ne_of_lt (hknown file hmem)
    simpa [OnDisk, Disk.create, Disk.point, hfile] using hon

end Leaves

section Crash

theorem Leaves.crash (h : d.Leaves name P) (hcrash : Crash blank d d') : d'.Leaves name P := by
  intro entry hentry
  rw [hcrash.earlier, List.mem_singleton] at hentry
  subst hentry
  have hon := h _ (hcrash.entries name)
  cases hname : d'.entries name with
  | none    => rwa [hname] at hon
  | some id =>
    rw [hname] at hon
    exact ⟨hcrash.synced id, hcrash.kept id hon.1 ▸ hon.2⟩

theorem Known.crash (h : d.Known name) (hcrash : Crash blank d d') : d'.Known name := by
  intro id hid
  rw [hcrash.earlier, List.mem_singleton] at hid
  rw [hcrash.created]
  exact h id (hid ▸ hcrash.entries name)

-- After a crash a name stands for what can be read of it.
theorem leaves_of_crash (hcrash : Crash blank d d') (name : ν) :
    d'.Leaves name (· = d'.read name) := by
  intro entry hentry
  rw [hcrash.earlier, List.mem_singleton] at hentry
  subst hentry
  unfold Disk.read
  cases hname : d'.entries name with
  | none    => rfl
  | some id => exact ⟨hcrash.synced id, rfl⟩

end Crash

-- The crash that keeps every entry and loses all data that were not synced
def lost (d : Disk ν β) : Disk ν β where
  files   := fun id => if (d.files id).synced then d.files id else ⟨[], true⟩
  created := d.created
  entries := d.entries
  earlier := fun _ => []

theorem crash_lost (blank : β) (d : Disk ν β) : Crash blank d d.lost where
  entries _      := List.mem_cons_self
  earlier _      := rfl
  synced id      := by
    unfold lost
    dsimp only
    split_ifs with h
    · exact h
    · rfl
  kept id h      := by simp [lost, h]
  unsynced id h  := by
    simp [lost, h, Remains]
  created        := rfl

section Known

theorem Known.write (h : d.Known name) (id : Nat) (data : List β) : (d.write id data).Known name :=
  h

theorem Known.fsync (h : d.Known name) (id : Nat) : (d.fsync id).Known name :=
  h

theorem Known.fsyncDirectory (h : d.Known name) : d.fsyncDirectory.Known name := by
  intro id hid
  rw [Disk.fsyncDirectory, List.mem_singleton] at hid
  exact h id (List.mem_cons.mpr (.inl hid))

variable [DecidableEq ν]

theorem Known.point (h : d.Known name) (hentry : ∀ id, entry = some id → id < d.created) :
    (d.point other entry).Known name := by
  intro id hid
  by_cases hname : name = other
  · subst hname
    simp only [Disk.point, Function.update_self, List.mem_cons] at hid
    rcases hid with hid | hid
    · exact hentry id hid.symm
    · exact h id (List.mem_cons.mpr hid)
  · simp only [Disk.point, Function.update_of_ne hname] at hid
    exact h id hid

theorem Known.create (h : d.Known name) (other : ν) : (d.create other).Known name := by
  intro id hid
  by_cases hname : name = other
  · subst hname
    simp only [Disk.create, Disk.point, Function.update_self, List.mem_cons] at hid
    rcases hid with hid | hid
    · cases hid
      exact Nat.lt_succ_self _
    · exact Nat.lt_succ_of_lt (h id (List.mem_cons.mpr hid))
  · simp only [Disk.create, Disk.point, Function.update_of_ne hname] at hid
    exact Nat.lt_succ_of_lt (h id hid)

theorem Known.notMem_created (h : d.Known name) (hne : name ≠ other) :
    some d.created ∉ (d.create other).entries name :: (d.create other).earlier name := by
  intro hmem
  simp only [Disk.create, Disk.point, Function.update_of_ne hne] at hmem
  exact Nat.lt_irrefl _ (h _ hmem)

end Known

section Writing

variable [DecidableEq ν]

-- A file is created and written while another name is left alone.
theorem Leaves.write_created (h : d.Leaves name P) (hknown : d.Known name) (hne : name ≠ other)
    (data : List β) : ((d.create other).write d.created data).Leaves name P :=
  (h.create_of_ne hknown hne).write (hknown.notMem_created hne) data

-- Once the data of a new file are synced, its name stands for them or for what it was.
theorem Leaves.fsync_created (h : d.Leaves name P) (hknown : d.Known name) (hdata : P (some data)) :
    (((d.create name).write d.created data).fsync d.created).Leaves name P := by
  intro entry hentry
  have hmem : entry = some d.created ∨ entry ∈ d.entries name :: d.earlier name := by
    simpa [Disk.fsync, Disk.write, Disk.create, Disk.point] using hentry
  rcases hmem with rfl | hmem
  · simpa [OnDisk, Disk.fsync, Disk.write, Disk.create] using hdata
  · have hon := h entry hmem
    cases entry with
    | none      => exact hon
    | some file =>
      have hfile : file ≠ d.created := Nat.ne_of_lt (hknown file hmem)
      simpa [OnDisk, Disk.fsync, Disk.write, Disk.create, Disk.point, hfile] using hon

end Writing

end Disk

end CrashDisk
