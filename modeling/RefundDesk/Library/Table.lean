import Mathlib.Data.List.Pairwise
import Mathlib.Order.Lattice

-- A table of rows under a primary key, kept in the order of the keys. That the keys are distinct
-- and ordered is a field, so two tables with the same rows are equal.
@[ext]
structure Table (κ ρ : Type) [LinearOrder κ] where
  entries : List (κ × ρ)
  sorted  : entries.Pairwise (·.1 < ·.1)

namespace Table

variable {κ ρ ε : Type} [LinearOrder κ]

instance [DecidableEq ρ] : DecidableEq (Table κ ρ) :=
  fun t t' => decidable_of_iff (t.entries = t'.entries) Table.ext_iff.symm

def empty : Table κ ρ where
  entries := []
  sorted  := .nil

-- The row with the given key.
def find? (t : Table κ ρ) (k : κ) : Option ρ :=
  (t.entries.find? (·.1 = k)).map (·.2)

def keys (t : Table κ ρ) : List κ :=
  t.entries.map (·.1)

def insertEntry (k : κ) (r : ρ) : List (κ × ρ) → List (κ × ρ)
  | []           => [(k, r)]
  | e :: entries =>
    if k < e.1 then (k, r) :: e :: entries
    else if k = e.1 then (k, r) :: entries
    else e :: insertEntry k r entries

theorem mem_insertEntry {k : κ} {r : ρ} {e : κ × ρ} {entries : List (κ × ρ)}
    (h : e ∈ insertEntry k r entries) : e = (k, r) ∨ e ∈ entries := by
  induction entries with
  | nil => simpa [insertEntry] using h
  | cons e' entries ih =>
    unfold insertEntry at h
    split_ifs at h <;> grind

theorem insertEntry_sorted {k : κ} {r : ρ} {entries : List (κ × ρ)}
    (h : entries.Pairwise (·.1 < ·.1)) : (insertEntry k r entries).Pairwise (·.1 < ·.1) := by
  induction entries with
  | nil => simp [insertEntry]
  | cons e entries ih =>
    rw [List.pairwise_cons] at h
    unfold insertEntry
    split_ifs with hlt heq
    · refine List.pairwise_cons.mpr ⟨?_, List.pairwise_cons.mpr h⟩
      intro e' he'
      rcases List.mem_cons.mp he' with rfl | he'
      · exact hlt
      · exact lt_trans hlt (h.1 e' he')
    · exact List.pairwise_cons.mpr ⟨fun e' he' => heq ▸ h.1 e' he', h.2⟩
    · refine List.pairwise_cons.mpr ⟨?_, ih h.2⟩
      intro e' he'
      rcases mem_insertEntry he' with rfl | he'
      · exact lt_of_le_of_ne (not_lt.mp hlt) (Ne.symm heq)
      · exact h.1 e' he'

-- Inserts the row, in the place of the row that had its key if there was one.
def insert (t : Table κ ρ) (k : κ) (r : ρ) : Table κ ρ where
  entries := insertEntry k r t.entries
  sorted  := insertEntry_sorted t.sorted

theorem mem_entries_iff {t : Table κ ρ} {k : κ} {r : ρ} :
    (k, r) ∈ t.entries ↔ t.find? k = some r := by
  obtain ⟨entries, sorted⟩ := t
  simp only [find?]
  induction entries with
  | nil => simp
  | cons e entries ih =>
    rw [List.pairwise_cons] at sorted
    rw [List.mem_cons, List.find?_cons]
    by_cases he : e.1 = k
    · have hmem : (k, r) ∉ entries := fun h => (ne_of_lt (sorted.1 _ h)) he
      simp [he, hmem, Prod.ext_iff, eq_comm]
    · have hne : (k, r) ≠ e := fun h => he (h ▸ rfl)
      simpa [he, hne] using ih sorted.2

theorem mem_keys_iff {t : Table κ ρ} {k : κ} : k ∈ t.keys ↔ ∃ r, t.find? k = some r := by
  simp [keys, ← mem_entries_iff]

theorem keys_sorted (t : Table κ ρ) : t.keys.Pairwise (· < ·) :=
  List.pairwise_map.mpr t.sorted

theorem keys_nodup (t : Table κ ρ) : t.keys.Nodup :=
  t.keys_sorted.imp ne_of_lt

@[simp]
theorem find?_empty (k : κ) : (empty : Table κ ρ).find? k = none :=
  rfl

theorem find?_insert (t : Table κ ρ) (k : κ) (r : ρ) (k' : κ) :
    (t.insert k r).find? k' = if k' = k then some r else t.find? k' := by
  obtain ⟨entries, sorted⟩ := t
  simp only [insert, find?]
  induction entries with
  | nil => grind [insertEntry]
  | cons e entries ih =>
    rw [List.pairwise_cons] at sorted
    unfold insertEntry
    split_ifs <;> grind

@[simp]
theorem find?_insert_self (t : Table κ ρ) (k : κ) (r : ρ) : (t.insert k r).find? k = some r := by
  simp [find?_insert]

theorem find?_insert_ne {t : Table κ ρ} {k k' : κ} {r : ρ} (h : k' ≠ k) :
    (t.insert k r).find? k' = t.find? k' := by
  simp [find?_insert, h]

theorem find?_inj {t t' : Table κ ρ} (h : ∀ k, t.find? k = t'.find? k) : t = t' := by
  refine Table.ext (List.Perm.eq_of_pairwise ?_ t.sorted t'.sorted ?_)
  · exact fun a b _ _ hab hba => (lt_asymm hab hba).elim
  · have hnodup (t : Table κ ρ) : t.entries.Nodup :=
      t.sorted.imp fun {a b} hlt (heq : a = b) => lt_irrefl a.1 (heq ▸ hlt)
    refine (List.perm_ext_iff_of_nodup (hnodup t) (hnodup t')).mpr fun e => ?_
    exact mem_entries_iff.trans (h e.1 ▸ mem_entries_iff.symm)

@[simp]
theorem insert_find? {t : Table κ ρ} {k : κ} {r : ρ} (h : t.find? k = some r) :
    t.insert k r = t := by
  refine find?_inj fun k' => ?_
  rw [find?_insert]
  split_ifs with hk
  · rw [hk, h]
  · rfl

@[simp]
theorem insert_insert (t : Table κ ρ) (k : κ) (r r' : ρ) :
    (t.insert k r).insert k r' = t.insert k r' := by
  refine find?_inj fun k' => ?_
  simp only [find?_insert]
  split_ifs <;> rfl

-- Two rows under different keys make the table longer than one.
theorem one_lt_length {t : Table κ ρ} {k k' : κ} {r r' : ρ} (h : t.find? k = some r)
    (h' : t.find? k' = some r') (hne : k ≠ k') : 1 < t.entries.length := by
  have hm  := mem_entries_iff.mpr h
  have hm' := mem_entries_iff.mpr h'
  by_contra hle
  match he : t.entries with
  | []             => simp [he] at hm
  | [e]            => grind
  | _ :: _ :: rest => simp [he] at hle

theorem length_insertEntry {k : κ} {r : ρ} {entries : List (κ × ρ)}
    (h : ∀ e ∈ entries, e.1 ≠ k) : (insertEntry k r entries).length = entries.length + 1 := by
  induction entries with
  | nil => rfl
  | cons e entries ih =>
    have hne : k ≠ e.1 := (h e (by simp)).symm
    unfold insertEntry
    split_ifs
    · rfl
    · simp [ih fun e' he' => h e' (by simp [he'])]

theorem length_insert {t : Table κ ρ} {k : κ} (r : ρ) (h : t.find? k = none) :
    (t.insert k r).entries.length = t.entries.length + 1 := by
  refine length_insertEntry fun e he heq => ?_
  have hfound : t.find? k = some e.2 := mem_entries_iff.mp (heq ▸ he)
  simp [h] at hfound

theorem length_insertEntry_of_mem {k : κ} {r : ρ} {entries : List (κ × ρ)}
    (hsorted : entries.Pairwise (·.1 < ·.1)) (h : k ∈ entries.map (·.1)) :
    (insertEntry k r entries).length = entries.length := by
  induction entries with
  | nil => cases h
  | cons e entries ih =>
    rw [List.pairwise_cons] at hsorted
    unfold insertEntry
    split_ifs with hlt heq
    · obtain ⟨e', he', hk⟩ := List.mem_map.mp h
      rcases List.mem_cons.mp he' with rfl | he'
      · exact absurd hk (ne_of_gt hlt)
      · exact absurd hk (ne_of_gt (lt_trans hlt (hsorted.1 e' he')))
    · rfl
    · have hmem : k ∈ entries.map (·.1) := by
        rw [List.map_cons, List.mem_cons] at h
        exact h.resolve_left heq
      simp [ih hsorted.2 hmem]

theorem length_insert_of_find? {t : Table κ ρ} {k : κ} {r : ρ} (r' : ρ) (h : t.find? k = some r) :
    (t.insert k r').entries.length = t.entries.length :=
  length_insertEntry_of_mem t.sorted (mem_keys_iff.mpr ⟨r, h⟩)

-- The number of rows with the property.
def count (p : κ → ρ → Bool) (t : Table κ ρ) : Nat :=
  t.entries.countP fun e => p e.1 e.2

def map (f : ρ → ρ) (t : Table κ ρ) : Table κ ρ where
  entries := t.entries.map fun e => (e.1, f e.2)
  sorted  := List.pairwise_map.mpr t.sorted

@[simp]
theorem find?_map (f : ρ → ρ) (t : Table κ ρ) (k : κ) : (t.map f).find? k = (t.find? k).map f := by
  simp only [map, find?, List.find?_map, Option.map_map]
  rfl

-- Keeps the rows with the property.
def filter (p : κ → ρ → Bool) (t : Table κ ρ) : Table κ ρ where
  entries := t.entries.filter fun e => p e.1 e.2
  sorted  := t.sorted.filter _

theorem find?_filter (p : κ → ρ → Bool) (t : Table κ ρ) (k : κ) :
    (t.filter p).find? k = (t.find? k).filter (p k) := by
  ext r
  rw [Option.filter_eq_some_iff, ← mem_entries_iff, ← mem_entries_iff]
  simp [filter]

section Traverse

variable {f : κ → ρ → Except ε ρ}

omit [LinearOrder κ] in
def traverseEntries (f : κ → ρ → Except ε ρ) : List (κ × ρ) → Except ε (List (κ × ρ))
  | []           => .ok []
  | e :: entries =>
    match f e.1 e.2, traverseEntries f entries with
    | .ok r, .ok entries' => .ok ((e.1, r) :: entries')
    | .ok _, .error x     => .error x
    | .error x, _         => .error x

omit [LinearOrder κ] in
theorem traverseEntries_keys {entries entries' : List (κ × ρ)}
    (h : traverseEntries f entries = .ok entries') :
    entries'.map (·.1) = entries.map (·.1) := by
  induction entries generalizing entries' with
  | nil => simp_all [traverseEntries]
  | cons e entries ih => grind [traverseEntries]

omit [LinearOrder κ] in
theorem mem_traverseEntries {entries entries' : List (κ × ρ)} {k : κ} {r' : ρ}
    (h : traverseEntries f entries = .ok entries') :
    (k, r') ∈ entries' ↔ ∃ r, (k, r) ∈ entries ∧ f k r = .ok r' := by
  induction entries generalizing entries' with
  | nil => simp_all [traverseEntries]
  | cons e entries ih => grind [traverseEntries]

omit [LinearOrder κ] in
theorem traverseEntries_ok {entries : List (κ × ρ)} :
    (∃ entries', traverseEntries f entries = .ok entries') ↔
      ∀ k r, (k, r) ∈ entries → ∃ r', f k r = .ok r' := by
  induction entries with
  | nil => simp [traverseEntries]
  | cons e entries ih => grind [traverseEntries]

omit [LinearOrder κ] in
theorem countP_traverseEntries {p q : κ × ρ → Bool} {entries entries' : List (κ × ρ)}
    (h : traverseEntries f entries = .ok entries')
    (hpq : ∀ k r r', (k, r) ∈ entries → f k r = .ok r' → p (k, r) = q (k, r')) :
    entries'.countP q = entries.countP p := by
  induction entries generalizing entries' with
  | nil => simp_all [traverseEntries]
  | cons e entries ih =>
    unfold traverseEntries at h
    split at h
    case h_1 r rest hr hrest =>
      obtain rfl := Except.ok.inj h
      rw [List.countP_cons, List.countP_cons, ih hrest fun k r r' hm => hpq k r r' (by simp [hm]),
        hpq e.1 e.2 r (by simp) hr]
    case h_2 => cases h
    case h_3 => cases h

-- Replaces every row by its image under an operation that can fail on a row.
def traverse (f : κ → ρ → Except ε ρ) (t : Table κ ρ) : Except ε (Table κ ρ) :=
  match h : traverseEntries f t.entries with
  | .error e     => .error e
  | .ok entries' => .ok {
      entries := entries'
      sorted  := List.pairwise_map.mp (traverseEntries_keys h ▸ t.keys_sorted)
    }

theorem traverse_eq_ok {t t' : Table κ ρ} :
    t.traverse f = .ok t' ↔ traverseEntries f t.entries = .ok t'.entries := by
  unfold traverse
  split
  case h_1 _ h => simp [h]
  case h_2 _ h => simp [h, Table.ext_iff]

theorem find?_of_traverse {t t' : Table κ ρ} (h : t.traverse f = .ok t') (k : κ) (r' : ρ) :
    t'.find? k = some r' ↔ ∃ r, t.find? k = some r ∧ f k r = .ok r' := by
  have hmem : (k, r') ∈ t'.entries ↔ ∃ r, (k, r) ∈ t.entries ∧ f k r = .ok r' :=
    mem_traverseEntries (traverse_eq_ok.mp h)
  simpa [mem_entries_iff] using hmem

theorem traverse_ok {t : Table κ ρ} :
    (∃ t', t.traverse f = .ok t') ↔ ∀ k r, t.find? k = some r → ∃ r', f k r = .ok r' := by
  simp only [← mem_entries_iff, ← traverseEntries_ok]
  constructor
  · rintro ⟨t', h⟩
    exact ⟨_, traverse_eq_ok.mp h⟩
  · rintro ⟨entries', h⟩
    exact ⟨⟨entries', List.pairwise_map.mp (traverseEntries_keys h ▸ t.keys_sorted)⟩,
      traverse_eq_ok.mpr h⟩

-- A property of the rows that the operation preserves is counted the same after it.
theorem count_of_traverse {p q : κ → ρ → Bool} {t t' : Table κ ρ} (h : t.traverse f = .ok t')
    (hpq : ∀ k r r', t.find? k = some r → f k r = .ok r' → p k r = q k r') :
    t'.count q = t.count p :=
  countP_traverseEntries (traverse_eq_ok.mp h) fun k r r' hm => hpq k r r' (mem_entries_iff.mp hm)

end Traverse

theorem count_congr {p q : κ → ρ → Bool} {t : Table κ ρ}
    (h : ∀ k r, t.find? k = some r → p k r = q k r) : t.count p = t.count q :=
  List.countP_congr fun e he => by rw [h e.1 e.2 (mem_entries_iff.mp he)]

end Table
