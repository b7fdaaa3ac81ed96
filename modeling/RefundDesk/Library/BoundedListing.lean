import Mathlib.Data.List.Sort
import Mathlib.Logic.Function.Iterate
import Mathlib.Order.Basic

-- Groups of items in a fixed order, of which a pass lists the first ones: of each group at most
-- `cap`, and of all groups as many as a limit admits. An item that is listed leaves its group or
-- stays in it, and it uses the limit up or does not.
structure BoundedListing (α : Type) where
  cap    : Nat
  leaves : α → Bool
  counts : α → Bool

namespace BoundedListing

variable {α : Type}

section Passes

variable (l : BoundedListing α)

def stays (item : α) : Bool := !l.leaves item

def listed (limit : Nat) (group : List α) : List α :=
  group.take (min limit l.cap)

def left (limit : Nat) (group : List α) : Nat :=
  limit - ((l.listed limit group).filter l.counts).length

def windows : Nat → List (List α) → List (List α)
  | _, []                  => []
  | limit, group :: groups => l.listed limit group :: windows (l.left limit group) groups

def remaining (limit : Nat) (group : List α) : List α :=
  (l.listed limit group).filter l.stays ++ group.drop (min limit l.cap)

def pass : Nat → List (List α) → List (List α)
  | _, []                  => []
  | limit, group :: groups => l.remaining limit group :: pass (l.left limit group) groups

-- The items that leave once they are listed
def leaving (groups : List (List α)) : List α :=
  groups.flatten.filter l.leaves

-- Before each item that leaves there are fewer that stay than are listed, also when of the groups
-- before it only those are left that stay.
def Reaches : Nat → List (List α) → Prop
  | _, []                  => True
  | limit, group :: groups =>
    (∀ before item after, group = before ++ item :: after → l.leaves item →
      (before.filter l.stays).length < min limit l.cap) ∧
    Reaches (l.left limit (group.filter l.stays)) groups

end Passes

variable {l : BoundedListing α} {limit limit' n : Nat} {group : List α} {groups : List (List α)}
  {item : α}

theorem filter_remaining : (l.remaining limit group).filter l.stays = group.filter l.stays := by
  have hsplit := congrArg (List.filter l.stays) (List.take_append_drop (min limit l.cap) group)
  rw [remaining, List.filter_append, List.filter_filter, ← hsplit, List.filter_append, listed]
  simp

-- What is left, told by the keys of the items
theorem remaining_eq_filter {κ : Type} [DecidableEq κ] {key : α → κ} (h : (group.map key).Nodup) :
    l.remaining limit group = group.filter fun item =>
      key item ∉ ((l.listed limit group).filter l.leaves).map key := by
  have hsplit : l.listed limit group ++ group.drop (min limit l.cap) = group :=
    List.take_append_drop ..
  generalize hkeys : ((l.listed limit group).filter l.leaves).map key = keys
  have hmem {item : α} : key item ∈ keys ↔
      ∃ other ∈ l.listed limit group, l.leaves other ∧ key other = key item := by
    simp only [← hkeys, List.mem_map, List.mem_filter, and_assoc]
  rw [← hsplit, List.map_append, List.nodup_append] at h
  obtain ⟨hlisted, -, hdisjoint⟩ := h
  rw [remaining]
  conv_rhs => rw [← hsplit]
  rw [List.filter_append]
  congr 1
  · refine List.filter_congr fun item hitem => ?_
    by_cases hleaves : l.leaves item
    · have hkey : key item ∈ keys := hmem.mpr ⟨item, hitem, hleaves, rfl⟩
      simp [stays, hleaves, hkey]
    · have hkey : key item ∉ keys := by
        intro hkey
        obtain ⟨other, hother, hleaves', heq⟩ := hmem.mp hkey
        obtain rfl := List.inj_on_of_nodup_map hlisted hother hitem heq
        exact hleaves hleaves'
      simp [stays, hleaves, hkey]
  · refine (List.filter_eq_self.mpr fun item hitem => ?_).symm
    rw [decide_eq_true_eq]
    intro hkey
    obtain ⟨other, hother, -, heq⟩ := hmem.mp hkey
    exact hdisjoint _ (List.mem_map_of_mem hother) _ (List.mem_map_of_mem hitem) heq

theorem leaving_remaining :
    (l.remaining limit group).filter l.leaves = (group.drop (min limit l.cap)).filter l.leaves := by
  have hnone : ((l.listed limit group).filter l.stays).filter l.leaves = [] := by
    refine List.filter_eq_nil_iff.mpr fun item hitem hleaves => ?_
    have hstays := (List.mem_filter.mp hitem).2
    simp [stays, hleaves] at hstays
  rw [remaining, List.filter_append, hnone, List.nil_append]

theorem mem_listed_or_remaining (limit : Nat) (h : item ∈ group) :
    item ∈ l.listed limit group ∨ item ∈ l.remaining limit group := by
  rw [← List.take_append_drop (min limit l.cap) group, List.mem_append] at h
  rcases h with h | h
  · exact .inl h
  · exact .inr (List.mem_append_right _ h)

-- An item is listed, or it is still there after the pass.
theorem mem_windows_or_pass (limit : Nat) (h : item ∈ groups.flatten) :
    item ∈ (l.windows limit groups).flatten ∨ item ∈ (l.pass limit groups).flatten := by
  induction groups generalizing limit with
  | nil               => cases h
  | cons group groups ih =>
    rw [windows, pass, List.flatten_cons, List.flatten_cons, List.mem_append, List.mem_append]
    rw [List.flatten_cons, List.mem_append] at h
    rcases h with h | h
    · rcases mem_listed_or_remaining limit h with h | h
      · exact .inl (.inl h)
      · exact .inr (.inl h)
    · rcases ih (l.left limit group) h with h | h
      · exact .inl (.inr h)
      · exact .inr (.inr h)

-- What is listed does not depend on what leaves.
theorem windows_congr {l' : BoundedListing α} (hcap : l.cap = l'.cap)
    (hcounts : l.counts = l'.counts) (limit : Nat) (groups : List (List α)) :
    l.windows limit groups = l'.windows limit groups := by
  induction groups generalizing limit with
  | nil               => rfl
  | cons group groups ih =>
    rw [windows, windows, listed, listed, left, left, listed, listed, hcap, hcounts, ih]

theorem mem_of_mem_windows (h : item ∈ (l.windows limit groups).flatten) :
    item ∈ groups.flatten := by
  induction groups generalizing limit with
  | nil               => exact h
  | cons group groups ih =>
    rw [windows, List.flatten_cons, List.mem_append] at h
    rw [List.flatten_cons, List.mem_append]
    exact h.imp List.mem_of_mem_take ih

theorem flatten_windows_zero : (l.windows 0 groups).flatten = [] := by
  induction groups with
  | nil               => rfl
  | cons group groups ih =>
    rw [windows, left, Nat.zero_sub, List.flatten_cons, ih, listed, Nat.zero_min, List.take_zero,
      List.append_nil]

theorem pass_zero : l.pass 0 groups = groups := by
  induction groups with
  | nil               => rfl
  | cons group groups ih =>
    rw [pass, left, Nat.zero_sub, ih, remaining, listed, Nat.zero_min, List.take_zero,
      List.drop_zero, List.filter_nil, List.nil_append]

-- What a pass takes away makes it no harder to reach the other items.
theorem reaches_pass (h : l.Reaches limit groups) : l.Reaches limit (l.pass limit' groups) := by
  induction groups generalizing limit limit' with
  | nil               => trivial
  | cons group groups ih =>
    rw [pass, Reaches, filter_remaining]
    refine ⟨?_, ih h.2⟩
    intro before item after heq hleaves
    have hsplit : ∃ between, before = (l.listed limit' group).filter l.stays ++ between ∧
        group.drop (min limit' l.cap) = between ++ item :: after := by
      rcases List.append_eq_append_iff.mp heq with ⟨between, hbefore, hdrop⟩ | ⟨between, hlisted, hitem⟩
      · exact ⟨between, hbefore, hdrop⟩
      · cases between with
        | nil                => exact ⟨[], by simpa using hlisted.symm, hitem.symm⟩
        | cons first between =>
          obtain ⟨rfl, -⟩ := List.cons.inj hitem
          have hmem : item ∈ (l.listed limit' group).filter l.stays := by
            rw [hlisted]
            exact List.mem_append_right _ (List.mem_cons_self ..)
          have hstays := (List.mem_filter.mp hmem).2
          simp [stays, hleaves] at hstays
    obtain ⟨between, hbefore, hdrop⟩ := hsplit
    have hgroup : group = (l.listed limit' group ++ between) ++ item :: after := by
      rw [List.append_assoc, ← hdrop, listed, List.take_append_drop]
    have hreached := h.1 _ item after hgroup hleaves
    rw [List.filter_append] at hreached
    rw [hbefore, List.filter_append, List.filter_filter]
    simpa using hreached

theorem leaving_cons :
    l.leaving (group :: groups) = group.filter l.leaves ++ l.leaving groups := by
  rw [leaving, List.flatten_cons, List.filter_append, leaving]

theorem length_leaving_remaining :
    ((l.listed limit group).filter l.leaves).length +
      ((l.remaining limit group).filter l.leaves).length = (group.filter l.leaves).length := by
  rw [leaving_remaining, listed, ← List.length_append, ← List.filter_append, List.take_append_drop]

theorem length_leaving_pass (limit : Nat) :
    (l.leaving (l.pass limit groups)).length ≤ (l.leaving groups).length := by
  induction groups generalizing limit with
  | nil               => exact Nat.le_refl _
  | cons group groups ih =>
    have hgroup : ((l.listed limit group).filter l.leaves).length + _ = _ :=
      length_leaving_remaining
    have hgroups := ih (l.left limit group)
    rw [pass, leaving_cons, leaving_cons, List.length_append, List.length_append]
    omega

theorem remaining_of_stays (h : group.filter l.leaves = []) :
    l.remaining limit group = group ∧ group.filter l.stays = group := by
  have hall : ∀ item ∈ group, l.stays item = true := by
    intro item hitem
    have hnot := List.filter_eq_nil_iff.mp h item hitem
    simpa [stays] using hnot
  have hlisted : (l.listed limit group).filter l.stays = l.listed limit group :=
    List.filter_eq_self.mpr fun item hitem => hall item (List.mem_of_mem_take hitem)
  refine ⟨?_, List.filter_eq_self.mpr hall⟩
  rw [remaining, hlisted, listed, List.take_append_drop]

-- As long as items are left that leave, a pass lists one of them.
theorem length_leaving_pass_lt (h : l.Reaches limit groups) (hsome : l.leaving groups ≠ []) :
    (l.leaving (l.pass limit groups)).length < (l.leaving groups).length := by
  induction groups generalizing limit with
  | nil               => exact absurd rfl hsome
  | cons group groups ih =>
    rw [pass, leaving_cons, leaving_cons, List.length_append, List.length_append]
    rw [leaving_cons] at hsome
    by_cases hnone : group.filter l.leaves = []
    · obtain ⟨hremaining, hstays⟩ : l.remaining limit group = group ∧ _ :=
        remaining_of_stays hnone
      rw [hnone, List.nil_append] at hsome
      rw [hremaining, hnone]
      have hrest := h.2
      rw [hstays] at hrest
      exact Nat.add_lt_add_left (ih hrest hsome) _
    · have hgroups : (l.leaving (l.pass (l.left limit group) groups)).length ≤ _ :=
        length_leaving_pass _
      have hgroup : ((l.listed limit group).filter l.leaves).length + _ = _ :=
        length_leaving_remaining
      have hlisted : 0 < ((l.listed limit group).filter l.leaves).length := by
        obtain ⟨first, hfirst⟩ := List.exists_mem_of_ne_nil _ hnone
        have hfind : (group.find? l.leaves).isSome :=
          List.find?_isSome.mpr ⟨first, (List.mem_filter.mp hfirst).1, (List.mem_filter.mp hfirst).2⟩
        obtain ⟨item, hitem⟩ := Option.isSome_iff_exists.mp hfind
        obtain ⟨hleaves, before, after, heq, hbefore⟩ := List.find?_eq_some_iff_append.mp hitem
        have hshort := h.1 before item after heq hleaves
        have hstay : before.filter l.stays = before :=
          List.filter_eq_self.mpr fun other hother => hbefore other hother
        rw [hstay] at hshort
        refine List.length_pos_of_mem (List.mem_filter.mpr ⟨?_, hleaves⟩)
        rw [listed, heq, List.take_append]
        refine List.mem_append_right _ ?_
        obtain ⟨n, hn⟩ := Nat.exists_eq_add_of_lt hshort
        rw [show min limit l.cap - before.length = n + 1 by omega, List.take_succ_cons]
        exact List.mem_cons_self ..
      omega

-- Every item that leaves is listed after at most as many passes as there are such items.
theorem listed_of_reaches (h : l.Reaches limit groups) (hitem : item ∈ l.leaving groups) :
    ∃ k < (l.leaving groups).length, item ∈ (l.windows limit ((l.pass limit)^[k] groups)).flatten := by
  induction hn : (l.leaving groups).length using Nat.strongRecOn generalizing groups with
  | _ n ih =>
    have hpos : 0 < n := by
      rw [← hn]
      exact List.length_pos_of_mem hitem
    have hmem := List.mem_filter.mp hitem
    rcases mem_windows_or_pass limit hmem.1 with hlisted | hleft
    · exact ⟨0, hpos, hlisted⟩
    · have hlt := length_leaving_pass_lt h (List.ne_nil_of_mem hitem)
      obtain ⟨k, hk, hlisted⟩ := ih (l.leaving (l.pass limit groups)).length (hn ▸ hlt)
        (reaches_pass h) (List.mem_filter.mpr ⟨hleft, hmem.2⟩) rfl
      refine ⟨k + 1, by omega, ?_⟩
      rwa [Function.iterate_succ_apply]

-- Behind so many items that stay as are listed an item is never listed.
theorem not_listed_of_stays {before after : List α} (hitem : item ∉ before)
    (hlong : min limit l.cap ≤ (before.filter l.stays).length) (k : Nat) :
    item ∉ (l.windows limit ((l.pass limit)^[k] [before ++ item :: after])).flatten := by
  induction k generalizing before with
  | zero =>
    have hle : min limit l.cap ≤ before.length :=
      Nat.le_trans hlong (List.length_filter_le ..)
    rw [Function.iterate_zero_apply, windows, windows, List.flatten_singleton, listed,
      List.take_append_of_le_length hle]
    exact fun hmem => hitem (List.mem_of_mem_take hmem)
  | succ k ih =>
    have hle : min limit l.cap ≤ before.length :=
      Nat.le_trans hlong (List.length_filter_le ..)
    have hpass : l.pass limit [before ++ item :: after] =
        [l.remaining limit before ++ item :: after] := by
      rw [pass, pass, remaining, remaining, listed, listed, List.take_append_of_le_length hle,
        List.drop_append_of_le_length hle, List.append_assoc]
    rw [Function.iterate_succ_apply, hpass]
    refine ih ?_ (by rwa [filter_remaining])
    intro hmem
    rcases List.mem_append.mp hmem with hmem | hmem
    · exact hitem (List.mem_of_mem_take (List.mem_filter.mp hmem).1)
    · exact hitem (List.mem_of_mem_drop hmem)

end BoundedListing

section Sorted

variable {α : Type} {r : α → α → Prop} [DecidableRel r] {p : α → Bool} {a : α} {l : List α}

theorem filter_orderedInsert [IsTrans α r] (h : l.Pairwise r) :
    (l.orderedInsert r a).filter p =
      if p a then (l.filter p).orderedInsert r a else l.filter p := by
  induction l with
  | nil         => cases hp : p a <;> simp [hp]
  | cons b l ih =>
    have hsorted := List.pairwise_cons.mp h
    by_cases hle : r a b
    · have hall : ∀ c ∈ (b :: l).filter p, r a c := by
        intro c hc
        rcases List.mem_cons.mp (List.mem_filter.mp hc).1 with rfl | hc
        · exact hle
        · exact IsTrans.trans _ _ _ hle (hsorted.1 c hc)
      rw [List.orderedInsert_cons_of_le _ _ hle, List.filter_cons]
      split_ifs with hp
      · cases hfilter : (b :: l).filter p with
        | nil         => rfl
        | cons c rest =>
          have hhead : r a c := hall c (by rw [hfilter]; exact List.mem_cons_self ..)
          rw [List.orderedInsert_cons_of_le _ _ hhead]
      · rfl
    · rw [List.orderedInsert_of_not_le _ _ hle, List.filter_cons, List.filter_cons, ih hsorted.2]
      cases hb : p b with
      | false => simp
      | true  =>
        cases hp : p a with
        | false => simp
        | true  => simp [List.orderedInsert_of_not_le _ _ hle]

-- A sort is stable under what is filtered out.
theorem filter_insertionSort [Std.Total r] [IsTrans α r] :
    (l.insertionSort r).filter p = (l.filter p).insertionSort r := by
  induction l with
  | nil         => rfl
  | cons a l ih =>
    rw [List.insertionSort_cons, filter_orderedInsert (List.pairwise_insertionSort ..), ih,
      List.filter_cons]
    split_ifs
    · rw [List.insertionSort_cons]
    · rfl

end Sorted
