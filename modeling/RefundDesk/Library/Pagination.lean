import Mathlib.Data.List.Sort

-- A listing that is loaded page by page while it changes. A snapshot is the keys that a load can
-- return, in their order. A cursor keeps the keys from itself on, whether it is still among them
-- or not, and the first key that is kept is skipped.
namespace Pagination

variable {κ : Type} [LinearOrder κ]

structure Load (κ : Type) where
  cursor   : Option κ
  selected : List κ

namespace Load

def kept (load : Load κ) : List κ :=
  load.selected.filter fun k => load.cursor.all (· ≤ k)

def rest (load : Load κ) : List κ :=
  if load.cursor.isSome then load.kept.tail else load.kept

def page (limit : Nat) (load : Load κ) : List κ :=
  load.rest.take limit

def next (limit : Nat) (load : Load κ) : Option κ :=
  if (load.page limit).length = limit then (load.page limit).getLast? else none

-- The key that is skipped in the place of a cursor that has left the listing.
def skipped (load : Load κ) : Option κ :=
  if load.cursor.any (· ∉ load.selected) then load.kept.head? else none

variable {limit : Nat} {load : Load κ} {x y c : κ}

theorem kept_pairwise (h : load.selected.Pairwise (· < ·)) : load.kept.Pairwise (· < ·) :=
  h.filter _

theorem mem_kept : x ∈ load.kept ↔ x ∈ load.selected ∧ ∀ c ∈ load.cursor, c ≤ x := by
  simp [kept, Option.all_eq_true]

theorem rest_pairwise (h : load.selected.Pairwise (· < ·)) : load.rest.Pairwise (· < ·) := by
  unfold rest
  split
  · exact (kept_pairwise h).tail
  · exact kept_pairwise h

theorem rest_sublist : load.rest.Sublist load.kept := by
  unfold rest
  split
  · exact List.tail_sublist _
  · exact List.Sublist.refl _

theorem mem_selected_of_mem_rest (hx : x ∈ load.rest) : x ∈ load.selected :=
  (mem_kept.mp (rest_sublist.subset hx)).1

theorem cursor_lt_of_mem_rest (h : load.selected.Pairwise (· < ·)) (hx : x ∈ load.rest)
    (hc : c ∈ load.cursor) : c < x := by
  have hkept := kept_pairwise h
  rw [rest, if_pos (Option.isSome_iff_exists.mpr ⟨c, hc⟩)] at hx
  cases hk : load.kept with
  | nil => simp [hk] at hx
  | cons k ks =>
    rw [hk, List.pairwise_cons] at hkept
    rw [hk] at hx
    have hck : c ≤ k := (mem_kept.mp (hk ▸ List.mem_cons_self ..)).2 c hc
    exact lt_of_le_of_lt hck (hkept.1 x hx)

-- A key behind the cursor is only missed if it is skipped.
theorem mem_rest_or_skipped (h : load.selected.Pairwise (· < ·)) (hx : x ∈ load.selected)
    (hcursor : ∀ c ∈ load.cursor, c < x) : x ∈ load.rest ∨ load.skipped = some x := by
  have hmem : x ∈ load.kept := mem_kept.mpr ⟨hx, fun c hc => le_of_lt (hcursor c hc)⟩
  cases hl : load.cursor with
  | none => exact .inl (by simpa [rest, hl] using hmem)
  | some c =>
    have hcx := hcursor c hl
    have hkept := kept_pairwise h
    cases hk : load.kept with
    | nil => simp [hk] at hmem
    | cons k ks =>
      rw [hk, List.pairwise_cons] at hkept
      rcases List.mem_cons.mp (hk ▸ hmem) with rfl | hks
      · right
        have hc : c ∉ load.selected := by
          intro hc
          have hc : c ∈ load.kept := mem_kept.mpr ⟨hc, by simp [hl]⟩
          rcases List.mem_cons.mp (hk ▸ hc) with rfl | hc
          · exact lt_irrefl c hcx
          · exact lt_asymm hcx (hkept.1 c hc)
        simp [skipped, hl, hc, hk]
      · left
        simpa [rest, hl, hk] using hks

theorem of_skipped (hx : load.skipped = some x) :
    ∃ c ks, load.cursor = some c ∧ c ∉ load.selected ∧ load.kept = x :: ks := by
  unfold skipped at hx
  split at hx
  case isTrue hleft =>
    obtain ⟨c, hc, hleft⟩ := (Option.any_eq_true ..).mp hleft
    obtain ⟨ks, hks⟩ := List.head?_eq_some_iff.mp hx
    exact ⟨c, ks, hc, of_decide_eq_true hleft, hks⟩
  case isFalse => simp at hx

theorem cursor_lt_skipped (hx : load.skipped = some x) : ∃ c ∈ load.cursor, c < x := by
  obtain ⟨c, ks, hc, hleft, hk⟩ := of_skipped hx
  obtain ⟨hselected, hle⟩ := mem_kept.mp (hk ▸ List.mem_cons_self .. : x ∈ load.kept)
  exact ⟨c, hc, lt_of_le_of_ne (hle c hc) fun heq => hleft (heq ▸ hselected)⟩

theorem skipped_lt (h : load.selected.Pairwise (· < ·)) (hx : load.skipped = some x)
    (hy : y ∈ load.rest) : x < y := by
  obtain ⟨c, ks, hc, -, hk⟩ := of_skipped hx
  have hkept := kept_pairwise h
  rw [hk, List.pairwise_cons] at hkept
  have hy : y ∈ ks := by simpa [rest, hc, hk] using hy
  exact hkept.1 y hy

theorem page_sublist : (load.page limit).Sublist load.rest :=
  List.take_sublist ..

theorem page_pairwise (h : load.selected.Pairwise (· < ·)) :
    (load.page limit).Pairwise (· < ·) :=
  (rest_pairwise h).sublist page_sublist

theorem of_next (hc : load.next limit = some c) :
    (load.page limit).length = limit ∧ ∃ before, load.page limit = before ++ [c] := by
  unfold next at hc
  split at hc
  case isTrue hfull => exact ⟨hfull, List.getLast?_eq_some_iff.mp hc⟩
  case isFalse => simp at hc

theorem le_next (h : load.selected.Pairwise (· < ·)) (hc : load.next limit = some c)
    (hx : x ∈ load.page limit) : x ≤ c := by
  obtain ⟨-, before, hpage⟩ := of_next hc
  have hsorted : (load.page limit).Pairwise (· < ·) := page_pairwise h
  rw [hpage, List.pairwise_append] at hsorted
  rw [hpage, List.mem_append, List.mem_singleton] at hx
  rcases hx with hx | rfl
  · exact le_of_lt (hsorted.2.2 x hx c (by simp))
  · exact le_rfl

-- What comes up to the next cursor is on the page, and everything is if there is no next cursor.
theorem mem_page (h : load.selected.Pairwise (· < ·)) (hlimit : 0 < limit) (hx : x ∈ load.rest)
    (hnext : ∀ c ∈ load.next limit, x ≤ c) : x ∈ load.page limit := by
  have hsplit : load.page limit ++ load.rest.drop limit = load.rest := List.take_append_drop ..
  rw [← hsplit, List.mem_append] at hx
  refine hx.resolve_right fun hx => ?_
  have hfull : (load.page limit).length = limit := by
    have hdrop : 0 < (load.rest.drop limit).length := List.length_pos_of_mem hx
    simp only [List.length_drop] at hdrop
    simp only [page, List.length_take]
    omega
  obtain ⟨c, hc⟩ : ∃ c, (load.page limit).getLast? = some c :=
    ⟨_, List.getLast?_eq_some_getLast (List.ne_nil_of_length_pos (by rw [hfull]; exact hlimit))⟩
  obtain ⟨before, hpage⟩ := List.getLast?_eq_some_iff.mp hc
  have hsorted := rest_pairwise h
  rw [← hsplit, List.pairwise_append] at hsorted
  have hlt : c < x := hsorted.2.2 c (by simp [hpage]) x hx
  have hle : x ≤ c := hnext c (by simp [next, hfull, hc])
  exact absurd hlt (not_lt_of_ge hle)

end Load

section FindMany

variable {α : Type} {rows : List α} {key : α → κ} {cursor : Option κ} {limit : Nat}

def sortedBy (key : α → κ) (rows : List α) : List α :=
  rows.insertionSort fun left right => key left ≤ key right

-- The rows of a query with a cursor, in the order of their keys.
def findMany (key : α → κ) (cursor : Option κ) (limit : Nat) (rows : List α) : List α :=
  let kept := (sortedBy key rows).filter fun row => cursor.all (· ≤ key row)
  (if cursor.isSome then kept.tail else kept).take limit

def loadOf (key : α → κ) (cursor : Option κ) (rows : List α) : Load κ where
  cursor   := cursor
  selected := (sortedBy key rows).map key

theorem map_findMany :
    (findMany key cursor limit rows).map key = (loadOf key cursor rows).page limit := by
  have hkept : ((sortedBy key rows).filter fun row => cursor.all (· ≤ key row)).map key =
      (loadOf key cursor rows).kept := by
    simp only [Load.kept, loadOf, List.filter_map]
    rfl
  have hcursor : (loadOf key cursor rows).cursor = cursor := rfl
  simp only [findMany, Load.page, Load.rest, hcursor, List.map_take]
  split
  · rw [List.map_tail, hkept]
  · rw [hkept]

theorem mem_of_mem_findMany {row : α} (h : row ∈ findMany key cursor limit rows) : row ∈ rows := by
  have hkept := List.mem_of_mem_take h
  have hsorted : row ∈ (sortedBy key rows).filter fun row => cursor.all (· ≤ key row) := by
    split at hkept
    · exact List.mem_of_mem_tail hkept
    · exact hkept
  exact (List.mem_insertionSort _).mp (List.mem_filter.mp hsorted).1

theorem mem_selected {k : κ} : k ∈ (loadOf key cursor rows).selected ↔ ∃ row ∈ rows, key row = k := by
  simp [loadOf, sortedBy]

theorem selected_pairwise (h : (rows.map key).Nodup) :
    (loadOf key cursor rows).selected.Pairwise (· < ·) := by
  have hsorted : (sortedBy key rows).Pairwise fun left right => key left ≤ key right :=
    List.pairwise_insertionSort _ rows
  have hnodup : ((sortedBy key rows).map key).Nodup :=
    ((List.perm_insertionSort _ rows).map key).nodup_iff.mpr h
  have hle : (loadOf key cursor rows).selected.Pairwise (· ≤ ·) := List.pairwise_map.mpr hsorted
  exact hle.imp₂ (fun _ _ hle hne => lt_of_le_of_ne hle hne) hnodup

end FindMany

-- The loads of a client that follows the cursors, the latest one first.
inductive Traversal (limit : Nat) : List (Load κ) → Prop
  | first {selected} : selected.Pairwise (· < ·) → Traversal limit [⟨none, selected⟩]
  | next {load loads c selected} : Traversal limit (load :: loads) → load.next limit = some c →
    selected.Pairwise (· < ·) → Traversal limit (⟨some c, selected⟩ :: load :: loads)

-- What the client has been given, in the order of the loads.
def returned (limit : Nat) (loads : List (Load κ)) : List κ :=
  loads.reverse.flatMap (·.page limit)

namespace Traversal

variable {limit : Nat} {load : Load κ} {loads : List (Load κ)} {x c : κ}

theorem selected_pairwise (h : Traversal limit loads) :
    ∀ load ∈ loads, load.selected.Pairwise (· < ·) := by
  induction h with
  | first hs          => simpa using hs
  | next _ _ hs ih    => exact List.forall_mem_cons.mpr ⟨hs, ih⟩

theorem returned_cons : returned limit (load :: loads) = returned limit loads ++ load.page limit := by
  simp [returned]

theorem mem_page_of_next (hc : load.next limit = some c) : c ∈ load.page limit := by
  obtain ⟨-, before, hpage⟩ := Load.of_next hc
  simp [hpage]

-- What has been returned comes up to the next cursor.
theorem returned_le (h : Traversal limit loads) :
    ∀ load ∈ loads.head?, ∀ c ∈ load.next limit, ∀ x ∈ returned limit loads, x ≤ c := by
  induction h with
  | @first selected hs =>
    intro load hload c hc x hx
    obtain rfl := Option.some.inj hload
    exact Load.le_next hs hc (by simpa [returned] using hx)
  | @next previous loads cursor selected h hnext hs ih =>
    intro load hload c hc x hx
    obtain rfl := Option.some.inj hload
    rw [returned_cons, List.mem_append] at hx
    rcases hx with hx | hx
    · have hle : x ≤ cursor := ih previous rfl cursor hnext x hx
      have hlt : cursor < c :=
        Load.cursor_lt_of_mem_rest hs (Load.page_sublist.subset (mem_page_of_next hc)) rfl
      exact le_of_lt (lt_of_le_of_lt hle hlt)
    · exact Load.le_next hs hc hx

theorem returned_pairwise (h : Traversal limit loads) :
    (returned limit loads).Pairwise (· < ·) := by
  induction h with
  | first hs => simpa [returned] using Load.page_pairwise hs
  | @next previous loads cursor selected h hnext hs ih =>
    rw [returned_cons, List.pairwise_append]
    refine ⟨ih, Load.page_pairwise hs, fun x hx y hy => ?_⟩
    have hle : x ≤ cursor := h.returned_le previous rfl cursor hnext x hx
    exact lt_of_le_of_lt hle
      (Load.cursor_lt_of_mem_rest hs (Load.page_sublist.subset hy) rfl)

-- A key that every load could return is returned, unless it comes after the next cursor or a load
-- has skipped it.
theorem mem_returned_or_skipped (h : Traversal limit loads) (hlimit : 0 < limit)
    (hx : ∀ load ∈ loads, x ∈ load.selected) :
    (∀ load ∈ loads.head?, ∀ c ∈ load.next limit, x ≤ c) →
      x ∈ returned limit loads ∨ ∃ load ∈ loads, load.skipped = some x := by
  induction h with
  | @first selected hs =>
    intro hnext
    have hselected : x ∈ selected := hx _ (List.mem_singleton_self _)
    have hrest : x ∈ (⟨none, selected⟩ : Load κ).rest := by
      simpa [Load.rest, Load.kept] using hselected
    exact .inl (by simpa [returned] using Load.mem_page hs hlimit hrest (hnext _ rfl))
  | @next previous loads cursor selected h hnext hs ih =>
    intro hle
    have hxs := List.forall_mem_cons.mp hx
    rw [returned_cons, List.mem_append]
    rcases le_or_gt x cursor with hx | hx
    · have hbefore := ih hxs.2 fun load hload c hc => by
        obtain rfl := Option.some.inj hload
        obtain rfl := Option.some.inj (hnext.symm.trans hc)
        exact hx
      rcases hbefore with hreturned | ⟨load, hload, hskipped⟩
      · exact .inl (.inl hreturned)
      · exact .inr ⟨load, List.mem_cons_of_mem _ hload, hskipped⟩
    · have hcursor : ∀ c ∈ some cursor, c < x := fun c hc => Option.some.inj hc ▸ hx
      rcases Load.mem_rest_or_skipped hs hxs.1 hcursor with hrest | hskipped
      · exact .inl (.inr (Load.mem_page hs hlimit hrest (hle _ rfl)))
      · exact .inr ⟨_, List.mem_cons_self .., hskipped⟩

theorem skipped_lt_next (h : Traversal limit loads) :
    ∀ skipping ∈ loads, ∀ x ∈ skipping.skipped, ∀ load ∈ loads.head?, ∀ c ∈ load.next limit,
      x < c := by
  induction h with
  | first hs => simp [Load.skipped]
  | @next previous loads cursor selected h hnext hs ih =>
    intro skipping hskipping x hx load hload c hc
    obtain rfl := Option.some.inj hload
    have hc := Load.page_sublist.subset (mem_page_of_next hc)
    rcases List.mem_cons.mp hskipping with rfl | hskipping
    · exact Load.skipped_lt hs hx hc
    · exact lt_trans (ih skipping hskipping x hx previous rfl cursor hnext)
        (Load.cursor_lt_of_mem_rest hs hc rfl)

-- A key that is skipped is not returned, neither before nor afterwards.
theorem skipped_not_mem_returned (h : Traversal limit loads) :
    ∀ load ∈ loads, ∀ x ∈ load.skipped, x ∉ returned limit loads := by
  induction h with
  | first hs => simp [Load.skipped]
  | @next previous loads cursor selected h hnext hs ih =>
    intro load hload x hx hreturned
    rw [returned_cons, List.mem_append] at hreturned
    rcases List.mem_cons.mp hload with rfl | hload
    · obtain ⟨c, hc, hlt⟩ := Load.cursor_lt_skipped hx
      obtain rfl := Option.some.inj hc
      rcases hreturned with hreturned | hpage
      · exact absurd hlt (not_lt_of_ge (h.returned_le previous rfl cursor hnext x hreturned))
      · exact lt_irrefl x (Load.skipped_lt hs hx (Load.page_sublist.subset hpage))
    · rcases hreturned with hreturned | hpage
      · exact ih load hload x hx hreturned
      · exact lt_asymm (h.skipped_lt_next load hload x hx previous rfl cursor hnext)
          (Load.cursor_lt_of_mem_rest hs (Load.page_sublist.subset hpage) rfl)

-- Every page but the last one is full.
theorem length_returned (h : Traversal limit loads) :
    ∀ load ∈ loads.head?, load.next limit ≠ none →
      (returned limit loads).length = loads.length * limit := by
  have hfull {load : Load κ} (hnext : load.next limit ≠ none) :
      (load.page limit).length = limit := by
    obtain ⟨c, hc⟩ := Option.ne_none_iff_exists'.mp hnext
    exact (Load.of_next hc).1
  induction h with
  | first hs =>
    intro load hload hnext
    obtain rfl := Option.some.inj hload
    simp [returned, hfull hnext]
  | @next previous loads cursor selected h hprevious hs ih =>
    intro load hload hnext
    obtain rfl := Option.some.inj hload
    have hbefore := ih previous rfl (by simp [hprevious])
    rw [returned_cons, List.length_append, hbefore, hfull hnext]
    exact (Nat.succ_mul _ _).symm

end Traversal
end Pagination
