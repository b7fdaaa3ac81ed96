import Mathlib.Data.List.Chain
import Mathlib.Order.Lattice

-- The items that a service lists in a fixed order, each under a key of its own.
structure Listing (α : Type) {κ : Type} (key : α → κ) where
  items    : List α
  distinct : (items.map key).Nodup

namespace Listing

variable {α κ : Type} [DecidableEq κ] {key : α → κ} {l : Listing α key}
variable {visited page rest : List α} {last : α} {cursor : Option κ} {hasMore : Bool}

-- The items after a cursor.
def after (l : Listing α key) : Option κ → List α
  | none   => l.items
  | some k => (l.items.dropWhile fun a => key a ≠ k).tail

-- A page has the next items after the cursor, and it tells whether there are more.
def IsPage (l : Listing α key) (cursor : Option κ) (page : List α) (hasMore : Bool) : Prop :=
  ∃ rest, l.after cursor = page ++ rest ∧ (hasMore = true ↔ rest ≠ [])

theorem IsPage.after_eq (h : l.IsPage cursor page hasMore) (hlast : hasMore = false) :
    l.after cursor = page := by
  obtain ⟨rest, hafter, hmore⟩ := h
  have hrest : rest = [] := by simpa [hlast] using hmore
  rw [hafter, hrest, List.append_nil]

theorem after_last (h : l.items = visited ++ last :: rest) : l.after (some (key last)) = rest := by
  have hkey : ∀ a ∈ visited, key a ≠ key last := by
    intro a ha heq
    have hnodup := l.distinct
    rw [h, List.map_append, List.nodup_append] at hnodup
    exact hnodup.2.2 (key a) (List.mem_map_of_mem ha) (key last) (by simp) heq
  simp only [after, h]
  rw [List.dropWhile_append_of_pos (by simpa using hkey)]
  simp

-- The last item of a page is a cursor after which the listing goes on.
theorem IsPage.next (h : l.IsPage cursor page hasMore) (hv : l.items = visited ++ l.after cursor)
    (hlast : page.getLast? = some last) :
    l.items = (visited ++ page) ++ l.after (some (key last)) := by
  obtain ⟨rest, hafter, -⟩ := h
  obtain ⟨page, rfl⟩ := List.getLast?_eq_some_iff.mp hlast
  rw [hafter] at hv
  have hitems : l.items = (visited ++ page) ++ last :: rest := by simp [hv]
  rw [after_last hitems]
  simp [hitems]

end Listing

section Split

variable {α : Type} {r : α → α → Prop} {l : List α} {q : α → Bool}

-- What comes first in an order comes first in a list that is ordered.
theorem filter_append_filter_of_pairwise (h : l.Pairwise r)
    (hq : ∀ a ∈ l, ∀ b ∈ l, q b = true → q a = false → ¬r a b) :
    l.filter q ++ l.filter (fun a => !q a) = l := by
  induction l with
  | nil         => rfl
  | cons a l ih =>
    have hsorted := List.pairwise_cons.mp h
    have hrest := ih hsorted.2 fun b hb c hc =>
      hq b (List.mem_cons_of_mem _ hb) c (List.mem_cons_of_mem _ hc)
    cases ha : q a with
    | true  => simpa [List.filter_cons, ha] using hrest
    | false =>
      have hnone : l.filter q = [] := by
        refine List.filter_eq_nil_iff.mpr fun b hb hb' => ?_
        exact hq a (List.mem_cons_self ..) b (List.mem_cons_of_mem _ hb) hb' ha (hsorted.1 b hb)
      rw [hnone, List.nil_append] at hrest
      simp [ha, hnone, hrest]

end Split

section Windows

variable {α β : Type} [LinearOrder β] {lo hi : α → β} {w : α} {ws : List α} {x : β}

-- Windows each of which begins at the latest where the one before it ends leave no gap.
theorem exists_window_of_isChain (hchain : (w :: ws).IsChain fun a b => lo b ≤ hi a)
    (hlo : lo w ≤ x) (hhi : x ≤ hi ((w :: ws).getLast (by simp))) :
    ∃ v ∈ w :: ws, lo v ≤ x ∧ x ≤ hi v := by
  induction ws generalizing w with
  | nil => exact ⟨w, by simp, hlo, hhi⟩
  | cons w' ws ih =>
    rw [List.isChain_cons_cons] at hchain
    rcases le_or_gt x (hi w) with hx | hx
    · exact ⟨w, by simp, hlo, hx⟩
    · obtain ⟨v, hv, hcovers⟩ := ih hchain.2 (hchain.1.trans hx.le) (by simpa using hhi)
      exact ⟨v, by simp [hv], hcovers⟩

end Windows
