import Mathlib.Order.Lattice
import Mathlib.Data.List.Induction

-- A register that keeps what the event of the greatest rank sets. Of two events of one rank the one
-- that is delivered first is recorded, and an event that is recorded sets its value again.
namespace LatestWins

structure Event (ι ρ : Type) where
  id   : ι
  rank : ρ
  deriving DecidableEq

structure Register (ι ρ σ : Type) where
  recorded : Option (Event ι ρ)
  value    : σ

variable {ι ρ σ : Type} [LinearOrder ρ]

namespace Register

def Supersedes (r : Register ι ρ σ) (e : Event ι ρ) : Prop :=
  ∀ recorded ∈ r.recorded, recorded.rank < e.rank ∨ recorded = e

variable {set : ρ → σ} {r : Register ι ρ σ} {e g : Event ι ρ} {es es' : List (Event ι ρ)}

theorem rank_le_of_not_supersedes (h : ¬r.Supersedes e) :
    ∃ recorded ∈ r.recorded, e.rank ≤ recorded.rank := by
  unfold Supersedes at h
  push Not at h
  obtain ⟨recorded, hrecorded, hle, -⟩ := h
  exact ⟨recorded, hrecorded, hle⟩

theorem rank_le_of_supersedes (h : r.Supersedes e) (hg : g ∈ r.recorded) : g.rank ≤ e.rank := by
  rcases h g hg with hlt | rfl
  · exact le_of_lt hlt
  · exact le_rfl

variable [DecidableEq ι]

instance (r : Register ι ρ σ) : DecidablePred r.Supersedes := fun e =>
  inferInstanceAs (Decidable (∀ recorded ∈ r.recorded, recorded.rank < e.rank ∨ recorded = e))

def deliver (set : ρ → σ) (r : Register ι ρ σ) (e : Event ι ρ) : Register ι ρ σ :=
  if r.Supersedes e then ⟨some e, set e.rank⟩ else r

theorem recorded_foldl (hg : g ∈ (es.foldl (deliver set) r).recorded) :
    g ∈ r.recorded ∨ g ∈ es := by
  induction es generalizing r with
  | nil => exact .inl hg
  | cons e es ih =>
    rcases ih hg with h | h
    · unfold deliver at h
      split at h
      · exact .inr (by simp [Option.some.inj h])
      · exact .inl h
    · exact .inr (List.mem_cons_of_mem _ h)

-- Events none of which supersedes what is recorded leave the register as it is.
theorem foldl_of_not_supersedes (h : ∀ e ∈ es, ¬r.Supersedes e) :
    es.foldl (deliver set) r = r := by
  induction es with
  | nil => rfl
  | cons e es ih =>
    rw [List.foldl_cons, deliver, if_neg (h e (List.mem_cons_self ..))]
    exact ih fun e' he' => h e' (List.mem_cons_of_mem e he')

-- One of the events that are delivered is recorded, and it has the greatest rank of them.
def SetByGreatest (set : ρ → σ) (es : List (Event ι ρ)) (r : Register ι ρ σ) : Prop :=
  ∃ g ∈ es, r.recorded = some g ∧ r.value = set g.rank ∧ ∀ e ∈ es, e.rank ≤ g.rank

theorem SetByGreatest.deliver (h : SetByGreatest set es r) (e : Event ι ρ) :
    SetByGreatest set (es ++ [e]) (r.deliver set e) := by
  obtain ⟨g, hg, hrecorded, hvalue, hmax⟩ := h
  unfold Register.deliver
  split
  case isTrue hsupersedes =>
    have hle : g.rank ≤ e.rank := rank_le_of_supersedes hsupersedes hrecorded
    refine ⟨e, by simp, rfl, rfl, fun e' he' => ?_⟩
    rcases List.mem_append.mp he' with he' | he'
    · exact le_trans (hmax e' he') hle
    · rw [List.mem_singleton.mp he']
  case isFalse hnot =>
    obtain ⟨recorded, hrecorded', hle⟩ := rank_le_of_not_supersedes hnot
    obtain rfl := Option.some.inj (hrecorded.symm.trans hrecorded')
    refine ⟨g, by simp [hg], hrecorded, hvalue, fun e' he' => ?_⟩
    rcases List.mem_append.mp he' with he' | he'
    · exact hmax e' he'
    · rw [List.mem_singleton.mp he']
      exact hle

theorem setByGreatest_of_supersedes (set : ρ → σ) (h : ∃ e ∈ es, r.Supersedes e) :
    SetByGreatest set es (es.foldl (deliver set) r) := by
  induction es using List.reverseRecOn with
  | nil => simp at h
  | append_singleton es e ih =>
    rw [List.foldl_append, List.foldl_cons, List.foldl_nil]
    by_cases hbefore : ∃ e ∈ es, r.Supersedes e
    · exact (ih hbefore).deliver e
    · push Not at hbefore
      rw [foldl_of_not_supersedes hbefore]
      obtain ⟨e', he', hsupersedes⟩ := h
      rcases List.mem_append.mp he' with he' | he'
      · exact absurd hsupersedes (hbefore e' he')
      obtain rfl := List.mem_singleton.mp he'
      rw [deliver, if_pos hsupersedes]
      refine ⟨e', by simp, rfl, rfl, fun a ha => ?_⟩
      rcases List.mem_append.mp ha with ha | ha
      · obtain ⟨recorded, hrecorded, hle⟩ := rank_le_of_not_supersedes (hbefore a ha)
        exact le_trans hle (rank_le_of_supersedes hsupersedes hrecorded)
      · rw [List.mem_singleton.mp ha]

-- The same events lead to the same value in any order and with any repetitions.
theorem foldl_converges (h : ∀ e, e ∈ es ↔ e ∈ es') :
    (es.foldl (deliver set) r).value = (es'.foldl (deliver set) r).value ∧
      (es.foldl (deliver set) r).recorded.map (·.rank) =
        (es'.foldl (deliver set) r).recorded.map (·.rank) := by
  by_cases hsupersedes : ∃ e ∈ es, r.Supersedes e
  · have hsupersedes' : ∃ e ∈ es', r.Supersedes e := by
      obtain ⟨e, he, hs⟩ := hsupersedes
      exact ⟨e, (h e).mp he, hs⟩
    obtain ⟨g, hg, hrecorded, hvalue, hmax⟩ := setByGreatest_of_supersedes set hsupersedes
    obtain ⟨g', hg', hrecorded', hvalue', hmax'⟩ :=
      setByGreatest_of_supersedes set hsupersedes'
    have hrank : g.rank = g'.rank :=
      le_antisymm (hmax' g ((h g).mp hg)) (hmax g' ((h g').mpr hg'))
    simp only [hvalue, hvalue', hrecorded, hrecorded', Option.map_some, hrank, and_self]
  · push Not at hsupersedes
    rw [foldl_of_not_supersedes hsupersedes,
      foldl_of_not_supersedes fun e he => hsupersedes e ((h e).mpr he)]
    exact ⟨rfl, rfl⟩

end Register
end LatestWins
