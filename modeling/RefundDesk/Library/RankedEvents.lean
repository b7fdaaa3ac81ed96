import Mathlib.Order.Lattice
import Mathlib.Data.List.Induction

-- States that events are delivered to: a state applies an event or ignores it. When what a state
-- has applied decides by a rank which events it still applies, the order and the repetitions of the
-- deliveries do not matter.
namespace RankedEvents

variable {ε ρ σ : Type} [LinearOrder ρ]

structure Delivery (ε ρ σ : Type) where
  rank    : ε → ρ
  applies : σ → ε → Bool
  apply   : σ → ε → σ

namespace Delivery

variable (d : Delivery ε ρ σ)

def deliver (s : σ) (e : ε) : σ :=
  if d.applies s e then d.apply s e else s

-- Once one of the events is applied to the state, the state applies exactly the events of a greater
-- rank, and forgets the one before.
structure Ranked (events : ε → Prop) (s : σ) : Prop where
  applies_iff : ∀ {g e}, events g → events e → d.applies s g →
    (d.applies (d.apply s g) e ↔ d.rank g < d.rank e)
  apply_apply : ∀ {g e}, events g → events e → d.applies s g → d.rank g < d.rank e →
    d.apply (d.apply s g) e = d.apply s e
  rank_le     : ∀ {g e}, events g → events e → d.applies s g → d.applies s e = false →
    d.rank e ≤ d.rank g

-- The state as an event of the greatest rank leaves it.
structure AppliedGreatest (es : List ε) (s : σ) (g : ε) : Prop where
  mem     : g ∈ es
  applies : d.applies s g
  rank_le : ∀ e ∈ es, d.rank e ≤ d.rank g

variable {d} {events : ε → Prop} {s : σ} {es es' : List ε} {e g : ε}

theorem Ranked.deliver_apply (h : d.Ranked events s) (hg : events g) (he : events e)
    (hag : d.AppliedGreatest es s g) :
    ∃ g', events g' ∧ d.AppliedGreatest (es ++ [e]) s g' ∧
      d.deliver (d.apply s g) e = d.apply s g' := by
  unfold deliver
  by_cases hlt : d.rank g < d.rank e
  · have hae : d.applies s e := by
      by_contra hn
      exact absurd hlt (not_lt.mpr (h.rank_le hg he hag.applies (Bool.not_eq_true _ ▸ hn)))
    rw [if_pos ((h.applies_iff hg he hag.applies).mpr hlt)]
    refine ⟨e, he, ⟨by simp, hae, fun e' he' => ?_⟩, h.apply_apply hg he hag.applies hlt⟩
    rcases List.mem_append.mp he' with he' | he'
    · exact le_trans (hag.rank_le e' he') (le_of_lt hlt)
    · rw [List.mem_singleton.mp he']
  · rw [if_neg (mt (h.applies_iff hg he hag.applies).mp hlt)]
    refine ⟨g, hg, ⟨by simp [hag.mem], hag.applies, fun e' he' => ?_⟩, rfl⟩
    rcases List.mem_append.mp he' with he' | he'
    · exact hag.rank_le e' he'
    · rw [List.mem_singleton.mp he']
      exact not_lt.mp hlt

theorem Ranked.foldl_deliver (h : d.Ranked events s) (hes : ∀ e ∈ es, events e) :
    (∀ e ∈ es, d.applies s e = false) ∧ es.foldl d.deliver s = s ∨
      ∃ g, events g ∧ d.AppliedGreatest es s g ∧ es.foldl d.deliver s = d.apply s g := by
  induction es using List.reverseRecOn with
  | nil => exact .inl ⟨by simp, rfl⟩
  | append_singleton es e ih =>
    have he : events e := hes e (by simp)
    rw [List.foldl_append, List.foldl_cons, List.foldl_nil]
    rcases ih fun e' he' => hes e' (by simp [he']) with ⟨hnone, hs⟩ | ⟨g, hg, hag, hs⟩
    · rw [hs]
      cases hae : d.applies s e with
      | false =>
        refine .inl ⟨fun e' he' => ?_, by rw [deliver, hae, if_neg Bool.false_ne_true]⟩
        rcases List.mem_append.mp he' with he' | he'
        · exact hnone e' he'
        · rw [List.mem_singleton.mp he', hae]
      | true =>
        refine .inr ⟨e, he, ⟨by simp, hae, fun e' he' => ?_⟩, by rw [deliver, hae, if_pos rfl]⟩
        rcases List.mem_append.mp he' with he' | he'
        · exact h.rank_le he (hes e' (by simp [he'])) hae (hnone e' he')
        · rw [List.mem_singleton.mp he']
    · rw [hs]
      exact .inr (h.deliver_apply hg he hag)

-- Deliveries of the same events lead to states that agree as far as the events of the greatest rank
-- do.
theorem Ranked.converges (h : d.Ranked events s) (hes : ∀ e ∈ es, events e)
    (hsame : ∀ e, e ∈ es ↔ e ∈ es')
    (hagree : ∀ g g', d.AppliedGreatest es s g → d.AppliedGreatest es s g' →
      d.apply s g = d.apply s g') :
    es.foldl d.deliver s = es'.foldl d.deliver s := by
  have hes' : ∀ e ∈ es', events e := fun e he => hes e ((hsame e).mpr he)
  rcases h.foldl_deliver hes with ⟨hnone, hs⟩ | ⟨g, -, hag, hs⟩ <;>
    rcases h.foldl_deliver hes' with ⟨hnone', hs'⟩ | ⟨g', -, hag', hs'⟩
  · rw [hs, hs']
  · have := hnone g' ((hsame g').mpr hag'.mem)
    simp [hag'.applies] at this
  · have := hnone' g ((hsame g).mp hag.mem)
    simp [hag.applies] at this
  · rw [hs, hs']
    exact hagree g g' hag ⟨(hsame g').mpr hag'.mem, hag'.applies,
      fun e he => hag'.rank_le e ((hsame e).mp he)⟩

end Delivery
end RankedEvents
