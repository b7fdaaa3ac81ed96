import Mathlib.Algebra.Order.Archimedean.Basic
import Mathlib.Algebra.Order.Group.Defs
import Mathlib.Algebra.Order.Group.MinMax

-- The generic cell rate algorithm: one cell an interval on average, and at most `burst` at once.
structure CellRate (τ : Type) [Zero τ] [LT τ] where
  burst        : Nat
  interval     : τ
  burst_pos    : 0 < burst
  interval_pos : 0 < interval

-- What is kept of the cells so far: the theoretical arrival time of the next one, and the latest
-- time that has been seen.
structure Cell (τ : Type) where
  arrival : τ
  seen    : τ

-- The effective clock, which never goes back.
def Cell.clock {τ : Type} [LinearOrder τ] (cell : Cell τ) (now : τ) : τ :=
  max now cell.seen

namespace CellRate

variable {τ : Type} [AddCommGroup τ] [LinearOrder τ]

section Definitions

variable (rate : CellRate τ) (cell : Cell τ) (now : τ)

-- From when on a cell conforms.
def eligibility : τ :=
  cell.arrival - (rate.burst - 1) • rate.interval

def admitted : Cell τ where
  arrival := max cell.arrival (cell.clock now) + rate.interval
  seen    := cell.clock now

def denied : Cell τ :=
  { cell with seen := cell.clock now }

def offer : Bool × Cell τ :=
  if rate.eligibility cell ≤ cell.clock now then (true, rate.admitted cell now)
  else (false, denied cell now)

-- The first cell conforms at any time.
def first : Cell τ where
  arrival := now + rate.interval
  seen    := now

-- What a run of offers leaves, with the effective time and the answer of each.
inductive Offers : List (τ × Bool) → Option (Cell τ) → Prop
  | none : Offers [] none
  | first (now : τ) : Offers [(now, true)] (some (rate.first now))
  | offered {offers : List (τ × Bool)} {cell : Cell τ} (now : τ) :
    Offers offers (some cell) →
    Offers (offers ++ [(cell.clock now, (rate.offer cell now).1)]) (some (rate.offer cell now).2)

end Definitions

section Counts

variable (start stop : τ) (offers : List (τ × Bool))

-- The admissions of a run from some time on.
def admissionsFrom : Nat :=
  offers.countP fun e => e.2 && start ≤ e.1

def admissionsWithin : Nat :=
  offers.countP fun e => e.2 && (start ≤ e.1 && e.1 ≤ stop)

end Counts

variable [IsOrderedAddMonoid τ] {rate : CellRate τ} {cell : Cell τ} {now now' start stop : τ}
variable {offers : List (τ × Bool)}

omit [AddCommGroup τ] [IsOrderedAddMonoid τ] in
theorem seen_le_clock : cell.seen ≤ cell.clock now :=
  le_max_right _ _

-- The kept times of a bucket that has admitted a cell.
structure Sound (rate : CellRate τ) (cell : Cell τ) : Prop where
  ahead   : cell.seen < cell.arrival
  bounded : cell.arrival ≤ cell.seen + rate.burst • rate.interval

omit [IsOrderedAddMonoid τ] in
theorem burst_nsmul (rate : CellRate τ) :
    rate.burst • rate.interval = (rate.burst - 1) • rate.interval + rate.interval := by
  rw [← succ_nsmul, Nat.sub_add_cancel rate.burst_pos]

theorem sound_first : rate.Sound (rate.first now) where
  ahead   := lt_add_of_pos_right _ rate.interval_pos
  bounded := by
    have hburst := nsmul_nonneg rate.interval_pos.le (rate.burst - 1)
    simp only [first, burst_nsmul]
    gcongr
    exact le_add_of_nonneg_left hburst

theorem Sound.admitted (h : rate.eligibility cell ≤ cell.clock now) :
    rate.Sound (rate.admitted cell now) where
  ahead   := by
    have hmax : cell.clock now ≤ max cell.arrival (cell.clock now) := le_max_right _ _
    exact hmax.trans_lt (lt_add_of_pos_right _ rate.interval_pos)
  bounded := by
    have harrival : cell.arrival ≤ cell.clock now + (rate.burst - 1) • rate.interval :=
      sub_le_iff_le_add.mp h
    have hnow : cell.clock now ≤ cell.clock now + (rate.burst - 1) • rate.interval :=
      le_add_of_nonneg_right (nsmul_nonneg rate.interval_pos.le _)
    simp only [CellRate.admitted, burst_nsmul, ← add_assoc]
    gcongr
    exact max_le harrival hnow

theorem clock_lt_arrival (h : ¬rate.eligibility cell ≤ cell.clock now) :
    cell.clock now < cell.arrival := by
  refine (not_le.mp h).trans_le (sub_le_self _ ?_)
  exact nsmul_nonneg rate.interval_pos.le _

theorem Sound.denied (hs : rate.Sound cell) (h : ¬rate.eligibility cell ≤ cell.clock now) :
    rate.Sound (denied cell now) where
  ahead   := clock_lt_arrival h
  bounded := by
    refine hs.bounded.trans ?_
    simp only [CellRate.denied]
    gcongr
    exact seen_le_clock

theorem Sound.offer (hs : rate.Sound cell) : rate.Sound (rate.offer cell now).2 := by
  unfold CellRate.offer
  split_ifs with h
  · exact .admitted h
  · exact hs.denied h

theorem Offers.sound (h : rate.Offers offers (some cell)) : rate.Sound cell := by
  generalize hc : some cell = kept at h
  induction h generalizing cell with
  | none => cases hc
  | first => exact Option.some.inj hc ▸ sound_first
  | offered _ _ ih => exact Option.some.inj hc ▸ (ih rfl).offer

-- How long a cell that is denied has to wait.
theorem Sound.wait_le (hs : rate.Sound cell) :
    rate.eligibility cell - cell.clock now ≤ rate.interval := by
  have hseen : cell.seen ≤ cell.clock now := seen_le_clock
  have harrival := hs.bounded.trans (add_le_add_left hseen _)
  rw [burst_nsmul, ← add_assoc] at harrival
  unfold eligibility
  rw [sub_le_iff_le_add, sub_le_iff_le_add, add_comm rate.interval, add_right_comm]
  exact harrival

omit [IsOrderedAddMonoid τ] in
-- A cell that was denied conforms when the effective clock has advanced by the wait.
theorem offer_after_wait
    (h : rate.eligibility cell - cell.clock now + cell.clock now ≤ (denied cell now).clock now') :
    (rate.offer (denied cell now) now').1 = true := by
  rw [sub_add_cancel] at h
  have heligible : rate.eligibility (denied cell now) ≤ (denied cell now).clock now' := h
  simp [offer, heligible]

-- A bucket whose next cell is due is as good as none.
theorem offer_idle (hs : cell.seen ≤ now) (ha : cell.arrival ≤ now) :
    rate.offer cell now = (true, rate.first now) := by
  have hclock : cell.clock now = now := max_eq_left hs
  have heligible : rate.eligibility cell ≤ now :=
    (sub_le_self _ (nsmul_nonneg rate.interval_pos.le _)).trans ha
  simp [offer, admitted, first, hclock, heligible, max_eq_right ha]

-- The theoretical arrival time is that many intervals ahead of the start.
theorem Offers.arrival_ge (h : rate.Offers offers (some cell))
    (hn : 0 < admissionsFrom start offers) :
    start + admissionsFrom start offers • rate.interval ≤ cell.arrival := by
  generalize hc : some cell = kept at h
  induction h generalizing cell with
  | none => cases hc
  | first now =>
    obtain rfl := Option.some.inj hc
    have hstart : start ≤ now := by
      by_contra hlt
      simp [admissionsFrom, hlt] at hn
    have hone : admissionsFrom start [(now, true)] = 1 := by simp [admissionsFrom, hstart]
    rw [hone, one_nsmul]
    exact add_le_add_left hstart _
  | @offered offers cell' now _ ih =>
    obtain rfl := Option.some.inj hc
    unfold offer at hn ⊢
    split_ifs at hn ⊢ with heligible
    case neg =>
      have hsame : admissionsFrom start (offers ++ [(cell'.clock now, false)]) =
          admissionsFrom start offers := by simp [admissionsFrom]
      rw [hsame] at hn ⊢
      simp only [denied]
      exact ih hn rfl
    case pos =>
      simp only [admitted]
      by_cases hstart : start ≤ cell'.clock now
      · have hnext : admissionsFrom start (offers ++ [(cell'.clock now, true)]) =
            admissionsFrom start offers + 1 := by simp [admissionsFrom, hstart]
        rw [hnext, succ_nsmul, ← add_assoc]
        gcongr
        rcases Nat.eq_zero_or_pos (admissionsFrom start offers) with hzero | hpos
        · simpa [hzero] using hstart.trans (le_max_right _ _)
        · exact (ih hpos rfl).trans (le_max_left _ _)
      · have hsame : admissionsFrom start (offers ++ [(cell'.clock now, true)]) =
            admissionsFrom start offers := by simp [admissionsFrom, hstart]
        rw [hsame] at hn ⊢
        refine (ih hn rfl).trans ((le_max_left _ (cell'.clock now)).trans ?_)
        exact le_add_of_nonneg_right rate.interval_pos.le

omit [AddCommGroup τ] [IsOrderedAddMonoid τ] in
theorem admissionsWithin_le : admissionsWithin start stop offers ≤ admissionsFrom start offers := by
  refine List.countP_mono_left fun e _ h => ?_
  simp only [Bool.and_eq_true, decide_eq_true_eq] at h ⊢
  exact ⟨h.1, h.2.1⟩

-- The admissions in any interval are the burst and one more for each interval of emission.
theorem Offers.admissions_le {kept : Option (Cell τ)} (h : rate.Offers offers kept)
    (hle : start ≤ stop) :
    start + admissionsWithin start stop offers • rate.interval ≤
      stop + rate.burst • rate.interval := by
  induction h with
  | none =>
    have hburst := nsmul_nonneg rate.interval_pos.le rate.burst
    simpa [admissionsWithin] using le_add_of_le_of_nonneg hle hburst
  | first now =>
    have hone : admissionsWithin start stop [(now, true)] ≤ 1 := List.countP_le_length
    calc start + admissionsWithin start stop [(now, true)] • rate.interval
        ≤ stop + admissionsWithin start stop [(now, true)] • rate.interval := by gcongr
      _ ≤ stop + rate.burst • rate.interval := by
        have hburst := hone.trans rate.burst_pos
        gcongr
        exact rate.interval_pos.le
  | @offered offers cell now hoffers ih =>
    by_cases hcounts : rate.eligibility cell ≤ cell.clock now ∧
        start ≤ cell.clock now ∧ cell.clock now ≤ stop
    case neg =>
      have hsame : admissionsWithin start stop
          (offers ++ [(cell.clock now, (rate.offer cell now).1)]) =
          admissionsWithin start stop offers := by
        unfold offer
        split_ifs with heligible
        · have hout : ¬(start ≤ cell.clock now ∧ cell.clock now ≤ stop) :=
            fun hin => hcounts ⟨heligible, hin⟩
          simpa [admissionsWithin] using hout
        · simp [admissionsWithin]
      rw [hsame]
      exact ih
    case pos =>
      obtain ⟨heligible, hstart, hstop⟩ := hcounts
      have hnext : admissionsWithin start stop
          (offers ++ [(cell.clock now, (rate.offer cell now).1)]) =
          admissionsWithin start stop offers + 1 := by
        simp [offer, heligible, admissionsWithin, hstart, hstop]
      rw [hnext, succ_nsmul, burst_nsmul, ← add_assoc, ← add_assoc]
      refine add_le_add ?_ le_rfl
      have hwithin : admissionsWithin start stop offers ≤ admissionsFrom start offers :=
        admissionsWithin_le
      rcases Nat.eq_zero_or_pos (admissionsFrom start offers) with hzero | hpos
      · have hnone : admissionsWithin start stop offers = 0 := Nat.le_zero.mp (hzero ▸ hwithin)
        rw [hnone, zero_nsmul, add_zero]
        exact hle.trans (le_add_of_nonneg_right (nsmul_nonneg rate.interval_pos.le _))
      · calc start + admissionsWithin start stop offers • rate.interval
            ≤ start + admissionsFrom start offers • rate.interval := by
              gcongr
              exact rate.interval_pos.le
          _ ≤ cell.arrival := hoffers.arrival_ge hpos
          _ ≤ cell.clock now + (rate.burst - 1) • rate.interval := sub_le_iff_le_add.mp heligible
          _ ≤ stop + (rate.burst - 1) • rate.interval := by gcongr

section Tracks

variable {clock clock' arrival arrival' : τ} {times : List τ}

def timesWithin (start stop : τ) (times : List τ) : Nat :=
  times.countP fun time => start ≤ time && time ≤ stop

-- A kept arrival time accounts for the admissions at the given times. It is that of the cells, some
-- of which may have been charged without an admission, or it has been forgotten after it was past.
structure Tracks (rate : CellRate τ) (clock arrival : τ) (times : List τ) : Prop where
  kept : ∃ offers kept, rate.Offers offers kept ∧
    (∀ start stop, timesWithin start stop times ≤ admissionsWithin start stop offers) ∧
    (kept = none → arrival ≤ clock) ∧
    ∀ cell, kept = some cell → cell.seen ≤ clock ∧
      (arrival = cell.arrival ∨ arrival ≤ clock ∧ cell.arrival ≤ clock)

omit [IsOrderedAddMonoid τ] in
theorem Tracks.initial (h : arrival ≤ clock) : rate.Tracks clock arrival [] where
  kept := ⟨[], none, .none, fun _ _ => Nat.zero_le _, fun _ => h, fun _ hc => nomatch hc⟩

omit [IsOrderedAddMonoid τ] in
theorem Tracks.later (h : rate.Tracks clock arrival times) (hle : clock ≤ clock') :
    rate.Tracks clock' arrival times where
  kept := by
    obtain ⟨offers, kept, hoffers, hcount, hnone, hsome⟩ := h.kept
    refine ⟨offers, kept, hoffers, hcount, fun hk => (hnone hk).trans hle, fun cell hk => ?_⟩
    obtain ⟨hseen, harrival⟩ := hsome cell hk
    refine ⟨hseen.trans hle, harrival.imp_right fun hpast => ?_⟩
    exact ⟨hpast.1.trans hle, hpast.2.trans hle⟩

omit [IsOrderedAddMonoid τ] in
-- A time that is past may be forgotten.
theorem Tracks.forget (h : rate.Tracks clock arrival times) (hpast : arrival ≤ clock)
    (hpast' : arrival' ≤ clock) : rate.Tracks clock arrival' times where
  kept := by
    obtain ⟨offers, kept, hoffers, hcount, _, hsome⟩ := h.kept
    refine ⟨offers, kept, hoffers, hcount, fun _ => hpast', fun cell hk => ?_⟩
    obtain ⟨hseen, harrival⟩ := hsome cell hk
    refine ⟨hseen, .inr ⟨hpast', ?_⟩⟩
    rcases harrival with rfl | hboth
    · exact hpast
    · exact hboth.2

omit [IsOrderedAddMonoid τ] in
theorem Offers.eq_nil (h : rate.Offers offers Option.none) : offers = [] := by
  cases h
  rfl

-- A conforming cell is charged.
theorem Tracks.charge (h : rate.Tracks clock arrival times) (hle : clock ≤ now)
    (hconforms : arrival - (rate.burst - 1) • rate.interval ≤ now) :
    rate.Tracks now (max arrival now + rate.interval) (times ++ [now]) where
  kept := by
    obtain ⟨offers, kept, hoffers, hcount, hnone, hsome⟩ := h.kept
    have hcount' (start stop : τ) : timesWithin start stop (times ++ [now]) ≤
        admissionsWithin start stop (offers ++ [(now, true)]) := by
      have hprevious := hcount start stop
      simp only [timesWithin, admissionsWithin, List.countP_append] at hprevious ⊢
      simpa [List.countP_cons] using hprevious
    cases kept with
    | none =>
      have harrival : max arrival now = now := max_eq_right ((hnone rfl).trans hle)
      rw [hoffers.eq_nil] at hcount'
      refine ⟨_, _, .first now, hcount', (nomatch ·), ?_⟩
      rintro cell hk
      obtain rfl := Option.some.inj hk
      exact ⟨le_rfl, .inl (by rw [harrival]; rfl)⟩
    | some cell =>
      obtain ⟨hseen, harrival⟩ := hsome cell rfl
      have hclock : cell.clock now = now := max_eq_left (hseen.trans hle)
      have hadmitted : rate.offer cell now = (true, rate.admitted cell now) := by
        have heligible : rate.eligibility cell ≤ cell.clock now := by
          rw [hclock]
          rcases harrival with rfl | ⟨_, hpast⟩
          · exact hconforms
          · exact (sub_le_self _ (nsmul_nonneg rate.interval_pos.le _)).trans (hpast.trans hle)
        rw [offer, if_pos heligible]
      have hoffered := hoffers.offered now
      rw [hadmitted, hclock] at hoffered
      refine ⟨_, _, hoffered, hcount', (nomatch ·), ?_⟩
      rintro cell' hk
      obtain rfl := Option.some.inj hk
      refine ⟨hclock.le, .inl ?_⟩
      simp only [admitted, hclock]
      rcases harrival with rfl | ⟨hpast, hpast'⟩
      · rfl
      · rw [max_eq_right (hpast.trans hle), max_eq_right (hpast'.trans hle)]

omit [IsOrderedAddMonoid τ] in
-- A charge may be without an admission.
theorem Tracks.waste (h : rate.Tracks clock arrival (times ++ [now])) :
    rate.Tracks clock arrival times where
  kept := by
    obtain ⟨offers, kept, hoffers, hcount, hkept⟩ := h.kept
    refine ⟨offers, kept, hoffers, fun start stop => le_trans ?_ (hcount start stop), hkept⟩
    simp only [timesWithin, List.countP_append]
    exact Nat.le_add_right _ _

theorem Tracks.admissions_le (h : rate.Tracks clock arrival times) (hle : start ≤ stop) :
    start + timesWithin start stop times • rate.interval ≤ stop + rate.burst • rate.interval := by
  obtain ⟨offers, kept, hoffers, hcount, -⟩ := h.kept
  calc start + timesWithin start stop times • rate.interval
      ≤ start + admissionsWithin start stop offers • rate.interval := by
        gcongr
        · exact rate.interval_pos.le
        · exact hcount start stop
    _ ≤ stop + rate.burst • rate.interval := hoffers.admissions_le hle

end Tracks

end CellRate
