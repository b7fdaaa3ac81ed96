import RefundDesk.Repositories.RateLimits

namespace RefundDesk
namespace SignedRequestRateLimit

open Transaction

-- A run of the calls on one bucket, each with the effective clock and the answer. Nothing else
-- changes the bucket, which is not evicted.
inductive BucketRun (sha256 : Sha256) (scope : SignedRequestRateLimitScope) :
    List (Timestamp × Bool) → SignedRequestRateLimitBuckets → Prop
  | start : BucketRun sha256 scope [] .empty
  | called {calls buckets buckets' row bucket observedAt skipLocked} :
    BucketRun sha256 scope calls buckets →
    (consume sha256 observedAt skipLocked scope).Commits buckets row buckets' →
    buckets'.find? (scope.key sha256) = some bucket →
    BucketRun sha256 scope (calls ++ [(bucket.lastSeenAt, row.allowed)]) buckets'
  | elsewhere {calls buckets buckets'} :
    BucketRun sha256 scope calls buckets →
    buckets'.find? (scope.key sha256) = buckets.find? (scope.key sha256) →
    BucketRun sha256 scope calls buckets'

section Bucket

variable {sha256 : Sha256} {scope : SignedRequestRateLimitScope} {calls : List (Timestamp × Bool)}
variable {buckets buckets' : SignedRequestRateLimitBuckets} {bucket : SignedRequestRateLimitBucket}
variable {row : SignedRequestRateLimitRow} {observedAt observedAt' : Timestamp}
variable {skipLocked skipLocked' : String → Bool}

-- The calls are offers to the cell of the bucket.
theorem BucketRun.offers (h : BucketRun sha256 scope calls buckets) :
    (rate scope.requestClass).Offers calls ((buckets.find? (scope.key sha256)).map cellOf) := by
  induction h with
  | start => exact .none
  | @called calls buckets buckets' row bucket observedAt skipLocked _ hc hbucket ih =>
    rw [hbucket]
    cases consumed_of_commits hc with
    | created hfound _ =>
      rw [hfound] at ih
      rw [Table.find?_insert_self] at hbucket
      obtain rfl := Option.some.inj hbucket
      cases ih
      exact .first observedAt
    | @admitted bucket₀ hfound heligible =>
      rw [hfound] at ih
      rw [Table.find?_insert_self] at hbucket
      obtain rfl := Option.some.inj hbucket
      have hoffered := ih.offered observedAt
      simp only [CellRate.offer, if_pos heligible] at hoffered
      exact hoffered
    | @denied bucket₀ hfound hwait =>
      rw [hfound] at ih
      rw [Table.find?_insert_self] at hbucket
      obtain rfl := Option.some.inj hbucket
      have hoffered := ih.offered observedAt
      simp only [CellRate.offer, if_neg hwait] at hoffered
      exact hoffered
  | elsewhere _ hsame ih => rw [hsame]; exact ih

theorem BucketRun.sound (h : BucketRun sha256 scope calls buckets)
    (hbucket : buckets.find? (scope.key sha256) = some bucket) :
    (rate scope.requestClass).Sound (cellOf bucket) := by
  have hoffers := h.offers
  rw [hbucket] at hoffers
  exact hoffers.sound

theorem BucketRun.admissions_le (h : BucketRun sha256 scope calls buckets)
    (start : Timestamp) {length : Int} (hlength : 0 ≤ length) :
    (CellRate.admissionsWithin start (start + length) calls : Int) ≤
      scope.requestClass.burstCapacity + length / scope.requestClass.tokenInterval := by
  have hstop : start ≤ start + length := le_add_of_nonneg_right hlength
  have hle := h.offers.admissions_le hstop
  have hinterval := (interval_bounds scope.requestClass).1
  rw [← sub_le_iff_le_add', Int.le_ediv_iff_mul_le hinterval]
  simp only [nsmul_eq_mul, rate] at hle
  linarith

-- What a call finds that waits as long as the one before it was told to.
theorem commits_after_wait (h : BucketRun sha256 scope calls buckets) {seconds : Int}
    (hdenied : (consume sha256 observedAt skipLocked scope).Commits buckets ⟨false, some seconds⟩
      buckets')
    (hbucket : buckets'.find? (scope.key sha256) = some bucket)
    (hwait : bucket.lastSeenAt + seconds * 1000000 ≤ observedAt')
    {later : SignedRequestRateLimitBuckets}
    (hlater : later.find? (scope.key sha256) = some bucket) :
    ∃ later', (consume sha256 observedAt' skipLocked' scope).Commits later ⟨true, none⟩ later' := by
  have hvalid := (commits_consume.mp hdenied).1
  have hsound : (rate scope.requestClass).Sound (cellOf bucket) :=
    (BucketRun.called h hdenied hbucket).sound hbucket
  cases consumed_of_commits hdenied with
  | @denied bucket₀ hfound hnot =>
    rw [Table.find?_insert_self] at hbucket
    obtain rfl := Option.some.inj hbucket
    have hretry := le_retrySeconds (wait scope.requestClass bucket₀ observedAt)
    have hconforms : (rate scope.requestClass).eligibility (CellRate.denied (cellOf bucket₀) observedAt) ≤
        (CellRate.denied (cellOf bucket₀) observedAt).clock observedAt' := by
      have heligible : (rate scope.requestClass).eligibility (cellOf bucket₀) =
          wait scope.requestClass bucket₀ observedAt + (cellOf bucket₀).clock observedAt := by
        simp [wait]
      refine le_trans ?_ (le_max_left _ _)
      refine le_trans ?_ hwait
      change (rate scope.requestClass).eligibility (cellOf bucket₀) ≤ _
      rw [heligible, add_comm]
      exact add_le_add_right hretry _
    exact ⟨_, commits_of_consumed hvalid (fun bucket' hb => by
      obtain rfl := Option.some.inj (hlater.symm.trans hb)
      exact hsound) (.admitted hlater hconforms)⟩

end Bucket

section Eviction

variable {sha256 : Sha256} {scope : SignedRequestRateLimitScope} {scopeKey : String}
variable {buckets buckets' evicted evicted' : SignedRequestRateLimitBuckets}
variable {found found' : Option SignedRequestRateLimitBucket} {row row' : SignedRequestRateLimitRow}
variable {observedAt observedAt' : Timestamp} {skipLocked skipLocked' : String → Bool}

-- The answer of a call to what it finds, and the bucket that it leaves.
def respond (requestClass : SignedRequestRateLimitClass) (observedAt : Timestamp) :
    Option SignedRequestRateLimitBucket → SignedRequestRateLimitRow × SignedRequestRateLimitBucket
  | none        => (⟨true, none⟩, bucketOf ((rate requestClass).first observedAt))
  | some bucket =>
    if (rate requestClass).eligibility (cellOf bucket) ≤ (cellOf bucket).clock observedAt then
      (⟨true, none⟩, bucketOf ((rate requestClass).admitted (cellOf bucket) observedAt))
    else
      (⟨false, some (retrySeconds (wait requestClass bucket observedAt))⟩,
        bucketOf (CellRate.denied (cellOf bucket) observedAt))

theorem lastSeenAt_respond {requestClass : SignedRequestRateLimitClass}
    {bucket : SignedRequestRateLimitBucket} :
    (respond requestClass observedAt (some bucket)).2.lastSeenAt =
      max observedAt bucket.lastSeenAt := by
  simp only [respond]
  split_ifs <;> rfl

-- Nothing, or a bucket that has neither been seen after the time nor is due after it.
def IsIdle (observedAt : Timestamp) (found : Option SignedRequestRateLimitBucket) : Prop :=
  ∀ bucket, found = some bucket →
    bucket.lastSeenAt ≤ observedAt ∧ bucket.theoreticalArrivalAt ≤ observedAt

theorem IsIdle.none : IsIdle observedAt none := by
  rintro bucket ⟨⟩

theorem IsIdle.mono (h : IsIdle observedAt found) (hle : observedAt ≤ observedAt') :
    IsIdle observedAt' found := by
  intro bucket hbucket
  obtain ⟨hseen, harrival⟩ := h bucket hbucket
  exact ⟨hseen.trans hle, harrival.trans hle⟩

theorem IsIdle.of_isStale {bucket : SignedRequestRateLimitBucket}
    (h : isStale observedAt bucket = true) : IsIdle observedAt (some bucket) := by
  rintro _ ⟨⟩
  simp only [isStale, decide_eq_true_eq] at h
  exact ⟨h.1.trans (Int.sub_le_self _ (by decide)), h.2⟩

theorem respond_idle {requestClass : SignedRequestRateLimitClass} (h : IsIdle observedAt found) :
    respond requestClass observedAt found = respond requestClass observedAt none := by
  cases found with
  | none        => rfl
  | some bucket =>
    obtain ⟨hseen, harrival⟩ := h bucket rfl
    have hoffer : (rate requestClass).offer (cellOf bucket) observedAt =
        (true, (rate requestClass).first observedAt) := CellRate.offer_idle hseen harrival
    unfold CellRate.offer at hoffer
    split_ifs at hoffer with heligible
    · have hcell := congrArg Prod.snd hoffer
      simp only [respond, if_pos heligible]
      exact congrArg (fun cell => (_, bucketOf cell)) hcell
    · cases congrArg Prod.fst hoffer

theorem mem_staleBuckets (hlength : buckets.entries.length ≤ 256) :
    scopeKey ∈ staleBuckets observedAt skipLocked buckets ↔ ∃ bucket,
      buckets.find? scopeKey = some bucket ∧ isStale observedAt bucket = true ∧
        skipLocked scopeKey = false := by
  have htake : ((buckets.entries.filter fun e =>
      isStale observedAt e.2 ∧ ¬skipLocked e.1).insertionSort
        fun left right => left.2.lastSeenAt ≤ right.2.lastSeenAt).length ≤ 256 := by
    rw [List.length_insertionSort]
    exact (List.length_filter_le _ _).trans hlength
  simp only [staleBuckets]
  rw [List.take_of_length_le htake]
  simp only [List.mem_map, List.mem_insertionSort, List.mem_filter, decide_eq_true_eq,
    Bool.not_eq_true]
  constructor
  · rintro ⟨e, ⟨he, hstale, hlocked⟩, rfl⟩
    exact ⟨e.2, Table.mem_entries_iff.mp he, hstale, hlocked⟩
  · rintro ⟨bucket, hfound, hstale, hlocked⟩
    exact ⟨(scopeKey, bucket), ⟨Table.mem_entries_iff.mpr hfound, hstale, hlocked⟩, rfl⟩

theorem find?_deleteStaleBuckets :
    (deleteStaleBuckets observedAt skipLocked buckets).find? scopeKey = buckets.find? scopeKey ∨
      (IsIdle observedAt (buckets.find? scopeKey) ∧
        (deleteStaleBuckets observedAt skipLocked buckets).find? scopeKey = none) := by
  simp only [deleteStaleBuckets, Table.find?_filter]
  cases hfound : buckets.find? scopeKey with
  | none        => exact .inl rfl
  | some bucket =>
    by_cases hmem : scopeKey ∈ staleBuckets observedAt skipLocked buckets
    case neg => exact .inl (by simp [hmem])
    case pos =>
      refine .inr ⟨?_, by simp [hmem]⟩
      obtain ⟨e, he, rfl⟩ := List.mem_map.mp hmem
      have he := (List.mem_insertionSort _).mp (List.mem_of_mem_take he)
      obtain ⟨hentry, hstale⟩ := List.mem_filter.mp he
      obtain rfl : e.2 = bucket := Option.some.inj ((Table.mem_entries_iff.mp hentry).symm.trans hfound)
      simp only [decide_eq_true_eq] at hstale
      exact .of_isStale hstale.1

-- A call answers to the bucket of its scope, and evicts idle buckets at most.
theorem Consumed.responds (h : Consumed sha256 observedAt skipLocked scope buckets row buckets') :
    (row, buckets'.find? (scope.key sha256)) =
        ((respond scope.requestClass observedAt (buckets.find? (scope.key sha256))).1,
          some (respond scope.requestClass observedAt (buckets.find? (scope.key sha256))).2) ∧
      ∀ scopeKey, scopeKey ≠ scope.key sha256 →
        buckets'.find? scopeKey = buckets.find? scopeKey ∨
          (IsIdle observedAt (buckets.find? scopeKey) ∧ buckets'.find? scopeKey = none) := by
  cases h with
  | created hfound _ =>
    refine ⟨by simp [hfound, respond], fun scopeKey hne => ?_⟩
    rw [Table.find?_insert_ne hne]
    exact find?_deleteStaleBuckets
  | admitted hfound heligible =>
    refine ⟨by simp [hfound, respond, heligible], fun scopeKey hne => ?_⟩
    exact .inl (Table.find?_insert_ne hne)
  | denied hfound hwait =>
    refine ⟨by simp [hfound, respond, hwait], fun scopeKey hne => ?_⟩
    exact .inl (Table.find?_insert_ne hne)

-- The tables have the same buckets, idle ones apart.
def Agree (observedAt : Timestamp) (buckets evicted : SignedRequestRateLimitBuckets) : Prop :=
  ∀ scopeKey, buckets.find? scopeKey = evicted.find? scopeKey ∨
    (IsIdle observedAt (buckets.find? scopeKey) ∧ IsIdle observedAt (evicted.find? scopeKey))

theorem Agree.evict {bucket : SignedRequestRateLimitBucket}
    (hbucket : buckets.find? scopeKey = some bucket) (hstale : isStale observedAt bucket = true) :
    Agree observedAt buckets (buckets.filter fun key _ => key ≠ scopeKey) := by
  intro key
  rw [Table.find?_filter]
  by_cases hkey : key = scopeKey
  · subst hkey
    refine .inr ⟨hbucket ▸ .of_isStale hstale, ?_⟩
    simp [hbucket, IsIdle.none]
  · refine .inl ?_
    cases buckets.find? key <;> simp [hkey, Option.filter]

theorem Agree.consumed (h : Agree observedAt buckets evicted) (hle : observedAt ≤ observedAt')
    (hc : Consumed sha256 observedAt' skipLocked scope buckets row buckets')
    (hc' : Consumed sha256 observedAt' skipLocked' scope evicted row' evicted') :
    row = row' ∧ Agree observedAt' buckets' evicted' := by
  obtain ⟨hown, hothers⟩ := hc.responds
  obtain ⟨hown', hothers'⟩ := hc'.responds
  have hsame : respond scope.requestClass observedAt' (buckets.find? (scope.key sha256)) =
      respond scope.requestClass observedAt' (evicted.find? (scope.key sha256)) := by
    rcases h (scope.key sha256) with heq | ⟨hidle, hidle'⟩
    · rw [heq]
    · rw [respond_idle (hidle.mono hle), respond_idle (hidle'.mono hle)]
  rw [← hsame] at hown'
  obtain ⟨rfl, hstored⟩ := Prod.mk.inj hown
  obtain ⟨rfl, hstored'⟩ := Prod.mk.inj hown'
  refine ⟨rfl, fun scopeKey => ?_⟩
  by_cases hkey : scopeKey = scope.key sha256
  · subst hkey
    exact .inl (hstored.trans hstored'.symm)
  · have hbefore : buckets.find? scopeKey = evicted.find? scopeKey ∨
        (IsIdle observedAt' (buckets.find? scopeKey) ∧
          IsIdle observedAt' (evicted.find? scopeKey)) :=
      (h scopeKey).imp_right fun hidle => ⟨hidle.1.mono hle, hidle.2.mono hle⟩
    rcases hothers scopeKey hkey with heq | ⟨hidle, hnone⟩ <;>
      rcases hothers' scopeKey hkey with heq' | ⟨hidle', hnone'⟩
    · rwa [heq, heq']
    · rw [heq, hnone']
      rcases hbefore with hb | ⟨hb, -⟩
      · exact .inr ⟨hb ▸ hidle', .none⟩
      · exact .inr ⟨hb, .none⟩
    · rw [hnone, heq']
      rcases hbefore with hb | ⟨-, hb⟩
      · exact .inr ⟨.none, hb ▸ hidle⟩
      · exact .inr ⟨.none, hb⟩
    · exact .inl (hnone.trans hnone'.symm)

-- The answers of a sequence of calls under a clock that does not go back.
inductive Answers (sha256 : Sha256) :
    Timestamp → List (SignedRequestRateLimitScope × Timestamp) → SignedRequestRateLimitBuckets →
    List SignedRequestRateLimitRow → Prop
  | done {clock buckets} : Answers sha256 clock [] buckets []
  | called {clock scope observedAt skipLocked calls buckets buckets' row rows} :
    clock ≤ observedAt →
    (consume sha256 observedAt skipLocked scope).Commits buckets row buckets' →
    Answers sha256 observedAt calls buckets' rows →
    Answers sha256 clock ((scope, observedAt) :: calls) buckets (row :: rows)

theorem Agree.answers {calls : List (SignedRequestRateLimitScope × Timestamp)}
    {rows rows' : List SignedRequestRateLimitRow} (h : Agree observedAt buckets evicted)
    (ha : Answers sha256 observedAt calls buckets rows)
    (ha' : Answers sha256 observedAt calls evicted rows') : rows = rows' := by
  induction ha generalizing evicted rows' with
  | done => cases ha'; rfl
  | called hle hc _ ih =>
    cases ha' with
    | called _ hc' ha' =>
      obtain ⟨rfl, hagree⟩ := h.consumed hle (consumed_of_commits hc) (consumed_of_commits hc')
      rw [ih hagree ha']

end Eviction

namespace Pilot

-- The digests of the two scopes below.
def sha256 : Sha256 where
  digest text :=
    if text = "acct_1:test:mutation" then
      "1fab405c4696297bdede80bbbc7bd5dfc8ec0e38534421ccb8cb283ff2632c5b"
    else
      "53112a3675b28afa337d80e229458ed3a5d333c03dc502b938561567169bf957"
  octets text := by split_ifs <;> decide +kernel

def limited : SignedRequestRateLimitScope :=
  ⟨"acct_1", .test, .mutation⟩

def unlimited : SignedRequestRateLimitScope :=
  ⟨"acct_2", .test, .mutation⟩

-- A call at the given time, when no row is locked.
def call (observedAt : Timestamp) (scope : SignedRequestRateLimitScope) :
    BucketTransaction SignedRequestRateLimitRow :=
  consume sha256 observedAt (fun _ => false) scope

-- The table with the bucket of `limited` alone.
def only (bucket : SignedRequestRateLimitBucket) : SignedRequestRateLimitBuckets :=
  .insert .empty (limited.key sha256) bucket

theorem only_find? (bucket : SignedRequestRateLimitBucket) :
    (only bucket).find? (limited.key sha256) = some bucket := by
  simp [only]

theorem call_only {bucket bucket' : SignedRequestRateLimitBucket} {observedAt : Timestamp}
    {row : SignedRequestRateLimitRow} (hsound : (rate .mutation).Sound (cellOf bucket))
    (h : respond .mutation observedAt (some bucket) = (row, bucket')) :
    (call observedAt limited).Commits (only bucket) row (only bucket') := by
  have hs : ∀ bucket', (only bucket).find? (limited.key sha256) = some bucket' →
      (rate limited.requestClass).Sound (cellOf bucket') := by
    intro bucket' hb
    obtain rfl := Option.some.inj ((only_find? bucket).symm.trans hb)
    exact hsound
  have honly : (only bucket).insert (limited.key sha256) bucket' = only bucket' := by
    simp [only]
  rw [← honly]
  simp only [respond] at h
  split_ifs at h with heligible
  · obtain ⟨rfl, rfl⟩ := Prod.mk.inj h
    exact commits_of_consumed (by decide) hs (.admitted (only_find? bucket) heligible)
  · obtain ⟨rfl, rfl⟩ := Prod.mk.inj h
    exact commits_of_consumed (by decide) hs (.denied (only_find? bucket) heligible)

theorem first_run : BucketRun sha256 limited [(0, true)] (only ⟨2000000, 0⟩) := by
  have hempty : deleteStaleBuckets 0 (fun _ => false) .empty = .empty := Table.ext rfl
  have hcreated : (call 0 limited).Commits .empty ⟨true, none⟩ (only ⟨2000000, 0⟩) := by
    have hconsumed : Consumed sha256 0 (fun _ => false) limited .empty ⟨true, none⟩
        ((deleteStaleBuckets 0 (fun _ => false) .empty).insert (limited.key sha256)
          ⟨2000000, 0⟩) := .created (Table.find?_empty _) (by rw [hempty]; decide)
    rw [hempty] at hconsumed
    exact commits_of_consumed (by decide) (by simp) hconsumed
  exact .called .start hcreated (only_find? _)

-- The bucket after that many calls more than one at the time zero.
theorem burst_run {n : Nat} (hn : n < 30) :
    ∃ calls, BucketRun sha256 limited calls (only ⟨2000000 * (n + 1), 0⟩) := by
  induction n with
  | zero =>
    simpa using ⟨_, first_run⟩
  | succ n ih =>
    obtain ⟨calls, hrun⟩ := ih (by omega)
    have hsound := hrun.sound (only_find? _)
    have heligible : (rate .mutation).eligibility (cellOf ⟨2000000 * (n + 1), 0⟩) ≤
        (cellOf ⟨2000000 * (n + 1), 0⟩).clock 0 := by
      rw [← eligibility_eq]
      have hle : 2000000 * ((n : Int) + 1) - ((30 : Nat) - 1) * 2000000 ≤ max 0 0 := by omega
      exact hle
    have hresponds : respond .mutation 0 (some ⟨2000000 * (n + 1), 0⟩) =
        (⟨true, none⟩, ⟨2000000 * ((n + 1 : Nat) + 1), 0⟩) := by
      simp only [respond, if_pos heligible]
      simp [bucketOf, CellRate.admitted, cellOf, Cell.clock, rate,
        SignedRequestRateLimitClass.tokenInterval]
      have hnext : max (2000000 * ((n : Int) + 1)) 0 + 2000000 = 2000000 * ((n : Int) + 1 + 1) := by
        omega
      exact hnext
    exact ⟨_, .called hrun (call_only hsound hresponds) (only_find? _)⟩

def usedKey (i : Nat) : String :=
  String.ofList (Nat.digitChar (i / 16) :: Nat.digitChar (i % 16) :: List.replicate 62 '0')

-- Buckets that have just been used.
def used : Nat → SignedRequestRateLimitBuckets
  | 0     => .empty
  | n + 1 => (used n).insert (usedKey n) ⟨3602000000, 3600000000⟩

theorem digitChar_inj {a b : Nat} (ha : a < 16) (hb : b < 16)
    (h : Nat.digitChar a = Nat.digitChar b) : a = b := by
  have hall : ∀ a < 16, ∀ b < 16, Nat.digitChar a = Nat.digitChar b → a = b := by decide
  exact hall a ha b hb h

theorem usedKey_inj {i j : Nat} (hi : i < 256) (hj : j < 256) (h : usedKey i = usedKey j) :
    i = j := by
  have hlist := congrArg String.toList h
  simp only [usedKey, String.toList_ofList, List.cons.injEq, and_true] at hlist
  have hquotient := digitChar_inj (by omega) (by omega) hlist.1
  have hremainder := digitChar_inj (by omega) (by omega) hlist.2
  omega

theorem used_find? {n : Nat} {scopeKey : String} {bucket : SignedRequestRateLimitBucket}
    (h : (used n).find? scopeKey = some bucket) :
    bucket = ⟨3602000000, 3600000000⟩ ∧ ∃ i < n, scopeKey = usedKey i := by
  induction n with
  | zero => cases h
  | succ n ih =>
    simp only [used, Table.find?_insert] at h
    split_ifs at h with hkey
    · exact ⟨(Option.some.inj h).symm, n, by omega, hkey⟩
    · obtain ⟨hbucket, i, hi, hkey⟩ := ih h
      exact ⟨hbucket, i, by omega, hkey⟩

theorem used_length {n : Nat} (hn : n ≤ 256) : (used n).entries.length = n := by
  induction n with
  | zero => rfl
  | succ n ih =>
    have habsent : (used n).find? (usedKey n) = none := by
      refine Option.eq_none_iff_forall_ne_some.mpr fun bucket h => ?_
      obtain ⟨-, i, hi, hkey⟩ := used_find? h
      have := usedKey_inj (by omega) (by omega) hkey
      omega
    rw [used, Table.length_insert _ habsent, ih (by omega)]

theorem used_absent {n : Nat} {scopeKey : String} (h : scopeKey.toList[2]? ≠ some '0') :
    (used n).find? scopeKey = none := by
  refine Option.eq_none_iff_forall_ne_some.mpr fun bucket hfound => ?_
  obtain ⟨-, i, -, rfl⟩ := used_find? hfound
  exact h (by simp [usedKey])

-- The bucket of `limited` has been idle for an hour, and 255 others have just been used.
def crowded (n : Nat) : SignedRequestRateLimitBuckets :=
  (used n).insert (limited.key sha256) ⟨2000000, 0⟩

-- The buckets after a call of `unlimited`, which has evicted the one of `limited`.
def evicted (n : Nat) : SignedRequestRateLimitBuckets :=
  (used n).insert (unlimited.key sha256) ⟨3602000000, 3600000000⟩

variable {n : Nat}

theorem absent_limited : (used n).find? (limited.key sha256) = none :=
  used_absent (by decide +kernel)

theorem absent_unlimited : (used n).find? (unlimited.key sha256) = none :=
  used_absent (by decide +kernel)

theorem crowded_length (hn : n ≤ 255) : (crowded n).entries.length = n + 1 := by
  rw [crowded, Table.length_insert _ absent_limited, used_length (by omega)]

theorem evicted_length (hn : n ≤ 255) : (evicted n).entries.length = n + 1 := by
  rw [evicted, Table.length_insert _ absent_unlimited, used_length (by omega)]

-- The cleanup evicts the idle bucket.
theorem crowded_evicted (hn : n ≤ 255) :
    deleteStaleBuckets 3600000000 (fun _ => false) (crowded n) = used n := by
  have hlength : (crowded n).entries.length ≤ 256 := by
    rw [crowded_length hn]
    omega
  refine Table.find?_inj fun scopeKey => ?_
  simp only [deleteStaleBuckets, Table.find?_filter]
  by_cases hkey : scopeKey = limited.key sha256
  · have hstale : scopeKey ∈ staleBuckets 3600000000 (fun _ => false) (crowded n) := by
      refine (mem_staleBuckets hlength).mpr ⟨⟨2000000, 0⟩, ?_, by decide, rfl⟩
      rw [hkey, crowded, Table.find?_insert_self]
    rw [hkey] at hstale ⊢
    rw [crowded] at hstale ⊢
    simp [absent_limited, hstale, Option.filter]
  · rw [crowded, Table.find?_insert_ne hkey]
    cases hfound : (used n).find? scopeKey with
    | none => rfl
    | some bucket =>
      have hused := (used_find? hfound).1
      have hkept : scopeKey ∉ staleBuckets 3600000000 (fun _ => false) (crowded n) := by
        intro hstale
        obtain ⟨bucket', hfound', hstale, -⟩ := (mem_staleBuckets hlength).mp hstale
        rw [crowded, Table.find?_insert_ne hkey, hfound, hused] at hfound'
        obtain rfl := Option.some.inj hfound'
        exact absurd hstale (by decide)
      rw [crowded] at hkept
      simp [Option.filter, hkept]

theorem crowded_admits : (call 3600000000 limited).Commits (crowded n) ⟨true, none⟩
    ((crowded n).insert (limited.key sha256) ⟨3602000000, 3600000000⟩) := by
  have hfound : (crowded n).find? (limited.key sha256) = some ⟨2000000, 0⟩ := by simp [crowded]
  refine commits_of_consumed (by decide) (fun bucket hb => ?_)
    (.admitted hfound (by decide))
  obtain rfl := Option.some.inj (hfound.symm.trans hb)
  exact ⟨by decide, by decide⟩

theorem crowded_evicts (hn : n ≤ 255) :
    (call 3600000000 unlimited).Commits (crowded n) ⟨true, none⟩ (evicted n) := by
  have hne : unlimited.key sha256 ≠ limited.key sha256 := by decide +kernel
  have habsent : (crowded n).find? (unlimited.key sha256) = none := by
    rw [crowded, Table.find?_insert_ne hne, absent_unlimited]
  have hcreated : Consumed sha256 3600000000 (fun _ => false) unlimited (crowded n) ⟨true, none⟩
      ((deleteStaleBuckets 3600000000 (fun _ => false) (crowded n)).insert (unlimited.key sha256)
        (bucketOf ((rate unlimited.requestClass).first 3600000000))) := by
    refine .created habsent ?_
    rw [crowded_evicted hn, used_length (by omega)]
    omega
  rw [crowded_evicted hn] at hcreated
  refine commits_of_consumed (by decide) (fun bucket hb => ?_) hcreated
  simp [habsent] at hb

theorem evicted_kept : deleteStaleBuckets 3600000000 (fun _ => false) (evicted n) = evicted n := by
  refine Table.find?_inj fun scopeKey => ?_
  have hdeleted : (deleteStaleBuckets 3600000000 (fun _ => false) (evicted n)).find? scopeKey =
      (evicted n).find? scopeKey ∨ _ := find?_deleteStaleBuckets
  rcases hdeleted with heq | ⟨hidle, -⟩
  · exact heq
  · cases hfound : (evicted n).find? scopeKey with
    | none => simp [deleteStaleBuckets, Table.find?_filter, hfound]
    | some bucket =>
      have hused : bucket = ⟨3602000000, 3600000000⟩ := by
        simp only [evicted, Table.find?_insert] at hfound
        split_ifs at hfound
        · exact (Option.some.inj hfound).symm
        · exact (used_find? hfound).1
      have harrival := (hidle bucket hfound).2
      rw [hused] at harrival
      exact absurd harrival (by decide)

theorem crowded_refuses :
    (call 3600000000 limited).Aborts (evicted 255) capacityExceeded := by
  have hne : limited.key sha256 ≠ unlimited.key sha256 := by decide +kernel
  have habsent : (evicted 255).find? (limited.key sha256) = none := by
    rw [evicted, Table.find?_insert_ne hne, absent_limited]
  rcases commits_or_aborts (call 3600000000 limited) (evicted 255) with ⟨row, buckets', hc⟩ | ⟨e, ha⟩
  · cases consumed_of_commits hc with
    | created _ hcount =>
      rw [evicted_kept, evicted_length le_rfl] at hcount
      exact absurd hcount (by decide)
    | admitted hfound _ => simp [habsent] at hfound
    | denied hfound _ => simp [habsent] at hfound
  · rcases aborts_consume (fun bucket hb => by simp [habsent] at hb) ha with ⟨hinvalid, -⟩ | ⟨-, rfl⟩
    · exact absurd hinvalid (by decide)
    · exact ha

end Pilot

end SignedRequestRateLimit
end RefundDesk
