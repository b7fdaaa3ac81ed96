import Mathlib.Data.List.Sort
import RefundDesk.Database.Refinement
import RefundDesk.Domain.ApprovalAttestation
import RefundDesk.Library.CellRate
import RefundDesk.Library.Transaction

namespace RefundDesk

open Transaction

inductive SignedRequestRateLimitClass
  | mutation
  | read
  deriving DecidableEq, Repr

structure SignedRequestRateLimitScope where
  accountId    : String
  environment  : StripeEnvironment
  requestClass : SignedRequestRateLimitClass
  deriving DecidableEq, Repr

-- The times of this module are those of the database, in microseconds.
structure SignedRequestRateLimitBucket where
  theoreticalArrivalAt : Timestamp
  lastSeenAt           : Timestamp
  deriving DecidableEq, Repr

-- The buckets by their scope keys.
abbrev SignedRequestRateLimitBuckets := Table String SignedRequestRateLimitBucket

structure SignedRequestRateLimitRow where
  allowed           : Bool
  retryAfterSeconds : Option Int
  deriving DecidableEq, Repr

-- `digest` of the database with `sha256`: 32 octets, given by their hexadecimal text.
structure Sha256 where
  digest : String → String
  octets : ∀ text, (digest text).length = 64

namespace SignedRequestRateLimitClass

def text : SignedRequestRateLimitClass → String
  | mutation => "mutation"
  | read     => "read"

def burstCapacity : SignedRequestRateLimitClass → Nat
  | mutation => 30
  | read     => 60

def tokenInterval : SignedRequestRateLimitClass → Timestamp
  | mutation => 2000000
  | read     => 1000000

end SignedRequestRateLimitClass

namespace SignedRequestRateLimitScope

def text (scope : SignedRequestRateLimitScope) : String :=
  scope.accountId ++ ":" ++ scope.environment.text ++ ":" ++ scope.requestClass.text

def isValid (scope : SignedRequestRateLimitScope) : Bool :=
  scope.accountId.length ≤ 255 ∧ isStripeAccountId scope.accountId ∧ scope.environment.isPilot

def key (sha256 : Sha256) (scope : SignedRequestRateLimitScope) : String :=
  sha256.digest scope.text

end SignedRequestRateLimitScope

-- The checks of the table.
def SignedRequestRateLimitBucket.check (bucket : SignedRequestRateLimitBucket) (scopeKey : String) :
    Except StoreError SignedRequestRateLimitBucket :=
  if scopeKey.length ≠ 64 then
    raise "23514" "signed_request_rate_limit_buckets_scope_key_check"
  else if bucket.theoreticalArrivalAt ≤ bucket.lastSeenAt then
    raise "23514" "signed_request_rate_limit_buckets_clock_check"
  else
    .ok bucket

namespace SignedRequestRateLimit

abbrev BucketTransaction := Transaction StoreError SignedRequestRateLimitBuckets

def putBucket (scopeKey : String) (bucket : SignedRequestRateLimitBucket) :
    BucketTransaction Unit := do
  let bucket ← fromExcept (bucket.check scopeKey)
  modify fun buckets => buckets.insert scopeKey bucket

-- What the cleanup treats as stale.
def isStale (observedAt : Timestamp) (bucket : SignedRequestRateLimitBucket) : Bool :=
  bucket.lastSeenAt ≤ observedAt - 600000000 ∧ bucket.theoreticalArrivalAt ≤ observedAt

-- The stale buckets that the cleanup deletes, those that have been seen first before the others.
-- Rows that another transaction has locked are skipped.
def staleBuckets (observedAt : Timestamp) (skipLocked : String → Bool)
    (buckets : SignedRequestRateLimitBuckets) : List String :=
  let stale := buckets.entries.filter fun e => isStale observedAt e.2 ∧ ¬skipLocked e.1
  ((stale.insertionSort fun left right => left.2.lastSeenAt ≤ right.2.lastSeenAt).take 256).map (·.1)

def deleteStaleBuckets (observedAt : Timestamp) (skipLocked : String → Bool)
    (buckets : SignedRequestRateLimitBuckets) : SignedRequestRateLimitBuckets :=
  let stale := staleBuckets observedAt skipLocked buckets
  buckets.filter fun scopeKey _ => scopeKey ∉ stale

-- The first use of a scope.
def createBucket (observedAt : Timestamp) (skipLocked : String → Bool) (tokenInterval : Timestamp)
    (scopeKey : String) : BucketTransaction SignedRequestRateLimitRow := do
  modify (deleteStaleBuckets observedAt skipLocked)
  require ((← get).entries.length < 256)
    (.database "54000" "signed request rate-limit scope capacity exceeded")
  putBucket scopeKey {
    theoreticalArrivalAt := observedAt + tokenInterval
    lastSeenAt           := observedAt
  }
  pure { allowed := true, retryAfterSeconds := none }

def updateBucket (observedAt : Timestamp) (burstCapacity : Nat) (tokenInterval : Timestamp)
    (scopeKey : String) (bucket : SignedRequestRateLimitBucket) :
    BucketTransaction SignedRequestRateLimitRow := do
  let effectiveNow := max observedAt bucket.lastSeenAt
  let eligibilityAt := bucket.theoreticalArrivalAt - (burstCapacity - 1 : Int) * tokenInterval
  if eligibilityAt ≤ effectiveNow then
    putBucket scopeKey {
      theoreticalArrivalAt := max bucket.theoreticalArrivalAt effectiveNow + tokenInterval
      lastSeenAt           := effectiveNow
    }
    pure { allowed := true, retryAfterSeconds := none }
  else
    putBucket scopeKey { bucket with lastSeenAt := effectiveNow }
    let retrySeconds := -(-(eligibilityAt - effectiveNow) / 1000000)
    require (1 ≤ retrySeconds ∧ retrySeconds ≤ 2147483647)
      (.database "22003" "invalid signed request rate-limit retry interval")
    pure { allowed := false, retryAfterSeconds := some retrySeconds }

-- `refunddesk_consume_signed_request_rate_limit`. The row that is read again under the lock of the
-- cardinality is the one that the serial execution reads at once.
def consume (sha256 : Sha256) (observedAt : Timestamp) (skipLocked : String → Bool)
    (scope : SignedRequestRateLimitScope) : BucketTransaction SignedRequestRateLimitRow := do
  require scope.isValid (.database "22023" "invalid signed request rate-limit scope")
  let scopeKey := scope.key sha256
  match (← get).find? scopeKey with
  | none        =>
    createBucket observedAt skipLocked scope.requestClass.tokenInterval scopeKey
  | some bucket =>
    updateBucket observedAt scope.requestClass.burstCapacity scope.requestClass.tokenInterval
      scopeKey bucket

inductive Decision
  | allowed
  | denied (retryAfterSeconds : Int)
  deriving DecidableEq, Repr

def assertScope (scope : SignedRequestRateLimitScope) : Except StoreError Unit :=
  if isStripeAccountId scope.accountId = false ∨ 255 < scope.accountId.length then
    .error (.typeError "Invalid signed request rate-limit account")
  else if scope.environment ≠ .sandbox ∧ scope.environment ≠ .test then
    .error (.typeError "Invalid signed request rate-limit environment")
  else
    .ok ()

def decisionOf (row : SignedRequestRateLimitRow) : Except StoreError Decision :=
  match row with
  | { allowed := true, retryAfterSeconds := none }          => .ok .allowed
  | { allowed := false, retryAfterSeconds := some seconds } =>
    if 0 < seconds ∧ seconds ≤ 9007199254740991 then .ok (.denied seconds)
    else .error (.error "Signed request rate limiter returned an invalid decision")
  | _ => .error (.error "Signed request rate limiter returned an invalid decision")


def consumeSignedRequestRateLimit (sha256 : Sha256) (observedAt : Timestamp)
    (skipLocked : String → Bool) (scope : SignedRequestRateLimitScope) :
    BucketTransaction Decision := do
  fromExcept (assertScope scope)
  let row ← consume sha256 observedAt skipLocked scope
  fromExcept (decisionOf row)

section Cells

-- The rate of a class, as the algorithm knows it.
def rate (requestClass : SignedRequestRateLimitClass) : CellRate Timestamp where
  burst        := requestClass.burstCapacity
  interval     := requestClass.tokenInterval
  burst_pos    := by cases requestClass <;> decide
  interval_pos := by cases requestClass <;> decide

def cellOf (bucket : SignedRequestRateLimitBucket) : Cell Timestamp where
  arrival := bucket.theoreticalArrivalAt
  seen    := bucket.lastSeenAt

def bucketOf (cell : Cell Timestamp) : SignedRequestRateLimitBucket where
  theoreticalArrivalAt := cell.arrival
  lastSeenAt           := cell.seen

@[simp]
theorem cellOf_bucketOf (cell : Cell Timestamp) : cellOf (bucketOf cell) = cell :=
  rfl

-- How long a call that is denied is short of its eligibility.
def wait (requestClass : SignedRequestRateLimitClass) (bucket : SignedRequestRateLimitBucket)
    (observedAt : Timestamp) : Int :=
  (rate requestClass).eligibility (cellOf bucket) - (cellOf bucket).clock observedAt

def invalidScope : StoreError :=
  .database "22023" "invalid signed request rate-limit scope"

def capacityExceeded : StoreError :=
  .database "54000" "signed request rate-limit scope capacity exceeded"

def retrySeconds (wait : Int) : Int :=
  -(-wait / 1000000)

theorem le_retrySeconds (wait : Int) : wait ≤ retrySeconds wait * 1000000 := by
  unfold retrySeconds
  omega

end Cells

section Specs

variable {sha256 : Sha256} {observedAt : Timestamp} {skipLocked : String → Bool}
variable {scope : SignedRequestRateLimitScope} {buckets buckets' : SignedRequestRateLimitBuckets}
variable {row : SignedRequestRateLimitRow} {bucket : SignedRequestRateLimitBucket}
variable {scopeKey : String} {e : StoreError}

theorem commits_putBucket {u : Unit} :
    (putBucket scopeKey bucket).Commits buckets u buckets' ↔
      scopeKey.length = 64 ∧ bucket.lastSeenAt < bucket.theoreticalArrivalAt ∧
      buckets' = buckets.insert scopeKey bucket := by
  simp only [putBucket, SignedRequestRateLimitBucket.check, commits_bind, commits_fromExcept,
    commits_modify, ite_raise_eq_ok, ne_eq, not_not, not_le, Except.ok.injEq]
  constructor
  · rintro ⟨_, _, ⟨⟨hlength, hclock, rfl⟩, rfl⟩, rfl⟩
    exact ⟨hlength, hclock, rfl⟩
  · rintro ⟨hlength, hclock, rfl⟩
    exact ⟨bucket, buckets, ⟨⟨hlength, hclock, rfl⟩, rfl⟩, rfl⟩

-- What a call does to the buckets: it makes the bucket of its scope, or it offers a cell to it.
inductive Consumed (sha256 : Sha256) (observedAt : Timestamp) (skipLocked : String → Bool)
    (scope : SignedRequestRateLimitScope) (buckets : SignedRequestRateLimitBuckets) :
    SignedRequestRateLimitRow → SignedRequestRateLimitBuckets → Prop
  | created :
    buckets.find? (scope.key sha256) = none →
    (deleteStaleBuckets observedAt skipLocked buckets).entries.length < 256 →
    Consumed sha256 observedAt skipLocked scope buckets ⟨true, none⟩
      ((deleteStaleBuckets observedAt skipLocked buckets).insert (scope.key sha256)
        (bucketOf ((rate scope.requestClass).first observedAt)))
  | admitted {bucket : SignedRequestRateLimitBucket} :
    buckets.find? (scope.key sha256) = some bucket →
    (rate scope.requestClass).eligibility (cellOf bucket) ≤ (cellOf bucket).clock observedAt →
    Consumed sha256 observedAt skipLocked scope buckets ⟨true, none⟩
      (buckets.insert (scope.key sha256)
        (bucketOf ((rate scope.requestClass).admitted (cellOf bucket) observedAt)))
  | denied {bucket : SignedRequestRateLimitBucket} :
    buckets.find? (scope.key sha256) = some bucket →
    ¬(rate scope.requestClass).eligibility (cellOf bucket) ≤ (cellOf bucket).clock observedAt →
    Consumed sha256 observedAt skipLocked scope buckets
      ⟨false, some (retrySeconds (wait scope.requestClass bucket observedAt))⟩
      (buckets.insert (scope.key sha256) (bucketOf (CellRate.denied (cellOf bucket) observedAt)))

theorem eligibility_eq (requestClass : SignedRequestRateLimitClass)
    (bucket : SignedRequestRateLimitBucket) :
    bucket.theoreticalArrivalAt -
        ((requestClass.burstCapacity : Int) - 1) * requestClass.tokenInterval =
      (rate requestClass).eligibility (cellOf bucket) := by
  cases requestClass <;>
    simp [CellRate.eligibility, rate, cellOf, SignedRequestRateLimitClass.burstCapacity,
      SignedRequestRateLimitClass.tokenInterval]

theorem interval_bounds (requestClass : SignedRequestRateLimitClass) :
    0 < requestClass.tokenInterval ∧ requestClass.tokenInterval ≤ 2000000 := by
  cases requestClass <;> decide

theorem retrySeconds_bounds {wait : Int} (hpos : 0 < wait) (hle : wait ≤ 2000000) :
    1 ≤ retrySeconds wait ∧ retrySeconds wait ≤ 2147483647 := by
  unfold retrySeconds
  omega

theorem commits_consume :
    (consume sha256 observedAt skipLocked scope).Commits buckets row buckets' ↔
      scope.isValid = true ∧
      (buckets.find? (scope.key sha256) = none ∧
          (createBucket observedAt skipLocked scope.requestClass.tokenInterval
            (scope.key sha256)).Commits buckets row buckets' ∨
        ∃ bucket, buckets.find? (scope.key sha256) = some bucket ∧
          (updateBucket observedAt scope.requestClass.burstCapacity
            scope.requestClass.tokenInterval (scope.key sha256) bucket).Commits
            buckets row buckets') := by
  simp only [consume, commits_bind, commits_require, commits_get, exists_const]
  constructor
  · rintro ⟨_, ⟨hvalid, rfl⟩, _, buckets, ⟨rfl, rfl⟩, h⟩
    refine ⟨hvalid, ?_⟩
    cases hfound : buckets.find? (scope.key sha256) <;> simp [hfound] at h ⊢ <;> exact h
  · rintro ⟨hvalid, h⟩
    refine ⟨buckets, ⟨hvalid, rfl⟩, buckets, buckets, ⟨rfl, rfl⟩, ?_⟩
    rcases h with ⟨hfound, h⟩ | ⟨bucket, hfound, h⟩ <;> simpa [hfound] using h

theorem commits_createBucket {tokenInterval : Timestamp} :
    (createBucket observedAt skipLocked tokenInterval scopeKey).Commits buckets row buckets' ↔
      (deleteStaleBuckets observedAt skipLocked buckets).entries.length < 256 ∧
      scopeKey.length = 64 ∧ observedAt < observedAt + tokenInterval ∧ row = ⟨true, none⟩ ∧
      buckets' = (deleteStaleBuckets observedAt skipLocked buckets).insert scopeKey
        ⟨observedAt + tokenInterval, observedAt⟩ := by
  simp only [createBucket, commits_bind, commits_modify, commits_get, commits_require,
    commits_pure, commits_putBucket]
  constructor
  · rintro ⟨_, _, rfl, _, _, ⟨rfl, rfl⟩, _, _, ⟨hcount, rfl⟩, _, _, ⟨hlength, hclock, rfl⟩, rfl, rfl⟩
    exact ⟨hcount, hlength, hclock, rfl, rfl⟩
  · rintro ⟨hcount, hlength, hclock, rfl, rfl⟩
    exact ⟨(), _, rfl, _, _, ⟨rfl, rfl⟩, (), _, ⟨hcount, rfl⟩, (), _, ⟨hlength, hclock, rfl⟩, rfl, rfl⟩

theorem commits_updateBucket {requestClass : SignedRequestRateLimitClass} :
    (updateBucket observedAt requestClass.burstCapacity requestClass.tokenInterval scopeKey
      bucket).Commits buckets row buckets' ↔
      scopeKey.length = 64 ∧
      ((rate requestClass).eligibility (cellOf bucket) ≤ (cellOf bucket).clock observedAt ∧
          ((rate requestClass).admitted (cellOf bucket) observedAt).seen <
            ((rate requestClass).admitted (cellOf bucket) observedAt).arrival ∧
          row = ⟨true, none⟩ ∧
          buckets' = buckets.insert scopeKey
            (bucketOf ((rate requestClass).admitted (cellOf bucket) observedAt)) ∨
        ¬(rate requestClass).eligibility (cellOf bucket) ≤ (cellOf bucket).clock observedAt ∧
          (cellOf bucket).clock observedAt < (cellOf bucket).arrival ∧
          (1 ≤ retrySeconds (wait requestClass bucket observedAt) ∧
            retrySeconds (wait requestClass bucket observedAt) ≤ 2147483647) ∧
          row = ⟨false, some (retrySeconds (wait requestClass bucket observedAt))⟩ ∧
          buckets' = buckets.insert scopeKey
            (bucketOf (CellRate.denied (cellOf bucket) observedAt))) := by
  simp only [updateBucket, eligibility_eq, commits_ite, commits_bind, commits_require,
    commits_pure, commits_putBucket]
  constructor
  · rintro (⟨heligible, _, _, ⟨hlength, hclock, rfl⟩, rfl, rfl⟩ |
      ⟨hwait, _, _, ⟨hlength, hclock, rfl⟩, _, _, ⟨hretry, rfl⟩, rfl, rfl⟩)
    · exact ⟨hlength, .inl ⟨heligible, hclock, rfl, rfl⟩⟩
    · exact ⟨hlength, .inr ⟨hwait, hclock, hretry, rfl, rfl⟩⟩
  · rintro ⟨hlength, ⟨heligible, hclock, rfl, rfl⟩ | ⟨hwait, hclock, hretry, rfl, rfl⟩⟩
    · exact .inl ⟨heligible, (), _, ⟨hlength, hclock, rfl⟩, rfl, rfl⟩
    · exact .inr ⟨hwait, (), _, ⟨hlength, hclock, rfl⟩, (), _, ⟨hretry, rfl⟩, rfl, rfl⟩

theorem consumed_of_commits
    (h : (consume sha256 observedAt skipLocked scope).Commits buckets row buckets') :
    Consumed sha256 observedAt skipLocked scope buckets row buckets' := by
  rcases (commits_consume.mp h).2 with ⟨hfound, h⟩ | ⟨bucket, hfound, h⟩
  · obtain ⟨hcount, -, -, rfl, rfl⟩ := commits_createBucket.mp h
    exact .created hfound hcount
  · rcases (commits_updateBucket.mp h).2 with ⟨heligible, -, rfl, rfl⟩ | ⟨hwait, -, -, rfl, rfl⟩
    · exact .admitted hfound heligible
    · exact .denied hfound hwait

-- The checks of the table and of the retry time stop no call.
theorem commits_of_consumed (hvalid : scope.isValid = true)
    (hsound : ∀ bucket, buckets.find? (scope.key sha256) = some bucket →
      (rate scope.requestClass).Sound (cellOf bucket))
    (h : Consumed sha256 observedAt skipLocked scope buckets row buckets') :
    (consume sha256 observedAt skipLocked scope).Commits buckets row buckets' := by
  have hlength : (scope.key sha256).length = 64 := sha256.octets _
  obtain ⟨hinterval, hinterval'⟩ := interval_bounds scope.requestClass
  refine commits_consume.mpr ⟨hvalid, ?_⟩
  cases h with
  | created hfound hcount =>
    refine .inl ⟨hfound, commits_createBucket.mpr ⟨hcount, hlength, ?_, rfl, rfl⟩⟩
    exact lt_add_of_pos_right _ hinterval
  | @admitted bucket hfound heligible =>
    refine .inr ⟨bucket, hfound, commits_updateBucket.mpr ⟨hlength, .inl ?_⟩⟩
    exact ⟨heligible, (CellRate.Sound.admitted heligible).ahead, rfl, rfl⟩
  | @denied bucket hfound hwait =>
    have hs := hsound bucket hfound
    refine .inr ⟨bucket, hfound, commits_updateBucket.mpr ⟨hlength, .inr ?_⟩⟩
    have hretry := retrySeconds_bounds (sub_pos.mpr (not_le.mp hwait))
      (hs.wait_le.trans hinterval')
    exact ⟨hwait, (hs.denied hwait).ahead, hretry, rfl, rfl⟩

-- A call on a bucket that is sound fails for its scope or for the capacity only.
theorem aborts_consume
    (hsound : ∀ bucket, buckets.find? (scope.key sha256) = some bucket →
      (rate scope.requestClass).Sound (cellOf bucket))
    (h : (consume sha256 observedAt skipLocked scope).Aborts buckets e) :
    (scope.isValid = false ∧ e = invalidScope) ∨
      (buckets.find? (scope.key sha256) = none ∧ e = capacityExceeded) := by
  by_cases hvalid : scope.isValid = true
  case neg =>
    simp only [consume, aborts_bind, aborts_require] at h
    rcases h with ⟨-, rfl⟩ | ⟨_, _, hc, -⟩
    · exact .inl ⟨by simpa using hvalid, rfl⟩
    · exact (hvalid (commits_require.mp hc).1).elim
  case pos =>
    have hnot {row : SignedRequestRateLimitRow} {buckets' : SignedRequestRateLimitBuckets}
        (hc : Consumed sha256 observedAt skipLocked scope buckets row buckets') : False :=
      not_aborts_of_commits (commits_of_consumed hvalid hsound hc) h
    cases hfound : buckets.find? (scope.key sha256) with
    | some bucket =>
      by_cases heligible :
          (rate scope.requestClass).eligibility (cellOf bucket) ≤ (cellOf bucket).clock observedAt
      · exact (hnot (.admitted hfound heligible)).elim
      · exact (hnot (.denied hfound heligible)).elim
    | none =>
      by_cases hcount : (deleteStaleBuckets observedAt skipLocked buckets).entries.length < 256
      · exact (hnot (.created hfound hcount)).elim
      · refine .inr ⟨rfl, ?_⟩
        simp only [consume, aborts_bind, aborts_require, commits_require, commits_get, hvalid,
          not_true_eq_false, false_and, true_and, not_aborts_get, false_or] at h
        obtain ⟨_, _, rfl, _, buckets, ⟨rfl, rfl⟩, h⟩ := h
        simp only [hfound, createBucket, aborts_bind, aborts_require, commits_modify, commits_get,
          commits_require, not_aborts_get, not_aborts_modify, false_or] at h
        obtain ⟨_, _, rfl, _, _, ⟨rfl, rfl⟩, ⟨-, rfl⟩ | ⟨_, _, ⟨hfree, -⟩, -⟩⟩ := h
        · rfl
        · exact (hcount hfree).elim

-- The client understands every row that a call returns.
theorem decisionOf_consumed
    (hsound : ∀ bucket, buckets.find? (scope.key sha256) = some bucket →
      (rate scope.requestClass).Sound (cellOf bucket))
    (h : Consumed sha256 observedAt skipLocked scope buckets row buckets') :
    decisionOf row = .ok .allowed ∨ ∃ seconds, 1 ≤ seconds ∧ decisionOf row = .ok (.denied seconds) := by
  cases h with
  | created => exact .inl rfl
  | admitted => exact .inl rfl
  | @denied bucket hfound hwait =>
    have hinterval := (interval_bounds scope.requestClass).2
    obtain ⟨hpos, hle⟩ := retrySeconds_bounds (sub_pos.mpr (not_le.mp hwait))
      ((hsound bucket hfound).wait_le.trans hinterval)
    refine .inr ⟨_, hpos, ?_⟩
    unfold decisionOf
    exact if_pos ⟨by unfold wait; omega, by unfold wait; omega⟩

end Specs

end SignedRequestRateLimit
end RefundDesk
