import RefundDesk.Domain.RefundProof
import RefundDesk.Library.BatchDrain
import RefundDesk.Retention.Agreement

namespace RefundDesk.Retention

open Transaction

def maximumBatchesPerRun : Nat := 20

def retentionBlockerReasons : List String := [
  "checkpoint_state", "correlation_state", "deadline_invalid", "execution_attempt",
  "financial_state", "installation_missing", "installation_state", "legal_hold", "webhook_state"
]

-- `TENANT_ID_PATTERN`
def isTenantId (id : String) : Bool :=
  isUuidText id.toList &&
    (id.toList[14]?.any fun c => '1' ≤ c && c ≤ '5') &&
    (id.toList[19]?.any fun c => c ∈ ['8', '9', 'a', 'b'])

-- The configuration of a run. `pseudonymDigest` is the digest of a tenant identifier under the key
-- of the pseudonyms.
structure RetentionConfig where
  batchSize       : Nat
  bounds          : 1 ≤ batchSize ∧ batchSize ≤ 100
  pseudonymDigest : String → Sha256Digest

def tenantPurgePseudonym (config : RetentionConfig) (tenantId : String) : String :=
  "v1." ++ Base64Url.encode (config.pseudonymDigest tenantId).val

-- What the server answers with besides the database: the outcome of the check of the principal,
-- whether the lock of the runs is free, and for each statement its time and the identifier that is
-- drawn for a certificate.
structure RetentionServer where
  authority     : Except StoreError Unit
  lockFree      : Bool
  clock         : Nat → Timestamp
  certificateId : Nat → String

structure RetentionReport where
  batches               : Nat := 0
  blockedByReason       : Table String Nat := .empty
  blockedAfterSelection : Nat := 0
  oldestOverdueSeconds  : Int := 0
  purged                : Nat := 0
  selected              : Nat := 0

-- A run. `skipped` names the tenants that the report only counts.
structure RetentionSession where
  database   : TenantDatabase
  statements : Nat := 0
  seen       : List String := []
  report     : RetentionReport := {}
  skipped    : List String := []

namespace RetentionSession

variable (session : RetentionSession)

def countBlocked (tenantId reason : String) : RetentionSession :=
  { session with
    report := { session.report with
      blockedAfterSelection := session.report.blockedAfterSelection + 1
      blockedByReason       := session.report.blockedByReason.insert reason
        ((session.report.blockedByReason.find? reason).getD 0 + 1)
    }
    skipped := tenantId :: session.skipped
  }

def see (candidate : DuePurge) : RetentionSession :=
  { session with
    seen   := candidate.tenantId :: session.seen
    report := { session.report with
      oldestOverdueSeconds := max session.report.oldestOverdueSeconds candidate.overdueSeconds
    }
  }

def IsInvalid (candidate : DuePurge) : Prop :=
  candidate.tenantId ∈ session.seen ∨ isTenantId candidate.tenantId = false ∨
    (∃ reason ∈ candidate.blockerReason, reason ∉ retentionBlockerReasons) ∨
    candidate.overdueSeconds < 0 ∨ 9007199254740991 < candidate.overdueSeconds

instance {candidate : DuePurge} : Decidable (session.IsInvalid candidate) :=
  inferInstanceAs (Decidable (_ ∨ _ ∨ _ ∨ _ ∨ _))

end RetentionSession

def databaseErrorCode : StoreError → Option String
  | .database sqlState _ => some sqlState
  | _                    => none

section Run

variable (server : RetentionServer) (config : RetentionConfig)

def listCandidates (limit : Nat) (session : RetentionSession) :
    Except StoreError (List DuePurge) × RetentionSession :=
  match (listDueTenantPurges (server.clock session.statements) limit).run session.database with
  | .error e            => (.error e, { session with statements := session.statements + 1 })
  | .ok (candidates, _) => (.ok candidates, { session with
      statements := session.statements + 1
      seen       := []
      report     := { session.report with
        batches  := session.report.batches + 1
        selected := session.report.selected + candidates.length
      }
    })

-- The purge of a candidate that the listing shows without a blocker.
def purgeCandidate (tenantId : String) (session : RetentionSession) :
    Except StoreError Bool × RetentionSession :=
  let next := { session with statements := session.statements + 1 }
  let pseudonym := tenantPurgePseudonym config tenantId
  match (purge (server.clock session.statements) (server.certificateId session.statements) tenantId
      pseudonym).run session.database with
  | .ok (certificates, database) =>
    let purged := { next with database }
    if certificates.map (·.result) ≠ ["completed"] then
      (.error (.error "RETENTION_PURGE_RESULT_INVALID"), purged)
    else
      (.ok true, { purged with
        report := { purged.report with purged := purged.report.purged + 1 } })
  | .error e =>
    if databaseErrorCode e = some "55000" then
      (.ok false, next.countBlocked tenantId "revalidation")
    else
      (.error e, next)

def handleCandidate (candidate : DuePurge) (session : RetentionSession) :
    Except StoreError Bool × RetentionSession :=
  if session.IsInvalid candidate then
    (.error (.error "RETENTION_PURGE_CANDIDATE_INVALID"), session)
  else
    let seen := session.see candidate
    match candidate.blockerReason with
    | some reason => (.ok false, seen.countBlocked candidate.tenantId reason)
    | none        => purgeCandidate server config candidate.tenantId seen

def retentionWorker : BatchDrain StoreError RetentionSession DuePurge where
  list   := listCandidates server
  handle := handleCandidate server config

def runRetentionPurge (database : TenantDatabase) :
    Except StoreError RetentionReport × RetentionSession :=
  let session : RetentionSession := { database }
  match server.authority with
  | .error e => (.error e, session)
  | .ok ()   =>
    if server.lockFree = false then (.error (.error "RETENTION_PURGE_ALREADY_RUNNING"), session)
    else
      match (retentionWorker server config).drain config.batchSize maximumBatchesPerRun session with
      | (.error e, after)  => (.error e, after)
      | (.ok false, after) => (.error (.error "RETENTION_PURGE_DRAIN_LIMIT_REACHED"), after)
      | (.ok true, after)  => (.ok after.report, after)

end Run

end RefundDesk.Retention
