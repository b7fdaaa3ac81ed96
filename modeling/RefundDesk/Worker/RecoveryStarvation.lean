import RefundDesk.Worker.RecoveryPasses

namespace RefundDesk

open TenantRepository WorkerStore

-- Neither of the two listings starves what its handler can process if what stays on the list leaves
-- it room: each receipt comes after fewer than a whole listing of receipts that are refused, and
-- each request after fewer that stay than its tenant lists and than the tenants before it leave.
theorem recovery_not_starved {tenants : TenantStores} {processesReceipt : String × String → Bool}
    {processesRequest : ExecuteRefundJob → Bool}
    (hreceipts : WebhooksReached processesReceipt tenants)
    (hrequests : (executionListing processesRequest).Reaches recoveryBatchSize
      tenants.recoveryGroups) :
    WebhooksNotStarved processesReceipt tenants ∧ ExecutionsNotStarved processesRequest tenants :=
  ⟨webhooksNotStarved_of_reached hreceipts, executionsNotStarved_of_reaches hrequests⟩

namespace Pilot

def decimalDigit (n : Nat) : Char :=
  Char.ofNat (48 + n % 10)

def threeDigits (n : Nat) : List Char :=
  [decimalDigit (n / 100), decimalDigit (n / 10), decimalDigit n]

def receiptId (n : Nat) : String :=
  String.ofList ("00000000-0000-4000-8000-000000000".toList ++ threeDigits n)

theorem decimalDigit_lt {m n : Nat} : m % 10 < n % 10 → decimalDigit m < decimalDigit n := by
  have hall : ∀ i < 10, ∀ j < 10, i < j → Char.ofNat (48 + i) < Char.ofNat (48 + j) := by decide
  exact hall _ (Nat.mod_lt _ (by decide)) _ (Nat.mod_lt _ (by decide))

theorem decimalDigit_congr {m n : Nat} (h : m % 10 = n % 10) : decimalDigit m = decimalDigit n := by
  rw [decimalDigit, decimalDigit, h]

theorem threeDigits_lt {m n : Nat} (h : m < n) (hn : n < 1000) : threeDigits m < threeDigits n := by
  have hhundreds : m / 100 < n / 100 ∨ m / 100 = n / 100 := by omega
  rw [threeDigits, threeDigits, List.cons_lt_cons_iff, List.cons_lt_cons_iff,
    List.cons_lt_cons_iff]
  rcases hhundreds with hlt | heq
  · exact .inl (decimalDigit_lt (by omega))
  · refine .inr ⟨decimalDigit_congr (congrArg (· % 10) heq), ?_⟩
    have htens : m / 10 < n / 10 ∨ m / 10 = n / 10 := by omega
    rcases htens with hlt | heq'
    · exact .inl (decimalDigit_lt (by omega))
    · exact .inr ⟨decimalDigit_congr (congrArg (· % 10) heq'), .inl (decimalDigit_lt (by omega))⟩

theorem ofList_append_lt {cs ds ds' : List Char} (h : ds < ds') :
    String.ofList (cs ++ ds) < String.ofList (cs ++ ds') := by
  rw [String.lt_iff, String.toList_ofList, String.toList_ofList]
  exact List.append_left_lt h

theorem receiptId_lt {m n : Nat} (h : m < n) (hn : n < 1000) : receiptId m < receiptId n :=
  ofList_append_lt (threeDigits_lt h hn)

def eventPayload : NormalizedAccountWebhookPayload where
  environment         := .test
  eventType           := .refundCreated
  eventCreated        := 1
  eventIdempotencyKey := none
  subject             := .refund {
    refundId := "re_1", paymentIntentId := some "pi_1", chargeId := some "ch_1", amountMinor := 500
    currency := "eur", status := some .succeeded, created := 1, metadataRequestId := none
    metadataProof := none
  }

-- The receipt of an event whose processing has failed
def failedReceipt (n : Nat) : WebhookReceipt where
  installationId     := "i"
  endpoint           := .accountTest
  stripeEventId      := String.ofList ("evt_".toList ++ threeDigits n)
  stripeAccountId    := "acct_1"
  eventType          := .refundCreated
  objectId           := "re_1"
  normalizedPayload  := eventPayload
  stripeCreatedAt    := stripeSecond 1
  status             := .failed
  processingAttempts := 1
  processedAt        := none
  lastErrorCode      := some "WEBHOOK_PROCESSING_FAILED"

def failedReceipts (n : Nat) (hn : n ≤ 1000) : Table String WebhookReceipt where
  entries := (List.range n).map fun k => (receiptId k, failedReceipt k)
  sorted  := List.pairwise_map.mpr <| List.Pairwise.imp_of_mem
    (fun _ hk hlt => receiptId_lt hlt (Nat.lt_of_lt_of_le (List.mem_range.mp hk) hn))
    List.pairwise_lt_range

def approvedRequest : RefundRequestDetail := { requested with
  request := { requested.request with
    workflowStatus := .approved, approvedAt := some 2000, version := requested.request.version + 1
  }
}

-- A tenant with a request that is approved and with receipts that came in together
def recovering (n : Nat) (hn : n ≤ 1000) : TenantStores where
  stores     := Table.empty.insert "t" { Store.pilot with
    receipts := failedReceipts n hn
    requests := Table.empty.insert requestId approvedRequest
  }
  receivedAt := fun _ => 5000
  keyed e he := by
    rcases Table.mem_insertEntry he with rfl | he
    · rfl
    · cases he

variable {n : Nat} {hn : n ≤ 1000}

theorem isRecoverableReceipt_failedReceipt {s : Store} (k : Nat)
    (hinstallations : s.installations = Store.pilot.installations)
    (htenant : s.tenant = Store.pilot.tenant) : isRecoverableReceipt s (failedReceipt k) := by
  rw [isRecoverableReceipt, hinstallations, htenant]
  rfl

theorem recoverableReceipts_recovering : recoverableReceipts (recovering n hn) =
    (List.range n).map fun k => ("t", receiptId k, failedReceipt k) := by
  have hstores : (recovering n hn).stores.entries = [("t", { Store.pilot with
    receipts := failedReceipts n hn
    requests := Table.empty.insert requestId approvedRequest
  })] := rfl
  have hall : ((failedReceipts n hn).entries.filter fun receipt =>
      isRecoverableReceipt { Store.pilot with
        receipts := failedReceipts n hn
        requests := Table.empty.insert requestId approvedRequest
      } receipt.2) = (failedReceipts n hn).entries := by
    refine List.filter_eq_self.mpr fun e he => ?_
    obtain ⟨k, -, rfl⟩ := List.mem_map.mp he
    exact isRecoverableReceipt_failedReceipt k rfl rfl
  rw [recoverableReceipts, hstores, List.flatMap_singleton, hall, failedReceipts, List.map_map]
  refine List.Pairwise.insertionSort_eq (List.pairwise_map.mpr ?_)
  refine List.Pairwise.imp_of_mem (fun _ hk hlt => ?_) List.pairwise_lt_range
  have hid := receiptId_lt hlt (Nat.lt_of_lt_of_le (List.mem_range.mp hk) hn)
  exact Prod.Lex.toLex_le_toLex.mpr (.inr ⟨rfl, le_of_lt hid⟩)

theorem recoveryReceipts_recovering : (recovering n hn).recoveryReceipts =
    (List.range n).map fun k => ("t", receiptId k) := by
  rw [TenantStores.recoveryReceipts, recoverableReceipts_recovering, List.map_map]
  rfl

theorem processWebhookJob_failedReceipt (k : Nat) :
    ∃ job, processWebhookJob ("t", receiptId k, failedReceipt k) = .ok job := by
  have hdigit : ∀ i < 10, (Char.ofNat (48 + i)).isAlphanum = true := by decide
  have hsuffix : isObjectIdSuffix (threeDigits k) = true := by
    rw [threeDigits, isObjectIdSuffix, List.all_cons, List.all_cons, List.all_cons, List.all_nil,
      decimalDigit, decimalDigit, decimalDigit, hdigit _ (Nat.mod_lt _ (by decide)),
      hdigit _ (Nat.mod_lt _ (by decide)), hdigit _ (Nat.mod_lt _ (by decide))]
    rfl
  have hevent : isEventId (failedReceipt k).stripeEventId = true := by
    rw [isEventId, failedReceipt, String.toList_ofList]
    exact hsuffix
  have haccount : isStripeAccountId (failedReceipt k).stripeAccountId = true := by
    change isStripeAccountId "acct_1" = true
    decide
  have hconsistent : assertNormalizedAccountWebhookRowConsistency (failedReceipt k).endpoint
      (failedReceipt k).eventType (failedReceipt k).objectId (failedReceipt k).stripeCreatedAt
      (failedReceipt k).normalizedPayload = .ok eventPayload := rfl
  unfold processWebhookJob
  dsimp only
  rw [if_neg (by rw [hevent]; decide), if_neg (by rw [haccount]; decide), hconsistent]
  exact ⟨_, rfl⟩

theorem mapM_eq_ok {α β : Type} {f : α → Except StoreError β} {l : List α}
    (h : ∀ a ∈ l, ∃ b, f a = .ok b) : ∃ bs, l.mapM f = .ok bs := by
  induction l with
  | nil         => exact ⟨[], rfl⟩
  | cons a l ih =>
    obtain ⟨b, hb⟩ := h a (List.mem_cons_self ..)
    obtain ⟨bs, hbs⟩ := ih fun other hmem => h other (List.mem_cons_of_mem _ hmem)
    exact ⟨b :: bs, by rw [List.mapM_cons, hb, hbs]; rfl⟩

theorem handleWebhookRecoveryJob_recovering (hn : n ≤ 1000) :
    ∃ jobs, handleWebhookRecoveryJob (recovering n hn) = .ok jobs := by
  have hall : ∀ e ∈ (recoverableReceipts (recovering n hn)).take recoveryBatchSize,
      ∃ job, processWebhookJob e = .ok job := by
    intro e he
    have hmem := List.mem_of_mem_take he
    rw [recoverableReceipts_recovering] at hmem
    obtain ⟨k, -, rfl⟩ := List.mem_map.mp hmem
    exact processWebhookJob_failedReceipt k
  obtain ⟨jobs, hjobs⟩ := mapM_eq_ok hall
  refine ⟨jobs, ?_⟩
  rw [handleWebhookRecoveryJob, listRecoverableWebhookJobs, if_pos (by decide), hjobs]
  rfl

theorem recoveryGroups_recovering : (recovering n hn).recoveryGroups =
    [[⟨"t", requestId, .enqueued⟩]] := by
  have hactive : (recovering n hn).activeTenantIds = ["t"] := rfl
  have hqueue : (recovering n hn).recoveryItems "t" =
      [recoveryItem "t" (requestId, approvedRequest)] := rfl
  have houtcome : recoveryOutcome (requestId, approvedRequest) = .enqueued := by decide
  rw [TenantStores.recoveryGroups, hactive, List.map_singleton, hqueue, recoveryItem, houtcome]

end Pilot

open Pilot

-- Two receipts of which one is refused, and a request that the handler can process
theorem recovery_not_starved_recovering :
    WebhooksNotStarved (fun receipt => receipt = ("t", receiptId 1)) (recovering 2 (by decide)) ∧
      ExecutionsNotStarved (fun _ => true) (recovering 2 (by decide)) := by
  refine recovery_not_starved ?_ ?_
  · intro before receipt after heq _
    have hlength := congrArg List.length heq
    rw [recoveryReceipts_recovering, List.length_map, List.length_range, List.length_append,
      List.length_cons] at hlength
    refine Nat.lt_of_le_of_lt (List.length_filter_le ..) ?_
    rw [recoveryBatchSize]
    omega
  · rw [recoveryGroups_recovering]
    refine ⟨fun before item after heq _ => ?_, trivial⟩
    cases before with
    | nil               => decide
    | cons first before => simp at heq

-- One receipt that the handler could process comes after 500 receipts that it refuses.
theorem recovery_starved :
    ¬WebhooksNotStarved (fun receipt => receipt = ("t", receiptId 500))
      (recovering 501 (by decide)) := by
  intro h
  obtain ⟨jobs, hjobs⟩ := handleWebhookRecoveryJob_recovering (n := 501) (by decide)
  have hlisted := receipts_of_handleWebhookRecoveryJob hjobs
  have hreceipts : (recovering 501 (by decide)).recoveryReceipts =
      (List.range 500).map (fun k => ("t", receiptId k)) ++ [("t", receiptId 500)] := by
    rw [recoveryReceipts_recovering, List.range_succ, List.map_append, List.map_singleton]
  have hnot : ("t", receiptId 500) ∉ (List.range 500).map fun k => ("t", receiptId k) := by
    intro hmem
    obtain ⟨k, hk, heq⟩ := List.mem_map.mp hmem
    exact ne_of_lt (receiptId_lt (List.mem_range.mp hk) (by decide)) (congrArg (·.2) heq)
  have htake : (recovering 501 (by decide)).recoveryReceipts.take recoveryBatchSize =
      (List.range 500).map fun k => ("t", receiptId k) := by
    rw [hreceipts, recoveryBatchSize, List.take_left']
    rw [List.length_map, List.length_range]
  have hfilter : ((List.range 500).map fun k => ("t", receiptId k)).filter
      (fun receipt => decide (receipt = ("t", receiptId 500))) = [] := by
    refine List.filter_eq_nil_iff.mpr fun receipt hmem heq => ?_
    exact hnot (of_decide_eq_true heq ▸ hmem)
  have hpass : WebhookPass (fun receipt => receipt = ("t", receiptId 500))
      (recovering 501 (by decide)) jobs (recovering 501 (by decide)) := by
    refine ⟨hjobs, (List.filter_eq_self.mpr fun receipt _ => ?_).symm⟩
    rw [hlisted, htake, decide_eq_true_eq]
    rintro ⟨hmem, heq⟩
    exact hnot (of_decide_eq_true heq ▸ hmem)
  obtain ⟨k, -, hmem⟩ := h (fun _ => recovering 501 (by decide)) (fun _ => jobs) 1 rfl (by rw [hreceipts, List.filter_append, hfilter]; simp) (fun _ _ => hpass)
    ("t", receiptId 500) (by rw [hreceipts]; simp) (by simp)
  rw [hlisted, htake] at hmem
  exact hnot hmem

end RefundDesk
