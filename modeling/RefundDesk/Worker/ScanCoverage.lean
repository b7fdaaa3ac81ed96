import RefundDesk.Worker.Scanner
import RefundDesk.Worker.Reachable

namespace RefundDesk

open Script Transaction Relation TenantRepository WorkerStore

section Checkpoints

variable {keys : WorkerKeys} {now : Timestamp} {s s' : Store}

-- Only the end of a scan moves a checkpoint.
theorem Change.checkpoints_eq {footprint : Footprint} (h : Change now footprint s s')
    (hf : ∀ id d time, ¬footprint id d (.resumeExecutionAfterAbsence time) true) :
    s'.checkpoints = s.checkpoints := by
  cases h with
  | request _ _ => rfl
  | guarded _ h => rw [rest_of_protectRequests h]
  | alerted _ h =>
    obtain ⟨_, s₁, _, _, _, hi, hp⟩ := steps_of_observeExternalRefund h
    rw [rest_of_protectRequests hp, requests_of_insertAlert hi]
  | acknowledged h => rcases alerts_of_acknowledge h with rfl | ⟨_, _, rfl⟩ <;> rfl
  | created h =>
    obtain ⟨_, _, rfl⟩ := created_of_createRefundRequest h
    rfl
  | checkpointed h => exact (hf "" Pilot.requested _ (h _ _)).elim
  | frame h => exact h.checkpoints

theorem Operation.checkpoints_eq {op : Operation}
    (hop : ∀ input, op ≠ .commitReconciliationCheckpoint input)
    (h : (op.run keys now).Commits s () s') : s'.checkpoints = s.checkpoints := by
  have hcalls : ∀ id d time, ¬op.calls id d (.resumeExecutionAfterAbsence time) true := by
    cases op with
    | commitReconciliationCheckpoint input => exact (hop input rfl).elim
    | _ => simp [Operation.calls, ObservationCall, protectiveCalls]
  refine preserved_of_run (fun s₁ => s₁.checkpoints = s.checkpoints) ?_ (op.within_run h) rfl
  exact fun _ _ heq hchange => (hchange.checkpoints_eq hcalls).trans heq

theorem checkpoints_of_resolveUniqueRefundCandidates {installationId : String}
    {window : ScanWindow} {resolvedAt : Timestamp} {counts : Nat × Nat}
    (h : (resolveUniqueRefundCandidates now installationId window resolvedAt).Commits s counts s') :
    s'.checkpoints = s.checkpoints := by
  have hwithin : Within (fun s s' : Store => s'.checkpoints = s.checkpoints)
      (resolveUniqueRefundCandidates now installationId window resolvedAt) := by
    unfold resolveUniqueRefundCandidates
    refine .bind .get fun s => .bind (.mapM fun requestId _ => ?_) fun _ => .pure _
    refine .bind .get fun s => ?_
    intro s₁ r s₂ hc
    rcases commits_onRequest.mp hc with ⟨_, _, rfl⟩ | ⟨_, _, _, _, _, _, rfl⟩
    · exact .refl
    · exact .single rfl
  exact preserved_of_run (fun s₁ => s₁.checkpoints = s.checkpoints)
    (fun _ _ heq hstep => hstep.trans heq) (hwithin h) rfl

-- The compare-and-set of the checkpoint: it moves from where the window began to where it ends.
theorem commits_commitReconciliationCheckpoint {input : CommitCheckpointInput} {u : Unit} :
    (commitReconciliationCheckpoint now input).Commits s u s' ↔
      (s.checkpoints.find? input.installationId).map (·.committedThrough) =
          input.previousWindowEnd ∧
        input.previousWindowEnd.getD input.window.start < input.window.stop ∧
        ∃ counts, (resolveUniqueRefundCandidates now input.installationId input.window
          input.completedAt).Commits { s with
            checkpoints := s.checkpoints.insert input.installationId {
              committedThrough := input.window.stop, scanWindowEnd := none, startingAfter := none
              pageInProgress := false
            }
          } counts s' := by
  simp only [commitReconciliationCheckpoint, commits_bind, commits_get, commits_require,
    commits_beginReconciliationWindow, commits_completeReconciliationWindow, commits_pure]
  constructor
  · rintro ⟨_, _, ⟨rfl, rfl⟩, _, _, ⟨hcurrent, rfl⟩, _, _, ⟨_, rfl, hlt, rfl⟩, _, _,
      ⟨_, _, _, _, _, rfl⟩, counts, _, hr, _, rfl⟩
    simp only [Table.insert_insert] at hr
    rw [hcurrent] at hlt
    refine ⟨hcurrent, ?_, counts, hr⟩
    cases hp : input.previousWindowEnd <;> simpa [hp] using hlt
  · rintro ⟨hcurrent, hlt, counts, hr⟩
    refine ⟨_, s, ⟨rfl, rfl⟩, (), s, ⟨hcurrent, rfl⟩, (), _, ⟨_, rfl, ?_, rfl⟩, (), _,
      ⟨_, Table.find?_insert_self _ _ _, rfl, rfl, rfl, rfl⟩, counts, s', ?_, trivial, rfl⟩
    · rw [hcurrent]
      cases hp : input.previousWindowEnd <;> simpa [hp] using hlt
    · simpa only [Table.insert_insert] using hr

end Checkpoints

namespace ReconciliationScanner

-- The refunds that Stripe lists for a range of seconds.
abbrev RefundListing := Listing NormalizedRefund NormalizedRefund.id

def observation? : Event ScanCall.Reply → Option RefundObservation
  | ⟨.observeRefund input, _⟩ => some input.refund
  | _                         => none

def commit? : Event ScanCall.Reply → Option CommitCheckpointInput
  | ⟨.commitReconciliationCheckpoint input, _⟩ => some input
  | _                                          => none

-- The refunds that were passed to calls of `observeRefund` that have succeeded.
def observed (t : List (Event ScanCall.Reply)) : List RefundObservation :=
  t.filterMap observation?

def commits (t : List (Event ScanCall.Reply)) : List CommitCheckpointInput :=
  t.filterMap commit?

@[simp]
theorem observed_append {t t' : List (Event ScanCall.Reply)} :
    observed (t ++ t') = observed t ++ observed t' :=
  List.filterMap_append

@[simp]
theorem observed_cons {t : List (Event ScanCall.Reply)} {e : Event ScanCall.Reply} :
    observed (e :: t) = (observation? e).toList ++ observed t := by
  unfold observed
  cases h : observation? e <;> simp [h]

@[simp]
theorem observed_nil : observed [] = [] :=
  rfl

@[simp]
theorem commits_append {t t' : List (Event ScanCall.Reply)} :
    commits (t ++ t') = commits t ++ commits t' :=
  List.filterMap_append

@[simp]
theorem commits_cons {t : List (Event ScanCall.Reply)} {e : Event ScanCall.Reply} :
    commits (e :: t) = (commit? e).toList ++ commits t := by
  unfold commits
  cases h : commit? e <;> simp [h]

@[simp]
theorem commits_nil : commits [] = [] :=
  rfl

-- The scan has observed what Stripe listed for its window, in the order of the listing.
def Complete (listing : RefundListing) (t : List (Event ScanCall.Reply)) : Prop :=
  observed t = listing.items.map observationFromStripe

-- A window that looks back from the end of the previous one, or from the installation.
def LooksBack (input : CommitCheckpointInput) : Prop :=
  ∃ installedAt, input.window.start =
    input.previousWindowEnd.getD (min installedAt input.window.stop) - overlapMilliseconds

-- A scan relies on pages of a fixed listing, and it commits once, when it has observed all of it.
def scanContract (installationId : String) (exposed : CreatedRange → RefundListing) :
    Contract ScanCall.Reply where
  rely _ c :=
    match c with
    | .listRefunds created startingAfter => fun page =>
      (exposed created).IsPage startingAfter page.refunds page.hasMore
    | _ => fun _ => True
  guarantee t
    | .observeRefund _                      => commits t = []
    | .commitReconciliationCheckpoint input =>
      commits t = [] ∧ input.installationId = installationId ∧ LooksBack input ∧
        Complete (exposed (createdRange input.window)) t
    | _                                     => True

section Contract

variable {installation : ScannableWorkerInstallation} {window : ScanWindow}
variable {exposed : CreatedRange → RefundListing} {t : List (Event ScanCall.Reply)}
variable {post : List (Event ScanCall.Reply) → Except String Unit → Prop}

theorem observePage_meets {page : List NormalizedRefund} (hc : commits t = [])
    (hpost : ∀ t', commits t' = [] → observed t' = observed t ++ page.map observationFromStripe →
      post t' (.ok ())) :
    (observePage installation window page).Meets
      (scanContract installation.installationId exposed) post t := by
  induction page generalizing t with
  | nil => exact hpost t hc (by simp)
  | cons refund rest ih =>
    refine ⟨trivial, fun observedAt _ => ⟨?_, fun _ _ => ih ?_ fun t' hc' ho' => hpost t' hc' ?_⟩⟩
    · show commits _ = []
      simpa [commit?] using hc
    · simpa [commit?] using hc
    · simp [ho', observation?]

-- Before each page the scan has observed the listing up to the cursor.
theorem scanPages_meets {pages : Nat} {startingAfter : Option String}
    {visited : List NormalizedRefund} (hc : commits t = [])
    (hv : (exposed (createdRange window)).items =
      visited ++ (exposed (createdRange window)).after startingAfter)
    (ho : observed t = visited.map observationFromStripe)
    (hpost : ∀ t', commits t' = [] → Complete (exposed (createdRange window)) t' →
      post t' (.ok ()))
    (hfail : ∀ t' e, post t' (.error e)) :
    (scanPages installation window pages startingAfter).Meets
      (scanContract installation.installationId exposed) post t := by
  induction pages generalizing t startingAfter visited with
  | zero => exact hfail _ _
  | succ pages ih =>
    refine meets_perform_bind.mpr ⟨trivial, fun page hpage => ?_⟩
    refine meets_bind.mpr (observePage_meets ?_ fun t' hc' ho' => ?_)
    · simpa [commit?] using hc
    have hobserved : observed t' = (visited ++ page.refunds).map observationFromStripe := by
      simp [ho', ho, observation?]
    show Script.Meets _ _ (if page.hasMore then _ else _) _
    split_ifs with hmore
    · split
      case h_1 => exact hfail _ _
      case h_2 lastRefund hlast =>
        split_ifs
        · exact hfail _ _
        · exact ih hc' (hpage.next hv hlast) hobserved
    · refine hpost t' hc' (hobserved.trans ?_)
      rw [hv, hpage.after_eq (by simpa using hmore)]

theorem scanInstallation_meets {windowEnd : Timestamp} :
    (scanInstallation installation windowEnd).Meets
      (scanContract installation.installationId exposed) (fun _ _ => True) [] := by
  refine meets_perform_bind.mpr ⟨trivial, fun checkpoint _ => meets_bind.mpr ?_⟩
  refine scanPages_meets rfl (List.nil_append _).symm rfl (fun t hc ho => ?_) fun _ _ => trivial
  refine ⟨trivial, fun completedAt _ => ⟨⟨?_, rfl, ⟨installation.installedAt, rfl⟩, ?_⟩, ?_⟩⟩
  · simpa [commit?] using hc
  · simpa [Complete, observation?] using ho
  · exact fun _ _ => trivial

end Contract

-- What happens around the scans of an installation. `exposed` is what Stripe lists to each scan, and
-- everything but the commit of a checkpoint of the installation can happen in between.
def scanSurroundings (keys : WorkerKeys) (installationId : String)
    (exposed : Nat → CreatedRange → RefundListing) :
    Surroundings Store String ScanCall.Reply Unit where
  starts _ script := ∃ installation windowEnd, installation.installationId = installationId ∧
    isPilotScannableInstallation installation ∧ script = scanInstallation installation windowEnd
  answers i s call :=
    match call with
    | .loadReconciliationCheckpoint => fun checkpoint s' =>
      checkpoint = (s.checkpoints.find? installationId).map (·.committedThrough) ∧ s' = s
    | .listRefunds created startingAfter => fun page s' =>
      (exposed i created).IsPage startingAfter page.refunds page.hasMore ∧ s' = s
    | .now => fun _ s' => s' = s
    | .observeRefund input => fun _ s' =>
      ∃ now, (WorkerStore.observeRefund keys now input).Commits s () s'
    | .commitReconciliationCheckpoint input => fun _ s' =>
      ∃ now, (WorkerStore.commitReconciliationCheckpoint now input).Commits s () s'
  disturbs s s' := ∃ now op,
    (∀ input, op = .commitReconciliationCheckpoint input → input.installationId ≠ installationId) ∧
      (Operation.run keys now op).Commits s () s'

abbrev Scans := Concurrent Store String ScanCall.Reply Unit

-- The windows that were committed, the first one first.
def committed (y : Scans) : List CommitCheckpointInput :=
  commits (y.events.map (·.2))

def committedThrough (installationId : String) (s : Store) : Option Timestamp :=
  (s.checkpoints.find? installationId).map (·.committedThrough)

-- The next window looks back from the end of this one.
structure Follows (input next : CommitCheckpointInput) : Prop where
  previous : next.previousWindowEnd = some input.window.stop
  later    : input.window.stop < next.window.stop
  back     : LooksBack next

structure ScansSound (installationId : String) (exposed : Nat → CreatedRange → RefundListing)
    (y : Scans) : Prop where
  current  : committedThrough installationId y.state = (committed y).getLast?.map (·.window.stop)
  chained  : (committed y).IsChain Follows
  complete : ∀ i input, input ∈ commits (Concurrent.eventsOf y.events i) →
    Complete (exposed i (createdRange input.window)) (Concurrent.eventsOf y.events i)

section Coverage

variable {keys : WorkerKeys} {installationId : String}
variable {exposed : Nat → CreatedRange → RefundListing} {y y' : Scans}

theorem committed_concat {state : Store} {scripts : Nat → Option (ScanScript Unit)} {i : Nat}
    {e : Event ScanCall.Reply} :
    committed ⟨state, scripts, y.events ++ [(i, e)]⟩ = committed y ++ (commit? e).toList := by
  simp [committed]

-- A call other than a commit leaves the checkpoint where it is. A scan that has committed does not
-- observe any more.
theorem ScansSound.uncommitted (h : ScansSound installationId exposed y) {state : Store}
    {scripts : Nat → Option (ScanScript Unit)} {i : Nat} {e : Event ScanCall.Reply}
    (he : commit? e = none) (hobserved : observation? e = none ∨
      commits (Concurrent.eventsOf y.events i) = [])
    (hstate : committedThrough installationId state = committedThrough installationId y.state) :
    ScansSound installationId exposed ⟨state, scripts, y.events ++ [(i, e)]⟩ := by
  have hcommitted : committed ⟨state, scripts, y.events ++ [(i, e)]⟩ = committed y := by
    simp [committed_concat, he]
  refine ⟨?_, hcommitted ▸ h.chained, fun j input hinput => ?_⟩
  · rw [hcommitted]
    exact hstate.trans h.current
  · by_cases hij : i = j
    · subst hij
      simp only [Concurrent.eventsOf_append_self, commits_append, commits_cons, he,
        Option.toList_none, commits_nil, List.append_nil] at hinput
      have hnone : observation? e = none := hobserved.resolve_right (List.ne_nil_of_mem hinput)
      simpa [Complete, hnone] using h.complete i input hinput
    · rw [Concurrent.eventsOf_append_ne hij] at hinput ⊢
      exact h.complete j input hinput

-- A commit goes on from the last one.
theorem ScansSound.commit (h : ScansSound installationId exposed y) {s' : Store} {now : Timestamp}
    {scripts : Nat → Option (ScanScript Unit)} {i : Nat} {input : CommitCheckpointInput}
    (hguarantee : (scanContract installationId (exposed i)).guarantee
      (Concurrent.eventsOf y.events i) (.commitReconciliationCheckpoint input))
    (hc : (commitReconciliationCheckpoint now input).Commits y.state () s') :
    ScansSound installationId exposed
      ⟨s', scripts, y.events ++ [(i, ⟨.commitReconciliationCheckpoint input, ()⟩)]⟩ := by
  obtain ⟨hnone, hid, hback, hcomplete⟩ := hguarantee
  obtain ⟨hcurrent, hlt, _, hresolve⟩ := commits_commitReconciliationCheckpoint.mp hc
  rw [hid] at hcurrent
  have hprevious : (committed y).getLast?.map (·.window.stop) = input.previousWindowEnd :=
    h.current.symm.trans hcurrent
  refine ⟨?current, ?chained, fun j input' hinput => ?complete⟩
  all_goals try rw [committed_concat]
  case current =>
    simp [committedThrough, checkpoints_of_resolveUniqueRefundCandidates hresolve, hid, commit?]
  case chained =>
    refine List.isChain_append.mpr ⟨h.chained, .singleton _, fun last hlast next hnext => ?_⟩
    obtain rfl : input = next := by simpa [commit?] using hnext
    have hstop : input.previousWindowEnd = some last.window.stop := by
      rw [← hprevious, Option.mem_def.mp hlast, Option.map_some]
    exact ⟨hstop, by simpa [hstop] using hlt, hback⟩
  case complete =>
    by_cases hij : i = j
    · subst hij
      obtain rfl : input = input' := by simpa [hnone, commit?, eq_comm] using hinput
      simpa [Complete, observation?] using hcomplete
    · rw [Concurrent.eventsOf_append_ne hij] at hinput ⊢
      exact h.complete j input' hinput

theorem committedThrough_of_disturbs {s s' : Store}
    (h : (scanSurroundings keys installationId exposed).disturbs s s') :
    committedThrough installationId s' = committedThrough installationId s := by
  obtain ⟨now, op, hother, hc⟩ := h
  by_cases hop : ∃ input, op = .commitReconciliationCheckpoint input
  · obtain ⟨input, rfl⟩ := hop
    obtain ⟨_, _, _, hresolve⟩ := commits_commitReconciliationCheckpoint.mp hc
    simp [committedThrough, checkpoints_of_resolveUniqueRefundCandidates hresolve,
      Table.find?_insert_ne (Ne.symm (hother input rfl))]
  · simp [committedThrough, op.checkpoints_eq (fun input heq => hop ⟨input, heq⟩) hc]

theorem ScansSound.step (h : ScansSound installationId exposed y)
    (hmeets : y.Meets (fun i => scanContract installationId (exposed i)) fun _ _ _ => True)
    (hstep : Concurrent.Step (scanSurroundings keys installationId exposed) y y') :
    ScansSound installationId exposed y' := by
  cases hstep with
  | started _ _ => exact { h with }
  | disturbed hd => exact { h with current := (committedThrough_of_disturbs hd).trans h.current }
  | @answered i c next r s' hi hr =>
    have hguarantee := hmeets.guarantee hi
    cases c with
    | observeRefund input =>
      obtain ⟨now, hc⟩ := hr
      have hop : ((Operation.observeRefund input).run keys now).Commits y.state () s' := hc
      refine h.uncommitted rfl (.inr hguarantee) ?_
      simp [committedThrough, Operation.checkpoints_eq (by simp) hop]
    | commitReconciliationCheckpoint input =>
      obtain ⟨now, hc⟩ := hr
      exact h.commit hguarantee hc
    | loadReconciliationCheckpoint => exact h.uncommitted rfl (.inl rfl) (hr.2 ▸ rfl)
    | listRefunds _ _ => exact h.uncommitted rfl (.inl rfl) (hr.2 ▸ rfl)
    | now => exact h.uncommitted rfl (.inl rfl) (congrArg _ hr)

theorem ScansSound.of_run (hidle : y.Idle) (hnew : y.state.checkpoints.find? installationId = none)
    (hrun : ReflTransGen (Concurrent.Step (scanSurroundings keys installationId exposed)) y y') :
    ScansSound installationId exposed y' := by
  have hstarts : ∀ i script, (scanSurroundings keys installationId exposed).starts i script →
      script.Meets (scanContract installationId (exposed i)) (fun _ _ => True) [] := by
    rintro i script ⟨installation, windowEnd, rfl, _, rfl⟩
    exact scanInstallation_meets
  have hanswers : ∀ y i c r s', ScansSound installationId exposed y →
      (scanSurroundings keys installationId exposed).answers i y.state c r s' →
      (scanContract installationId (exposed i)).rely (Concurrent.eventsOf y.events i) c r := by
    intro y i c r s' _ h
    cases c with
    | listRefunds _ _ => exact h.1
    | _ => trivial
  have hempty : ScansSound installationId exposed y :=
    ⟨by simp [committedThrough, committed, hnew, hidle.2], by simp [committed, hidle.2],
      by simp [hidle.2, Concurrent.eventsOf]⟩
  exact (Concurrent.meets_of_run _ hstarts hanswers (fun _ _ hmeets h hstep => h.step hmeets hstep)
    hidle hempty hrun).2

theorem stripeTimestamp_mono {left right : Timestamp} (h : left ≤ right) :
    stripeTimestamp left ≤ stripeTimestamp right :=
  max_le_max le_rfl (Int.ediv_le_ediv (by decide) h)

theorem Follows.touches {input next : CommitCheckpointInput} (h : Follows input next) :
    (createdRange next.window).gte ≤ (createdRange input.window).lte := by
  obtain ⟨installedAt, hstart⟩ := h.back
  rw [h.previous, Option.getD_some] at hstart
  exact stripeTimestamp_mono (hstart ▸ Int.sub_le_self _ (by decide))

theorem event_of_committed {input : CommitCheckpointInput} (h : input ∈ committed y) :
    ∃ i, (i, ⟨.commitReconciliationCheckpoint input, ()⟩) ∈ y.events := by
  obtain ⟨e, he, hcommit⟩ := List.mem_filterMap.mp h
  obtain ⟨⟨i, e⟩, hmem, rfl⟩ := List.mem_map.mp he
  obtain ⟨c, r⟩ := e
  cases c with
  | commitReconciliationCheckpoint input' =>
    obtain rfl := Option.some.inj hcommit
    exact ⟨i, hmem⟩
  | _ => cases hcommit

-- Whatever happens between the scans of an installation, the seconds up to its checkpoint are
-- covered by committed windows, each of which begins at the latest where the one before it ends, and
-- every committed scan has observed each refund that Stripe listed to it once.
theorem scan_coverage (hidle : y.Idle)
    (hnew : y.state.checkpoints.find? installationId = none)
    (hrun : ReflTransGen (Concurrent.Step (scanSurroundings keys installationId exposed)) y y') :
    ((committed y').IsChain fun input next =>
      (createdRange next.window).gte ≤ (createdRange input.window).lte ∧
        input.window.stop < next.window.stop) ∧
    (∀ i input, (i, ⟨.commitReconciliationCheckpoint input, ()⟩) ∈ y'.events →
      observed (Concurrent.eventsOf y'.events i) =
        (exposed i (createdRange input.window)).items.map observationFromStripe) ∧
    ∀ through, committedThrough installationId y'.state = some through →
      ∃ first, (committed y').head? = some first ∧ ∀ refund : NormalizedRefund,
        stripeTimestamp first.window.start ≤ refund.created →
        refund.created ≤ stripeTimestamp through →
        ∃ i input, (i, ⟨.commitReconciliationCheckpoint input, ()⟩) ∈ y'.events ∧
          (createdRange input.window).gte ≤ refund.created ∧
          refund.created ≤ (createdRange input.window).lte ∧
          (refund ∈ (exposed i (createdRange input.window)).items →
            observationFromStripe refund ∈ observed (Concurrent.eventsOf y'.events i)) := by
  have hsound := ScansSound.of_run hidle hnew hrun
  have hevent : ∀ i input, (i, ⟨.commitReconciliationCheckpoint input, ()⟩) ∈ y'.events →
      input ∈ commits (Concurrent.eventsOf y'.events i) := fun i input h =>
    List.mem_filterMap.mpr ⟨_, Concurrent.mem_eventsOf.mpr h, rfl⟩
  refine ⟨hsound.chained.imp fun _ _ h => ⟨h.touches, h.later⟩,
    fun i input h => hsound.complete i input (hevent i input h), fun through hthrough => ?_⟩
  obtain ⟨last, hlast, rfl⟩ := Option.map_eq_some_iff.mp (hsound.current.symm.trans hthrough)
  match hwindows : committed y' with
  | []              => simp [hwindows] at hlast
  | first :: inputs =>
    refine ⟨first, rfl, fun refund hfrom hto => ?_⟩
    have hchain := hsound.chained
    rw [hwindows] at hchain hlast
    have hlte : refund.created ≤ (createdRange ((first :: inputs).getLast (by simp)).window).lte := by
      rwa [List.getLast_of_getLast?_eq_some hlast]
    obtain ⟨input, hinput, hgte, hlte⟩ := exists_window_of_isChain
      (hchain.imp fun _ _ h => h.touches) hfrom hlte
    rw [← hwindows] at hinput
    obtain ⟨i, hi⟩ := event_of_committed hinput
    refine ⟨i, input, hi, hgte, hlte, fun hrefund => ?_⟩
    have hcomplete := hsound.complete i input (hevent i input hi)
    exact hcomplete ▸ List.mem_map_of_mem hrefund

end Coverage

end ReconciliationScanner

namespace Pilot

open ReconciliationScanner

-- The installation of the pilot tenant, and the one refund that Stripe lists for it.
def scannable : ScannableWorkerInstallation where
  installationId    := "i"
  stripeAccountId   := "acct_1"
  environment       := .test
  active            := true
  tenantLiveEnabled := false
  installedAt       := 0

def listed : NormalizedRefund where
  id              := "re_1"
  paymentIntentId := "pi_1"
  chargeId        := "ch_1"
  amountMinor     := 500
  currency        := "eur"
  status          := some .succeeded
  created         := 5
  metadata        := []
  requestId       := none

def listing : RefundListing where
  items    := [listed]
  distinct := by decide

def committing : CommitCheckpointInput where
  installationId    := "i"
  previousWindowEnd := none
  window            := scanWindow scannable none 10000
  completedAt       := 10000

def quiet : Scans :=
  ⟨Store.pilot, fun _ => none, []⟩

def around : Surroundings Store String ScanCall.Reply Unit :=
  scanSurroundings keys "i" fun _ _ => listing

-- The scan of the one page with the refund, up to its commit.
theorem scan_run : ∃ y : Scans,
    ReflTransGen (Concurrent.Step around) quiet y ∧
    (0, ⟨.commitReconciliationCheckpoint committing, ()⟩) ∈ y.events := by
  have hruns : Store.pilot.runs keys [
      (10000, .observeRefund (scanned (observationFromStripe listed) 10000)),
      (10000, .commitReconciliationCheckpoint committing)] (fun _ => true) := by decide +kernel
  obtain ⟨_, -, hafter, -⟩ := Reachable.of_runs Store.pilot_initial hruns
  obtain ⟨s₁, hobserve, hafter⟩ := Store.commits_of_after hafter
  obtain ⟨s₂, hcommit, -⟩ := Store.commits_of_after hafter
  have hstarts : around.starts 0 (scanInstallation scannable 10000) := ⟨_, _, rfl, rfl, rfl⟩
  have hload : around.answers 0 Store.pilot .loadReconciliationCheckpoint none Store.pilot :=
    ⟨rfl, rfl⟩
  have hlist : around.answers 0 Store.pilot (.listRefunds (createdRange committing.window) none)
      ⟨[listed], false⟩ Store.pilot := ⟨⟨[], rfl, by decide⟩, rfl⟩
  have hnow (s : Store) : around.answers 0 s .now (10000 : Timestamp) s := rfl
  have hobserve : around.answers 0 Store.pilot
      (.observeRefund (scanned (observationFromStripe listed) 10000)) () s₁ := ⟨_, hobserve⟩
  have hcommit : around.answers 0 s₁ (.commitReconciliationCheckpoint committing) () s₂ :=
    ⟨_, hcommit⟩
  have hnone : quiet.scripts 0 = none := rfl
  obtain ⟨y₀, h₀, hs, hp, -⟩ := Concurrent.Step.start hnone hstarts
  obtain ⟨y₁, h₁, hs, hp, -⟩ := Concurrent.Step.answer hs hp hload
  obtain ⟨y₂, h₂, hs, hp, -⟩ := Concurrent.Step.answer hs hp hlist
  obtain ⟨y₃, h₃, hs, hp, -⟩ := Concurrent.Step.answer hs hp (hnow _)
  obtain ⟨y₄, h₄, hs, hp, -⟩ := Concurrent.Step.answer hs hp hobserve
  obtain ⟨y₅, h₅, hs, hp, -⟩ := Concurrent.Step.answer hs hp (hnow _)
  obtain ⟨y₆, h₆, -, -, hevents, -⟩ := Concurrent.Step.answer hs hp hcommit
  refine ⟨y₆, ?_, hevents ▸ List.mem_append_right _ (List.mem_singleton_self _)⟩
  exact (ReflTransGen.single h₀).tail h₁ |>.tail h₂ |>.tail h₃ |>.tail h₄ |>.tail h₅ |>.tail h₆

theorem scan_coverage_listed :
    ∃ y : Scans, observed (Concurrent.eventsOf y.events 0) = [observationFromStripe listed] := by
  obtain ⟨y, hrun, hmem⟩ := scan_run
  exact ⟨y, (scan_coverage ⟨fun _ => rfl, rfl⟩ rfl hrun).2.1 0 committing hmem⟩

end Pilot
end RefundDesk
