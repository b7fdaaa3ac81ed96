import RefundDesk.Notifications.WebhookDestination

namespace RefundDesk

inductive NotificationKind
  | approvalRequested
  | requestApproved
  | requestRejected
  | refundSucceeded
  | refundFailed
  | externalRefundDetected
  deriving DecidableEq, Repr

def NotificationKind.text : NotificationKind → String
  | approvalRequested      => "approval_requested"
  | requestApproved        => "request_approved"
  | requestRejected        => "request_rejected"
  | refundSucceeded        => "refund_succeeded"
  | refundFailed           => "refund_failed"
  | externalRefundDetected => "external_refund_detected"

structure Notification where
  kind             : NotificationKind
  tenantId         : String
  requestId        : Option String
  recipientUserIds : List String
  deriving DecidableEq, Repr

inductive AddressFamily
  | four
  | six
  deriving DecidableEq, Repr

def addressFamily (address : String) : AddressFamily :=
  if ':' ∈ address.toList then .six else .four

structure PinnedAddress where
  address : String
  family  : AddressFamily
  deriving DecidableEq, Repr

-- The options of a lookup, each of which may be left out
structure LookupOptions where
  all    : Option Bool
  family : Option Int
  deriving DecidableEq, Repr

def LookupOptions.wanted (options : LookupOptions) : Option AddressFamily :=
  if options.family = some 4 then some .four
  else if options.family = some 6 then some .six
  else none

-- What a lookup calls back with
inductive LookupAnswer
  | failed (code message : String) (family : AddressFamily)
  | one (address : String) (family : AddressFamily)
  | all (addresses : List PinnedAddress)
  deriving DecidableEq, Repr

abbrev PinnedLookup := String → LookupOptions → LookupAnswer

def pinnedAddresses (addresses : List String) : List PinnedAddress :=
  addresses.map fun address => { address, family := addressFamily address }

def createPinnedLookup (addresses : List String) : Except String PinnedLookup :=
  if addresses.length = 0 then
    .error "PINNED_LOOKUP_REQUIRES_AT_LEAST_ONE_ADDRESS"
  else
    .ok fun _ options =>
      if options.all = some true then
        .all (pinnedAddresses addresses)
      else
        let found :=
          match options.wanted with
          | none        => (pinnedAddresses addresses).head?
          | some wanted => (pinnedAddresses addresses).find? fun entry => entry.family = wanted
        match found with
        | none =>
          .failed "ENOTFOUND" "No checked address matches the requested family"
            (options.wanted.getD .four)
        | some entry => .one entry.address entry.family

-- An answer with addresses of the list, and of the family that was asked for
def Pinned (addresses : List String) (options : LookupOptions) : LookupAnswer → Prop
  | .failed code _ _    => code = "ENOTFOUND"
  | .one address family =>
    address ∈ addresses ∧ family = addressFamily address ∧
      ∀ wanted, options.wanted = some wanted → family = wanted
  | .all entries        =>
    ∀ entry ∈ entries, entry.address ∈ addresses ∧ entry.family = addressFamily entry.address ∧
      ∀ wanted, options.wanted = some wanted → entry.family = wanted

section Lookup

variable {addresses : List String} {lookup : PinnedLookup} {options : LookupOptions}
  {entry : PinnedAddress}

theorem mem_pinnedAddresses :
    entry ∈ pinnedAddresses addresses ↔
      entry.address ∈ addresses ∧ entry.family = addressFamily entry.address := by
  constructor
  · intro h
    obtain ⟨address, hmem, rfl⟩ := List.mem_map.mp h
    exact ⟨hmem, rfl⟩
  · rintro ⟨hmem, hfamily⟩
    exact List.mem_map.mpr ⟨entry.address, hmem, by rw [← hfamily]⟩

theorem pinned_one (hone : options.all ≠ some true) (hlookup : createPinnedLookup addresses = .ok lookup)
    (hostname : String) : Pinned addresses options (lookup hostname options) := by
  unfold createPinnedLookup at hlookup
  split_ifs at hlookup
  obtain rfl := Except.ok.inj hlookup
  simp only [if_neg hone]
  cases hwanted : options.wanted with
  | none =>
    cases hfound : (pinnedAddresses addresses).head? with
    | none       => rfl
    | some entry =>
      have hentry := mem_pinnedAddresses.mp (List.mem_of_mem_head? hfound)
      exact ⟨hentry.1, hentry.2, by simp [hwanted]⟩
  | some wanted =>
    simp only
    cases hfound : (pinnedAddresses addresses).find? fun entry => entry.family = wanted with
    | none       => rfl
    | some entry =>
      have hentry := mem_pinnedAddresses.mp (List.mem_of_find?_eq_some hfound)
      have hfamily : entry.family = wanted := by simpa using List.find?_some hfound
      refine ⟨hentry.1, hentry.2, fun wanted' hwanted' => ?_⟩
      rw [hwanted] at hwanted'
      exact hfamily.trans (Option.some.inj hwanted')

-- All the addresses are given whichever family is asked for.
theorem pinned_all (hall : options.all = some true)
    (hlookup : createPinnedLookup addresses = .ok lookup) (hostname : String) :
    Pinned addresses options (lookup hostname options) ↔
      ∀ wanted, options.wanted = some wanted →
        ∀ address ∈ addresses, addressFamily address = wanted := by
  unfold createPinnedLookup at hlookup
  split_ifs at hlookup
  obtain rfl := Except.ok.inj hlookup
  simp only [if_pos hall, Pinned]
  constructor
  · intro h wanted hwanted address hmem
    have hentry : PinnedAddress.mk address (addressFamily address) ∈ pinnedAddresses addresses :=
      mem_pinnedAddresses.mpr ⟨hmem, rfl⟩
    exact (h _ hentry).2.2 wanted hwanted
  · intro h entry hentry
    have hpinned := mem_pinnedAddresses.mp hentry
    refine ⟨hpinned.1, hpinned.2, fun wanted hwanted => ?_⟩
    exact hpinned.2.trans (h wanted hwanted entry.address hpinned.1)

theorem pinned_iff (hlookup : createPinnedLookup addresses = .ok lookup) (hostname : String) :
    Pinned addresses options (lookup hostname options) ↔
      ¬(options.all = some true ∧ ∃ wanted, options.wanted = some wanted ∧
        ∃ address ∈ addresses, addressFamily address ≠ wanted) := by
  by_cases hall : options.all = some true
  · rw [pinned_all hall hlookup]
    simp [hall]
  · exact iff_of_true (pinned_one hall hlookup hostname) fun h => hall h.1

end Lookup

structure RequestInit where
  method      : String
  contentType : String
  body        : String
  redirect    : String
  deriving DecidableEq, Repr

structure PinnedRequest where
  url       : String
  addresses : List String
  lookup    : PinnedLookup
  init      : RequestInit

inductive DroppedReason
  | rejectedDestination
  | blockedAddress
  | unreachable
  | refused
  deriving DecidableEq, Repr

inductive WebhookDeliveryOutcome
  | delivered
  | skippedNoDestination
  | dropped (reason : DroppedReason)
  deriving DecidableEq, Repr

open WebhookDestination

-- The ports of a provider, each of which gives a value or rejects. `fetcher` gives the `ok` of its
-- response, and `occurredAt` the text of the instant.
structure WebhookNotificationOptions (ε : Type) where
  parseUrl          : String → Option Url
  destinationLookup : String → Except ε (Option String)
  resolveAddresses  : String → Except ε (List String)
  fetcher           : PinnedRequest → Except ε Bool
  occurredAt        : Except ε String

def notificationBody (notification : Notification) (occurredAt : String) : String :=
  "\x7b\"type\":\"refunddesk." ++ notification.kind.text ++ "\",\"occurred_at\":\"" ++ occurredAt ++
    "\",\"text\":\"A refund workflow in RefundDesk needs attention. " ++
    "Open RefundDesk in the Stripe Dashboard.\"\x7d"

namespace WebhookNotificationProvider

variable {ε : Type}

-- The request, which is made inside the block that catches
def request (options : WebhookNotificationOptions ε) (notification : Notification) (url : Url)
    (addresses : List String) : Option PinnedRequest :=
  match createPinnedLookup addresses, options.occurredAt with
  | .ok lookup, .ok occurredAt =>
    some {
      url       := url.href
      addresses
      lookup
      init      := {
        method      := "POST"
        contentType := "application/json"
        body        := notificationBody notification occurredAt
        redirect    := "manual"
      }
    }
  | _, _ => none

-- The outcome, or the error of a promise that rejects, and the requests that the fetcher was given
def deliver (options : WebhookNotificationOptions ε) (notification : Notification) :
    Except ε WebhookDeliveryOutcome × List PinnedRequest :=
  match options.destinationLookup notification.tenantId with
  | .error rejection => (.error rejection, [])
  | .ok none         => (.ok .skippedNoDestination, [])
  | .ok (some raw)   =>
    if codeUnits (trim raw) = 0 then
      (.ok .skippedNoDestination, [])
    else
      match validateWebhookDestination options.parseUrl raw with
      | .error _ => (.ok (.dropped .rejectedDestination), [])
      | .ok url  =>
        match options.resolveAddresses url.hostname with
        | .error _      => (.ok (.dropped .unreachable), [])
        | .ok addresses =>
          if addresses.length = 0 ∨ addresses.any isBlockedAddress then
            (.ok (.dropped .blockedAddress), [])
          else
            match request options notification url addresses with
            | none         => (.ok (.dropped .unreachable), [])
            | some request =>
              match options.fetcher request with
              | .error _   => (.ok (.dropped .unreachable), [request])
              | .ok true   => (.ok .delivered, [request])
              | .ok false  => (.ok (.dropped .refused), [request])

variable {options : WebhookNotificationOptions ε} {notification : Notification}
  {request' : PinnedRequest}

theorem deliver_total :
    (∃ outcome, (deliver options notification).1 = .ok outcome) ↔
      ∃ raw, options.destinationLookup notification.tenantId = .ok raw := by
  unfold deliver
  cases hraw : options.destinationLookup notification.tenantId with
  | error rejection => simp
  | ok raw =>
    refine iff_of_true ?_ ⟨raw, rfl⟩
    cases raw with
    | none     => exact ⟨_, rfl⟩
    | some raw =>
      simp only
      split_ifs
      · exact ⟨_, rfl⟩
      · split
        · exact ⟨_, rfl⟩
        · split
          · exact ⟨_, rfl⟩
          · split_ifs
            · exact ⟨_, rfl⟩
            · split
              · exact ⟨_, rfl⟩
              · split <;> exact ⟨_, rfl⟩

theorem request_eq_some {url : Url} {addresses : List String}
    (h : request options notification url addresses = some request') :
    createPinnedLookup addresses = .ok request'.lookup ∧ request'.addresses = addresses ∧
      request'.url = url.href ∧ request'.init.redirect = "manual" := by
  unfold request at h
  split at h
  case h_1 lookup occurredAt hlookup hoccurred =>
    obtain rfl := Option.some.inj h
    exact ⟨hlookup, rfl, rfl, rfl⟩
  case h_2 => cases h

-- The fetcher is given a request for an admitted destination, with the addresses of its host.
structure Checked (options : WebhookNotificationOptions ε) (notification : Notification)
    (request : PinnedRequest) : Prop where
  destination : ∃ raw url, options.destinationLookup notification.tenantId = .ok (some raw) ∧
    validateWebhookDestination options.parseUrl raw = .ok url ∧ request.url = url.href ∧
    options.resolveAddresses url.hostname = .ok request.addresses
  resolved    : request.addresses ≠ []
  admitted    : ∀ address ∈ request.addresses, isBlockedAddress address = false
  pinned      : createPinnedLookup request.addresses = .ok request.lookup
  direct      : request.init.redirect = "manual"

theorem requests_of_deliver (options : WebhookNotificationOptions ε) (notification : Notification) :
    (deliver options notification).2 = [] ∨
      ∃ request, (deliver options notification).2 = [request] ∧
        Checked options notification request := by
  unfold deliver
  cases hraw : options.destinationLookup notification.tenantId with
  | error rejection => exact .inl rfl
  | ok raw =>
    cases raw with
    | none     => exact .inl rfl
    | some raw =>
      simp only
      split_ifs with hempty
      · exact .inl rfl
      · cases hurl : validateWebhookDestination options.parseUrl raw with
        | error _ => exact .inl rfl
        | ok url  =>
          simp only
          cases haddresses : options.resolveAddresses url.hostname with
          | error _      => exact .inl rfl
          | ok addresses =>
            simp only
            split_ifs with hblocked
            · exact .inl rfl
            · cases hrequest : request options notification url addresses with
              | none         => exact .inl rfl
              | some request =>
                obtain ⟨hlookup, rfl, hhref, hdirect⟩ := request_eq_some hrequest
                rw [not_or] at hblocked
                have hchecked : Checked options notification request := {
                  destination := ⟨raw, url, hraw, hurl, hhref, haddresses⟩
                  resolved    := fun hnil => hblocked.1 (by simp [hnil])
                  admitted    := by simpa [List.any_eq_true] using hblocked.2
                  pinned      := hlookup
                  direct      := hdirect
                }
                refine .inr ⟨request, ?_, hchecked⟩
                simp only
                split <;> rfl

end WebhookNotificationProvider

open WebhookNotificationProvider in
-- A delivery ends with an outcome unless the destination cannot be looked up. It makes at most one
-- request, to addresses that were checked, and the lookup of that request answers with these.
theorem delivery_total_and_pinned {ε : Type} (options : WebhookNotificationOptions ε)
    (notification : Notification) :
    ((∃ outcome, (deliver options notification).1 = .ok outcome) ↔
      ∃ raw, options.destinationLookup notification.tenantId = .ok raw) ∧
    (deliver options notification).2.length ≤ 1 ∧
    ∀ request ∈ (deliver options notification).2,
      (∃ raw url, options.destinationLookup notification.tenantId = .ok (some raw) ∧
        validateWebhookDestination options.parseUrl raw = .ok url ∧ request.url = url.href ∧
        options.resolveAddresses url.hostname = .ok request.addresses) ∧
      request.addresses ≠ [] ∧ (∀ address ∈ request.addresses, isBlockedAddress address = false) ∧
      ∀ hostname lookupOptions,
        (Pinned request.addresses lookupOptions (request.lookup hostname lookupOptions) ↔
          ¬(lookupOptions.all = some true ∧ ∃ wanted, lookupOptions.wanted = some wanted ∧
            ∃ address ∈ request.addresses, addressFamily address ≠ wanted)) := by
  refine ⟨deliver_total, ?_, ?_⟩
  · rcases requests_of_deliver options notification with hnone | ⟨request, hone, -⟩
    · simp [hnone]
    · simp [hone]
  · intro request hrequest
    rcases requests_of_deliver options notification with hnone | ⟨request', hone, hchecked⟩
    · simp [hnone] at hrequest
    · rw [hone, List.mem_singleton] at hrequest
      subst hrequest
      exact ⟨hchecked.destination, hchecked.resolved, hchecked.admitted,
        fun hostname _ => pinned_iff hchecked.pinned hostname⟩

namespace Pilot

open WebhookNotificationProvider

def hooksUrl : Url where
  protocol := "https:"
  username := ""
  password := ""
  port     := ""
  hostname := "hooks.example.com"
  href     := "https://hooks.example.com/x"

-- A provider whose host has an address of each family
def hooksOptions (destination : Except Unit (Option String)) : WebhookNotificationOptions Unit where
  parseUrl          := fun _ => some hooksUrl
  destinationLookup := fun _ => destination
  resolveAddresses  := fun _ => .ok ["2606:4700::1111", "1.1.1.1"]
  fetcher           := fun _ => .ok true
  occurredAt        := .ok "2026-08-03T10:00:00.000Z"

def hooksNotification : Notification where
  kind             := .approvalRequested
  tenantId         := "tenant"
  requestId        := none
  recipientUserIds := []

-- The rejection of the lookup of the destination goes through, and a lookup that is asked for all
-- addresses of one family answers with those of the other as well.
theorem delivery_total_and_pinned_counterexample :
    (deliver (hooksOptions (.error ())) hooksNotification).1 = .error () ∧
    ∃ request ∈ (deliver (hooksOptions (.ok (some "https://hooks.example.com/x")))
        hooksNotification).2,
      ¬Pinned request.addresses { all := some true, family := some 4 }
        (request.lookup "hooks.example.com" { all := some true, family := some 4 }) := by
  refine ⟨rfl, ?_⟩
  have hone : (deliver (hooksOptions (.ok (some "https://hooks.example.com/x")))
      hooksNotification).2.length = 1 := by decide +kernel
  rcases requests_of_deliver (hooksOptions (.ok (some "https://hooks.example.com/x")))
    hooksNotification with hnone | ⟨request, hrequest, hchecked⟩
  · rw [hnone] at hone
    cases hone
  · refine ⟨request, by simp [hrequest], ?_⟩
    obtain ⟨raw, url, -, -, -, haddresses⟩ := hchecked.destination
    have haddresses : ["2606:4700::1111", "1.1.1.1"] = request.addresses :=
      Except.ok.inj haddresses
    rw [pinned_iff hchecked.pinned, not_not]
    exact ⟨rfl, .four, rfl, "2606:4700::1111", by simp [← haddresses], by decide⟩

end Pilot
end RefundDesk
