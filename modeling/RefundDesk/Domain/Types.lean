import Mathlib.Algebra.GroupWithZero.Nat
import Mathlib.Data.String.Defs

namespace RefundDesk

-- Milliseconds since the epoch. Stripe reports seconds.
abbrev Timestamp := Int

def stripeSecond (seconds : Int) : Timestamp :=
  seconds * 1000

inductive WorkflowStatus
  | pendingApproval
  | approved
  | executing
  | reconciliationRequired
  | succeeded
  | failedTerminal
  | rejected
  | canceled
  | expired
  | stale
  deriving DecidableEq, Repr

def WorkflowStatus.text : WorkflowStatus → String
  | pendingApproval        => "pending_approval"
  | approved               => "approved"
  | executing              => "executing"
  | reconciliationRequired => "reconciliation_required"
  | succeeded              => "succeeded"
  | failedTerminal         => "failed_terminal"
  | rejected               => "rejected"
  | canceled               => "canceled"
  | expired                => "expired"
  | stale                  => "stale"

inductive EffectState
  | notStarted
  | possible
  | identified
  | absenceProven
  deriving DecidableEq, Repr

def EffectState.text : EffectState → String
  | notStarted    => "not_started"
  | possible      => "possible"
  | identified    => "identified"
  | absenceProven => "absence_proven"

inductive StripeRefundStatus
  | pending
  | requiresAction
  | succeeded
  | failed
  | canceled
  deriving DecidableEq, Repr

instance lawfulBEqStripeRefundStatus : LawfulBEq (Option StripeRefundStatus) :=
  inferInstance

-- `ABSENCE_PROVING_STRIPE_REFUND_STATUSES`
def StripeRefundStatus.provesAbsence : StripeRefundStatus → Bool
  | failed | canceled                     => true
  | pending | requiresAction | succeeded  => false

inductive StripeEnvironment
  | live
  | test
  | sandbox
  deriving DecidableEq, Repr

def StripeEnvironment.isPilot : StripeEnvironment → Bool
  | test | sandbox => true
  | live           => false

def StripeEnvironment.text : StripeEnvironment → String
  | live    => "live"
  | test    => "test"
  | sandbox => "sandbox"

inductive RefundReason
  | duplicate
  | fraudulent
  | requestedByCustomer
  deriving DecidableEq, Repr

def RefundReason.text : RefundReason → String
  | duplicate           => "duplicate"
  | fraudulent          => "fraudulent"
  | requestedByCustomer => "requested_by_customer"

inductive ResourceType
  | paymentIntent
  | charge
  deriving DecidableEq, Repr

def ResourceType.text : ResourceType → String
  | paymentIntent => "payment_intent"
  | charge        => "charge"

inductive DomainErrorCode
  | duplicateDecision
  | invalidAmount
  | invalidApprovalAttestation
  | invalidCurrency
  | invalidEffectTransition
  | invalidEncryptionKey
  | invalidProof
  | invalidQuorum
  | invalidWorkflowTransition
  | rejectionJustificationRequired
  | requestExpired
  | selfApproval
  deriving DecidableEq, Repr

structure DomainError where
  code    : DomainErrorCode
  message : String
  deriving DecidableEq, Repr

-- The part of an object identifier after the underscore: `[A-Za-z0-9]+`.
def isObjectIdSuffix : List Char → Bool
  | []      => false
  | c :: cs => (c :: cs).all Char.isAlphanum

-- `^re_[A-Za-z0-9]+$`
def isRefundId (id : String) : Bool :=
  match id.toList with
  | 'r' :: 'e' :: '_' :: cs => isObjectIdSuffix cs
  | _                       => false

-- `^pi_[A-Za-z0-9]+$`
def isPaymentIntentId (id : String) : Bool :=
  match id.toList with
  | 'p' :: 'i' :: '_' :: cs => isObjectIdSuffix cs
  | _                       => false

-- `^ch_[A-Za-z0-9]+$`
def isChargeId (id : String) : Bool :=
  match id.toList with
  | 'c' :: 'h' :: '_' :: cs => isObjectIdSuffix cs
  | _                       => false

-- `^evt_[A-Za-z0-9]+$`
def isEventId (id : String) : Bool :=
  match id.toList with
  | 'e' :: 'v' :: 't' :: '_' :: cs => isObjectIdSuffix cs
  | _                              => false

-- `^(pi|ch)_[A-Za-z0-9]+$`
def isPaymentKey (key : String) : Bool :=
  isPaymentIntentId key || isChargeId key

def isHexDigit (c : Char) : Bool :=
  c.isDigit || ('a' ≤ c && c ≤ 'f')

-- The only letter outside ASCII whose lower case is an ASCII letter is the Kelvin sign.
def lowerCaseChar (c : Char) : Char :=
  if c = '\u212A' then 'k' else c.toLower

def lowerCase (s : String) : String :=
  String.ofList (s.toList.map lowerCaseChar)

-- Hexadecimal groups of 8, 4, 4, 4 and 12 digits, separated by hyphens.
def isUuidText (cs : List Char) : Bool :=
  cs.length = 36 &&
  (List.range 36).all fun i =>
    match cs[i]? with
    | none   => false
    | some c => if i = 8 || i = 13 || i = 18 || i = 23 then c = '-' else isHexDigit c

-- `DATABASE_UUID_PATTERN`, which ignores case
def isDatabaseUuid (id : String) : Bool :=
  isUuidText (lowerCase id).toList

-- `^[a-z]{3}$`
def isCurrency (s : String) : Bool :=
  s.toList.length = 3 && s.toList.all fun c => 'a' ≤ c && c ≤ 'z'

-- What `trim` removes at both ends.
def isWhiteSpace (c : Char) : Bool :=
  c ∈ ['\t', '\n', '\x0B', '\x0C', '\r', ' ', '\u00A0', '\uFEFF', '\u1680', '\u2028', '\u2029',
    '\u202F', '\u205F', '\u3000'] || ('\u2000' ≤ c && c ≤ '\u200A')

def trim (s : String) : String :=
  String.ofList ((s.toList.dropWhile isWhiteSpace).reverse.dropWhile isWhiteSpace).reverse

-- `length`, which counts the units of UTF-16
def codeUnits (s : String) : Nat :=
  (s.toList.map fun c => if c.toNat < 0x10000 then 1 else 2).sum

def normalizeCurrency (currency : String) : Except DomainError String :=
  let normalized := lowerCase (trim currency)
  if isCurrency normalized then .ok normalized
  else .error ⟨.invalidCurrency, "Currency must be a three-letter ISO code"⟩

def assertPositiveMinorAmount (amountMinor : Int) : Except DomainError Unit :=
  if amountMinor ≤ 0 then .error ⟨.invalidAmount, "Amount must be positive"⟩ else .ok ()

-- The comparison of two currencies the way the callers write it.
def currenciesAgree (left right : String) : Except DomainError Bool := do
  let left ← normalizeCurrency left
  let right ← normalizeCurrency right
  pure (left = right)

theorem mapError_eq_ok {ε ε' α : Type} {f : ε → ε'} {x : Except ε α} {a : α} :
    x.mapError f = .ok a ↔ x = .ok a := by
  cases x with
  | error error => exact ⟨nofun, nofun⟩
  | ok value    => exact ⟨fun h => congrArg _ (Except.ok.inj h), fun h => congrArg _ (Except.ok.inj h)⟩

theorem forM_eq_ok {α ε : Type} {f : α → Except ε Unit} (as : List α) :
    as.forM f = .ok () ↔ ∀ a ∈ as, f a = .ok () := by
  induction as with
  | nil => simp [List.forM, pure, Except.pure]
  | cons a as ih =>
    rw [List.forall_mem_cons, ← ih]
    cases h : f a <;> simp [List.forM, h, bind, Except.bind]

theorem map_of_mapM {α β γ ε : Type} {f : α → Except ε β} {g : β → γ} {h : α → γ}
    (hf : ∀ a b, f a = .ok b → g b = h a) {as : List α} {bs : List β}
    (hmapM : as.mapM f = .ok bs) : bs.map g = as.map h := by
  induction as generalizing bs with
  | nil =>
    obtain rfl : [] = bs := by simpa [pure, Except.pure] using hmapM
    rfl
  | cons a as ih =>
    rw [List.mapM_cons] at hmapM
    cases hb : f a with
    | error e => simp [hb, bind, Except.bind] at hmapM
    | ok b =>
      cases hrest : as.mapM f with
      | error e => simp [hb, hrest, bind, Except.bind] at hmapM
      | ok rest =>
        obtain rfl : b :: rest = bs := by
          simpa [hb, hrest, bind, Except.bind, pure, Except.pure] using hmapM
        rw [List.map_cons, List.map_cons, hf a b hb, ih hrest]

theorem trim_eq_self {s : String} (h : ∀ c ∈ s.toList, isWhiteSpace c = false) : trim s = s := by
  have hdrop {cs : List Char} (hcs : ∀ c ∈ cs, isWhiteSpace c = false) :
      cs.dropWhile isWhiteSpace = cs := by
    cases cs with
    | nil       => rfl
    | cons c cs => simp [hcs c (by simp)]
  rw [trim, hdrop h, hdrop (by simpa using h), List.reverse_reverse, String.ofList_toList]

theorem lowerCase_eq_self {s : String} (h : ∀ c ∈ s.toList, lowerCaseChar c = c) :
    lowerCase s = s := by
  have hmap : s.toList.map lowerCaseChar = s.toList := by
    simpa using List.map_congr_left h
  rw [lowerCase, hmap, String.ofList_toList]

-- Upper case has the codes from 65 to 90.
theorem lowerCaseChar_eq_self {c : Char} (h : c.toNat < 65 ∨ 90 < c.toNat ∧ c.toNat < 128) :
    lowerCaseChar c = c := by
  have hk : c ≠ '\u212A' := by
    rintro rfl
    exact absurd h (by decide)
  have hupper : ¬(65 ≤ c.val ∧ c.val ≤ 90) := by
    rintro ⟨h₁, h₂⟩
    have h₁ : 65 ≤ c.toNat := h₁
    have h₂ : c.toNat ≤ 90 := h₂
    omega
  simp only [lowerCaseChar, hk, if_false]
  change (if h : 65 ≤ c.val ∧ c.val ≤ 90 then _ else c) = c
  rw [dif_neg hupper]

theorem normalizeCurrency_of_isCurrency {currency : String} (h : isCurrency currency) :
    normalizeCurrency currency = .ok currency := by
  have hletter : ∀ c ∈ currency.toList, 97 ≤ c.toNat ∧ c.toNat ≤ 122 := by
    intro c hc
    have hall := h
    simp only [isCurrency, Bool.and_eq_true, List.all_eq_true, decide_eq_true_eq] at hall
    exact hall.2 c hc
  have hspace : ∀ c ∈ currency.toList, isWhiteSpace c = false := by
    intro c hc
    have hc := hletter c hc
    refine Bool.eq_false_iff.mpr fun hspace => ?_
    simp only [isWhiteSpace, Bool.or_eq_true, Bool.and_eq_true,
      decide_eq_true_eq, List.mem_cons, List.not_mem_nil, or_false] at hspace
    have hrange : c.toNat < 97 ∨ 122 < c.toNat := by
      rcases hspace with h | ⟨h, -⟩
      · rcases h with rfl | rfl | rfl | rfl | rfl | rfl | rfl | rfl | rfl | rfl | rfl | rfl | rfl | rfl
        all_goals decide
      · exact .inr (Nat.lt_of_lt_of_le (by decide) (show '\u2000'.toNat ≤ c.toNat from h))
    omega
  have htrim : trim currency = currency := trim_eq_self hspace
  have hlower : lowerCase currency = currency :=
    lowerCase_eq_self fun c hc => lowerCaseChar_eq_self (by have := hletter c hc; omega)
  simp [normalizeCurrency, htrim, hlower, h]

theorem lowerCase_of_isUuidText {id : String} (h : isUuidText id.toList) : lowerCase id = id := by
  simp only [isUuidText, Bool.and_eq_true, decide_eq_true_eq, List.all_eq_true, List.mem_range] at h
  refine lowerCase_eq_self fun c hc => lowerCaseChar_eq_self ?_
  obtain ⟨i, hi, rfl⟩ := List.mem_iff_getElem.mp hc
  have hdigit := h.2 i (by omega)
  rw [List.getElem?_eq_getElem hi] at hdigit
  generalize id.toList[i] = c at hdigit
  have hcases : c = '-' ∨ isHexDigit c := by grind
  rcases hcases with rfl | hhex
  · decide
  · simp only [isHexDigit, Char.isDigit, Bool.or_eq_true, Bool.and_eq_true, decide_eq_true_eq] at hhex
    rcases hhex with ⟨-, h₂⟩ | ⟨h₁, h₂⟩
    · exact .inl (Nat.lt_of_le_of_lt (show c.toNat ≤ 57 from h₂) (by decide))
    · have h₁ : 97 ≤ c.toNat := h₁
      have h₂ : c.toNat ≤ 102 := h₂
      omega

end RefundDesk
