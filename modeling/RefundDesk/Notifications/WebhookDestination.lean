import Mathlib.Data.List.Infix
import RefundDesk.Domain.Types
import RefundDesk.Library.IpAddress

namespace RefundDesk
namespace WebhookDestination

open IpAddress hiding IsHexDigit

def maximumDestinationLength : Nat := 2048

def privateHostSuffixes : List String :=
  [".local", ".localhost", ".internal", ".intranet", ".home.arpa"]

def privateHostNames : List String := ["localhost"]

-- `^\d{1,3}$`
def isShortNumber (part : List Char) : Bool :=
  Decimal.IsDigits part ∧ part ≠ [] ∧ part.length ≤ 3

def parseOctet (part : List Char) : Option Nat :=
  if isShortNumber part = false then none
  else if 255 < Decimal.value part then none
  else some (Decimal.value part)

def parseIpv4 (value : List Char) : Option (List Nat) :=
  match value.splitOn '.' with
  | [a, b, c, d] => do
    let a ← parseOctet a
    let b ← parseOctet b
    let c ← parseOctet c
    let d ← parseOctet d
    pure [a, b, c, d]
  | _ => none

def isBlockedIpv4 (octets : List Nat) : Bool :=
  let a := octets.getD 0 0
  let b := octets.getD 1 0
  a = 0 ||
  a = 10 ||
  a = 127 ||
  (a = 100 && 64 ≤ b && b ≤ 127) ||
  (a = 169 && b = 254) ||
  (a = 172 && 16 ≤ b && b ≤ 31) ||
  (a = 192 && b = 0) ||
  (a = 192 && b = 168) ||
  (a = 198 && 18 ≤ b && b ≤ 19) ||
  224 ≤ a

def stripBrackets (value : List Char) : List Char :=
  let value := if value.head? = some '[' then value.tail else value
  if value.getLast? = some ']' then value.dropLast else value

def normalizeIpv6 (value : List Char) : List Char :=
  (stripBrackets value).map lowerCaseChar

-- `\d{1,3}(?:\.\d{1,3}){3}`
def isDottedQuad (text : List Char) : Bool :=
  let parts := text.splitOn '.'
  parts.length = 4 && parts.all isShortNumber

-- The match at the end of the text, which is the longest one
def mappedMatch (candidate : List Char) : Option (List Char) :=
  candidate.tails.find? isDottedQuad

-- A text that starts with a character of each of the classes
def startsWith : List (Char → Bool) → List Char → Bool
  | [], _                             => true
  | _ :: _, []                        => false
  | isMember :: classes, c :: candidate => isMember c && startsWith classes candidate

-- `^f[cd][0-9a-f]{2}:`
def uniqueLocal : List (Char → Bool) :=
  [(· = 'f'), (· ∈ ['c', 'd']), isHexDigit, isHexDigit, (· = ':')]

-- `^fe[89ab][0-9a-f]:`
def linkLocal : List (Char → Bool) :=
  [(· = 'f'), (· = 'e'), (· ∈ ['8', '9', 'a', 'b']), isHexDigit, (· = ':')]

-- `^ff[0-9a-f]{2}:`
def multicast : List (Char → Bool) :=
  [(· = 'f'), (· = 'f'), isHexDigit, isHexDigit, (· = ':')]

def isBlockedAddress (address : String) : Bool :=
  let candidate := normalizeIpv6 (trim address).toList
  if candidate = [] then
    true
  else
    match parseIpv4 candidate with
    | some octets => isBlockedIpv4 octets
    | none        =>
      if ':' ∉ candidate then
        true
      else
        match mappedMatch candidate with
        | some embedded =>
          match parseIpv4 embedded with
          | none        => true
          | some octets => isBlockedIpv4 octets
        | none =>
          if candidate.any fun c => !(isHexDigit c || c = ':') then true
          else if candidate = "::".toList ∨ candidate = "::1".toList then true
          else
            startsWith uniqueLocal candidate || startsWith linkLocal candidate ||
              startsWith multicast candidate

def isAddressLiteral (hostname : String) : Bool :=
  hostname.toList.head? = some '[' || (parseIpv4 hostname.toList).isSome

def isPrivateHostname (hostname : String) : Bool :=
  let host := lowerCase hostname
  host ∈ privateHostNames ||
    privateHostSuffixes.any fun suffix => suffix.toList.isSuffixOf host.toList

structure Url where
  protocol : String
  username : String
  password : String
  port     : String
  hostname : String
  href     : String
  deriving DecidableEq, Repr

-- `parseUrl` is the constructor of `URL`, which throws on a text that is not a URL.
def validateWebhookDestination (parseUrl : String → Option Url) (raw : String) :
    Except String Url :=
  let candidate := trim raw
  if codeUnits candidate = 0 then
    .error "Enter a valid HTTPS webhook address."
  else if maximumDestinationLength < codeUnits candidate then
    .error "The webhook address is too long."
  else
    match parseUrl candidate with
    | none     => .error "Enter a valid HTTPS webhook address."
    | some url =>
      if url.protocol ≠ "https:" then
        .error "The webhook address must use HTTPS."
      else if 0 < codeUnits url.username ∨ 0 < codeUnits url.password then
        .error "The webhook address must not contain credentials."
      else if 0 < codeUnits url.port ∧ url.port ≠ "443" then
        .error "The webhook address must use the default HTTPS port."
      else if isPrivateHostname url.hostname then
        .error "The webhook address must be a public internet address."
      else if isAddressLiteral url.hostname ∧ isBlockedAddress url.hostname then
        .error "The webhook address must be a public internet address."
      else
        .ok url

section Octets

variable {part text : List Char} {octets : List Nat}

theorem isShortNumber_iff :
    isShortNumber part = true ↔ Decimal.IsDigits part ∧ part ≠ [] ∧ part.length ≤ 3 := by
  simp only [isShortNumber, decide_eq_true_eq]

theorem parseOctet_eq_some_iff {n : Nat} :
    parseOctet part = some n ↔ IsOctet part ∧ Decimal.value part = n := by
  constructor
  · intro h
    unfold parseOctet at h
    split_ifs at h with hshort hbound
    have hshort := isShortNumber_iff.mp (by simpa using hshort)
    exact ⟨⟨hshort.1, hshort.2.1, hshort.2.2, by omega⟩, Option.some.inj h⟩
  · rintro ⟨h, rfl⟩
    have hshort := isShortNumber_iff.mpr ⟨h.digits, h.ne_nil, h.short⟩
    have hbound := h.bound
    unfold parseOctet
    rw [hshort, if_neg (by decide), if_neg (by omega)]

theorem split_dotted {a b c d : List Char} (ha : IsOctet a) (hb : IsOctet b) (hc : IsOctet c)
    (hd : IsOctet d) : (join '.' [a, b, c, d]).splitOn '.' = [a, b, c, d] := by
  apply split_join (by simp)
  simp only [List.forall_mem_cons]
  exact ⟨ha.not_mem (by simp), hb.not_mem (by simp), hc.not_mem (by simp), hd.not_mem (by simp),
    by simp⟩

theorem parseIpv4_eq (h : Ipv4 IsOctet text octets) : parseIpv4 text = some octets := by
  cases h with
  | dotted ha hb hc hd =>
    have hparse {part : List Char} (h : IsOctet part) :
        parseOctet part = some (Decimal.value part) :=
      parseOctet_eq_some_iff.mpr ⟨h, rfl⟩
    simp [parseIpv4, split_dotted ha hb hc hd, hparse ha, hparse hb, hparse hc, hparse hd]

theorem ipv4_of_parseIpv4 (h : parseIpv4 text = some octets) : Ipv4 IsOctet text octets := by
  unfold parseIpv4 at h
  split at h
  case h_1 a b c d hsplit =>
    simp only [Option.bind_eq_bind, Option.bind_eq_some_iff, parseOctet_eq_some_iff,
      Option.pure_def, Option.some_inj] at h
    obtain ⟨_, ⟨ha, rfl⟩, _, ⟨hb, rfl⟩, _, ⟨hc, rfl⟩, _, ⟨hd, rfl⟩, rfl⟩ := h
    have htext : join '.' [a, b, c, d] = text := by
      rw [← hsplit]
      exact List.intercalate_splitOn '.'
    rw [← htext]
    exact .dotted ha hb hc hd
  case h_2 => cases h

theorem parseIpv4_of_colon (h : ':' ∈ text) : parseIpv4 text = none := by
  cases hparse : parseIpv4 text with
  | none        => rfl
  | some octets =>
    exact absurd h ((ipv4_of_parseIpv4 hparse).not_mem (fun _ h => h) (by simp))

-- A dotted quad has digits and points only.
theorem isDottedQuad_shape (h : isDottedQuad text = true) : ':' ∉ text ∧ '.' ∈ text := by
  simp only [isDottedQuad, Bool.and_eq_true, decide_eq_true_eq, List.all_eq_true] at h
  have htext : join '.' (text.splitOn '.') = text := List.intercalate_splitOn '.'
  constructor
  · intro hmem
    rw [← htext] at hmem
    rcases mem_join hmem with hcolon | ⟨part, hpart, hc⟩
    · exact absurd hcolon (by decide)
    · have hdigit := (isShortNumber_iff.mp (h.2 part hpart)).1 ':' hc
      exact absurd hdigit (by decide)
  · match hsplit : text.splitOn '.', h.1 with
    | [_, _, _, _], _ =>
      rw [← htext, hsplit]
      simp [join_cons_cons]

theorem isDottedQuad_of_ipv4 (h : Ipv4 IsOctet text octets) : isDottedQuad text = true := by
  cases h with
  | dotted ha hb hc hd =>
    have hshort {part : List Char} (h : IsOctet part) : isShortNumber part = true :=
      isShortNumber_iff.mpr ⟨h.digits, h.ne_nil, h.short⟩
    simp [isDottedQuad, split_dotted ha hb hc hd, hshort ha, hshort hb, hshort hc, hshort hd]

-- The match does not go beyond the last colon.
theorem mappedMatch_dotted (front : List Char) (h : Ipv4 IsOctet text octets) :
    mappedMatch (front ++ ':' :: text) = some text := by
  have hcolon {cs : List Char} (h : ':' ∈ cs) : ¬isDottedQuad cs = true :=
    fun hquad => (isDottedQuad_shape hquad).1 h
  unfold mappedMatch
  induction front with
  | nil =>
    have hself : (text.tails).find? isDottedQuad = some text := by
      cases text with
      | nil        => exact absurd rfl (h.shape fun _ h => h).2.2
      | cons c cs => rw [List.tails_cons, List.find?_cons_of_pos (isDottedQuad_of_ipv4 h)]
    rw [List.nil_append, List.tails_cons, List.find?_cons_of_neg (hcolon (by simp)), hself]
  | cons c front ih =>
    rw [List.cons_append, List.tails_cons, List.find?_cons_of_neg (hcolon (by simp)), ih]

theorem mappedMatch_hex (h : '.' ∉ text) : mappedMatch text = none := by
  unfold mappedMatch
  rw [List.find?_eq_none]
  intro part hpart hquad
  have hsuffix := (List.mem_tails _ _).mp hpart
  exact h (hsuffix.mem (isDottedQuad_shape hquad).2)

end Octets

section Case

theorem ascii_of_isHexDigit {c : Char} (h : IpAddress.IsHexDigit c) : c.toNat < 128 := by
  have hle {c c' : Char} (h : c ≤ c') : c.toNat ≤ c'.toNat := h
  rcases h with hdigit | ⟨-, hlower⟩ | ⟨-, hupper⟩
  · exact (Decimal.toNat_of_isDigit hdigit).2.trans_lt (by decide)
  · exact (hle hlower).trans_lt (by decide)
  · exact (hle hupper).trans_lt (by decide)

theorem ofNat_of_isHexDigit {P : Char → Prop}
    (h : ∀ n < 128, IpAddress.IsHexDigit (Char.ofNat n) → P (Char.ofNat n)) {c : Char}
    (hc : IpAddress.IsHexDigit c) : P c := by
  have hascii := h c.toNat (ascii_of_isHexDigit hc)
  rw [Char.ofNat_toNat] at hascii
  exact hascii hc

theorem lowerCaseChar_hex {c : Char} (hc : IpAddress.IsHexDigit c) :
    isHexDigit (lowerCaseChar c) = true ∧ IpAddress.IsHexDigit (lowerCaseChar c) ∧
      hexDigit (lowerCaseChar c) = hexDigit c ∧ isWhiteSpace c = false ∧ c ≠ '[' ∧ c ≠ ']' ∧
      (c.isDigit → lowerCaseChar c = c) := by
  refine ofNat_of_isHexDigit (P := fun c => isHexDigit (lowerCaseChar c) = true ∧
    IpAddress.IsHexDigit (lowerCaseChar c) ∧ hexDigit (lowerCaseChar c) = hexDigit c ∧
    isWhiteSpace c = false ∧ c ≠ '[' ∧ c ≠ ']' ∧ (c.isDigit → lowerCaseChar c = c)) ?_ hc
  decide +kernel

theorem keepsDigits_lowerCaseChar : KeepsDigits lowerCaseChar where
  hex       := fun c hc => ⟨(lowerCaseChar_hex hc).2.1, (lowerCaseChar_hex hc).2.2.1⟩
  digit     := fun c hc => (lowerCaseChar_hex (.inl hc)).2.2.2.2.2.2 hc
  separator := by decide

end Case

section Candidate

variable {text : List Char} {groups : List Nat}

theorem stripBrackets_eq (h : ∀ c ∈ text, c ≠ '[' ∧ c ≠ ']') : stripBrackets text = text := by
  have hhead : text.head? ≠ some '[' :=
    fun hhead => (h '[' (List.mem_of_mem_head? hhead)).1 rfl
  have hlast : text.getLast? ≠ some ']' :=
    fun hlast => (h ']' (List.mem_of_mem_getLast? hlast)).2 rfl
  unfold stripBrackets
  rw [if_neg hhead, if_neg hlast]

theorem stripBrackets_brackets : stripBrackets ('[' :: text ++ [']']) = text := by
  simp [stripBrackets]

-- The characters of an address, in lower case
def AddressText (text : List Char) : Prop :=
  ∀ c ∈ text, IpAddress.IsHexDigit c ∨ c = ':' ∨ c = '.'

theorem AddressText.plain (h : AddressText text) :
    ∀ c ∈ text, isWhiteSpace c = false ∧ c ≠ '[' ∧ c ≠ ']' := by
  intro c hc
  rcases h c hc with hhex | rfl | rfl
  · have hdigit := lowerCaseChar_hex hhex
    exact ⟨hdigit.2.2.2.1, hdigit.2.2.2.2.1, hdigit.2.2.2.2.2.1⟩
  · decide
  · decide

theorem AddressText.candidate (h : AddressText text) :
    normalizeIpv6 (trim (String.ofList text)).toList = text.map lowerCaseChar := by
  have hspace : ∀ c ∈ (String.ofList text).toList, isWhiteSpace c = false := by
    rw [String.toList_ofList]
    exact fun c hc => (h.plain c hc).1
  rw [trim_eq_self hspace, String.toList_ofList, normalizeIpv6,
    stripBrackets_eq fun c hc => (h.plain c hc).2]

-- The brackets of a host are not part of its address.
theorem AddressText.isBlockedAddress_brackets (h : AddressText text) :
    isBlockedAddress (String.ofList ('[' :: text ++ [']'])) =
      isBlockedAddress (String.ofList text) := by
  have hspace : ∀ c ∈ (String.ofList ('[' :: text ++ [']'])).toList, isWhiteSpace c = false := by
    intro c hc
    simp only [String.toList_ofList, List.mem_append, List.mem_cons, List.not_mem_nil,
      or_false] at hc
    rcases hc with (rfl | hc) | rfl
    · decide
    · exact (h.plain c hc).1
    · decide
  have hcandidate : normalizeIpv6 (trim (String.ofList ('[' :: text ++ [']']))).toList =
      normalizeIpv6 (trim (String.ofList text)).toList := by
    rw [h.candidate, trim_eq_self hspace, String.toList_ofList, normalizeIpv6,
      stripBrackets_brackets]
  unfold isBlockedAddress
  rw [hcandidate]

end Candidate

section Ranges

variable {a b c d : Char} {part rest candidate : List Char} {p q r s : Char → Bool}

theorem ascii_of_lower {P : Char → Prop}
    (h : ∀ n < 128, isHexDigit (Char.ofNat n) → P (Char.ofNat n)) {c : Char}
    (hc : isHexDigit c = true) : P c := by
  have hlt : c.toNat < 128 := by
    apply ascii_of_isHexDigit
    simp only [isHexDigit, Bool.or_eq_true, Bool.and_eq_true, decide_eq_true_eq] at hc
    exact hc.imp id .inl
  have hascii := h c.toNat hlt
  rw [Char.ofNat_toNat] at hascii
  exact hascii hc

theorem lower_digit (hc : isHexDigit c = true) :
    hexDigit c < 16 ∧ (c = 'f' ↔ hexDigit c = 15) ∧ (c = 'e' ↔ hexDigit c = 14) ∧
      (c ∈ ['c', 'd'] ↔ hexDigit c / 2 = 6) ∧
      (c ∈ ['8', '9', 'a', 'b'] ↔ hexDigit c / 4 = 2) := by
  refine ascii_of_lower (P := fun c => hexDigit c < 16 ∧ (c = 'f' ↔ hexDigit c = 15) ∧
    (c = 'e' ↔ hexDigit c = 14) ∧ (c ∈ ['c', 'd'] ↔ hexDigit c / 2 = 6) ∧
    (c ∈ ['8', '9', 'a', 'b'] ↔ hexDigit c / 4 = 2)) ?_ hc
  decide +kernel

theorem hexValue_four :
    hexValue [a, b, c, d] = 4096 * hexDigit a + 256 * hexDigit b + 16 * hexDigit c + hexDigit d := by
  simp only [hexValue, List.foldl_cons, List.foldl_nil]
  omega

-- Four classes that do not have the colon need a group of four digits.
theorem startsWith_group (hgroup : IsGroup part) (hq : q ':' = false) (hr : r ':' = false)
    (hs : s ':' = false) :
    startsWith [p, q, r, s, (· = ':')] (part ++ ':' :: rest) = true ↔
      ∃ a b c d, part = [a, b, c, d] ∧ p a ∧ q b ∧ r c ∧ s d := by
  match part, hgroup.ne_nil, hgroup.short with
  | [a], _, _       => simp [startsWith, hq]
  | [a, b], _, _    => simp [startsWith, hr]
  | [a, b, c], _, _ => simp [startsWith, hs]
  | [a, b, c, d], _, _ =>
    constructor
    · intro h
      simp only [List.cons_append, List.nil_append, startsWith, Bool.and_eq_true] at h
      exact ⟨a, b, c, d, rfl, h.1, h.2.1, h.2.2.1, h.2.2.2.1⟩
    · rintro ⟨a', b', c', d', hpart, ha, hb, hc, hd⟩
      cases hpart
      simp [startsWith, ha, hb, hc, hd]

theorem isHexDigit_colon : isHexDigit ':' = false := by decide

theorem hexValue_short (hgroup : IsGroup part) (hlt : part.length < 4) : hexValue part < 4096 := by
  have hpow : 16 ^ part.length ≤ 16 ^ 3 := Nat.pow_le_pow_right (by decide) (by omega)
  exact (hexValue_lt hgroup.digits).trans_le hpow

theorem four_digits (hgroup : IsGroup part) (h : 4096 ≤ hexValue part) :
    ∃ a b c d, part = [a, b, c, d] := by
  have hlength : part.length = 4 := by
    have hshort := hgroup.short
    by_contra hne
    have hlt := hexValue_short hgroup (by omega)
    omega
  match part, hlength with
  | [a, b, c, d], _ => exact ⟨a, b, c, d, rfl⟩

-- The prefixes that the patterns describe, with seven, ten and eight bits
theorem startsWith_uniqueLocal (hgroup : IsGroup part) (hlower : ∀ c ∈ part, isHexDigit c = true) :
    startsWith uniqueLocal (part ++ ':' :: rest) = true ↔ hexValue part / 512 = 126 := by
  rw [uniqueLocal, startsWith_group hgroup (by decide) isHexDigit_colon isHexDigit_colon]
  constructor
  · rintro ⟨a, b, c, d, rfl, ha, hb, -, -⟩
    simp only [List.forall_mem_cons] at hlower
    have ha := (lower_digit hlower.1).2.1.mp (by simpa using ha)
    have hb := (lower_digit hlower.2.1).2.2.2.1.mp (by simpa using hb)
    have hc := (lower_digit hlower.2.2.1).1
    have hd := (lower_digit hlower.2.2.2.1).1
    rw [hexValue_four]
    omega
  · intro hvalue
    obtain ⟨a, b, c, d, rfl⟩ := four_digits hgroup (by omega)
    simp only [List.forall_mem_cons] at hlower
    have ha := lower_digit hlower.1
    have hb := lower_digit hlower.2.1
    have hc := (lower_digit hlower.2.2.1).1
    have hd := (lower_digit hlower.2.2.2.1).1
    rw [hexValue_four] at hvalue
    have ha' := ha.2.1.mpr (by omega)
    have hb' := hb.2.2.2.1.mpr (by omega)
    exact ⟨a, b, c, d, rfl, by simpa using ha', by simpa using hb', hlower.2.2.1, hlower.2.2.2.1⟩

theorem startsWith_linkLocal (hgroup : IsGroup part) (hlower : ∀ c ∈ part, isHexDigit c = true) :
    startsWith linkLocal (part ++ ':' :: rest) = true ↔ hexValue part / 64 = 1018 := by
  rw [linkLocal, startsWith_group hgroup (by decide) (by decide) isHexDigit_colon]
  constructor
  · rintro ⟨a, b, c, d, rfl, ha, hb, hc, -⟩
    simp only [List.forall_mem_cons] at hlower
    have ha := (lower_digit hlower.1).2.1.mp (by simpa using ha)
    have hb := (lower_digit hlower.2.1).2.2.1.mp (by simpa using hb)
    have hc := (lower_digit hlower.2.2.1).2.2.2.2.mp (by simpa using hc)
    have hd := (lower_digit hlower.2.2.2.1).1
    rw [hexValue_four]
    omega
  · intro hvalue
    obtain ⟨a, b, c, d, rfl⟩ := four_digits hgroup (by omega)
    simp only [List.forall_mem_cons] at hlower
    have ha := lower_digit hlower.1
    have hb := lower_digit hlower.2.1
    have hc := lower_digit hlower.2.2.1
    have hd := (lower_digit hlower.2.2.2.1).1
    rw [hexValue_four] at hvalue
    have ha' := ha.2.1.mpr (by omega)
    have hb' := hb.2.2.1.mpr (by omega)
    have hc' := hc.2.2.2.2.mpr (by omega)
    exact ⟨a, b, c, d, rfl, by simpa using ha', by simpa using hb', by simpa using hc',
      hlower.2.2.2.1⟩

theorem startsWith_multicast (hgroup : IsGroup part) (hlower : ∀ c ∈ part, isHexDigit c = true) :
    startsWith multicast (part ++ ':' :: rest) = true ↔ hexValue part / 256 = 255 := by
  rw [multicast, startsWith_group hgroup (by decide) isHexDigit_colon isHexDigit_colon]
  constructor
  · rintro ⟨a, b, c, d, rfl, ha, hb, -, -⟩
    simp only [List.forall_mem_cons] at hlower
    have ha := (lower_digit hlower.1).2.1.mp (by simpa using ha)
    have hb := (lower_digit hlower.2.1).2.1.mp (by simpa using hb)
    have hc := (lower_digit hlower.2.2.1).1
    have hd := (lower_digit hlower.2.2.2.1).1
    rw [hexValue_four]
    omega
  · intro hvalue
    obtain ⟨a, b, c, d, rfl⟩ := four_digits hgroup (by omega)
    simp only [List.forall_mem_cons] at hlower
    have ha := lower_digit hlower.1
    have hb := lower_digit hlower.2.1
    have hc := (lower_digit hlower.2.2.1).1
    have hd := (lower_digit hlower.2.2.2.1).1
    rw [hexValue_four] at hvalue
    have ha' := ha.2.1.mpr (by omega)
    have hb' := hb.2.1.mpr (by omega)
    exact ⟨a, b, c, d, rfl, by simpa using ha', by simpa using hb', hlower.2.2.1, hlower.2.2.2.1⟩

end Ranges

-- The values of addresses: four octets, or eight groups of sixteen bits.
inductive Address
  | v4 (octets : List Nat)
  | v6 (groups : List Nat)
  deriving DecidableEq, Repr

namespace Address

-- The octets of the last two groups
def tailOctets (groups : List Nat) : List Nat :=
  (groups.drop 6).flatMap fun group => [group / 256, group % 256]

-- `::ffff:0:0/96` and `::/96`
def IsEmbedded (groups : List Nat) : Prop :=
  groups.take 5 = [0, 0, 0, 0, 0] ∧ (groups.getD 5 0 = 0xffff ∨ groups.getD 5 0 = 0)

instance (groups : List Nat) : Decidable (IsEmbedded groups) :=
  inferInstanceAs (Decidable (_ ∧ _))

-- `fc00::/7`, `fe80::/10` and `ff00::/8`
def HasInternalPrefix (groups : List Nat) : Prop :=
  groups.getD 0 0 / 512 = 126 ∨ groups.getD 0 0 / 64 = 1018 ∨ groups.getD 0 0 / 256 = 255

instance (groups : List Nat) : Decidable (HasInternalPrefix groups) :=
  inferInstanceAs (Decidable (_ ∨ _))

-- The verdict on the value of an address
def verdict : Address → Bool
  | v4 octets => isBlockedIpv4 octets
  | v6 groups =>
    if IsEmbedded groups then isBlockedIpv4 (tailOctets groups) else HasInternalPrefix groups

-- The unspecified, loopback, private, carrier-grade NAT, link-local, unique-local and multicast
-- addresses
inductive Internal : Address → Prop
  | unspecified : Internal (v4 [0, 0, 0, 0])
  | loopback {b c d : Nat} : Internal (v4 [127, b, c, d])
  | private10 {b c d : Nat} : Internal (v4 [10, b, c, d])
  | private172 {b c d : Nat} : 16 ≤ b → b ≤ 31 → Internal (v4 [172, b, c, d])
  | private192 {c d : Nat} : Internal (v4 [192, 168, c, d])
  | carrierGrade {b c d : Nat} : 64 ≤ b → b ≤ 127 → Internal (v4 [100, b, c, d])
  | linkLocal {c d : Nat} : Internal (v4 [169, 254, c, d])
  | multicast {a b c d : Nat} : 224 ≤ a → a ≤ 239 → Internal (v4 [a, b, c, d])
  | unspecified6 : Internal (v6 [0, 0, 0, 0, 0, 0, 0, 0])
  | loopback6 : Internal (v6 [0, 0, 0, 0, 0, 0, 0, 1])
  | prefix6 {groups : List Nat} : HasInternalPrefix groups → Internal (v6 groups)

theorem tailOctets_append {groups : List Nat} {a b c d : Nat} (hlength : groups.length = 6)
    (hb : b < 256) (hd : d < 256) :
    tailOctets (groups ++ [256 * a + b, 256 * c + d]) = [a, b, c, d] := by
  have hhigh {n m : Nat} (h : m < 256) : (256 * n + m) / 256 = n := by omega
  have hlow {n m : Nat} (h : m < 256) : (256 * n + m) % 256 = m := by omega
  rw [tailOctets, List.drop_left' hlength]
  simp only [List.flatMap_cons, List.flatMap_nil, hhigh hb, hlow hb, hhigh hd, hlow hd]
  rfl

theorem HasInternalPrefix.not_isEmbedded {groups : List Nat} (h : HasInternalPrefix groups) :
    ¬IsEmbedded groups := by
  rintro ⟨hzeros, -⟩
  have hfirst : groups.getD 0 0 = 0 := by
    match groups, hzeros with
    | first :: rest, hzeros =>
      rw [List.take_succ_cons] at hzeros
      exact (List.cons.inj hzeros).1
  unfold HasInternalPrefix at h
  omega

theorem Internal.verdict {address : Address} (h : Internal address) : address.verdict = true := by
  cases h with
  | prefix6 h => simp [Address.verdict, h.not_isEmbedded, h]
  | unspecified6 => decide
  | loopback6 => decide
  | _ => simp [Address.verdict, isBlockedIpv4, *]

end Address

-- A text in one of the forms of an address
inductive Denotes : String → Address → Prop
  | v4 {text : String} {octets : List Nat} :
    Ipv4 IsOctet text.toList octets → Denotes text (.v4 octets)
  | v6 {text : String} {groups : List Nat} :
    Ipv6 IsOctet text.toList groups → Denotes text (.v6 groups)

-- When the patterns give the verdict on the address that a text denotes. With a point they judge
-- the octets at the end, and without one they find no embedded address except `::` and `::1`.
def Judged (text : String) : Address → Prop
  | .v4 _      => True
  | .v6 groups =>
    if '.' ∈ text.toList then
      Address.IsEmbedded groups ∨
        decide (Address.HasInternalPrefix groups) = isBlockedIpv4 (Address.tailOctets groups)
    else
      ¬Address.IsEmbedded groups ∨ isBlockedIpv4 (Address.tailOctets groups) = false ∨
        text = "::" ∨ text = "::1"

instance (text : String) : (address : Address) → Decidable (Judged text address)
  | .v4 _      => inferInstanceAs (Decidable True)
  | .v6 groups => inferInstanceAs (Decidable (if '.' ∈ text.toList then
      Address.IsEmbedded groups ∨
        decide (Address.HasInternalPrefix groups) = isBlockedIpv4 (Address.tailOctets groups)
    else
      ¬Address.IsEmbedded groups ∨ isBlockedIpv4 (Address.tailOctets groups) = false ∨
        text = "::" ∨ text = "::1"))

section Verdicts

variable {text : String} {address : Address} {octets groups : List Nat}

theorem isBlockedAddress_ipv4 (h : Ipv4 IsOctet text.toList octets) :
    isBlockedAddress text = isBlockedIpv4 octets := by
  have hplain : AddressText text.toList := by
    intro c hc
    rcases (h.shape fun _ h => h).1 c hc with hdigit | hpoint
    · exact .inl (.inl hdigit)
    · exact .inr (.inr hpoint)
  have hcandidate : normalizeIpv6 (trim text).toList = text.toList := by
    have hnormal := hplain.candidate
    rwa [String.ofList_toList, h.map keepsDigits_lowerCaseChar fun _ h => h] at hnormal
  unfold isBlockedAddress
  simp only [hcandidate, if_neg (h.shape fun _ h => h).2.2, parseIpv4_eq h]

theorem mem_map_lowerCaseChar {text : List Char} (h : AddressText text) :
    '.' ∈ text.map lowerCaseChar ↔ '.' ∈ text := by
  constructor
  · intro hmem
    obtain ⟨c, hc, hlower⟩ := List.mem_map.mp hmem
    rcases h c hc with hhex | rfl | rfl
    · have hdigit := (lowerCaseChar_hex hhex).1
      rw [hlower] at hdigit
      exact absurd hdigit (by decide)
    · exact absurd hlower (by decide)
    · exact hc
  · intro hmem
    exact List.mem_map.mpr ⟨'.', hmem, by decide⟩

theorem map_lowerCaseChar_eq_special {text : List Char} (h : AddressText text) {special : String}
    (hmem : special ∈ ["::", "::1"]) :
    text.map lowerCaseChar = special.toList ↔ text = special.toList := by
  have hspecial : ∀ c ∈ special.toList, c = ':' ∨ c = '1' := by
    simp only [List.mem_cons, List.not_mem_nil, or_false] at hmem
    rcases hmem with rfl | rfl <;> decide
  constructor
  · intro heq
    have hfixed : ∀ c ∈ text, lowerCaseChar c = c := by
      intro c hc
      have hlower := hspecial (lowerCaseChar c) (heq ▸ List.mem_map_of_mem hc)
      rcases h c hc with hhex | rfl | rfl
      · refine ofNat_of_isHexDigit (P := fun c => lowerCaseChar c = ':' ∨ lowerCaseChar c = '1' →
          lowerCaseChar c = c) ?_ hhex hlower
        decide +kernel
      · decide
      · decide
    rw [← heq]
    simpa using (List.map_congr_left hfixed).symm
  · rintro rfl
    simp only [List.mem_cons, List.not_mem_nil, or_false] at hmem
    rcases hmem with rfl | rfl <;> decide

-- The text of an IPv6 address is judged in lower case.
theorem candidate_ipv6 (h : Ipv6 IsOctet text.toList groups) :
    ∃ candidate, normalizeIpv6 (trim text).toList = candidate ∧
      candidate = text.toList.map lowerCaseChar ∧ Ipv6 IsOctet candidate groups ∧
      ('.' ∈ candidate ↔ '.' ∈ text.toList) := by
  have hplain : AddressText text.toList := h.chars fun _ h => h
  have hnormal := hplain.candidate
  rw [String.ofList_toList] at hnormal
  exact ⟨_, hnormal, rfl, h.map keepsDigits_lowerCaseChar fun _ h => h,
    mem_map_lowerCaseChar hplain⟩

theorem isBlockedAddress_dotted (h : Ipv6 IsOctet text.toList groups) (hpoint : '.' ∈ text.toList) :
    isBlockedAddress text = isBlockedIpv4 (Address.tailOctets groups) := by
  obtain ⟨candidate, hnormal, -, hcandidate, hpoints⟩ := candidate_ipv6 h
  have hcolon := (hcandidate.shape fun _ h => h).1
  obtain ⟨front, part, groups', a, b, c, d, htext, hdotted, hgroups⟩ :=
    hcandidate.dotted_tail (hpoints.mpr hpoint)
  have hne : candidate ≠ [] := List.ne_nil_of_mem hcolon
  have hmapped : mappedMatch candidate = some part := by
    rw [htext]
    exact mappedMatch_dotted front hdotted
  have htail : Address.tailOctets groups = [a, b, c, d] := by
    have hbound := hdotted.lt fun _ h => h
    simp only [List.forall_mem_cons] at hbound
    have hlength := hcandidate.length
    rw [hgroups, List.length_append] at hlength
    rw [hgroups]
    exact Address.tailOctets_append (by simpa using hlength) hbound.2.1 hbound.2.2.2.1
  unfold isBlockedAddress
  rw [hnormal, if_neg hne, parseIpv4_of_colon hcolon]
  simp only [if_neg (not_not_intro hcolon), hmapped, parseIpv4_eq hdotted, htail]

theorem isBlockedAddress_hex (h : Ipv6 IsOctet text.toList groups) (hpoint : '.' ∉ text.toList) :
    isBlockedAddress text = true ↔
      text = "::" ∨ text = "::1" ∨ Address.HasInternalPrefix groups := by
  obtain ⟨candidate, hnormal, hlower, hcandidate, hpoints⟩ := candidate_ipv6 h
  have hcolon := (hcandidate.shape fun _ h => h).1
  have hne : candidate ≠ [] := List.ne_nil_of_mem hcolon
  have hpoint' : '.' ∉ candidate := fun hmem => hpoint (hpoints.mp hmem)
  have hcharacter : ∀ c ∈ candidate, isHexDigit c = true ∨ c = ':' := by
    intro c' hc'
    rw [hlower] at hc'
    obtain ⟨c, hc, rfl⟩ := List.mem_map.mp hc'
    rcases (h.hex_head (fun _ h => h) hpoint).1 c hc with hhex | rfl
    · exact .inl (lowerCaseChar_hex hhex).1
    · exact .inr (by decide)
  have hall : candidate.any (fun c => !(isHexDigit c || c = ':')) = false := by
    simp only [List.any_eq_false, Bool.not_eq_true', Bool.or_eq_false_iff, decide_eq_false_iff_not,
      not_and_or, not_not, Bool.not_eq_false]
    exact hcharacter
  have hspecial (special : String) (hmem : special ∈ ["::", "::1"]) :
      candidate = special.toList ↔ text = special := by
    rw [hlower, map_lowerCaseChar_eq_special (h.chars fun _ h => h) hmem, String.toList_inj]
  have hinternal : (startsWith uniqueLocal candidate || startsWith linkLocal candidate ||
      startsWith multicast candidate) = true ↔ Address.HasInternalPrefix groups := by
    rcases (hcandidate.hex_head (fun _ h => h) hpoint').2 with
      ⟨part, rest, groups', hgroup, htext, rfl⟩ | ⟨hhead, groups', rfl⟩
    · have hpart : ∀ c ∈ part, isHexDigit c = true := by
        intro c hc
        rcases hcharacter c (by rw [htext]; exact List.mem_append_left _ hc) with hhex | rfl
        · exact hhex
        · exact absurd hc (hgroup.not_mem (by simp))
      rw [htext, Bool.or_eq_true, Bool.or_eq_true, startsWith_uniqueLocal hgroup hpart,
        startsWith_linkLocal hgroup hpart, startsWith_multicast hgroup hpart, or_assoc]
      rfl
    · obtain ⟨rest, htext⟩ : ∃ rest, candidate = ':' :: rest := by
        cases candidate with
        | nil         => cases hhead
        | cons c rest => exact ⟨rest, by rw [Option.some.inj hhead]⟩
      simp [htext, uniqueLocal, linkLocal, multicast, startsWith, Address.HasInternalPrefix]
  unfold isBlockedAddress
  rw [hnormal, if_neg hne, parseIpv4_of_colon hcolon]
  simp only [if_neg (not_not_intro hcolon), mappedMatch_hex hpoint', hall, Bool.false_eq_true,
    if_false, hspecial "::" (by simp), hspecial "::1" (by simp)]
  rw [← hinternal]
  split_ifs with hspecials
  · simpa [or_assoc] using hspecials.imp_right .inl
  · rw [not_or] at hspecials
    simp [hspecials]

theorem isBlockedAddress_of_judged (h : Denotes text address) :
    isBlockedAddress text = address.verdict ↔ Judged text address := by
  cases h with
  | v4 h => exact iff_of_true (isBlockedAddress_ipv4 h) trivial
  | @v6 groups h =>
    unfold Judged
    by_cases hpoint : '.' ∈ text.toList
    · simp only [if_pos hpoint, isBlockedAddress_dotted h hpoint, Address.verdict]
      by_cases hembedded : Address.IsEmbedded groups
      · simp [hembedded]
      · simp [hembedded, eq_comm]
    · simp only [if_neg hpoint, Address.verdict]
      have hhex := isBlockedAddress_hex h hpoint
      -- `::` and `::1` are themselves IPv4-compatible, and their octets are blocked.
      have hspecial (hspecial : text = "::" ∨ text = "::1") :
          Address.IsEmbedded groups ∧ isBlockedIpv4 (Address.tailOctets groups) = true := by
        rcases hspecial with rfl | rfl
        · rw [h.unspecified fun _ h => h]
          decide
        · rw [h.loopback fun _ h => h]
          decide
      by_cases hembedded : Address.IsEmbedded groups
      · have hinternal : ¬Address.HasInternalPrefix groups := fun h => h.not_isEmbedded hembedded
        simp only [hembedded, if_true, not_true_eq_false, false_or]
        by_cases hspecials : text = "::" ∨ text = "::1"
        · exact iff_of_true ((hhex.mpr (hspecials.imp_right .inl)).trans (hspecial hspecials).2.symm)
            (.inr hspecials)
        · have hfalse : isBlockedAddress text = false := by
            rw [Bool.eq_false_iff]
            intro htrue
            rcases hhex.mp htrue with h | h | h
            · exact hspecials (.inl h)
            · exact hspecials (.inr h)
            · exact hinternal h
          rw [hfalse, eq_comm]
          exact ⟨.inl, fun h => h.resolve_right hspecials⟩
      · have hspecials : ¬(text = "::" ∨ text = "::1") := fun h => hembedded (hspecial h).1
        rw [not_or] at hspecials
        simp only [hembedded, if_false, not_false_eq_true, true_or, iff_true]
        rw [Bool.eq_iff_iff, hhex, decide_eq_true_eq]
        simp [hspecials]

end Verdicts

section Urls

variable {parseUrl : String → Option Url} {raw : String} {url : Url} {address : Address}

-- The form of an IPv6 address that the URL parser gives: hexadecimal, with the longest run of zeros
-- left out, so that `::` and `::1` are written so.
structure NormalForm (text : List Char) (groups : List Nat) : Prop where
  form        : Ipv6 IsOctet text groups
  hex         : '.' ∉ text
  unspecified : groups = [0, 0, 0, 0, 0, 0, 0, 0] → text = "::".toList
  loopback    : groups = [0, 0, 0, 0, 0, 0, 0, 1] → text = "::1".toList

-- A host that is the literal of an address
inductive LiteralHost : String → Address → Prop
  | v4 {hostname : String} {octets : List Nat} :
    Ipv4 IsOctet hostname.toList octets → LiteralHost hostname (.v4 octets)
  | v6 {text : List Char} {groups : List Nat} :
    NormalForm text groups →
    LiteralHost (String.ofList ('[' :: text ++ [']'])) (.v6 groups)

-- What the destination has to meet besides its host
structure Admissible (raw : String) (url : Url) : Prop where
  short    : 0 < codeUnits (trim raw) ∧ codeUnits (trim raw) ≤ maximumDestinationLength
  protocol : url.protocol = "https:"
  username : codeUnits url.username = 0
  password : codeUnits url.password = 0
  port     : codeUnits url.port = 0 ∨ url.port = "443"

theorem validateWebhookDestination_eq_ok {accepted : Url} :
    validateWebhookDestination parseUrl raw = .ok accepted ↔
      parseUrl (trim raw) = some accepted ∧ Admissible raw accepted ∧
        isPrivateHostname accepted.hostname = false ∧
        ¬(isAddressLiteral accepted.hostname ∧ isBlockedAddress accepted.hostname) := by
  constructor
  · intro h
    unfold validateWebhookDestination at h
    simp only at h
    split_ifs at h with hempty hlong
    split at h
    case h_1 => cases h
    case h_2 url hparse =>
      split_ifs at h with hprotocol hcredentials hport hprivate hblocked
      obtain rfl : url = accepted := by simpa using h
      simp only [not_or, not_and_or, not_not] at hcredentials hport hprotocol
      refine ⟨hparse, ⟨⟨by omega, by omega⟩, hprotocol, by omega, by omega, ?_⟩, ?_, hblocked⟩
      · exact hport.imp_left fun h => by omega
      · simpa using hprivate
  · rintro ⟨hparse, hadmissible, hprivate, hblocked⟩
    obtain ⟨⟨hpos, hshort⟩, hprotocol, husername, hpassword, hport⟩ := hadmissible
    have hport' : ¬(0 < codeUnits accepted.port ∧ accepted.port ≠ "443") := by
      rintro ⟨hlength, hne⟩
      exact hport.elim (fun h => by omega) hne
    unfold validateWebhookDestination
    simp only [if_neg (show ¬codeUnits (trim raw) = 0 by omega), if_neg (not_lt.mpr hshort), hparse,
      hprotocol, husername, hpassword, hprivate, if_neg hport', if_neg hblocked]
    simp

theorem LiteralHost.isAddressLiteral (h : LiteralHost url.hostname address) :
    isAddressLiteral url.hostname = true := by
  generalize url.hostname = hostname at h
  cases h with
  | v4 h => simp [WebhookDestination.isAddressLiteral, parseIpv4_eq h]
  | v6 h => simp [WebhookDestination.isAddressLiteral]

theorem last_of_private {hostname : String} (h : isPrivateHostname hostname = true) :
    ∃ c ∈ ['a', 'l', 't'], (lowerCase hostname).toList.getLast? = some c := by
  simp only [isPrivateHostname, Bool.or_eq_true, decide_eq_true_eq, List.any_eq_true,
    List.isSuffixOf_iff_suffix] at h
  rcases h with hname | ⟨suffix, hmem, front, hhost⟩
  · rw [List.mem_singleton.mp hname]
    exact ⟨'t', by decide, by decide⟩
  · have hlast : ∀ suffix ∈ privateHostSuffixes, ∃ c ∈ ['a', 'l', 't'],
        suffix.toList.getLast? = some c := by decide
    obtain ⟨c, hc, hsuffix⟩ := hlast suffix hmem
    refine ⟨c, hc, ?_⟩
    rw [← hhost, List.getLast?_append, hsuffix]
    rfl

theorem LiteralHost.isPrivateHostname (h : LiteralHost url.hostname address) :
    isPrivateHostname url.hostname = false := by
  rw [Bool.eq_false_iff]
  intro hprivate
  obtain ⟨c, hc, hlast⟩ := last_of_private hprivate
  generalize url.hostname = hostname at h hlast
  rw [lowerCase, String.toList_ofList] at hlast
  cases h with
  | v4 h =>
    rw [h.map keepsDigits_lowerCaseChar fun _ h => h] at hlast
    have hmem := List.mem_of_mem_getLast? hlast
    simp only [List.mem_cons, List.not_mem_nil, or_false] at hc
    rcases (h.shape fun _ h => h).1 c hmem with hdigit | rfl
    · rcases hc with rfl | rfl | rfl <;> exact absurd hdigit (by decide)
    · exact absurd hc (by decide)
  | v6 h =>
    rw [String.toList_ofList, List.map_append, List.getLast?_append] at hlast
    obtain rfl : lowerCaseChar ']' = c := by simpa using hlast
    exact absurd hc (by decide)

-- The literals that are recognised: all of IPv4, and those of IPv6 without an embedded address or
-- with one that the patterns know.
def JudgedHost : Address → Prop
  | .v4 _      => True
  | .v6 groups =>
    ¬Address.IsEmbedded groups ∨ groups = [0, 0, 0, 0, 0, 0, 0, 0] ∨
      groups = [0, 0, 0, 0, 0, 0, 0, 1]

theorem LiteralHost.isBlockedAddress_iff (h : LiteralHost url.hostname address)
    (hverdict : address.verdict = true) :
    isBlockedAddress url.hostname = true ↔ JudgedHost address := by
  generalize url.hostname = hostname at h
  cases h with
  | v4 h => exact iff_of_true ((isBlockedAddress_ipv4 h).trans hverdict) trivial
  | @v6 text groups h =>
    have hform : Ipv6 IsOctet (String.ofList text).toList groups := by
      rw [String.toList_ofList]
      exact h.form
    have hpoint : '.' ∉ (String.ofList text).toList := by
      rw [String.toList_ofList]
      exact h.hex
    have hspecial {special : String} {value : List Nat}
        (hforward : groups = value → text = special.toList)
        (hback : Ipv6 IsOctet special.toList groups → groups = value) :
        String.ofList text = special ↔ groups = value := by
      constructor
      · rintro rfl
        exact hback hform
      · intro hgroups
        rw [hforward hgroups, String.ofList_toList]
    have htext := hspecial h.unspecified fun h => h.unspecified fun _ h => h
    have htext' := hspecial h.loopback fun h => h.loopback fun _ h => h
    rw [AddressText.isBlockedAddress_brackets (h.form.chars fun _ h => h)]
    have hjudged := isBlockedAddress_of_judged (.v6 hform)
    rw [hverdict, Judged, if_neg hpoint, htext, htext'] at hjudged
    rw [hjudged, JudgedHost]
    by_cases hembedded : Address.IsEmbedded groups
    · have hblocked : isBlockedIpv4 (Address.tailOctets groups) = true := by
        simpa [Address.verdict, hembedded] using hverdict
      simp [hembedded, hblocked]
    · simp [hembedded]

end Urls

-- The verdict on an address is that of its value in exactly the spellings that are judged, and a
-- destination whose host is the literal of a blocked address is refused when the literal is.
theorem outbound_address_policy {text : String} {address : Address} (h : Denotes text address) :
    (isBlockedAddress text = address.verdict ↔ Judged text address) ∧
    (address.Internal → address.verdict = true) ∧
    (∀ groups, address = .v6 groups → Address.IsEmbedded groups →
      address.verdict = (Address.v4 (Address.tailOctets groups)).verdict) ∧
    ∀ parseUrl raw url, parseUrl (trim raw) = some url → LiteralHost url.hostname address →
      address.verdict = true →
        ((∀ accepted, validateWebhookDestination parseUrl raw ≠ .ok accepted) ↔
          ¬Admissible raw url ∨ JudgedHost address) := by
  refine ⟨isBlockedAddress_of_judged h, Address.Internal.verdict, ?_, ?_⟩
  · rintro groups rfl hembedded
    simp [Address.verdict, hembedded]
  · intro parseUrl raw url hparse hhost hverdict
    rw [← hhost.isBlockedAddress_iff hverdict]
    constructor
    · intro hrefused
      by_contra hneither
      rw [not_or, not_not] at hneither
      apply hrefused url
      exact validateWebhookDestination_eq_ok.mpr ⟨hparse, hneither.1, hhost.isPrivateHostname,
        fun hblocked => hneither.2 hblocked.2⟩
    · intro hrefused accepted haccepted
      obtain ⟨haccepted, hadmissible, -, hblocked⟩ := validateWebhookDestination_eq_ok.mp haccepted
      obtain rfl : url = accepted := Option.some.inj (hparse.symm.trans haccepted)
      rcases hrefused with hadmissible' | hblocked'
      · exact hadmissible' hadmissible
      · exact hblocked ⟨hhost.isAddressLiteral, hblocked'⟩

end WebhookDestination

namespace Pilot

open IpAddress WebhookDestination

def loopbackGroups : List Nat := [0, 0, 0, 0, 0, 0, 0, 1]
def mappedLoopback : List Nat := [0, 0, 0, 0, 0, 0xffff, 0x7f00, 1]

theorem denotes_long_loopback : Denotes "0:0:0:0:0:0:0:1" (.v6 loopbackGroups) := by
  have hparts : HexGroups ["0".toList, "0".toList, "0".toList, "0".toList, "0".toList, "0".toList,
      "0".toList, "1".toList] loopbackGroups :=
    .cons (by decide) (.cons (by decide) (.cons (by decide) (.cons (by decide) (.cons (by decide)
      (.cons (by decide) (.cons (by decide) (.cons (by decide) .nil)))))))
  exact .v6 (.full (.hex hparts) rfl)

theorem mapped_form : Ipv6 IsOctet "::ffff:7f00:1".toList mappedLoopback := by
  have hparts : HexGroups ["ffff".toList, "7f00".toList, "1".toList] [0xffff, 0x7f00, 1] :=
    .cons (by decide) (.cons (by decide) (.cons (by decide) .nil))
  exact .compressed .nil (.hex hparts) (by decide)

-- What the URL parser gives for `https://[::ffff:127.0.0.1]/`
def mappedUrl : Url where
  protocol := "https:"
  username := ""
  password := ""
  port     := ""
  hostname := "[::ffff:7f00:1]"
  href     := "https://[::ffff:7f00:1]/"

theorem mapped_literal : LiteralHost mappedUrl.hostname (.v6 mappedLoopback) :=
  have hform : NormalForm "::ffff:7f00:1".toList mappedLoopback :=
    ⟨mapped_form, by decide, by decide, by decide⟩
  .v6 hform

-- The loopback address passes when its zeros are written out, and so does its mapped form as the
-- host of a destination.
theorem outbound_address_policy_counterexample :
    (Denotes "0:0:0:0:0:0:0:1" (.v6 loopbackGroups) ∧ (Address.v6 loopbackGroups).Internal ∧
      isBlockedAddress "0:0:0:0:0:0:0:1" = false ∧ isBlockedAddress "::1" = true) ∧
    (LiteralHost mappedUrl.hostname (.v6 mappedLoopback) ∧ Address.IsEmbedded mappedLoopback ∧
      isBlockedIpv4 (Address.tailOctets mappedLoopback) = true ∧
      validateWebhookDestination (fun _ => some mappedUrl) "https://[::ffff:127.0.0.1]/" =
        .ok mappedUrl) := by
  refine ⟨⟨denotes_long_loopback, .loopback6, ?_, ?_⟩, mapped_literal, ?_, ?_, ?_⟩
  all_goals decide +kernel

theorem outbound_address_policy_mapped :
    Denotes "::FFFF:127.0.0.1" (.v6 mappedLoopback) ∧
      isBlockedAddress "::FFFF:127.0.0.1" = (Address.v6 mappedLoopback).verdict := by
  have octet {part : List Char}
      (h : Decimal.IsDigits part ∧ part ≠ [] ∧ part.length ≤ 3 ∧ Decimal.value part ≤ 255) :
      IsOctet part := ⟨h.1, h.2.1, h.2.2.1, h.2.2.2⟩
  have hdotted : Ipv4 IsOctet "127.0.0.1".toList [127, 0, 0, 1] :=
    Ipv4.dotted (a := "127".toList) (b := "0".toList) (c := "0".toList) (d := "1".toList)
      (octet (by decide)) (octet (by decide)) (octet (by decide)) (octet (by decide))
  have hparts : HexGroups ["FFFF".toList] [0xffff] := .cons (by decide) .nil
  have hform : Ipv6 IsOctet "::FFFF:127.0.0.1".toList mappedLoopback :=
    .compressed .nil (.dotted hparts hdotted) (by decide)
  exact ⟨.v6 hform, (outbound_address_policy (.v6 hform)).1.mpr (by decide +kernel)⟩

end Pilot
end RefundDesk
