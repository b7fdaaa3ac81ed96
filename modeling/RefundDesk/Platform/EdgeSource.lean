import RefundDesk.Domain.Types
import RefundDesk.Library.IpAddress

namespace RefundDesk

inductive EdgeAdmissionClass
  | accountWebhook
  | auditDownload
  | signedApi
  deriving DecidableEq, Repr

def EdgeAdmissionClass.text : EdgeAdmissionClass → String
  | accountWebhook => "account_webhook"
  | auditDownload  => "audit_download"
  | signedApi      => "signed_api"

namespace EdgeAdmission

open IpAddress

def trustedEdgeMarker : String := "cloudfront-v1"
def edgeMarkerHeader : String := "x-refunddesk-edge-verified"
def originTokenHeader : String := "x-refunddesk-origin-token"
def viewerChainHeader : String := "x-refunddesk-viewer-chain"
def maxViewerChainBytes : Nat := 2048
def maxViewerChainElements : Nat := 32

-- `get` of the headers, whose names are in lower case
abbrev Headers := String → Option String

structure ParsedSource where
  allowlistAddress : Option String
  scopeBytes       : List Nat
  deriving DecidableEq, Repr

-- `octet` is the text of an integer from 0 to 255.
def isOctetText (octet : List Char) : Bool :=
  Decimal.IsCanonical octet ∧ Decimal.value octet ≤ 255

def parseIpv4Bytes (address : List Char) : Option (List Nat) :=
  let octets := address.splitOn '.'
  if octets.length ≠ 4 then none
  else if octets.any fun octet => isOctetText octet = false then none
  else some (octets.map Decimal.value)

-- `readUInt16BE` at an even offset
def readGroups : List Nat → List Nat
  | high :: low :: bytes => (256 * high + low) :: readGroups bytes
  | _                    => []

def parseIpv6Groups : List (List Char) → Option (List Nat)
  | [] => some []
  | token :: tokens =>
    if '.' ∈ token then
      if tokens ≠ [] then none else (parseIpv4Bytes token).map readGroups
    else if IsGroup token then
      (parseIpv6Groups tokens).map (hexValue token :: ·)
    else
      none

-- `split("::")`
def splitCompression : List Char → List (List Char)
  | ':' :: ':' :: rest => [] :: splitCompression rest
  | c :: rest          => (splitCompression rest).modifyHead (c :: ·)
  | []                 => [[]]

def tokensOf (half : List Char) : List (List Char) :=
  if half = [] then [] else half.splitOn ':'

-- `writeUInt16BE` of each group
def groupBytes (groups : List Nat) : List Nat :=
  groups.flatMap fun group => [group / 256, group % 256]

def parseIpv6Bytes (address : List Char) : Option (List Nat) :=
  let halves := splitCompression address
  let leftTokens := tokensOf (halves.getD 0 [])
  let rightTokens := if halves.length = 1 then [] else tokensOf (halves.getD 1 [])
  if '%' ∈ address ∨ 2 < halves.length then
    none
  else
    match parseIpv6Groups leftTokens, parseIpv6Groups rightTokens with
    | some left, some right =>
      let specified := left.length + right.length
      let groups :=
        if halves.length = 2 then left ++ List.replicate (8 - specified) 0 ++ right else left
      if halves.length ≠ 2 ∧ specified ≠ 8 ∨ halves.length = 2 ∧ 8 ≤ specified then none
      else if groups.length ≠ 8 then none
      else some (groupBytes groups)
    | _, _ => none

def chainElements (chain : String) : List String :=
  (chain.toList.splitOn ',').map fun element => trim (String.ofList element)

def utf8 (text : String) : List Nat :=
  text.toUTF8.toList.map (·.toNat)

-- The source that the bytes of an IPv4 address give
def ipv4Source (bytes : List Nat) : ParsedSource where
  allowlistAddress := some (".".intercalate (bytes.map toString))
  scopeBytes       := [4, 32] ++ bytes

def ipv6Source (bytes : List Nat) : ParsedSource where
  allowlistAddress := none
  scopeBytes       := [6, 64] ++ bytes.take 8

-- `isIP` is the one of `node:net`.
def parseSource (isIP : String → Nat) (requireTrustedEdge : Bool) (headers : Headers) :
    Option ParsedSource :=
  if requireTrustedEdge = false then
    some { allowlistAddress := none, scopeBytes := utf8 "local" }
  else if headers edgeMarkerHeader ≠ some trustedEdgeMarker then
    none
  else
    match headers viewerChainHeader with
    | none       => none
    | some chain =>
      let elements := chainElements chain
      if chain = "" ∨ maxViewerChainBytes < chain.utf8ByteSize then
        none
      else if elements.length = 0 ∨ maxViewerChainElements < elements.length ∨
          elements.any fun element => element = "" ∨ isIP element = 0 then
        none
      else
        match elements.getLast? with
        | none         => none
        | some address =>
          if isIP address = 4 then (parseIpv4Bytes address.toList).map ipv4Source
          else if isIP address = 6 then (parseIpv6Bytes address.toList).map ipv6Source
          else none

def sourceMessage (requestClass : EdgeAdmissionClass) (scopeBytes : List Nat) : List Nat :=
  utf8 "refunddesk-edge-source-v1\x00" ++ utf8 requestClass.text ++ utf8 "\x00" ++ scopeBytes

-- The key of a source within a class. `hmac` is the digest under the key of the gate.
def sourceKey (hmac : List Nat → String) (requestClass : EdgeAdmissionClass)
    (scopeBytes : List Nat) : String :=
  hmac (sourceMessage requestClass scopeBytes)

section Bytes

variable {text : List Char} {octets groups groups' : List Nat}

theorem isOctetText_iff {octet : List Char} : isOctetText octet = true ↔ IsCanonicalOctet octet := by
  constructor
  · intro h
    simp only [isOctetText, decide_eq_true_eq] at h
    exact ⟨h.1, h.2⟩
  · intro h
    simp only [isOctetText, decide_eq_true_eq]
    exact ⟨h.canonical, h.bound⟩

theorem parseIpv4Bytes_eq (h : Ipv4 IsCanonicalOctet text octets) :
    parseIpv4Bytes text = some octets := by
  cases h with
  | @dotted a b c d ha hb hc hd =>
    have hpoint {octet : List Char} (h : IsCanonicalOctet octet) : '.' ∉ octet :=
      h.isOctet.not_mem (by simp)
    have hsplit : (join '.' [a, b, c, d]).splitOn '.' = [a, b, c, d] := by
      apply split_join (by simp)
      simp only [List.forall_mem_cons]
      exact ⟨hpoint ha, hpoint hb, hpoint hc, hpoint hd, by simp⟩
    have hany : [a, b, c, d].any (fun octet => isOctetText octet = false) = false := by
      simp [isOctetText_iff.mpr ha, isOctetText_iff.mpr hb, isOctetText_iff.mpr hc,
        isOctetText_iff.mpr hd]
    unfold parseIpv4Bytes
    rw [hsplit]
    simp only [hany]
    simp

theorem groupBytes_cons (group : Nat) (groups : List Nat) :
    groupBytes (group :: groups) = group / 256 :: group % 256 :: groupBytes groups := by
  simp [groupBytes]

theorem groupBytes_injective (h : groupBytes groups = groupBytes groups') : groups = groups' := by
  induction groups generalizing groups' with
  | nil =>
    cases groups' with
    | nil               => rfl
    | cons group' groups' => cases h
  | cons group groups ih =>
    cases groups' with
    | nil                 => cases h
    | cons group' groups' =>
      rw [groupBytes_cons, groupBytes_cons] at h
      injection h with hhigh h
      injection h with hlow h
      rw [ih h]
      congr 1
      omega

-- The first bytes are those of the first groups.
theorem take_groupBytes (groups : List Nat) (n : Nat) :
    (groupBytes groups).take (2 * n) = groupBytes (groups.take n) := by
  induction n generalizing groups with
  | zero      => simp [groupBytes]
  | succ n ih =>
    cases groups with
    | nil                => simp [groupBytes]
    | cons group groups =>
      have htwo : 2 * (n + 1) = 2 * n + 1 + 1 := by omega
      rw [groupBytes_cons, List.take_succ_cons, groupBytes_cons, htwo, List.take_succ_cons,
        List.take_succ_cons, ih]

end Bytes

section Compression

variable {part rest : List Char} {parts : List (List Char)}

theorem modifyHead_nil_append (halves : List (List Char)) :
    halves.modifyHead ([] ++ ·) = halves := by
  cases halves <;> rfl

theorem splitCompression_part (hpart : ':' ∉ part) :
    splitCompression (part ++ rest) = (splitCompression rest).modifyHead (part ++ ·) := by
  induction part with
  | nil          => exact (modifyHead_nil_append _).symm
  | cons c part ih =>
    rw [List.mem_cons, not_or] at hpart
    have hstep : splitCompression (c :: (part ++ rest)) =
        (splitCompression (part ++ rest)).modifyHead (c :: ·) := by
      rw [splitCompression]
      rintro rest' rfl
      exact absurd rfl hpart.1
    rw [List.cons_append, hstep, ih hpart.2, List.modifyHead_modifyHead]
    rfl

theorem splitCompression_colon (hrest : rest.head? ≠ some ':') :
    splitCompression (':' :: rest) = (splitCompression rest).modifyHead (':' :: ·) := by
  rw [splitCompression]
  rintro rest' - rfl
  exact hrest rfl

-- Parts that are separated by single colons are not split.
theorem splitCompression_join (hparts : ∀ part ∈ parts, part ≠ [] ∧ ':' ∉ part)
    (rest : List Char) :
    splitCompression (join ':' parts ++ rest) =
      (splitCompression rest).modifyHead (join ':' parts ++ ·) := by
  induction parts with
  | nil             => exact (modifyHead_nil_append _).symm
  | cons part parts ih =>
    have hpart := hparts part List.mem_cons_self
    have ih := ih fun part hpart => hparts part (List.mem_cons_of_mem _ hpart)
    cases parts with
    | nil               => simpa using splitCompression_part hpart.2
    | cons part' parts =>
      have hpart' := hparts part' (by simp)
      have hhead : (join ':' (part' :: parts) ++ rest).head? ≠ some ':' := by
        obtain ⟨c, cs, rfl⟩ := List.exists_cons_of_ne_nil hpart'.1
        have hc : c ≠ ':' := fun h => hpart'.2 (by simp [h])
        cases parts with
        | nil       => simpa using hc
        | cons _ _ => simpa [join_cons_cons] using hc
      rw [join_cons_cons, List.append_assoc, List.cons_append, splitCompression_part hpart.2,
        splitCompression_colon hhead, ih, List.modifyHead_modifyHead, List.modifyHead_modifyHead]
      congr 1
      funext half
      simp

theorem tokensOf_join (hparts : ∀ part ∈ parts, part ≠ [] ∧ ':' ∉ part) :
    tokensOf (join ':' parts) = parts := by
  unfold tokensOf
  cases parts with
  | nil             => rfl
  | cons part parts =>
    have hne : join ':' (part :: parts) ≠ [] := by
      have hpart := (hparts part List.mem_cons_self).1
      cases parts with
      | nil       => simpa using hpart
      | cons _ _ => simp [join_cons_cons]
    rw [if_neg hne]
    exact split_join (by simp) fun part hpart => (hparts part hpart).2

end Compression

section Groups

variable {parts : List (List Char)} {part text : List Char} {groups octets : List Nat}

theorem parseIpv6Groups_append (h : HexGroups parts groups) (rest : List (List Char)) :
    parseIpv6Groups (parts ++ rest) = (parseIpv6Groups rest).map (groups ++ ·) := by
  induction h with
  | nil => simp
  | @cons part parts groups hgroup hgroups ih =>
    rw [List.cons_append, parseIpv6Groups, if_neg (hgroup.not_mem (by simp)), if_pos hgroup, ih,
      Option.map_map]
    rfl

theorem parseIpv6Groups_eq (h : Groups IsCanonicalOctet parts groups) :
    parseIpv6Groups parts = some groups := by
  cases h with
  | hex hgroups => simpa [parseIpv6Groups] using parseIpv6Groups_append hgroups []
  | @dotted parts groups part a b c d hgroups hdotted =>
    have hpoint : '.' ∈ part := (hdotted.shape fun _ h => h.isOctet).2.1
    rw [parseIpv6Groups_append hgroups, parseIpv6Groups, if_pos hpoint, if_neg (by simp),
      parseIpv4Bytes_eq hdotted]
    rfl

theorem parseIpv6Bytes_eq (h : Ipv6 IsCanonicalOctet text groups) :
    parseIpv6Bytes text = some (groupBytes groups) := by
  have hlength := h.length
  have hoctet : ∀ part, IsCanonicalOctet part → IsOctet part := fun _ h => h.isOctet
  cases h with
  | @full parts _ hgroups _ =>
    have hparts (part) (hpart : part ∈ parts) : part ≠ [] ∧ ':' ∉ part :=
      ⟨(hgroups.shape hoctet part hpart).1, (hgroups.shape hoctet part hpart).2 ':' (by simp)⟩
    have hzone : '%' ∉ join ':' parts := hgroups.not_mem_join hoctet
    have hsplit : splitCompression (join ':' parts) = [join ':' parts] := by
      have hjoin := splitCompression_join hparts []
      simpa [splitCompression] using hjoin
    unfold parseIpv6Bytes
    simp [hsplit, hzone, tokensOf_join hparts, parseIpv6Groups_eq hgroups, parseIpv6Groups, hlength]
  | @compressed left right groups groups' hleft hright hshort =>
    have hgroups : Groups IsCanonicalOctet left groups := .hex hleft
    have hparts (part) (hpart : part ∈ left) : part ≠ [] ∧ ':' ∉ part :=
      ⟨(hgroups.shape hoctet part hpart).1, (hgroups.shape hoctet part hpart).2 ':' (by simp)⟩
    have hparts' (part) (hpart : part ∈ right) : part ≠ [] ∧ ':' ∉ part :=
      ⟨(hright.shape hoctet part hpart).1, (hright.shape hoctet part hpart).2 ':' (by simp)⟩
    have hzone : '%' ∉ join ':' left := hgroups.not_mem_join hoctet
    have hzone' : '%' ∉ join ':' right := hright.not_mem_join hoctet
    have hright' : splitCompression (join ':' right) = [join ':' right] := by
      have hjoin := splitCompression_join hparts' []
      simpa [splitCompression] using hjoin
    have hsplit : splitCompression (join ':' left ++ ':' :: ':' :: join ':' right) =
        [join ':' left, join ':' right] := by
      rw [splitCompression_join hparts, splitCompression, hright']
      simp
    have hlong : ¬8 ≤ groups.length + groups'.length := by omega
    unfold parseIpv6Bytes
    simp only [List.append_assoc, List.length_append, List.length_replicate] at hlength
    simp [hsplit, hzone, hzone', tokensOf_join hparts, tokensOf_join hparts',
      parseIpv6Groups_eq hgroups, parseIpv6Groups_eq hright, hlong, hlength]

theorem parseIpv6Bytes_of_zone (h : '%' ∈ text) : parseIpv6Bytes text = none := by
  simp [parseIpv6Bytes, h]

-- A text denotes one address.
theorem ipv6_unique {groups' : List Nat} (h : Ipv6 IsCanonicalOctet text groups)
    (h' : Ipv6 IsCanonicalOctet text groups') : groups = groups' := by
  have hbytes := (parseIpv6Bytes_eq h).symm.trans (parseIpv6Bytes_eq h')
  exact groupBytes_injective (Option.some.inj hbytes)

end Groups

section Source

variable {isIP : String → Nat} {zoneId : List Char → Prop} {headers headers' : Headers}
  {address address' : String} {octets octets' groups groups' : List Nat}

-- `isIP` accepts the dotted form of an IPv4 address, and the forms of an IPv6 address with or
-- without a zone.
structure AcceptsForms (zoneId : List Char → Prop) (isIP : String → Nat) : Prop where
  version : ∀ text, isIP text = 0 ∨ isIP text = 4 ∨ isIP text = 6
  ipv4    : ∀ text, isIP text = 4 ↔ ∃ octets, Ipv4 IsCanonicalOctet text.toList octets
  ipv6    : ∀ text, isIP text = 6 ↔ ∃ form groups, Ipv6 IsCanonicalOctet form groups ∧
    (text.toList = form ∨ ∃ zone, zoneId zone ∧ text.toList = form ++ '%' :: zone)

-- The edge has verified a chain, the last element of which is the address of the viewer.
structure EndsWith (isIP : String → Nat) (headers : Headers) (address : String) : Prop where
  marker   : headers edgeMarkerHeader = some trustedEdgeMarker
  accepted : isIP address ≠ 0
  chain    : ∃ chain, headers viewerChainHeader = some chain ∧ chain ≠ "" ∧
    chain.utf8ByteSize ≤ maxViewerChainBytes ∧
    (chainElements chain).length ≤ maxViewerChainElements ∧
    (∀ element ∈ chainElements chain, element ≠ "" ∧ isIP element ≠ 0) ∧
    (chainElements chain).getLast? = some address

theorem parseSource_of_endsWith (h : EndsWith isIP headers address) :
    parseSource isIP true headers =
      if isIP address = 4 then (parseIpv4Bytes address.toList).map ipv4Source
      else if isIP address = 6 then (parseIpv6Bytes address.toList).map ipv6Source
      else none := by
  obtain ⟨chain, hchain, hne, hbytes, hlength, helements, hlast⟩ := h.chain
  have hsome : (chainElements chain).length ≠ 0 := by
    intro hzero
    rw [List.length_eq_zero_iff.mp hzero] at hlast
    cases hlast
  have hempty : ¬(chain = "" ∨ maxViewerChainBytes < chain.utf8ByteSize) := by
    rintro (hnil | hlong)
    · exact hne hnil
    · omega
  have hall : (chainElements chain).any (fun element => element = "" ∨ isIP element = 0) = false := by
    simp only [List.any_eq_false, decide_eq_true_eq, not_or]
    exact helements
  have hrefused : ¬((chainElements chain).length = 0 ∨
      maxViewerChainElements < (chainElements chain).length ∨
      (chainElements chain).any (fun element => element = "" ∨ isIP element = 0) = true) := by
    rw [hall]
    rintro (hzero | hlong | hfalse)
    · exact hsome hzero
    · omega
    · cases hfalse
  unfold parseSource
  rw [if_neg (by decide), if_neg (by simp [h.marker]), hchain]
  simp only [if_neg hempty, if_neg hrefused, hlast]

theorem parseSource_of_ipv4 (hforms : AcceptsForms zoneId isIP) (hlast : EndsWith isIP headers address)
    (h : Ipv4 IsCanonicalOctet address.toList octets) :
    parseSource isIP true headers = some (ipv4Source octets) := by
  have hversion : isIP address = 4 := (hforms.ipv4 address).mpr ⟨octets, h⟩
  rw [parseSource_of_endsWith hlast, if_pos hversion, parseIpv4Bytes_eq h]
  rfl

theorem isIP_of_ipv6 (hforms : AcceptsForms zoneId isIP)
    (h : Ipv6 IsCanonicalOctet address.toList groups) : isIP address = 6 :=
  (hforms.ipv6 address).mpr ⟨address.toList, groups, h, .inl rfl⟩

theorem parseSource_of_ipv6 (hforms : AcceptsForms zoneId isIP) (hlast : EndsWith isIP headers address)
    (h : Ipv6 IsCanonicalOctet address.toList groups) :
    parseSource isIP true headers = some (ipv6Source (groupBytes groups)) := by
  have hversion := isIP_of_ipv6 hforms h
  rw [parseSource_of_endsWith hlast, hversion, if_neg (by decide), if_pos rfl, parseIpv6Bytes_eq h]
  rfl

-- An address without a zone has one of the two forms.
theorem form_of_accepted (hforms : AcceptsForms zoneId isIP) (h : isIP address ≠ 0)
    (hzone : '%' ∉ address.toList) :
    (∃ octets, Ipv4 IsCanonicalOctet address.toList octets) ∨
      ∃ groups, Ipv6 IsCanonicalOctet address.toList groups := by
  rcases hforms.version address with hversion | hversion | hversion
  · exact absurd hversion h
  · exact .inl ((hforms.ipv4 address).mp hversion)
  · obtain ⟨form, groups, hform, rfl | ⟨zone, _, htext⟩⟩ := (hforms.ipv6 address).mp hversion
    · exact .inr ⟨groups, hform⟩
    · rw [htext] at hzone
      simp at hzone

theorem parseSource_eq_none_iff (hforms : AcceptsForms zoneId isIP)
    (hlast : EndsWith isIP headers address) :
    parseSource isIP true headers = none ↔ '%' ∈ address.toList := by
  constructor
  · intro hnone
    by_contra hzone
    rcases form_of_accepted hforms hlast.accepted hzone with ⟨octets, h⟩ | ⟨groups, h⟩
    · rw [parseSource_of_ipv4 hforms hlast h] at hnone
      cases hnone
    · rw [parseSource_of_ipv6 hforms hlast h] at hnone
      cases hnone
  · intro hzone
    have hversion : isIP address ≠ 4 := by
      intro hversion
      obtain ⟨octets, h⟩ := (hforms.ipv4 address).mp hversion
      exact h.not_mem (fun _ h => h.isOctet) (by simp) hzone
    rw [parseSource_of_endsWith hlast, if_neg hversion, parseIpv6Bytes_of_zone hzone]
    split <;> rfl

-- The key of the source from which a request comes
def scopeKey (isIP : String → Nat) (hmac : List Nat → String) (requestClass : EdgeAdmissionClass)
    (headers : Headers) : Option String :=
  (parseSource isIP true headers).map fun source => sourceKey hmac requestClass source.scopeBytes

variable {hmac : List Nat → String} {requestClass : EdgeAdmissionClass}

-- The bytes of a scope: the version, the length of the prefix and at most eight bytes
structure IsScope (scope : List Nat) : Prop where
  bytes : ∀ byte ∈ scope, byte < 256
  short : scope.length ≤ 10

-- No two of the messages that the gate digests have the same digest.
def CollisionFree (hmac : List Nat → String) (requestClass : EdgeAdmissionClass) : Prop :=
  ∀ scope scope', IsScope scope → IsScope scope' →
    hmac (sourceMessage requestClass scope) = hmac (sourceMessage requestClass scope') →
    sourceMessage requestClass scope = sourceMessage requestClass scope'

theorem sourceKey_inj (hhmac : CollisionFree hmac requestClass) {scope scope' : List Nat}
    (hscope : IsScope scope) (hscope' : IsScope scope') :
    sourceKey hmac requestClass scope = sourceKey hmac requestClass scope' ↔ scope = scope' := by
  constructor
  · intro h
    exact List.append_cancel_left (hhmac scope scope' hscope hscope' h)
  · rintro rfl
    rfl

theorem isScope_ipv4 {text : List Char} (h : Ipv4 IsCanonicalOctet text octets) :
    IsScope (ipv4Source octets).scopeBytes := by
  have hbytes := h.lt fun _ h => h.isOctet
  have hlength : octets.length = 4 := by
    cases h with
    | dotted => rfl
  refine ⟨?_, by simp [ipv4Source, hlength]⟩
  simp only [ipv4Source, List.cons_append, List.nil_append, List.forall_mem_cons]
  exact ⟨by decide, by decide, hbytes⟩

theorem isScope_ipv6 {text : List Char} (h : Ipv6 IsCanonicalOctet text groups) :
    IsScope (ipv6Source (groupBytes groups)).scopeBytes := by
  have hoctet : ∀ part, IsCanonicalOctet part → IsOctet part := fun _ h => h.isOctet
  have htake : ((groupBytes groups).take 8).length ≤ 8 := List.length_take_le ..
  have hlength : (ipv6Source (groupBytes groups)).scopeBytes.length =
      ((groupBytes groups).take 8).length + 2 := rfl
  refine ⟨?_, by omega⟩
  intro byte hbyte
  simp only [ipv6Source, List.cons_append, List.nil_append, List.mem_cons] at hbyte
  rcases hbyte with rfl | rfl | hbyte
  · decide
  · decide
  · obtain ⟨group, hgroup, hmem⟩ := List.mem_flatMap.mp (List.mem_of_mem_take hbyte)
    have hbound := h.lt hoctet group hgroup
    simp only [List.mem_cons, List.not_mem_nil, or_false] at hmem
    rcases hmem with rfl | rfl <;> omega

theorem scopeBytes_ipv6 :
    (ipv6Source (groupBytes groups)).scopeBytes = (ipv6Source (groupBytes groups')).scopeBytes ↔
      groups.take 4 = groups'.take 4 := by
  have htake (groups : List Nat) : (groupBytes groups).take 8 = groupBytes (groups.take 4) :=
    take_groupBytes groups 4
  simp only [ipv6Source, htake, List.append_cancel_left_eq]
  constructor
  · exact groupBytes_injective
  · intro h
    rw [h]

theorem scopeBytes_ipv4 :
    (ipv4Source octets).scopeBytes = (ipv4Source octets').scopeBytes ↔ octets = octets' := by
  simp [ipv4Source]

-- The source of a request is that of the address which the viewer chain ends with, however this
-- address is written.
theorem parseSource_canonical (hforms : AcceptsForms zoneId isIP)
    (hhmac : CollisionFree hmac requestClass)
    (hlast : EndsWith isIP headers address) (hlast' : EndsWith isIP headers' address') :
    (parseSource isIP true headers = none ↔ '%' ∈ address.toList) ∧
    ('%' ∉ address.toList →
      (∃ octets, Ipv4 IsCanonicalOctet address.toList octets ∧
        parseSource isIP true headers = some (ipv4Source octets)) ∨
      ∃ groups, Ipv6 IsCanonicalOctet address.toList groups ∧
        parseIpv6Bytes address.toList = some (groupBytes groups) ∧
        parseSource isIP true headers = some (ipv6Source (groupBytes groups))) ∧
    (∀ octets octets', Ipv4 IsCanonicalOctet address.toList octets →
      Ipv4 IsCanonicalOctet address'.toList octets' →
      (scopeKey isIP hmac requestClass headers = scopeKey isIP hmac requestClass headers' ↔
        octets = octets')) ∧
    (∀ groups groups', Ipv6 IsCanonicalOctet address.toList groups →
      Ipv6 IsCanonicalOctet address'.toList groups' →
      (scopeKey isIP hmac requestClass headers = scopeKey isIP hmac requestClass headers' ↔
        groups.take 4 = groups'.take 4)) ∧
    ∀ octets groups, Ipv4 IsCanonicalOctet address.toList octets →
      Ipv6 IsCanonicalOctet address'.toList groups →
      scopeKey isIP hmac requestClass headers ≠ scopeKey isIP hmac requestClass headers' := by
  refine ⟨parseSource_eq_none_iff hforms hlast, ?_, ?_, ?_, ?_⟩
  · intro hzone
    rcases form_of_accepted hforms hlast.accepted hzone with ⟨octets, h⟩ | ⟨groups, h⟩
    · exact .inl ⟨octets, h, parseSource_of_ipv4 hforms hlast h⟩
    · exact .inr ⟨groups, h, parseIpv6Bytes_eq h, parseSource_of_ipv6 hforms hlast h⟩
  · intro octets octets' h h'
    rw [scopeKey, scopeKey, parseSource_of_ipv4 hforms hlast h, parseSource_of_ipv4 hforms hlast' h',
      Option.map_some, Option.map_some, Option.some_inj,
      sourceKey_inj hhmac (isScope_ipv4 h) (isScope_ipv4 h')]
    exact scopeBytes_ipv4
  · intro groups groups' h h'
    rw [scopeKey, scopeKey, parseSource_of_ipv6 hforms hlast h, parseSource_of_ipv6 hforms hlast' h',
      Option.map_some, Option.map_some, Option.some_inj,
      sourceKey_inj hhmac (isScope_ipv6 h) (isScope_ipv6 h')]
    exact scopeBytes_ipv6
  · intro octets groups h h' hkey
    rw [scopeKey, scopeKey, parseSource_of_ipv4 hforms hlast h, parseSource_of_ipv6 hforms hlast' h',
      Option.map_some, Option.map_some, Option.some_inj,
      sourceKey_inj hhmac (isScope_ipv4 h) (isScope_ipv6 h')] at hkey
    exact absurd (List.cons.inj hkey).1 (by decide)

end Source

end EdgeAdmission

namespace Pilot

open IpAddress EdgeAdmission

def zoneId (zone : List Char) : Prop :=
  zone ≠ [] ∧ ∀ c ∈ zone, c.isAlphanum ∨ c ∈ ['-', '.', ':']

open Classical in
noncomputable def isIP (text : String) : Nat :=
  if ∃ octets, Ipv4 IsCanonicalOctet text.toList octets then 4
  else if ∃ form groups, Ipv6 IsCanonicalOctet form groups ∧
    (text.toList = form ∨ ∃ zone, zoneId zone ∧ text.toList = form ++ '%' :: zone) then 6
  else 0

theorem acceptsForms : AcceptsForms zoneId isIP where
  version := by
    intro text
    unfold isIP
    split_ifs <;> simp
  ipv4 := by
    intro text
    unfold isIP
    split_ifs with h4 h6 <;> simp [h4]
  ipv6 := by
    intro text
    unfold isIP
    split_ifs with h4 h6
    · obtain ⟨octets, h4⟩ := h4
      refine iff_of_false (by decide) ?_
      rintro ⟨form, groups, hform, htext⟩
      have hcolon : ':' ∈ text.toList := by
        have hmem := (hform.shape fun _ h => h.isOctet).1
        rcases htext with htext | ⟨zone, _, htext⟩
        · rwa [htext]
        · rw [htext]
          exact List.mem_append_left _ hmem
      exact h4.not_mem (fun _ h => h.isOctet) (by simp) hcolon
    · exact iff_of_true rfl h6
    · exact iff_of_false (by decide) h6

def latin1 (message : List Nat) : String :=
  String.ofList (message.map Char.ofNat)

theorem ofNat_inj {n n' : Nat} (hn : n < 256) (hn' : n' < 256) (h : Char.ofNat n = Char.ofNat n') :
    n = n' := by
  have hvalid : ∀ n < 256, (Char.ofNat n).toNat = n := by decide +kernel
  rw [← hvalid n hn, ← hvalid n' hn', h]

theorem latin1_inj {message message' : List Nat} (h : ∀ byte ∈ message, byte < 256)
    (h' : ∀ byte ∈ message', byte < 256) (heq : latin1 message = latin1 message') :
    message = message' := by
  have hchars : message.map Char.ofNat = message'.map Char.ofNat := String.ofList_injective heq
  clear heq
  induction message generalizing message' with
  | nil =>
    cases message' with
    | nil       => rfl
    | cons _ _ => cases hchars
  | cons byte message ih =>
    cases message' with
    | nil                 => cases hchars
    | cons byte' message' =>
      rw [List.forall_mem_cons] at h h'
      injection hchars with hbyte hmessage
      rw [ofNat_inj h.1 h'.1 hbyte, ih h.2 h'.2 hmessage]

theorem utf8_lt (text : String) : ∀ byte ∈ utf8 text, byte < 256 := by
  intro byte hbyte
  obtain ⟨octet, _, rfl⟩ := List.mem_map.mp hbyte
  exact octet.toNat_lt

theorem latin1_collisionFree (requestClass : EdgeAdmissionClass) :
    CollisionFree latin1 requestClass := by
  have hbytes {scope : List Nat} (h : IsScope scope) :
      ∀ byte ∈ sourceMessage requestClass scope, byte < 256 := by
    intro byte hbyte
    simp only [sourceMessage, List.mem_append] at hbyte
    rcases hbyte with ((hbyte | hbyte) | hbyte) | hbyte
    · exact utf8_lt _ byte hbyte
    · exact utf8_lt _ byte hbyte
    · exact utf8_lt _ byte hbyte
    · exact h.bytes byte hbyte
  intro scope scope' hscope hscope' h
  exact latin1_inj (hbytes hscope) (hbytes hscope') h

-- The headers of a request that the edge has verified
def viewerHeaders (chain : String) : Headers := fun name =>
  if name = edgeMarkerHeader then some trustedEdgeMarker
  else if name = viewerChainHeader then some chain
  else none

theorem viewer_proxy : Ipv4 IsCanonicalOctet "203.0.113.7".toList [203, 0, 113, 7] := by
  have octet {part : List Char} (h : Decimal.IsCanonical part ∧ Decimal.value part ≤ 255) :
      IsCanonicalOctet part := ⟨h.1, h.2⟩
  exact Ipv4.dotted (a := "203".toList) (b := "0".toList) (c := "113".toList) (d := "7".toList)
    (octet (by decide)) (octet (by decide)) (octet (by decide)) (octet (by decide))

theorem viewer_short :
    Ipv6 IsCanonicalOctet "2001:DB8::1".toList [0x2001, 0xdb8, 0, 0, 0, 0, 0, 1] := by
  have left : HexGroups ["2001".toList, "DB8".toList] [0x2001, 0xdb8] :=
    .cons (by decide) (.cons (by decide) .nil)
  have right : HexGroups ["1".toList] [1] := .cons (by decide) .nil
  exact .compressed left (.hex right) (by decide)

theorem viewer_long :
    Ipv6 IsCanonicalOctet "2001:0db8:0:0:00:0:0.0.0.1".toList [0x2001, 0xdb8, 0, 0, 0, 0, 0, 1] := by
  have octet {part : List Char} (h : Decimal.IsCanonical part ∧ Decimal.value part ≤ 255) :
      IsCanonicalOctet part := ⟨h.1, h.2⟩
  have left : HexGroups
      ["2001".toList, "0db8".toList, "0".toList, "0".toList, "00".toList, "0".toList]
      [0x2001, 0xdb8, 0, 0, 0, 0] :=
    .cons (by decide) (.cons (by decide) (.cons (by decide) (.cons (by decide)
      (.cons (by decide) (.cons (by decide) .nil)))))
  have right : Ipv4 IsCanonicalOctet "0.0.0.1".toList [0, 0, 0, 1] :=
    Ipv4.dotted (a := "0".toList) (b := "0".toList) (c := "0".toList) (d := "1".toList)
      (octet (by decide)) (octet (by decide)) (octet (by decide)) (octet (by decide))
  exact .full (.dotted left right) rfl

theorem endsWith_short :
    EndsWith isIP (viewerHeaders "203.0.113.7, 2001:DB8::1") "2001:DB8::1" := by
  have hproxy : isIP "203.0.113.7" ≠ 0 := by
    rw [(acceptsForms.ipv4 _).mpr ⟨_, viewer_proxy⟩]
    decide
  have hviewer : isIP "2001:DB8::1" ≠ 0 := by
    rw [isIP_of_ipv6 acceptsForms viewer_short]
    decide
  have helements : chainElements "203.0.113.7, 2001:DB8::1" = ["203.0.113.7", "2001:DB8::1"] := by
    decide +kernel
  refine ⟨rfl, hviewer, _, rfl, by decide, by decide +kernel, ?_, ?_, ?_⟩
  · rw [helements]
    decide
  · rw [helements]
    simp only [List.forall_mem_cons]
    exact ⟨⟨by decide, hproxy⟩, ⟨by decide, hviewer⟩, by simp⟩
  · rw [helements]
    rfl

theorem endsWith_long :
    EndsWith isIP (viewerHeaders "2001:0db8:0:0:00:0:0.0.0.1") "2001:0db8:0:0:00:0:0.0.0.1" := by
  have hviewer : isIP "2001:0db8:0:0:00:0:0.0.0.1" ≠ 0 := by
    rw [isIP_of_ipv6 acceptsForms viewer_long]
    decide
  have helements :
      chainElements "2001:0db8:0:0:00:0:0.0.0.1" = ["2001:0db8:0:0:00:0:0.0.0.1"] := by
    decide +kernel
  refine ⟨rfl, hviewer, _, rfl, by decide, by decide +kernel, ?_, ?_, ?_⟩
  · rw [helements]
    decide
  · rw [helements]
    simp only [List.forall_mem_cons]
    exact ⟨⟨by decide, hviewer⟩, by simp⟩
  · rw [helements]
    rfl

theorem parseSource_canonical_two_spellings :
    scopeKey isIP latin1 .signedApi (viewerHeaders "203.0.113.7, 2001:DB8::1") =
      scopeKey isIP latin1 .signedApi (viewerHeaders "2001:0db8:0:0:00:0:0.0.0.1") :=
  ((parseSource_canonical acceptsForms (latin1_collisionFree .signedApi) endsWith_short
    endsWith_long).2.2.2.1 _ _ viewer_short viewer_long).mpr rfl

end Pilot
end RefundDesk
