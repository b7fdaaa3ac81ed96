import Mathlib.Data.List.Basic
import Mathlib.Tactic.SplitIfs
import RefundDesk.Library.Decimal

-- The textual forms of internet addresses, and the addresses that they denote.
namespace IpAddress

def join (separator : Char) (parts : List (List Char)) : List Char :=
  [separator].intercalate parts

section Join

variable {separator c : Char} {part : List Char} {parts : List (List Char)}

@[simp]
theorem join_nil : join separator [] = [] := rfl

@[simp]
theorem join_singleton : join separator [part] = part := by
  simp [join]

theorem join_cons_cons {part' : List Char} :
    join separator (part :: part' :: parts) =
      part ++ separator :: join separator (part' :: parts) := by
  simp [join, List.intercalate]

theorem split_join (hne : parts ≠ []) (h : ∀ part ∈ parts, separator ∉ part) :
    (join separator parts).splitOn separator = parts :=
  List.splitOn_intercalate separator h hne

theorem mem_join (h : c ∈ join separator parts) : c = separator ∨ ∃ part ∈ parts, c ∈ part := by
  induction parts with
  | nil => cases h
  | cons part parts ih =>
    cases parts with
    | nil => exact .inr ⟨part, by simp, by simpa using h⟩
    | cons part' parts =>
      rw [join_cons_cons, List.mem_append, List.mem_cons] at h
      rcases h with h | rfl | h
      · exact .inr ⟨part, by simp, h⟩
      · exact .inl rfl
      · rcases ih h with rfl | ⟨part, hpart, hc⟩
        · exact .inl rfl
        · exact .inr ⟨part, by simp [List.mem_cons.mp hpart], hc⟩

end Join

section Hexadecimal

def hexDigit (c : Char) : Nat :=
  if c.isDigit then c.toNat - '0'.toNat
  else if 'a' ≤ c ∧ c ≤ 'f' then c.toNat - 'a'.toNat + 10
  else c.toNat - 'A'.toNat + 10

def IsHexDigit (c : Char) : Prop :=
  c.isDigit ∨ ('a' ≤ c ∧ c ≤ 'f') ∨ ('A' ≤ c ∧ c ≤ 'F')

instance : DecidablePred IsHexDigit := fun c =>
  inferInstanceAs (Decidable (c.isDigit ∨ ('a' ≤ c ∧ c ≤ 'f') ∨ ('A' ≤ c ∧ c ≤ 'F')))

def hexValue (cs : List Char) : Nat :=
  cs.foldl (fun n c => 16 * n + hexDigit c) 0

-- One to four hexadecimal digits
structure IsGroup (cs : List Char) : Prop where
  digits : ∀ c ∈ cs, IsHexDigit c
  ne_nil : cs ≠ []
  short  : cs.length ≤ 4

instance : DecidablePred IsGroup := fun cs =>
  decidable_of_iff ((∀ c ∈ cs, IsHexDigit c) ∧ cs ≠ [] ∧ cs.length ≤ 4)
    ⟨fun h => ⟨h.1, h.2.1, h.2.2⟩, fun h => ⟨h.1, h.2, h.3⟩⟩

end Hexadecimal

-- The decimal forms of an octet, which some readers take with leading zeros.
structure IsOctet (cs : List Char) : Prop where
  digits : Decimal.IsDigits cs
  ne_nil : cs ≠ []
  short  : cs.length ≤ 3
  bound  : Decimal.value cs ≤ 255

structure IsCanonicalOctet (cs : List Char) : Prop where
  canonical : Decimal.IsCanonical cs
  bound     : Decimal.value cs ≤ 255

section Forms

-- How an octet may be written
variable (octet : List Char → Prop)

-- Four octets, separated by points
inductive Ipv4 : List Char → List Nat → Prop
  | dotted {a b c d : List Char} :
    octet a → octet b → octet c → octet d →
    Ipv4 (join '.' [a, b, c, d])
      [Decimal.value a, Decimal.value b, Decimal.value c, Decimal.value d]

-- The groups of hexadecimal digits
inductive HexGroups : List (List Char) → List Nat → Prop
  | nil : HexGroups [] []
  | cons {part : List Char} {parts : List (List Char)} {groups : List Nat} :
    IsGroup part → HexGroups parts groups →
    HexGroups (part :: parts) (hexValue part :: groups)

-- Groups of which the last two may be given as the octets of an IPv4 address
inductive Groups : List (List Char) → List Nat → Prop
  | hex {parts : List (List Char)} {groups : List Nat} :
    HexGroups parts groups → Groups parts groups
  | dotted {parts : List (List Char)} {groups : List Nat} {part : List Char} {a b c d : Nat} :
    HexGroups parts groups → Ipv4 octet part [a, b, c, d] →
    Groups (parts ++ [part]) (groups ++ [256 * a + b, 256 * c + d])

-- Eight groups, or fewer with a mark for the zeros that are left out
inductive Ipv6 : List Char → List Nat → Prop
  | full {parts : List (List Char)} {groups : List Nat} :
    Groups octet parts groups → groups.length = 8 → Ipv6 (join ':' parts) groups
  | compressed {left right : List (List Char)} {groups groups' : List Nat} :
    HexGroups left groups → Groups octet right groups' → groups.length + groups'.length < 8 →
    Ipv6 (join ':' left ++ ':' :: ':' :: join ':' right)
      (groups ++ List.replicate (8 - (groups.length + groups'.length)) 0 ++ groups')

end Forms

section Shapes

variable {octet : List Char → Prop} {part text : List Char} {parts : List (List Char)}
  {octets groups : List Nat} {c : Char}

theorem not_isHexDigit_of_mem (h : c ∈ [':', '.', '%']) : ¬IsHexDigit c := by
  revert h
  simp only [List.mem_cons, List.not_mem_nil, or_false]
  rintro (rfl | rfl | rfl) <;> decide

theorem not_isDigit_of_mem (h : c ∈ [':', '.', '%']) : ¬c.isDigit := by
  revert h
  simp only [List.mem_cons, List.not_mem_nil, or_false]
  rintro (rfl | rfl | rfl) <;> decide

theorem IsGroup.not_mem (h : IsGroup part) (hc : c ∈ [':', '.', '%']) : c ∉ part :=
  fun hmem => not_isHexDigit_of_mem hc (h.digits c hmem)

theorem IsOctet.not_mem (h : IsOctet part) (hc : c ∈ [':', '.', '%']) : c ∉ part :=
  fun hmem => not_isDigit_of_mem hc (h.digits c hmem)

theorem IsCanonicalOctet.isOctet (h : IsCanonicalOctet part) : IsOctet part := by
  refine ⟨h.canonical.digits, h.canonical.ne_nil, ?_, h.bound⟩
  rcases Nat.eq_zero_or_pos (Decimal.value part) with hzero | hpos
  · rw [h.canonical.value_eq_zero.mp hzero]
    decide
  · by_contra hlong
    have hpow : 10 ^ 3 ≤ 10 ^ (part.length - 1) := Nat.pow_le_pow_right (by decide) (by omega)
    have hvalue := (hpow.trans (h.canonical.bounds hpos).1).trans h.bound
    exact absurd hvalue (by decide)

theorem HexGroups.isGroup (h : HexGroups parts groups) : ∀ part ∈ parts, IsGroup part := by
  induction h with
  | nil => simp
  | cons hgroup _ ih => exact List.forall_mem_cons.mpr ⟨hgroup, ih⟩

theorem HexGroups.length (h : HexGroups parts groups) : groups.length = parts.length := by
  induction h with
  | nil => rfl
  | cons _ _ ih => simp [ih]

-- An IPv4 address has only digits and points, and a point.
theorem Ipv4.shape (hoctet : ∀ part, octet part → IsOctet part) (h : Ipv4 octet text octets) :
    (∀ c ∈ text, c.isDigit ∨ c = '.') ∧ '.' ∈ text ∧ text ≠ [] := by
  cases h with
  | @dotted a b c d ha hb hc hd =>
    refine ⟨fun x hx => ?_, by simp [join_cons_cons], by simp [join_cons_cons]⟩
    rcases mem_join hx with rfl | ⟨part, hpart, hmem⟩
    · exact .inr rfl
    · simp only [List.mem_cons, List.not_mem_nil, or_false] at hpart
      rcases hpart with rfl | rfl | rfl | rfl
      · exact .inl ((hoctet _ ha).digits x hmem)
      · exact .inl ((hoctet _ hb).digits x hmem)
      · exact .inl ((hoctet _ hc).digits x hmem)
      · exact .inl ((hoctet _ hd).digits x hmem)

theorem Ipv4.not_mem (hoctet : ∀ part, octet part → IsOctet part) (h : Ipv4 octet text octets)
    (hc : c ∈ [':', '%']) : c ∉ text := by
  intro hmem
  rcases (h.shape hoctet).1 c hmem with hdigit | rfl
  · exact not_isDigit_of_mem (by simp only [List.mem_cons] at hc ⊢; tauto) hdigit
  · simp at hc

-- The parts of an address are not empty, and have no separator.
theorem Groups.shape (hoctet : ∀ part, octet part → IsOctet part) (h : Groups octet parts groups)
    (part : List Char) (hpart : part ∈ parts) : part ≠ [] ∧ ∀ c ∈ [':', '%'], c ∉ part := by
  have hgroup {part : List Char} (h : IsGroup part) : part ≠ [] ∧ ∀ c ∈ [':', '%'], c ∉ part :=
    ⟨h.ne_nil, fun c hc => h.not_mem (by simp only [List.mem_cons] at hc ⊢; tauto)⟩
  cases h with
  | hex hgroups => exact hgroup (hgroups.isGroup part hpart)
  | dotted hgroups hdotted =>
    rcases List.mem_append.mp hpart with hpart | hpart
    · exact hgroup (hgroups.isGroup part hpart)
    · rw [List.mem_singleton.mp hpart]
      exact ⟨(hdotted.shape hoctet).2.2, fun c hc => hdotted.not_mem hoctet hc⟩

theorem Groups.not_mem_join (hoctet : ∀ part, octet part → IsOctet part)
    (h : Groups octet parts groups) : '%' ∉ join ':' parts := by
  intro hmem
  rcases mem_join hmem with hcolon | ⟨part, hpart, hc⟩
  · exact absurd hcolon (by decide)
  · exact (h.shape hoctet part hpart).2 '%' (by simp) hc

-- An IPv6 address has a colon, and no zone.
theorem Ipv6.shape (hoctet : ∀ part, octet part → IsOctet part) (h : Ipv6 octet text groups) :
    ':' ∈ text ∧ '%' ∉ text := by
  cases h with
  | @full parts _ hgroups hlength =>
    refine ⟨?_, hgroups.not_mem_join hoctet⟩
    have hlong : 2 ≤ parts.length := by
      cases hgroups with
      | hex hgroups => rw [← hgroups.length]; omega
      | dotted hgroups _ =>
        rw [List.length_append, ← hgroups.length]
        simp only [List.length_append, List.length_cons, List.length_nil] at hlength ⊢
        omega
    match parts, hlong with
    | _ :: _ :: _, _ => simp [join_cons_cons]
  | compressed hleft hright _ =>
    have hgroups : Groups octet _ _ := .hex hleft
    simp [hgroups.not_mem_join hoctet, hright.not_mem_join hoctet]

theorem Ipv6.length (h : Ipv6 octet text groups) : groups.length = 8 := by
  cases h with
  | full _ hlength => exact hlength
  | compressed hleft hright hlength =>
    simp only [List.length_append, List.length_replicate]
    omega

-- An address is written with digits and separators.
theorem Ipv6.chars (hoctet : ∀ part, octet part → IsOctet part) (h : Ipv6 octet text groups) :
    ∀ c ∈ text, IsHexDigit c ∨ c = ':' ∨ c = '.' := by
  have hjoin {parts : List (List Char)} {groups : List Nat} (h : Groups octet parts groups) :
      ∀ c ∈ join ':' parts, IsHexDigit c ∨ c = ':' ∨ c = '.' := by
    intro c hc
    rcases mem_join hc with hcolon | ⟨part, hpart, hmem⟩
    · exact .inr (.inl hcolon)
    · cases h with
      | hex hgroups => exact .inl ((hgroups.isGroup part hpart).digits c hmem)
      | dotted hgroups hdotted =>
        rcases List.mem_append.mp hpart with hpart | hpart
        · exact .inl ((hgroups.isGroup part hpart).digits c hmem)
        · rw [List.mem_singleton.mp hpart] at hmem
          rcases (hdotted.shape hoctet).1 c hmem with hdigit | hpoint
          · exact .inl (.inl hdigit)
          · exact .inr (.inr hpoint)
  cases h with
  | full hgroups _ => exact hjoin hgroups
  | compressed hleft hright _ =>
    intro c hc
    simp only [List.mem_append, List.mem_cons] at hc
    rcases hc with hc | hc | hc | hc
    · exact hjoin (.hex hleft) c hc
    · exact .inr (.inl hc)
    · exact .inr (.inl hc)
    · exact hjoin hright c hc

end Shapes

section Bounds

variable {octet : List Char → Prop} {part text : List Char} {parts : List (List Char)}
  {octets groups : List Nat} {c : Char}

theorem hexDigit_lt (h : IsHexDigit c) : hexDigit c < 16 := by
  have hle {c c' : Char} (h : c ≤ c') : c.toNat ≤ c'.toNat := h
  unfold hexDigit
  rcases h with hdigit | hlower | hupper
  · have hdigit' := Decimal.digit_lt hdigit
    rw [if_pos hdigit]
    exact hdigit'.trans (by decide)
  · have hrange : c.toNat ≤ 'f'.toNat := hle hlower.2
    have hf : 'f'.toNat = 102 := rfl
    have ha : 'a'.toNat = 97 := rfl
    rw [if_pos hlower]
    split_ifs with hdigit
    · exact (Decimal.digit_lt hdigit).trans (by decide)
    · omega
  · have hrange : c.toNat ≤ 'F'.toNat := hle hupper.2
    have hF : 'F'.toNat = 70 := rfl
    have hA : 'A'.toNat = 65 := rfl
    have ha : 'a'.toNat = 97 := rfl
    split_ifs with hdigit hlower
    · exact (Decimal.digit_lt hdigit).trans (by decide)
    · have hlower := hle hlower.1
      omega
    · omega

theorem hexValue_concat (cs : List Char) (c : Char) :
    hexValue (cs ++ [c]) = 16 * hexValue cs + hexDigit c := by
  simp [hexValue, List.foldl_append]

theorem hexValue_lt (h : ∀ c ∈ part, IsHexDigit c) : hexValue part < 16 ^ part.length := by
  induction part using List.reverseRecOn with
  | nil => simp [hexValue]
  | append_singleton cs c ih =>
    have hcs := ih fun c hc => h c (by simp [hc])
    have hc := hexDigit_lt (h c (by simp))
    rw [hexValue_concat, List.length_append, List.length_singleton, pow_succ]
    omega

theorem IsGroup.lt (h : IsGroup part) : hexValue part < 65536 := by
  have hpow : 16 ^ part.length ≤ 16 ^ 4 := Nat.pow_le_pow_right (by decide) h.short
  exact (hexValue_lt h.digits).trans_le hpow

theorem HexGroups.lt (h : HexGroups parts groups) : ∀ group ∈ groups, group < 65536 := by
  induction h with
  | nil => simp
  | cons hgroup _ ih => exact List.forall_mem_cons.mpr ⟨hgroup.lt, ih⟩

theorem Ipv4.lt (hoctet : ∀ part, octet part → IsOctet part) (h : Ipv4 octet text octets) :
    ∀ byte ∈ octets, byte < 256 := by
  cases h with
  | dotted ha hb hc hd =>
    have ha := (hoctet _ ha).bound
    have hb := (hoctet _ hb).bound
    have hc := (hoctet _ hc).bound
    have hd := (hoctet _ hd).bound
    simp only [List.forall_mem_cons]
    refine ⟨?_, ?_, ?_, ?_, by simp⟩ <;> omega

theorem Groups.lt (hoctet : ∀ part, octet part → IsOctet part) (h : Groups octet parts groups) :
    ∀ group ∈ groups, group < 65536 := by
  cases h with
  | hex hgroups => exact hgroups.lt
  | @dotted parts groups part a b c d hgroups hdotted =>
    have hbytes := hdotted.lt hoctet
    simp only [List.forall_mem_cons] at hbytes
    intro group hgroup
    simp only [List.mem_append, List.mem_cons, List.not_mem_nil, or_false] at hgroup
    rcases hgroup with hgroup | rfl | rfl
    · exact hgroups.lt group hgroup
    · omega
    · omega

-- The groups of an address have sixteen bits.
theorem Ipv6.lt (hoctet : ∀ part, octet part → IsOctet part) (h : Ipv6 octet text groups) :
    ∀ group ∈ groups, group < 65536 := by
  cases h with
  | full hgroups _ => exact hgroups.lt hoctet
  | compressed hleft hright _ =>
    intro group hgroup
    simp only [List.mem_append, List.mem_replicate] at hgroup
    rcases hgroup with (hgroup | ⟨_, rfl⟩) | hgroup
    · exact hleft.lt group hgroup
    · decide
    · exact hright.lt hoctet group hgroup

end Bounds

section Mapping

variable {octet : List Char → Prop} {f : Char → Char} {part text : List Char}
  {parts : List (List Char)} {octets groups : List Nat}

-- A change of the characters, such as of their case, that keeps the digits and separators.
structure KeepsDigits (f : Char → Char) : Prop where
  hex       : ∀ c, IsHexDigit c → IsHexDigit (f c) ∧ hexDigit (f c) = hexDigit c
  digit     : ∀ c, c.isDigit → f c = c
  separator : ∀ c ∈ [':', '.'], f c = c

theorem map_join {separator : Char} (h : f separator = separator) (parts : List (List Char)) :
    (join separator parts).map f = join separator (parts.map (·.map f)) := by
  induction parts with
  | nil => rfl
  | cons part parts ih =>
    cases parts with
    | nil        => simp
    | cons _ _ =>
      rw [join_cons_cons, List.map_append, List.map_cons, ih, h]
      simp only [List.map_cons, join_cons_cons]

theorem hexValue_map (hf : KeepsDigits f) (h : ∀ c ∈ part, IsHexDigit c) :
    hexValue (part.map f) = hexValue part := by
  induction part using List.reverseRecOn with
  | nil => rfl
  | append_singleton cs c ih =>
    have hcs := ih fun c hc => h c (by simp [hc])
    have hc := (hf.hex c (h c (by simp))).2
    rw [List.map_append, List.map_singleton, hexValue_concat, hexValue_concat, hcs, hc]

theorem IsGroup.map (hf : KeepsDigits f) (h : IsGroup part) : IsGroup (part.map f) where
  digits := by
    intro c' hc'
    obtain ⟨c, hc, rfl⟩ := List.mem_map.mp hc'
    exact (hf.hex c (h.digits c hc)).1
  ne_nil := by simpa using h.ne_nil
  short  := by simpa using h.short

theorem HexGroups.map (hf : KeepsDigits f) (h : HexGroups parts groups) :
    HexGroups (parts.map (·.map f)) groups := by
  induction h with
  | nil => exact .nil
  | cons hgroup _ ih =>
    rw [List.map_cons, ← hexValue_map hf hgroup.digits]
    exact .cons (hgroup.map hf) ih

theorem Ipv4.map (hf : KeepsDigits f) (hoctet : ∀ part, octet part → IsOctet part)
    (h : Ipv4 octet text octets) : text.map f = text := by
  have hfixed : ∀ c ∈ text, f c = c := by
    intro c hc
    rcases (h.shape hoctet).1 c hc with hdigit | rfl
    · exact hf.digit c hdigit
    · exact hf.separator '.' (by simp)
  simpa using List.map_congr_left hfixed

theorem Groups.map (hf : KeepsDigits f) (hoctet : ∀ part, octet part → IsOctet part)
    (h : Groups octet parts groups) : Groups octet (parts.map (·.map f)) groups := by
  cases h with
  | hex hgroups => exact .hex (hgroups.map hf)
  | dotted hgroups hdotted =>
    rw [List.map_append, List.map_singleton, hdotted.map hf hoctet]
    exact .dotted (hgroups.map hf) hdotted

theorem Ipv6.map (hf : KeepsDigits f) (hoctet : ∀ part, octet part → IsOctet part)
    (h : Ipv6 octet text groups) : Ipv6 octet (text.map f) groups := by
  have hcolon : f ':' = ':' := hf.separator ':' (by simp)
  cases h with
  | full hgroups hlength =>
    rw [map_join hcolon]
    exact .full (hgroups.map hf hoctet) hlength
  | compressed hleft hright hlength =>
    rw [List.map_append, List.map_cons, List.map_cons, hcolon, map_join hcolon, map_join hcolon]
    exact .compressed (hleft.map hf) (hright.map hf hoctet) hlength

end Mapping

section Tails

variable {octet : List Char → Prop} {part text : List Char} {parts : List (List Char)}
  {groups : List Nat}

theorem join_concat (hne : parts ≠ []) (part : List Char) :
    join ':' (parts ++ [part]) = join ':' parts ++ ':' :: part := by
  induction parts with
  | nil => exact absurd rfl hne
  | cons part' parts ih =>
    cases parts with
    | nil        => simp [join_cons_cons]
    | cons _ _ =>
      have ih := ih (by simp)
      simp only [List.cons_append, join_cons_cons] at ih ⊢
      rw [ih]
      simp

theorem not_mem_join_hex (h : HexGroups parts groups) : '.' ∉ join ':' parts := by
  intro hmem
  rcases mem_join hmem with hcolon | ⟨part, hpart, hc⟩
  · exact absurd hcolon (by decide)
  · exact (h.isGroup part hpart).not_mem (by simp) hc

theorem mem_join_dotted {octets : List Nat} (hoctet : ∀ part, octet part → IsOctet part)
    (h : Ipv4 octet part octets) : '.' ∈ join ':' (parts ++ [part]) := by
  have hmem := (h.shape hoctet).2.1
  by_cases hne : parts = []
  · simpa [hne] using hmem
  · simp [join_concat hne, hmem]

-- An address with a point ends with the octets of its last two groups.
theorem Ipv6.dotted_tail (h : Ipv6 octet text groups) (hpoint : '.' ∈ text) :
    ∃ front part groups' a b c d, text = front ++ ':' :: part ∧ Ipv4 octet part [a, b, c, d] ∧
      groups = groups' ++ [256 * a + b, 256 * c + d] := by
  cases h with
  | full hgroups hlength =>
    cases hgroups with
    | hex hgroups => exact absurd hpoint (not_mem_join_hex hgroups)
    | @dotted parts groups part a b c d hgroups hdotted =>
      have hne : parts ≠ [] := by
        rintro rfl
        cases hgroups
        simp at hlength
      exact ⟨_, part, groups, a, b, c, d, join_concat hne part, hdotted, rfl⟩
  | @compressed left right groups groups' hleft hright hlength =>
    cases hright with
    | hex hright =>
      have hleft := not_mem_join_hex hleft
      have hright := not_mem_join_hex hright
      simp [hleft, hright] at hpoint
    | @dotted parts groups' part a b c d hgroups hdotted =>
      have htail : ∃ front, join ':' left ++ ':' :: ':' :: join ':' (parts ++ [part]) =
          front ++ ':' :: part := by
        by_cases hne : parts = []
        · exact ⟨join ':' left ++ [':'], by simp [hne]⟩
        · exact ⟨join ':' left ++ ':' :: ':' :: join ':' parts, by simp [join_concat hne part]⟩
      obtain ⟨front, htail⟩ := htail
      exact ⟨front, part, _, a, b, c, d, htail, hdotted, (List.append_assoc _ _ _).symm⟩

-- Without a point there are only groups of hexadecimal digits, the first of which starts the text
-- unless it is left out.
theorem Ipv6.hex_head (hoctet : ∀ part, octet part → IsOctet part) (h : Ipv6 octet text groups)
    (hpoint : '.' ∉ text) :
    (∀ c ∈ text, IsHexDigit c ∨ c = ':') ∧
    ((∃ part rest groups', IsGroup part ∧ text = part ++ ':' :: rest ∧
        groups = hexValue part :: groups') ∨
      text.head? = some ':' ∧ ∃ groups', groups = 0 :: groups') := by
  have hjoin {parts : List (List Char)} {groups : List Nat} (h : HexGroups parts groups) :
      ∀ c ∈ join ':' parts, IsHexDigit c ∨ c = ':' := by
    intro c hc
    rcases mem_join hc with hcolon | ⟨part, hpart, hmem⟩
    · exact .inr hcolon
    · exact .inl ((h.isGroup part hpart).digits c hmem)
  have hnodots {parts : List (List Char)} {groups : List Nat} (h : Groups octet parts groups)
      (hpoint : '.' ∉ join ':' parts) : HexGroups parts groups := by
    cases h with
    | hex hgroups => exact hgroups
    | dotted _ hdotted => exact absurd (mem_join_dotted hoctet hdotted) hpoint
  cases h with
  | full hgroups hlength =>
    have hgroups := hnodots hgroups hpoint
    refine ⟨hjoin hgroups, .inl ?_⟩
    cases hgroups with
    | nil => simp at hlength
    | @cons part parts groups hgroup hrest =>
      cases hrest with
      | nil               => simp at hlength
      | cons _ _          => exact ⟨part, _, _, hgroup, join_cons_cons, rfl⟩
  | @compressed left right groups groups' hleft hright hlength =>
    have hright := hnodots hright fun hmem => hpoint (by simp [hmem])
    refine ⟨?_, ?_⟩
    · intro c hc
      simp only [List.mem_append, List.mem_cons] at hc
      rcases hc with hc | hc | hc | hc
      · exact hjoin hleft c hc
      · exact .inr hc
      · exact .inr hc
      · exact hjoin hright c hc
    · cases hleft with
      | nil =>
        refine .inr ⟨rfl, ?_⟩
        obtain ⟨n, hn⟩ : ∃ n, 8 - (([] : List Nat).length + groups'.length) = n + 1 :=
          ⟨7 - groups'.length, by simp only [List.length_nil] at hlength ⊢; omega⟩
        rw [hn]
        exact ⟨_, rfl⟩
      | @cons part parts groups hgroup hrest =>
        cases hrest with
        | nil               => exact .inl ⟨part, _, _, hgroup, by simp; rfl, rfl⟩
        | @cons part' parts =>
          exact .inl ⟨part, _, _, hgroup, by rw [join_cons_cons, List.append_assoc]; rfl, rfl⟩

theorem join_ne_nil (hne : parts ≠ []) (h : ∀ part ∈ parts, part ≠ []) : join ':' parts ≠ [] := by
  cases parts with
  | nil             => exact absurd rfl hne
  | cons part parts =>
    have hpart := h part List.mem_cons_self
    cases parts with
    | nil       => simpa using hpart
    | cons _ _ => simp [join_cons_cons]

theorem head_join_ne (h : HexGroups parts groups) : (join ':' parts).head? ≠ some ':' := by
  cases h with
  | nil => simp
  | @cons part parts _ hgroup _ =>
    obtain ⟨c, cs, rfl⟩ := List.exists_cons_of_ne_nil hgroup.ne_nil
    have hc : c ≠ ':' := fun hc => hgroup.not_mem (c := ':') (by simp) (by simp [hc])
    cases parts with
    | nil       => simpa using hc
    | cons _ _ => simpa [join_cons_cons] using hc

-- A text that starts with the mark has all its groups behind it.
theorem Ipv6.of_mark (hoctet : ∀ part, octet part → IsOctet part) (rest : List Char)
    (h : Ipv6 octet (':' :: ':' :: rest) groups) (hpoint : '.' ∉ rest) :
    ∃ right groups', HexGroups right groups' ∧ rest = join ':' right ∧ groups'.length < 8 ∧
      groups = List.replicate (8 - groups'.length) 0 ++ groups' := by
  generalize htext : ':' :: ':' :: rest = text at h
  cases h with
  | full hgroups hlength =>
    cases hgroups with
    | hex hgroups =>
      have hhead := head_join_ne hgroups
      rw [← htext] at hhead
      exact absurd rfl hhead
    | dotted _ hdotted =>
      have hmem := htext ▸ mem_join_dotted hoctet hdotted
      simp [hpoint] at hmem
  | @compressed left right groups groups' hleft hright hlength =>
    cases hleft with
    | cons hgroup hrest =>
      have hhead := head_join_ne (.cons hgroup hrest)
      have hne := join_ne_nil (List.cons_ne_nil _ _) fun part hpart =>
        ((HexGroups.cons hgroup hrest).isGroup part hpart).ne_nil
      obtain ⟨c, cs, hjoin⟩ := List.exists_cons_of_ne_nil hne
      rw [hjoin, List.cons_append] at htext
      rw [hjoin] at hhead
      exact absurd (congrArg some (List.cons.inj htext).1.symm) hhead
    | nil =>
      have hrest : rest = join ':' right := by simpa using htext
      cases hright with
      | hex hright => exact ⟨right, groups', hright, hrest, by simpa using hlength, by simp⟩
      | dotted _ hdotted => exact absurd (hrest ▸ mem_join_dotted hoctet hdotted) hpoint

theorem Ipv6.unspecified (hoctet : ∀ part, octet part → IsOctet part)
    (h : Ipv6 octet "::".toList groups) : groups = [0, 0, 0, 0, 0, 0, 0, 0] := by
  obtain ⟨right, groups', hright, hrest, -, rfl⟩ := Ipv6.of_mark hoctet [] h (by simp)
  cases hright with
  | nil => rfl
  | cons hgroup hgroups =>
    have hne := join_ne_nil (List.cons_ne_nil _ _) fun part hpart =>
      ((HexGroups.cons hgroup hgroups).isGroup part hpart).ne_nil
    exact absurd hrest.symm hne

theorem Ipv6.loopback (hoctet : ∀ part, octet part → IsOctet part)
    (h : Ipv6 octet "::1".toList groups) : groups = [0, 0, 0, 0, 0, 0, 0, 1] := by
  obtain ⟨right, groups', hright, hrest, -, rfl⟩ :=
    Ipv6.of_mark hoctet ['1'] h (by decide)
  cases hright with
  | nil => cases hrest
  | @cons part parts groups hgroup hgroups =>
    cases hgroups with
    | nil =>
      rw [join_singleton] at hrest
      rw [← hrest]
      rfl
    | cons hgroup' _ =>
      have hlength := congrArg List.length hrest
      have hpart := List.length_pos_of_ne_nil hgroup.ne_nil
      simp only [join_cons_cons, List.length_append, List.length_cons, List.length_nil] at hlength
      omega

end Tails

end IpAddress
