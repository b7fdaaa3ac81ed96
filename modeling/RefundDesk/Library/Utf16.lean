import Mathlib.Algebra.GroupWithZero.Nat
import Mathlib.Data.List.Basic
import Mathlib.Data.List.DropRight

-- Texts as sequences of the code units of UTF-16, which need not be well formed.
namespace Utf16

abbrev CodeUnit := Fin 65536

abbrev Text := List CodeUnit

instance neZeroCodeUnits : NeZero 65536 :=
  ⟨by decide⟩

def isLead (u : CodeUnit) : Bool :=
  0xD800 ≤ u && u ≤ 0xDBFF

def isTrail (u : CodeUnit) : Bool :=
  0xDC00 ≤ u && u ≤ 0xDFFF

def encodeChar (c : Char) : Text :=
  if c.toNat < 0x10000 then [Fin.ofNat 65536 c.toNat]
  else [
    Fin.ofNat 65536 (0xD800 + (c.toNat - 0x10000) / 0x400),
    Fin.ofNat 65536 (0xDC00 + (c.toNat - 0x10000) % 0x400)
  ]

def ofString (s : String) : Text :=
  s.toList.flatMap encodeChar

-- What `trim` removes at both ends
def isBlankUnit (u : CodeUnit) : Bool :=
  u ∈ [0x09, 0x0A, 0x0B, 0x0C, 0x0D, 0x20, 0xA0, 0xFEFF, 0x1680, 0x2028, 0x2029, 0x202F, 0x205F,
    0x3000] || (0x2000 ≤ u && u ≤ 0x200A)

def trimUnits (text : Text) : Text :=
  (text.dropWhile isBlankUnit).rdropWhile isBlankUnit

theorem toNat_bounds (c : Char) : c.toNat < 0xD800 ∨ 0xDFFF < c.toNat ∧ c.toNat < 0x110000 :=
  c.valid

theorem isLead_iff {u : CodeUnit} : isLead u = true ↔ 0xD800 ≤ u.val ∧ u.val ≤ 0xDBFF := by
  simp only [isLead, Bool.and_eq_true, decide_eq_true_eq]
  rfl

theorem isTrail_iff {u : CodeUnit} : isTrail u = true ↔ 0xDC00 ≤ u.val ∧ u.val ≤ 0xDFFF := by
  simp only [isTrail, Bool.and_eq_true, decide_eq_true_eq]
  rfl

-- The first unit of a character tells how many there are.
theorem encodeChar_cases (c : Char) :
    (∃ u : CodeUnit, encodeChar c = [u] ∧ isLead u = false ∧ isTrail u = false ∧
      c.toNat = u.val) ∨
    ∃ u u' : CodeUnit, encodeChar c = [u, u'] ∧ isLead u = true ∧ isTrail u' = true ∧
      c.toNat = 0x10000 + (u.val - 0xD800) * 0x400 + (u'.val - 0xDC00) := by
  have hbounds := toNat_bounds c
  unfold encodeChar
  split_ifs with hsmall
  · have hval : (Fin.ofNat 65536 c.toNat).val = c.toNat := Nat.mod_eq_of_lt hsmall
    refine .inl ⟨_, rfl, ?_, ?_, hval.symm⟩
    · rw [Bool.eq_false_iff, Ne, isLead_iff, hval]
      omega
    · rw [Bool.eq_false_iff, Ne, isTrail_iff, hval]
      omega
  · have hlead : (Fin.ofNat 65536 (0xD800 + (c.toNat - 0x10000) / 0x400)).val =
        0xD800 + (c.toNat - 0x10000) / 0x400 := Nat.mod_eq_of_lt (by omega)
    have htrail : (Fin.ofNat 65536 (0xDC00 + (c.toNat - 0x10000) % 0x400)).val =
        0xDC00 + (c.toNat - 0x10000) % 0x400 := Nat.mod_eq_of_lt (by omega)
    refine .inr ⟨_, _, rfl, ?_, ?_, ?_⟩
    · rw [isLead_iff, hlead]
      omega
    · rw [isTrail_iff, htrail]
      omega
    · rw [hlead, htrail]
      omega

theorem encodeChar_ne_nil (c : Char) : encodeChar c ≠ [] := by
  unfold encodeChar
  split_ifs <;> simp

theorem encodeChar_append_inj {c c' : Char} {rest rest' : Text}
    (h : encodeChar c ++ rest = encodeChar c' ++ rest') : c = c' ∧ rest = rest' := by
  rcases encodeChar_cases c with ⟨u, hc, hu, -, hcode⟩ | ⟨u, v, hc, hu, -, hcode⟩ <;>
    rcases encodeChar_cases c' with ⟨u', hc', hu', -, hcode'⟩ | ⟨u', v', hc', hu', -, hcode'⟩ <;>
    rw [hc, hc'] at h <;> injection h with hhead htail
  · rw [hhead, ← hcode'] at hcode
    exact ⟨Char.toNat_inj.mp hcode, htail⟩
  · rw [hhead, hu'] at hu
    cases hu
  · rw [hhead, hu'] at hu
    cases hu
  · injection htail with hhead' htail
    rw [hhead, hhead', ← hcode'] at hcode
    exact ⟨Char.toNat_inj.mp hcode, htail⟩

theorem flatMap_encodeChar_injective {cs cs' : List Char}
    (h : cs.flatMap encodeChar = cs'.flatMap encodeChar) : cs = cs' := by
  induction cs generalizing cs' with
  | nil =>
    cases cs' with
    | nil        => rfl
    | cons c' cs' =>
      rw [List.flatMap_nil, List.flatMap_cons] at h
      exact absurd (List.append_eq_nil_iff.mp h.symm).1 (encodeChar_ne_nil c')
  | cons c cs ih =>
    cases cs' with
    | nil         =>
      rw [List.flatMap_nil, List.flatMap_cons] at h
      exact absurd (List.append_eq_nil_iff.mp h).1 (encodeChar_ne_nil c)
    | cons c' cs' =>
      rw [List.flatMap_cons, List.flatMap_cons] at h
      have hinj := encodeChar_append_inj h
      rw [hinj.1, ih hinj.2]

theorem ofString_injective : Function.Injective ofString :=
  fun _ _ h => String.toList_inj.mp (flatMap_encodeChar_injective h)

end Utf16
