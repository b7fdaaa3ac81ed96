import Mathlib
import RefundDesk.Library.Json

open Utf16

namespace Json

theorem toString_chars (n : Int) {c : Char} (h : c ∈ (toString n).toList) :
    c = '-' ∨ c.isDigit := by
  have hdigit (m : Nat) (h : c ∈ m.repr.toList) : c.isDigit := by
    rw [Nat.repr, String.toList_ofList] at h
    exact Nat.isDigit_of_mem_toDigits (by decide) (by decide) h
  have hrepr : (toString n).toList = n.repr.toList := rfl
  rw [hrepr, Int.repr_eq_if] at h
  split at h
  · exact .inr (hdigit _ h)
  · rw [String.toList_append] at h
    rcases List.mem_append.mp h with h | h
    · exact .inl (by simpa using h)
    · exact .inr (hdigit _ h)

theorem toString_bound (n : Int) {c : Char} (h : c ∈ (toString n).toList) : c.toNat ≤ 57 := by
  rcases toString_chars n h with rfl | hdigit
  · decide
  · exact (Char.isDigit_iff_toNat.mp hdigit).2

-- The units of an integer are its characters.
theorem ofString_toString (n : Int) :
    ofString (toString n) = (toString n).toList.map fun c => Fin.ofNat 65536 c.toNat := by
  rw [ofString, List.map_eq_flatMap]
  refine List.flatMap_congr fun c hc => ?_
  have hbound := toString_bound n hc
  rw [encodeChar, if_pos (by omega)]

-- The integers, in decimal
def integerFormat : NumberFormat Int where
  toText n      := ofString (toString n)
  ofText text   := (String.ofList (text.map fun u => Char.ofNat u.val)).toInt?
  units         := by
    have hunit : ∀ n < 58, n = 45 ∨ 48 ≤ n → isNumberUnit (Fin.ofNat 65536 n) = true := by decide
    intro n u hu
    rw [ofString_toString] at hu
    obtain ⟨c, hc, rfl⟩ := List.mem_map.mp hu
    refine hunit c.toNat (Nat.lt_succ_of_le (toString_bound n hc)) ?_
    rcases toString_chars n hc with rfl | hdigit
    · exact .inl rfl
    · exact .inr (Char.isDigit_iff_toNat.mp hdigit).1
  ne_nil        := by
    intro n hnil
    rw [ofString_toString, List.map_eq_nil_iff] at hnil
    have hempty : n.repr = "" := String.toList_eq_nil_iff.mp hnil
    rw [Int.repr_eq_if] at hempty
    split at hempty
    · exact Nat.repr_ne_empty hempty
    · simp at hempty
  ofText_toText := by
    intro n
    have hchars : (ofString (toString n)).map (fun u => Char.ofNat u.val) = (toString n).toList := by
      rw [ofString_toString, List.map_map]
      conv_rhs => rw [← List.map_id (toString n).toList]
      refine List.map_congr_left fun c hc => ?_
      have hbound := toString_bound n hc
      have hval : (Fin.ofNat 65536 c.toNat).val = c.toNat := Nat.mod_eq_of_lt (by omega)
      rw [Function.comp, hval, Char.ofNat_toNat]
      rfl
    rw [hchars, String.ofList_toList]
    exact Int.toInt?_repr n

end Json
