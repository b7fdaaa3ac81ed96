import Mathlib.Data.List.Basic
import Mathlib.Tactic.FinCases
import Mathlib.Tactic.SplitIfs

namespace Base64Url

abbrev Octet := Fin 256

abbrev Sextet := Fin 64

def sextet (n : Nat) : Sextet := Fin.ofNat 64 n

def octet (n : Nat) : Octet := Fin.ofNat 256 n

@[simp]
theorem sextet_val (n : Nat) : (sextet n).val = n % 64 := rfl

@[simp]
theorem octet_val (n : Nat) : (octet n).val = n % 256 := rfl

def char (s : Sextet) : Char :=
  if s < 26 then Char.ofNat ('A'.toNat + s)
  else if s < 52 then Char.ofNat ('a'.toNat + (s - 26))
  else if s < 62 then Char.ofNat ('0'.toNat + (s - 52))
  else if s = 62 then '-' else '_'

def value? (c : Char) : Option Sextet :=
  if 'A' ≤ c ∧ c ≤ 'Z' then some (sextet (c.toNat - 'A'.toNat))
  else if 'a' ≤ c ∧ c ≤ 'z' then some (sextet (c.toNat - 'a'.toNat + 26))
  else if '0' ≤ c ∧ c ≤ '9' then some (sextet (c.toNat - '0'.toNat + 52))
  else if c = '-' then some 62
  else if c = '_' then some 63
  else none

theorem value?_char (s : Sextet) : value? (char s) = some s := by
  revert s
  decide +kernel

-- Three octets are four sextets, and the last one of an incomplete group is filled up with zeros.
def sextets : List Octet → List Sextet
  | a :: b :: c :: octets =>
    sextet (a / 4) :: sextet (a % 4 * 16 + b / 16) :: sextet (b % 16 * 4 + c / 64) ::
      sextet (c % 64) :: sextets octets
  | [a, b] => [sextet (a / 4), sextet (a % 4 * 16 + b / 16), sextet (b % 16 * 4)]
  | [a]    => [sextet (a / 4), sextet (a % 4 * 16)]
  | []     => []

def octets : List Sextet → List Octet
  | p :: q :: r :: s :: sextets =>
    octet (p * 4 + q / 16) :: octet (q % 16 * 16 + r / 4) :: octet (r % 4 * 64 + s) ::
      octets sextets
  | [p, q, r] => [octet (p * 4 + q / 16), octet (q % 16 * 16 + r / 4)]
  | [p, q]    => [octet (p * 4 + q / 16)]
  | _         => []

def encode (bytes : List Octet) : String :=
  String.ofList ((sextets bytes).map char)

-- What is not in the alphabet is skipped.
def decode (text : String) : List Octet :=
  octets (text.toList.filterMap value?)

-- The sextets of which the last one has other bits where the encoding fills up with zeros. There are
-- two such bits behind an incomplete group of two octets.
def spelling (k : Fin 4) : List Octet → List Sextet
  | a :: b :: c :: octets =>
    sextet (a / 4) :: sextet (a % 4 * 16 + b / 16) :: sextet (b % 16 * 4 + c / 64) ::
      sextet (c % 64) :: spelling k octets
  | [a, b] => [sextet (a / 4), sextet (a % 4 * 16 + b / 16), sextet (b % 16 * 4 + k)]
  | [a]    => [sextet (a / 4), sextet (a % 4 * 16)]
  | []     => []

theorem spelling_zero (bytes : List Octet) : spelling 0 bytes = sextets bytes := by
  induction bytes using sextets.induct with
  | case1 a b c bytes ih => rw [spelling, sextets, ih]
  | case2 a b            => rfl
  | case3 a              => rfl
  | case4                => rfl

theorem length_spelling (k : Fin 4) (bytes : List Octet) :
    (spelling k bytes).length = (bytes.length * 4 + 2) / 3 := by
  induction bytes using sextets.induct with
  | case1 a b c bytes ih => simp only [spelling, List.length_cons, ih]; omega
  | case2 a b            => simp [spelling]
  | case3 a              => simp [spelling]
  | case4                => simp [spelling]

theorem octets_spelling (k : Fin 4) (bytes : List Octet) : octets (spelling k bytes) = bytes := by
  induction bytes using sextets.induct with
  | case1 a b c bytes ih =>
    have ha : octet (a / 4 % 64 * 4 + (a % 4 * 16 + b / 16) % 64 / 16) = a := by
      apply Fin.ext; simp only [octet_val]; omega
    have hb : octet ((a % 4 * 16 + b / 16) % 64 % 16 * 16 + (b % 16 * 4 + c / 64) % 64 / 4) = b := by
      apply Fin.ext; simp only [octet_val]; omega
    have hc : octet ((b % 16 * 4 + c / 64) % 64 % 4 * 64 + c % 64 % 64) = c := by
      apply Fin.ext; simp only [octet_val]; omega
    simp only [spelling, octets, sextet_val, ih, ha, hb, hc]
  | case2 a b =>
    have ha : octet (a / 4 % 64 * 4 + (a % 4 * 16 + b / 16) % 64 / 16) = a := by
      apply Fin.ext; simp only [octet_val]; omega
    have hb : octet ((a % 4 * 16 + b / 16) % 64 % 16 * 16 + (b % 16 * 4 + k) % 64 / 4) = b := by
      apply Fin.ext; simp only [octet_val]; omega
    simp only [spelling, octets, sextet_val, ha, hb]
  | case3 a =>
    have ha : octet (a / 4 % 64 * 4 + a % 4 * 16 % 64 / 16) = a := by
      apply Fin.ext; simp only [octet_val]; omega
    simp only [spelling, octets, sextet_val, ha]
  | case4 => rfl

theorem octets_sextets (bytes : List Octet) : octets (sextets bytes) = bytes := by
  rw [← spelling_zero, octets_spelling]

theorem length_sextets (bytes : List Octet) :
    (sextets bytes).length = (bytes.length * 4 + 2) / 3 := by
  rw [← spelling_zero, length_spelling]

theorem filterMap_value?_char (ss : List Sextet) : (ss.map char).filterMap value? = ss := by
  induction ss with
  | nil         => rfl
  | cons s ss ih => simp [value?_char, ih]

theorem decode_encode (bytes : List Octet) : decode (encode bytes) = bytes := by
  rw [decode, encode, String.toList_ofList, filterMap_value?_char, octets_sextets]

def IsEncodedChar (c : Char) : Prop := (value? c).isSome

instance : DecidablePred IsEncodedChar := fun c => inferInstanceAs (Decidable ((value? c).isSome))

theorem isEncodedChar_of_mem_encode {bytes : List Octet} {c : Char}
    (h : c ∈ (encode bytes).toList) : IsEncodedChar c := by
  rw [encode, String.toList_ofList] at h
  obtain ⟨s, -, rfl⟩ := List.mem_map.mp h
  simp [IsEncodedChar, value?_char]

theorem length_encode (bytes : List Octet) :
    (encode bytes).toList.length = (bytes.length * 4 + 2) / 3 := by
  rw [encode, String.toList_ofList, List.length_map, length_sextets]

theorem char_injective : Function.Injective char := by
  intro s s' h
  have hvalue := congrArg value? h
  rw [value?_char, value?_char] at hvalue
  exact Option.some.inj hvalue

theorem char_value {c : Char} {s : Sextet} (h : value? c = some s) : char s = c := by
  have hascii : ∀ n < 128, (value? (Char.ofNat n)).all (char · = Char.ofNat n) := by
    decide +kernel
  have hlt : c.toNat < 128 := by
    have hupper : 'Z'.toNat < 128 ∧ 'z'.toNat < 128 ∧ '9'.toNat < 128 := by decide
    unfold value? at h
    split_ifs at h with h₁ h₂ h₃ h₄ h₅
    · exact Nat.lt_of_le_of_lt h₁.2 hupper.1
    · exact Nat.lt_of_le_of_lt h₂.2 hupper.2.1
    · exact Nat.lt_of_le_of_lt h₃.2 hupper.2.2
    · rw [h₄]
      decide
    · rw [h₅]
      decide
  have hchar := hascii c.toNat hlt
  rw [Char.ofNat_toNat, h, Option.all_some] at hchar
  exact of_decide_eq_true hchar

-- A text of characters of the alphabet is that of its sextets.
theorem exists_sextets {cs : List Char} (h : ∀ c ∈ cs, IsEncodedChar c) :
    ∃ ss : List Sextet, cs = ss.map char := by
  induction cs with
  | nil          => exact ⟨[], rfl⟩
  | cons c cs ih =>
    rw [List.forall_mem_cons] at h
    obtain ⟨s, hs⟩ := Option.isSome_iff_exists.mp h.1
    obtain ⟨ss, rfl⟩ := ih h.2
    exact ⟨s :: ss, by rw [List.map_cons, char_value hs]⟩

section Spellings

variable {k k' : Fin 4} {bytes : List Octet} {ss : List Sextet} {text : String}

theorem spelling_injective (hlength : bytes.length % 3 = 2)
    (h : spelling k bytes = spelling k' bytes) : k = k' := by
  induction bytes using sextets.induct with
  | case1 a b c bytes ih =>
    simp only [List.length_cons] at hlength
    simp only [spelling, List.cons.injEq, true_and] at h
    exact ih (by omega) h
  | case2 a b =>
    simp only [spelling, List.cons.injEq, true_and, and_true] at h
    have hval := congrArg Fin.val h
    simp only [sextet_val] at hval
    exact Fin.ext (by omega)
  | case3 a => simp at hlength
  | case4   => simp at hlength

theorem exists_spelling : ∀ ss : List Sextet, ss.length % 4 = 3 → ∃ k, ss = spelling k (octets ss)
  | p :: q :: r :: s :: ss, hlength => by
    simp only [List.length_cons] at hlength
    obtain ⟨k, hk⟩ := exists_spelling ss (by omega)
    have hp : sextet ((p * 4 + q / 16) % 256 / 4) = p := by
      apply Fin.ext; simp only [sextet_val]; omega
    have hq : sextet ((p * 4 + q / 16) % 256 % 4 * 16 + (q % 16 * 16 + r / 4) % 256 / 16) = q := by
      apply Fin.ext; simp only [sextet_val]; omega
    have hr : sextet ((q % 16 * 16 + r / 4) % 256 % 16 * 4 + (r % 4 * 64 + s) % 256 / 64) = r := by
      apply Fin.ext; simp only [sextet_val]; omega
    have hs : sextet ((r % 4 * 64 + s) % 256 % 64) = s := by
      apply Fin.ext; simp only [sextet_val]; omega
    refine ⟨k, ?_⟩
    simp only [octets, spelling, octet_val, hp, hq, hr, hs, ← hk]
  | [p, q, r], _ => by
    have hp : sextet ((p * 4 + q / 16) % 256 / 4) = p := by
      apply Fin.ext; simp only [sextet_val]; omega
    have hq : sextet ((p * 4 + q / 16) % 256 % 4 * 16 + (q % 16 * 16 + r / 4) % 256 / 16) = q := by
      apply Fin.ext; simp only [sextet_val]; omega
    have hr : sextet ((q % 16 * 16 + r / 4) % 256 % 16 * 4 + r % 4) = r := by
      apply Fin.ext; simp only [sextet_val]; omega
    refine ⟨⟨r % 4, by omega⟩, ?_⟩
    simp only [octets, spelling, octet_val, hp, hq, hr]
  | [_, _], hlength | [_], hlength | [], hlength => by simp at hlength

-- The sextets that stand for octets, when their last group is incomplete
theorem octets_eq_iff (hlength : ss.length % 4 = 3) :
    octets ss = bytes ↔ ∃ k, ss = spelling k bytes := by
  constructor
  · rintro rfl
    exact exists_spelling ss hlength
  · rintro ⟨k, rfl⟩
    exact octets_spelling k bytes

-- The text of a spelling
def spelled (k : Fin 4) (bytes : List Octet) : String :=
  String.ofList ((spelling k bytes).map char)

theorem spelled_zero (bytes : List Octet) : spelled 0 bytes = encode bytes := by
  rw [spelled, encode, spelling_zero]

theorem length_spelled (k : Fin 4) (bytes : List Octet) :
    (spelled k bytes).toList.length = (bytes.length * 4 + 2) / 3 := by
  rw [spelled, String.toList_ofList, List.length_map, length_spelling]

theorem isEncodedChar_of_mem_spelled {c : Char} (h : c ∈ (spelled k bytes).toList) :
    IsEncodedChar c := by
  rw [spelled, String.toList_ofList] at h
  obtain ⟨s, -, rfl⟩ := List.mem_map.mp h
  simp [IsEncodedChar, value?_char]

theorem spelled_injective (hlength : bytes.length % 3 = 2) (h : spelled k bytes = spelled k' bytes) :
    k = k' := by
  have hchars := String.ofList_inj.mp h
  exact spelling_injective hlength (List.map_injective_iff.mpr char_injective hchars)

theorem decode_eq_iff (hlength : text.toList.length % 4 = 3)
    (hchars : ∀ c ∈ text.toList, IsEncodedChar c) :
    decode text = bytes ↔ ∃ k, text = spelled k bytes := by
  obtain ⟨ss, hss⟩ := exists_sextets hchars
  rw [hss, List.length_map] at hlength
  rw [decode, hss, filterMap_value?_char, octets_eq_iff hlength]
  refine exists_congr fun k => ?_
  rw [spelled, ← String.toList_inj, String.toList_ofList, hss]
  exact (List.map_injective_iff.mpr char_injective).eq_iff.symm

end Spellings

end Base64Url
