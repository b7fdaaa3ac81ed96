import Mathlib.Data.List.Induction
import Mathlib.Tactic.Linarith
import Mathlib.Tactic.Ring

-- Statements about the characters of a list are decided on the list, not on all characters.
section Members

variable {p : Char → Prop} [DecidablePred p]

instance decidableForallChar (cs : List Char) : Decidable (∀ c ∈ cs, p c) :=
  List.decidableBAll p cs

instance decidableExistsChar (cs : List Char) : Decidable (∃ c ∈ cs, p c) :=
  List.decidableBEx p cs

end Members

namespace Decimal

def digit (c : Char) : Nat :=
  c.toNat - '0'.toNat

def IsDigits (cs : List Char) : Prop :=
  ∀ c ∈ cs, c.isDigit

instance : DecidablePred IsDigits := fun cs =>
  inferInstanceAs (Decidable (∀ c ∈ cs, c.isDigit))

def value (cs : List Char) : Nat :=
  cs.foldl (fun n c => 10 * n + digit c) 0

-- Digits without leading zeros.
structure IsCanonical (cs : List Char) : Prop where
  digits  : IsDigits cs
  ne_nil  : cs ≠ []
  leading : cs.head? = some '0' → cs = ['0']

instance : DecidablePred IsCanonical := fun cs =>
  decidable_of_iff (IsDigits cs ∧ cs ≠ [] ∧ (cs.head? = some '0' → cs = ['0']))
    ⟨fun h => ⟨h.1, h.2.1, h.2.2⟩, fun h => ⟨h.1, h.2, h.3⟩⟩

section Digits

variable {c c' : Char} {xs ys cs : List Char}

@[simp]
theorem isDigits_nil : IsDigits [] := by
  simp [IsDigits]

@[simp]
theorem isDigits_cons : IsDigits (c :: cs) ↔ c.isDigit ∧ IsDigits cs := by
  simp [IsDigits]

@[simp]
theorem isDigits_append : IsDigits (xs ++ ys) ↔ IsDigits xs ∧ IsDigits ys := by
  simp only [IsDigits, List.mem_append, or_imp, forall_and]

@[simp]
theorem isDigits_replicate_zero {n : Nat} : IsDigits (List.replicate n '0') := by
  intro c hc
  rw [List.eq_of_mem_replicate hc]
  rfl

theorem toNat_of_isDigit (h : c.isDigit) : '0'.toNat ≤ c.toNat ∧ c.toNat ≤ '9'.toNat := by
  simp only [Char.isDigit, Bool.and_eq_true, decide_eq_true_eq] at h
  exact ⟨h.1, h.2⟩

theorem digit_lt (h : c.isDigit) : digit c < 10 := by
  have hrange := toNat_of_isDigit h
  have hnine : '9'.toNat = 57 := rfl
  have hzero : '0'.toNat = 48 := rfl
  unfold digit
  omega

theorem digit_injective (h : c.isDigit) (h' : c'.isDigit) (heq : digit c = digit c') : c = c' := by
  have hrange := toNat_of_isDigit h
  have hrange' := toNat_of_isDigit h'
  apply Char.toNat_inj.mp
  unfold digit at heq
  omega

theorem digit_eq_zero (h : c.isDigit) : digit c = 0 ↔ c = '0' := by
  constructor
  · intro hzero
    exact digit_injective h rfl (hzero.trans rfl)
  · rintro rfl
    rfl

end Digits

section Value

variable {c : Char} {xs ys cs : List Char}

@[simp]
theorem value_nil : value [] = 0 := rfl

theorem value_concat (cs : List Char) (c : Char) : value (cs ++ [c]) = 10 * value cs + digit c := by
  simp [value, List.foldl_append]

theorem value_append (xs ys : List Char) :
    value (xs ++ ys) = value xs * 10 ^ ys.length + value ys := by
  induction ys using List.reverseRecOn with
  | nil => simp
  | append_singleton ys c ih =>
    rw [← List.append_assoc, value_concat, value_concat, ih, List.length_append,
      List.length_singleton, pow_succ]
    ring

theorem value_cons (c : Char) (cs : List Char) :
    value (c :: cs) = digit c * 10 ^ cs.length + value cs := by
  have hsingle : value [c] = digit c := by simp [value]
  rw [← List.singleton_append, value_append, hsingle]

@[simp]
theorem value_replicate_zero (n : Nat) : value (List.replicate n '0') = 0 := by
  induction n with
  | zero      => rfl
  | succ n ih => simp [List.replicate_succ, value_cons, ih, digit]

theorem value_lt (h : IsDigits cs) : value cs < 10 ^ cs.length := by
  induction cs with
  | nil => simp
  | cons c cs ih =>
    rw [isDigits_cons] at h
    have hdigit : digit c + 1 ≤ 10 := digit_lt h.1
    calc value (c :: cs)
        = digit c * 10 ^ cs.length + value cs := value_cons c cs
      _ < digit c * 10 ^ cs.length + 10 ^ cs.length := Nat.add_lt_add_left (ih h.2) _
      _ = (digit c + 1) * 10 ^ cs.length := by ring
      _ ≤ 10 * 10 ^ cs.length := Nat.mul_le_mul_right _ hdigit
      _ = 10 ^ (c :: cs).length := by rw [List.length_cons, pow_succ']

theorem pow_le_value (h : c.isDigit) (hc : c ≠ '0') : 10 ^ cs.length ≤ value (c :: cs) := by
  have hdigit : 1 ≤ digit c := Nat.one_le_iff_ne_zero.mpr fun hzero => hc ((digit_eq_zero h).mp hzero)
  calc 10 ^ cs.length
      = 1 * 10 ^ cs.length := (one_mul _).symm
    _ ≤ digit c * 10 ^ cs.length := Nat.mul_le_mul_right _ hdigit
    _ ≤ value (c :: cs) := by rw [value_cons]; exact Nat.le_add_right _ _

theorem value_eq_zero (h : IsDigits cs) : value cs = 0 ↔ cs = List.replicate cs.length '0' := by
  induction cs with
  | nil => simp
  | cons c cs ih =>
    rw [isDigits_cons] at h
    rw [value_cons, Nat.add_eq_zero_iff, Nat.mul_eq_zero, digit_eq_zero h.1, ih h.2,
      List.length_cons, List.replicate_succ, List.cons_eq_cons]
    simp

-- Digits of one length are determined by their value.
theorem eq_of_value_eq (hx : IsDigits xs) (hy : IsDigits ys) (hlength : xs.length = ys.length)
    (hvalue : value xs = value ys) : xs = ys := by
  induction xs using List.reverseRecOn generalizing ys with
  | nil => exact (List.length_eq_zero_iff.mp hlength.symm).symm
  | append_singleton xs c ih =>
    obtain ⟨ys, c', rfl⟩ : ∃ zs c', ys = zs ++ [c'] := by
      refine ⟨ys.dropLast, ys.getLast ?_, (List.dropLast_concat_getLast _).symm⟩
      rintro rfl
      simp at hlength
    simp only [isDigits_append, isDigits_cons, isDigits_nil, and_true] at hx hy
    have hlt := digit_lt hx.2
    have hlt' := digit_lt hy.2
    rw [value_concat, value_concat] at hvalue
    have hdigit : digit c = digit c' := by omega
    have hrest : value xs = value ys := by omega
    rw [ih hx.1 hy.1 (by simpa using hlength) hrest, digit_injective hx.2 hy.2 hdigit]

end Value

section Canonical

variable {xs ys cs : List Char}

theorem IsCanonical.value_eq_zero (h : IsCanonical cs) : value cs = 0 ↔ cs = ['0'] := by
  constructor
  · intro hzero
    rw [Decimal.value_eq_zero h.digits] at hzero
    refine h.leading ?_
    cases cs with
    | nil       => exact absurd rfl h.ne_nil
    | cons c cs =>
      rw [List.length_cons, List.replicate_succ, List.cons_eq_cons] at hzero
      rw [List.head?_cons, hzero.1]
  · rintro rfl
    rfl

theorem IsCanonical.bounds (h : IsCanonical cs) (hpos : 0 < value cs) :
    10 ^ (cs.length - 1) ≤ value cs ∧ value cs < 10 ^ cs.length := by
  refine ⟨?_, value_lt h.digits⟩
  cases cs with
  | nil       => exact absurd rfl h.ne_nil
  | cons c cs =>
    rw [List.length_cons, Nat.add_sub_cancel]
    refine pow_le_value (isDigits_cons.mp h.digits).1 ?_
    rintro rfl
    rw [h.leading rfl] at hpos
    exact absurd hpos (by decide)

-- Canonical digits are determined by their value.
theorem IsCanonical.eq (hx : IsCanonical xs) (hy : IsCanonical ys) (h : value xs = value ys) :
    xs = ys := by
  rcases Nat.eq_zero_or_pos (value xs) with hzero | hpos
  · rw [hx.value_eq_zero.mp hzero, hy.value_eq_zero.mp (h ▸ hzero)]
  · have hlength {as bs : List Char} (ha : IsCanonical as) (hb : IsCanonical bs)
        (hpos : 0 < value as) (h : value as = value bs) : as.length ≤ bs.length := by
      by_contra hlt
      have hle : bs.length ≤ as.length - 1 := by omega
      have hbound := (ha.bounds hpos).1.trans_lt (h ▸ value_lt hb.digits)
      exact absurd ((Nat.pow_lt_pow_iff_right (by decide)).mp hbound) (by omega)
    exact eq_of_value_eq hx.digits hy.digits
      (le_antisymm (hlength hx hy hpos h) (hlength hy hx (h ▸ hpos) h.symm)) h

-- The digits without their leading zeros, of which one remains if there is nothing else.
def dropLeadingZeros : List Char → List Char
  | '0' :: c :: cs => if c.isDigit then dropLeadingZeros (c :: cs) else '0' :: c :: cs
  | cs             => cs

theorem dropLeadingZeros_spec (h : IsDigits cs) (hne : cs ≠ []) :
    IsCanonical (dropLeadingZeros cs) ∧ value (dropLeadingZeros cs) = value cs := by
  induction cs using dropLeadingZeros.induct with
  | case1 c cs hdigit ih =>
    obtain ⟨hcanonical, hvalue⟩ := ih (isDigits_cons.mp h).2 (by simp)
    rw [dropLeadingZeros, if_pos hdigit]
    refine ⟨hcanonical, hvalue.trans ?_⟩
    rw [value_cons '0']
    simp [digit]
  | case2 c cs hdigit =>
    simp only [isDigits_cons] at h
    exact absurd h.2.1 hdigit
  | case3 cs hcs =>
    have hsame : dropLeadingZeros cs = cs := by
      unfold dropLeadingZeros
      split
      · exact absurd rfl (hcs _ _)
      · rfl
    rw [hsame]
    refine ⟨⟨h, hne, fun hhead => ?_⟩, rfl⟩
    match cs with
    | []           => cases hhead
    | [c]          => rw [Option.some.inj hhead]
    | c :: c' :: _ =>
      obtain rfl := Option.some.inj hhead
      exact absurd rfl (hcs _ _)

end Canonical

end Decimal
