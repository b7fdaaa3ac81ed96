import RefundDesk.Library.JsonObjects

namespace RefundDesk

open Utf16 Json

-- The order in which `localeCompare` puts keys, in the locale of a process
structure Collation where
  compare : Text → Text → Ordering
  lawful  : Std.TransCmp compare

namespace Collation

variable (collation : Collation)

def Le (left right : Text) : Prop :=
  (collation.compare left right).isLE

instance : DecidableRel collation.Le := fun left right =>
  inferInstanceAs (Decidable ((collation.compare left right).isLE = true))

instance : IsTrans Text collation.Le :=
  ⟨fun _ _ _ => collation.lawful.isLE_trans⟩

theorem compare_swap (left right : Text) :
    collation.compare left right = (collation.compare right left).swap :=
  collation.lawful.eq_swap

instance : Std.Total collation.Le :=
  ⟨fun left right => by
    unfold Le
    rw [collation.compare_swap left right]
    cases collation.compare right left <;> simp⟩

variable {collation} {collation' : Collation} {left right : Text}

theorem compare_eq_iff : collation.compare left right = .eq ↔
    collation.Le left right ∧ collation.Le right left := by
  unfold Le
  rw [collation.compare_swap right left]
  cases collation.compare left right <;> simp

theorem compare_eq_compare_iff :
    collation.compare left right = collation'.compare left right ↔
      (collation.Le left right ↔ collation'.Le left right) ∧
        (collation.Le right left ↔ collation'.Le right left) := by
  unfold Le
  rw [collation.compare_swap right left, collation'.compare_swap right left]
  cases collation.compare left right <;> cases collation'.compare left right <;> simp

end Collation

namespace CanonicalJson

variable {ν : Type}

structure TypeError where
  message : String
  deriving DecidableEq, Repr

section Definitions

variable (collation : Collation) (objectOf : Arrangement)

mutual

-- A number that is not finite is none. The members are normalized before they are sorted here: the
-- sort reads the keys only, and no other error can come before.
def normalizeWith : Json (Option ν) → Except TypeError (Json ν)
  | .null           => .ok .null
  | .bool b         => .ok (.bool b)
  | .num none       => .error ⟨"Canonical JSON does not support non-finite numbers"⟩
  | .num (some n)   => .ok (.num n)
  | .str s          => .ok (.str s)
  | .arr items      => do
    let items ← normalizeItems items
    pure (.arr items)
  | .obj members    => do
    let members ← normalizeMembers members
    let sorted := (Arrangement.sort collation.Le).apply (propertyOrder.apply members)
    pure (.obj (objectOf.apply sorted))

def normalizeItems : List (Json (Option ν)) → Except TypeError (List (Json ν))
  | []            => .ok []
  | item :: items => do
    let item ← normalizeWith item
    let items ← normalizeItems items
    pure (item :: items)

def normalizeMembers : List (Text × Json (Option ν)) → Except TypeError (List (Text × Json ν))
  | []                      => .ok []
  | (key, value) :: members => do
    let value ← normalizeWith value
    let members ← normalizeMembers members
    pure ((key, value) :: members)

end

-- `__proto__`
def prototypeKey : Text :=
  [0x5F, 0x5F, 0x70, 0x72, 0x6F, 0x74, 0x6F, 0x5F, 0x5F]

-- The members that are assigned to a plain object one after the other. The assignment of
-- `__proto__` adds no member: it sets the prototype, or does nothing.
def assigned : Arrangement :=
  .select fun key => key ≠ prototypeKey

-- `Object.fromEntries` adds every member.
def fromEntries : Arrangement :=
  .insertion

variable (format : NumberFormat ν)

def stringify (value : Json ν) : Text :=
  print format (value.rearrange propertyOrder)

end Definitions

namespace Contracts

variable (collation : Collation) (format : NumberFormat ν)

def normalize : Json (Option ν) → Except TypeError (Json ν) :=
  normalizeWith collation assigned

def canonicalJson (value : Json (Option ν)) : Except TypeError Text := do
  let value ← normalize collation value
  pure (stringify format value)

end Contracts

namespace StripeApp

variable (collation : Collation) (format : NumberFormat ν)

def normalize : Json (Option ν) → Except TypeError (Json ν) :=
  normalizeWith collation fromEntries

def canonicalJson (value : Json (Option ν)) : Except TypeError Text := do
  let value ← normalize collation value
  pure (stringify format value)

end StripeApp

section Normalized

variable {collation : Collation} {objectOf a : Arrangement} {value : Json ν}
  {items : List (Json ν)} {members : List (Text × Json ν)}

theorem normalizeItems_map (h : ∀ item ∈ items,
    normalizeWith collation objectOf (item.map some) = .ok (item.rearrange a)) :
    normalizeItems collation objectOf (mapItems some items) = .ok (items.map (rearrange a)) := by
  induction items with
  | nil                => rfl
  | cons item items ih =>
    rw [List.forall_mem_cons] at h
    rw [mapItems, normalizeItems, h.1, ih h.2]
    rfl

theorem normalizeMembers_map (h : ∀ member ∈ members,
    normalizeWith collation objectOf (member.2.map some) = .ok (member.2.rearrange a)) :
    normalizeMembers collation objectOf (mapMembers some members) =
      .ok (members.map (Prod.map id (rearrange a))) := by
  induction members with
  | nil                    => rfl
  | cons member members ih =>
    rw [List.forall_mem_cons] at h
    rw [mapMembers, normalizeMembers, h.1, ih h.2]
    rfl

-- How the members of an object are put together again
def normalized (collation : Collation) (objectOf : Arrangement) : Arrangement :=
  objectOf.comp ((Arrangement.sort collation.Le).comp propertyOrder)

-- A value of JSON has finite numbers, and is normalized.
theorem normalizeWith_map (value : Json ν) :
    normalizeWith collation objectOf (value.map some) =
      .ok (value.rearrange (normalized collation objectOf)) := by
  induction value using Json.induction with
  | null           => rfl
  | bool           => rfl
  | num            => rfl
  | str            => rfl
  | arr items ih   =>
    rw [map, normalizeWith, normalizeItems_map ih, rearrange_arr]
    rfl
  | obj members ih =>
    rw [map, normalizeWith, normalizeMembers_map ih, rearrange_obj]
    rfl

end Normalized

section Encoded

variable {server client collation : Collation} {format : NumberFormat ν} {value value' : Json ν}
  {text : Text}

-- The members of an object in the text of the contracts
abbrev plain (collation : Collation) : Arrangement :=
  propertyOrder.comp (normalized collation assigned)

theorem Contracts.canonicalJson_map : Contracts.canonicalJson collation format (value.map some) =
    .ok (print format (value.rearrange (plain collation))) := by
  rw [Contracts.canonicalJson, Contracts.normalize, normalizeWith_map, plain, ← rearrange_comp]
  rfl

theorem StripeApp.canonicalJson_map : StripeApp.canonicalJson collation format (value.map some) =
    .ok (print format (value.rearrange (inOrder collation.Le))) := by
  rw [StripeApp.canonicalJson, StripeApp.normalize, normalizeWith_map]
  have hcomp := rearrange_comp propertyOrder (normalized collation fromEntries) value
  exact congrArg (fun value => Except.ok (print format value)) hcomp

-- A text stands for a value: it is the text of the value in every order of insertion, and what it is
-- parsed to is the same value and has the text again.
structure Faithful (format : NumberFormat ν) (encode : Json (Option ν) → Except TypeError Text)
    (value : Json ν) (text : Text) : Prop where
  ordered  : ∀ value', Same value value' → encode (value'.map some) = .ok text
  parsed   : ∃ value', parse format text = some value' ∧ Same value value'
  repeated : ∀ value', parse format text = some value' → encode (value'.map some) = .ok text

-- Both implementations give the value the same text, which stands for it.
def Canonical (server client : Collation) (format : NumberFormat ν) (value : Json ν) : Prop :=
  ∃ text, Faithful format (Contracts.canonicalJson server format) value text ∧
    Faithful format (StripeApp.canonicalJson client format) value text

-- No key of an object is `__proto__`, and the collations tell its keys that are no array indices
-- apart and order them alike.
structure Distinguished (server client : Collation) (keys : List Text) : Prop where
  prototype : prototypeKey ∉ keys
  apart     : ∀ key ∈ keys, ∀ key' ∈ keys, key ≠ key' → ¬isIndex key → ¬isIndex key' →
    server.compare key key' ≠ .eq
  agree     : ∀ key ∈ keys, ∀ key' ∈ keys, key ≠ key' → ¬isIndex key → ¬isIndex key' →
    client.compare key key' = server.compare key key'

theorem distinguished_iff {keys : List Text} : Distinguished server client keys ↔
    prototypeKey ∉ keys ∧ Separated server.Le keys ∧ Separated client.Le keys ∧
      AgreeOn server.Le client.Le keys := by
  constructor
  · intro h
    refine ⟨h.prototype, ?_, ?_, ?_⟩
    · intro key hkey key' hkey' hindex hindex' hle hge
      by_contra hne
      exact h.apart key hkey key' hkey' hne hindex hindex' (Collation.compare_eq_iff.mpr ⟨hle, hge⟩)
    · intro key hkey key' hkey' hindex hindex' hle hge
      by_contra hne
      have htied := Collation.compare_eq_iff.mpr ⟨hle, hge⟩
      rw [h.agree key hkey key' hkey' hne hindex hindex'] at htied
      exact h.apart key hkey key' hkey' hne hindex hindex' htied
    · intro key hkey key' hkey' hindex hindex'
      by_cases heq : key = key'
      · subst heq
        exact iff_of_true (refl_of server.Le key) (refl_of client.Le key)
      · have hagree := h.agree key hkey key' hkey' heq hindex hindex'
        exact (Collation.compare_eq_compare_iff.mp hagree).1.symm
  · rintro ⟨hprototype, hserver, -, hagree⟩
    refine ⟨hprototype, ?_, ?_⟩
    · intro key hkey key' hkey' hne hindex hindex' htied
      obtain ⟨hle, hge⟩ := Collation.compare_eq_iff.mp htied
      exact hne (hserver key hkey key' hkey' hindex hindex' hle hge)
    · intro key hkey key' hkey' _ hindex hindex'
      exact Collation.compare_eq_compare_iff.mpr
        ⟨(hagree key hkey key' hkey' hindex hindex').symm,
          (hagree key' hkey' key hkey hindex' hindex).symm⟩

section Plain

variable {β : Type} {members : List (Text × β)}

theorem perm_sorted (collation : Collation) (members : List (Text × β)) :
    ((Arrangement.sort collation.Le).apply (propertyOrder.apply members)).Perm members :=
  (List.perm_insertionSort _ _).trans (permutes_propertyOrder (P := fun _ => True) _ trivial)

-- Without `__proto__` the two implementations differ in the collation only.
theorem plain_apply (h : prototypeKey ∉ members.map (·.1)) :
    (plain collation).apply members = (inOrder collation.Le).apply members := by
  have hkept : assigned.apply
      ((Arrangement.sort collation.Le).apply (propertyOrder.apply members)) =
      (Arrangement.sort collation.Le).apply (propertyOrder.apply members) := by
    refine List.filter_eq_self.mpr fun member hmember => decide_eq_true ?_
    rintro hkey
    have hmem := (perm_sorted collation members).mem_iff.mp hmember
    exact h (hkey ▸ List.mem_map_of_mem hmem)
  exact congrArg propertyOrder.apply hkept

theorem subperm_plain (members : List (Text × β)) :
    ((plain collation).apply members).Subperm members := by
  have hkept : (assigned.apply
      ((Arrangement.sort collation.Le).apply (propertyOrder.apply members))).Sublist
      ((Arrangement.sort collation.Le).apply (propertyOrder.apply members)) := List.filter_sublist
  exact (permutes_propertyOrder (P := fun _ => True) _ trivial).subperm.trans
    (hkept.subperm.trans (perm_sorted collation members).subperm)

theorem notMem_of_length_plain (h : ((plain collation).apply members).length = members.length) :
    prototypeKey ∉ members.map (·.1) := by
  have hsorted := perm_sorted collation members
  have hordered := (permutes_propertyOrder (P := fun _ => True) (assigned.apply
    ((Arrangement.sort collation.Le).apply (propertyOrder.apply members))) trivial).length_eq
  have hlength := hordered.symm.trans (h.trans hsorted.length_eq.symm)
  intro hkey
  obtain ⟨member, hmember, hproto⟩ := List.mem_map.mp hkey
  have hall := List.length_filter_eq_length_iff.mp hlength member (hsorted.mem_iff.mpr hmember)
  exact of_decide_eq_true hall hproto

end Plain

abbrev Distinguishes (server client : Collation) (value : Json ν) : Prop :=
  value.Objects (Distinguished server client)

theorem unordered_distinguished : Unordered (Distinguished server client) := by
  intro keys keys' hperm h
  constructor
  · exact fun hmem => h.prototype (hperm.mem_iff.mpr hmem)
  · exact fun key hkey key' hkey' =>
      h.apart key (hperm.mem_iff.mpr hkey) key' (hperm.mem_iff.mpr hkey')
  · exact fun key hkey key' hkey' =>
      h.agree key (hperm.mem_iff.mpr hkey) key' (hperm.mem_iff.mpr hkey')

theorem rearrange_plain (h : value.Objects fun keys => prototypeKey ∉ keys) :
    value.rearrange (plain collation) = value.rearrange (inOrder collation.Le) :=
  rearrange_congr h fun _ hkeys => plain_apply hkeys

theorem unordered_prototype : Unordered fun keys => prototypeKey ∉ keys :=
  fun _ _ hperm h hmem => h (hperm.mem_iff.mpr hmem)

-- The text of a value of which the keys are told apart stands for it.
theorem canonical_of_distinguishes (hnodup : value.WellFormed) (h : Distinguishes server client value) :
    Canonical server client format value := by
  have hplain := h.mono fun _ h => h.prototype
  have hserver := h.mono fun _ h => (distinguished_iff.mp h).2.1
  have hclient := h.mono fun _ h => (distinguished_iff.mp h).2.2.1
  have hagree := h.mono fun _ h => (distinguished_iff.mp h).2.2.2
  have heq := rearrange_eq_of_agree hnodup hserver hagree
  have hsame : Same value (value.rearrange (inOrder server.Le)) :=
    same_rearrange hnodup (objects_true value) (permutes_inOrder (P := fun _ => True))
  have hparse : parse format (print format (value.rearrange (inOrder server.Le))) =
      some (value.rearrange (inOrder server.Le)) :=
    parse_print ((hsame.objects unordered_nodup).mp hnodup)
  have hencoded (value') (hsame' : Same value value') :
      Contracts.canonicalJson server format (value'.map some) =
        .ok (print format (value.rearrange (inOrder server.Le))) := by
    rw [Contracts.canonicalJson_map, rearrange_plain ((hsame'.objects unordered_prototype).mp hplain),
      rearrange_eq_of_same hnodup hserver hsame']
  have hencoded' (value') (hsame' : Same value value') :
      StripeApp.canonicalJson client format (value'.map some) =
        .ok (print format (value.rearrange (inOrder server.Le))) := by
    rw [StripeApp.canonicalJson_map, rearrange_eq_of_same hnodup hclient hsame', heq]
  refine ⟨_, ⟨hencoded, ⟨_, hparse, hsame⟩, fun value' hvalue' => hencoded value' ?_⟩,
    ⟨hencoded', ⟨_, hparse, hsame⟩, fun value' hvalue' => hencoded' value' ?_⟩⟩
  · rw [hparse] at hvalue'
    exact Option.some.inj hvalue' ▸ hsame
  · rw [hparse] at hvalue'
    exact Option.some.inj hvalue' ▸ hsame

-- A value whose text stands for it has keys that are told apart.
theorem distinguishes_of_canonical (hnodup : value.WellFormed)
    (h : Canonical server client format value) : Distinguishes server client value := by
  obtain ⟨text, hcontracts, hstripe⟩ := h
  have htext := hcontracts.ordered value rfl
  rw [Contracts.canonicalJson_map, Except.ok.injEq] at htext
  have htext' := hstripe.ordered value rfl
  rw [StripeApp.canonicalJson_map, Except.ok.injEq] at htext'
  have hprototype : value.Objects fun keys => prototypeKey ∉ keys := by
    obtain ⟨value', hparse, hsame⟩ := hcontracts.parsed
    rw [← htext, parse_print (wellFormed_rearrange subperm_plain hnodup)] at hparse
    obtain rfl := Option.some.inj hparse
    have hpermutes : (plain server).Permutes fun keys => prototypeKey ∉ keys := by
      intro β members hkeys
      rw [plain_apply hkeys]
      exact permutes_inOrder (P := fun _ => True) members trivial
    exact objects_of_same_rearrange hpermutes (fun _ => notMem_of_length_plain) hnodup hsame
  rw [rearrange_plain hprototype] at htext
  have hinjective {collation collation' : Collation} (value') (hsame : Same value value')
      (heq : print format (value'.rearrange (inOrder collation'.Le)) =
        print format (value.rearrange (inOrder collation.Le))) :
      value'.rearrange (inOrder collation'.Le) = value.rearrange (inOrder collation.Le) := by
    have hsubperm {collation : Collation} {β : Type} (members : List (Text × β)) :
        ((inOrder collation.Le).apply members).Subperm members :=
      (permutes_inOrder (P := fun _ => True) members trivial).subperm
    have hnodup' := (hsame.objects unordered_nodup).mp hnodup
    exact print_injective (wellFormed_rearrange hsubperm hnodup')
      (wellFormed_rearrange hsubperm hnodup) heq
  have hserver : value.Objects (Separated server.Le) := by
    refine separated_of_same hnodup fun value' hsame => hinjective value' hsame ?_
    have hvalue' := hcontracts.ordered value' hsame
    rw [Contracts.canonicalJson_map, Except.ok.injEq,
      rearrange_plain ((hsame.objects unordered_prototype).mp hprototype)] at hvalue'
    exact hvalue'.trans htext.symm
  have hclient : value.Objects (Separated client.Le) := by
    refine separated_of_same hnodup fun value' hsame => hinjective value' hsame ?_
    have hvalue' := hstripe.ordered value' hsame
    rw [StripeApp.canonicalJson_map, Except.ok.injEq] at hvalue'
    exact hvalue'.trans htext'.symm
  have hagree : value.Objects (AgreeOn server.Le client.Le) :=
    agree_of_rearrange hnodup hserver hclient
      (hinjective value rfl (htext.trans htext'.symm))
  exact (hprototype.and (hserver.and (hclient.and hagree))).mono fun _ => distinguished_iff.mpr

-- Values whose texts stand for them have one text where they are the same.
theorem Faithful.eq_iff {encode : Json (Option ν) → Except TypeError Text} {text' : Text}
    (h : Faithful format encode value text) (h' : Faithful format encode value' text') :
    encode (value.map some) = encode (value'.map some) ↔ Same value value' := by
  constructor
  · intro heq
    rw [h.ordered value rfl, h'.ordered value' rfl, Except.ok.injEq] at heq
    obtain ⟨parsed, hparse, hsame⟩ := h.parsed
    obtain ⟨parsed', hparse', hsame'⟩ := h'.parsed
    rw [heq, hparse'] at hparse
    obtain rfl := Option.some.inj hparse
    exact Eq.trans hsame hsame'.symm
  · intro hsame
    rw [h.ordered value rfl, h.ordered value' hsame]

-- The texts of two values stand for them, and tell them apart, exactly when the keys of every object
-- of both are told apart.
theorem canonical_json_iff (h : value.WellFormed) (h' : value'.WellFormed) :
    (Canonical server client format value ∧ Canonical server client format value' ∧
      (Contracts.canonicalJson server format (value.map some) =
        Contracts.canonicalJson server format (value'.map some) ↔ Same value value') ∧
      (StripeApp.canonicalJson client format (value.map some) =
        StripeApp.canonicalJson client format (value'.map some) ↔ Same value value')) ↔
    Distinguishes server client value ∧ Distinguishes server client value' := by
  constructor
  · rintro ⟨hcanonical, hcanonical', -, -⟩
    exact ⟨distinguishes_of_canonical h hcanonical, distinguishes_of_canonical h' hcanonical'⟩
  · rintro ⟨hkeys, hkeys'⟩
    have hcanonical : Canonical server client format value := canonical_of_distinguishes h hkeys
    have hcanonical' : Canonical server client format value' := canonical_of_distinguishes h' hkeys'
    refine ⟨hcanonical, hcanonical', ?_, ?_⟩
    · obtain ⟨_, hcontracts, -⟩ := hcanonical
      obtain ⟨_, hcontracts', -⟩ := hcanonical'
      exact hcontracts.eq_iff hcontracts'
    · obtain ⟨_, -, hstripe⟩ := hcanonical
      obtain ⟨_, -, hstripe'⟩ := hcanonical'
      exact hstripe.eq_iff hstripe'

end Encoded

end CanonicalJson

namespace Pilot

open CanonicalJson

-- A collation that compares the units, as the one of a locale does for small letters
def unitOrder : Collation where
  compare := compare
  lawful  := inferInstance

def digitText (n : Fin 10) : Text :=
  [Fin.ofNat 65536 (0x30 + n.val)]

def digitOf : Text → Option (Fin 10)
  | [u] => if h : 0x30 ≤ u.val ∧ u.val < 0x3A then some ⟨u.val - 0x30, by omega⟩ else none
  | _   => none

theorem isNumberUnit_digit (n : Fin 10) (u : CodeUnit) (hu : u ∈ digitText n) : isNumberUnit u := by
  have hall : ∀ n : Fin 10, isNumberUnit (Fin.ofNat 65536 (0x30 + n.val)) = true := by decide
  rw [List.mem_singleton.mp hu]
  exact hall n

theorem digitText_ne_nil (n : Fin 10) : digitText n ≠ [] :=
  List.cons_ne_nil _ _

theorem digitOf_digitText : ∀ n, digitOf (digitText n) = some n := by
  decide

-- The numbers of one digit
def digitFormat : NumberFormat (Fin 10) where
  toText        := digitText
  ofText        := digitOf
  units         := isNumberUnit_digit
  ne_nil        := digitText_ne_nil
  ofText_toText := digitOf_digitText

-- {"b":1,"a":2} and {"a":2,"b":1}
def lettered : Json (Fin 10) :=
  .obj [([0x62], .num 1), ([0x61], .num 2)]

def reordered : Json (Fin 10) :=
  .obj [([0x61], .num 2), ([0x62], .num 1)]

theorem unitOrder_distinguished {keys : List Text} (h : prototypeKey ∉ keys) :
    Distinguished unitOrder unitOrder keys where
  prototype := h
  apart     := fun key _ key' _ hne _ _ htied => by
    have hcompare : Ord.compare key key' = .eq := htied
    exact hne (Std.LawfulEqOrd.compare_eq_iff_eq.mp hcompare)
  agree     := fun _ _ _ _ _ _ _ => rfl

theorem canonical_json_iff_lettered :
    Canonical unitOrder unitOrder digitFormat lettered ∧
      Canonical unitOrder unitOrder digitFormat reordered ∧
      (Contracts.canonicalJson unitOrder digitFormat (lettered.map some) =
        Contracts.canonicalJson unitOrder digitFormat (reordered.map some) ↔
          Same lettered reordered) ∧
      (StripeApp.canonicalJson unitOrder digitFormat (lettered.map some) =
        StripeApp.canonicalJson unitOrder digitFormat (reordered.map some) ↔
          Same lettered reordered) := by
  have hpair (P : List Text → Prop) (key key' : Text) (n n' : Fin 10) (h : P [key, key']) :
      (Json.obj [(key, .num n), (key', .num n')]).Objects P := by
    refine .obj h ?_
    simp only [List.forall_mem_cons]
    exact ⟨.num, .num, by simp⟩
  have hlettered : lettered.WellFormed := hpair _ _ _ _ _ (by decide)
  have hreordered : reordered.WellFormed := hpair _ _ _ _ _ (by decide)
  refine (canonical_json_iff hlettered hreordered).mpr ⟨?_, ?_⟩
  · exact hpair _ _ _ _ _ (unitOrder_distinguished (by decide))
  · exact hpair _ _ _ _ _ (unitOrder_distinguished (by decide))

-- {"__proto__":1}
def prototypeMember : Json (Fin 10) :=
  .obj [(prototypeKey, .num 1)]

theorem canonical_json_counterexample :
    prototypeMember.WellFormed ∧
      Contracts.canonicalJson unitOrder digitFormat (prototypeMember.map some) =
        .ok (ofString "\x7b\x7d") ∧
      StripeApp.canonicalJson unitOrder digitFormat (prototypeMember.map some) =
        .ok (ofString "\x7b\"__proto__\":1\x7d") ∧
      ¬Canonical unitOrder unitOrder digitFormat prototypeMember := by
  have hnodup : prototypeMember.WellFormed := by
    refine .obj (by decide) ?_
    simp only [List.forall_mem_cons]
    exact ⟨.num, by simp⟩
  refine ⟨hnodup, by rfl, by rfl, fun h => ?_⟩
  have hkeys := distinguishes_of_canonical hnodup h
  rw [prototypeMember, Distinguishes, objects_obj] at hkeys
  exact hkeys.1.prototype (by simp)

end Pilot
end RefundDesk
