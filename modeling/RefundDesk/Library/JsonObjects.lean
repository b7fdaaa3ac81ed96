import Mathlib.Data.List.Lex
import Mathlib.Data.List.Sort
import RefundDesk.Library.Json

open Utf16

namespace Json

variable {ν μ : Type}

section Map

variable (f : ν → μ)

mutual

def map : Json ν → Json μ
  | .null        => .null
  | .bool b      => .bool b
  | .num n       => .num (f n)
  | .str s       => .str s
  | .arr items   => .arr (mapItems items)
  | .obj members => .obj (mapMembers members)

def mapItems : List (Json ν) → List (Json μ)
  | []            => []
  | item :: items => map item :: mapItems items

def mapMembers : List (Text × Json ν) → List (Text × Json μ)
  | []                      => []
  | (key, value) :: members => (key, map value) :: mapMembers members

end

end Map

-- A way to put the members of an object together that looks at the keys only
structure Arrangement where
  apply   : {β : Type} → List (Text × β) → List (Text × β)
  natural : ∀ {β γ : Type} (f : β → γ) (members : List (Text × β)),
    apply (members.map (Prod.map id f)) = (apply members).map (Prod.map id f)

namespace Arrangement

variable {β : Type}

def insertion : Arrangement where
  apply   := fun members => members
  natural := fun _ _ => rfl

def comp (a b : Arrangement) : Arrangement where
  apply   := fun members => a.apply (b.apply members)
  natural := fun f members => by rw [b.natural, a.natural]

def sort (r : Text → Text → Prop) [DecidableRel r] : Arrangement where
  apply   := fun members => members.insertionSort fun m m' => r m.1 m'.1
  natural := fun f members =>
    (List.map_insertionSort (fun m m' => r m.1 m'.1) (fun m m' => r m.1 m'.1) (Prod.map id f) members
      fun _ _ _ _ => Iff.rfl).symm

def select (p : Text → Bool) : Arrangement where
  apply   := fun members => members.filter fun member => p member.1
  natural := fun f members => by
    rw [List.filter_map]
    rfl

def append (a b : Arrangement) : Arrangement where
  apply   := fun members => a.apply members ++ b.apply members
  natural := fun f members => by rw [a.natural, b.natural, List.map_append]

-- The keys after the arrangement
def keys (a : Arrangement) (ks : List Text) : List Text :=
  (a.apply (ks.map fun key => (key, ()))).map (·.1)

theorem map_fst_apply (a : Arrangement) (members : List (Text × β)) :
    (a.apply members).map (·.1) = a.keys (members.map (·.1)) := by
  have hnatural := a.natural (fun _ => ()) members
  have hkeys : members.map (Prod.map id fun _ => ()) = (members.map (·.1)).map fun key => (key, ()) := by
    rw [List.map_map]
    rfl
  rw [hkeys] at hnatural
  rw [keys, hnatural, List.map_map]
  rfl

end Arrangement

section Rearrange

variable (a : Arrangement)

mutual

def rearrange : Json ν → Json ν
  | .null        => .null
  | .bool b      => .bool b
  | .num n       => .num n
  | .str s       => .str s
  | .arr items   => .arr (rearrangeItems items)
  | .obj members => .obj (a.apply (rearrangeMembers members))

def rearrangeItems : List (Json ν) → List (Json ν)
  | []            => []
  | item :: items => rearrange item :: rearrangeItems items

def rearrangeMembers : List (Text × Json ν) → List (Text × Json ν)
  | []                      => []
  | (key, value) :: members => (key, rearrange value) :: rearrangeMembers members

end

theorem rearrangeItems_eq (items : List (Json ν)) :
    rearrangeItems a items = items.map (rearrange a) := by
  induction items with
  | nil                => rfl
  | cons item items ih => rw [rearrangeItems, ih, List.map_cons]

theorem rearrangeMembers_eq (members : List (Text × Json ν)) :
    rearrangeMembers a members = members.map (Prod.map id (rearrange a)) := by
  induction members with
  | nil                    => rfl
  | cons member members ih => rw [rearrangeMembers, ih, List.map_cons]; rfl

theorem rearrange_arr (items : List (Json ν)) :
    rearrange a (.arr items) = .arr (items.map (rearrange a)) := by
  rw [rearrange, rearrangeItems_eq]

theorem rearrange_obj (members : List (Text × Json ν)) :
    rearrange a (.obj members) = .obj (a.apply (members.map (Prod.map id (rearrange a)))) := by
  rw [rearrange, rearrangeMembers_eq]

end Rearrange

section Objects

variable {P Q : List Text → Prop} {a b : Arrangement} {value : Json ν}

theorem objects_arr {items : List (Json ν)} :
    (Json.arr items).Objects P ↔ ∀ item ∈ items, item.Objects P := by
  constructor
  · intro h
    cases h with
    | arr h => exact h
  · exact .arr

theorem objects_obj {members : List (Text × Json ν)} :
    (Json.obj members).Objects P ↔
      P (members.map (·.1)) ∧ ∀ member ∈ members, member.2.Objects P := by
  constructor
  · intro h
    cases h with
    | obj hkeys h => exact ⟨hkeys, h⟩
  · exact fun h => .obj h.1 h.2

theorem Objects.mono (h : value.Objects P) (hPQ : ∀ keys, P keys → Q keys) : value.Objects Q := by
  induction h with
  | null            => exact .null
  | bool            => exact .bool
  | num             => exact .num
  | str             => exact .str
  | arr _ ih        => exact .arr ih
  | obj hkeys _ ih  => exact .obj (hPQ _ hkeys) ih

theorem objects_true (value : Json ν) : value.Objects fun _ => True := by
  induction value using Json.induction with
  | null           => exact .null
  | bool           => exact .bool
  | num            => exact .num
  | str            => exact .str
  | arr items ih   => exact .arr ih
  | obj members ih => exact .obj trivial ih

theorem Objects.and (h : value.Objects P) (h' : value.Objects Q) :
    value.Objects fun keys => P keys ∧ Q keys := by
  induction h with
  | null            => exact .null
  | bool            => exact .bool
  | num             => exact .num
  | str             => exact .str
  | arr _ ih        =>
    rw [objects_arr] at h'
    exact .arr fun item hitem => ih item hitem (h' item hitem)
  | obj hkeys _ ih  =>
    rw [objects_obj] at h'
    exact .obj ⟨hkeys, h'.1⟩ fun member hmember => ih member hmember (h'.2 member hmember)

-- Where two arrangements do the same to the keys of every object, they give the same value.
theorem rearrange_congr (h : value.Objects P)
    (heq : ∀ {β : Type} (members : List (Text × β)), P (members.map (·.1)) →
      a.apply members = b.apply members) :
    value.rearrange a = value.rearrange b := by
  induction h with
  | null | bool | num | str => rfl
  | arr _ ih                =>
    rw [rearrange_arr, rearrange_arr, List.map_congr_left ih]
  | @obj members hkeys _ ih =>
    have hvalues : members.map (Prod.map id (rearrange a)) =
        members.map (Prod.map id (rearrange b)) :=
      List.map_congr_left fun member hmember => Prod.ext rfl (ih member hmember)
    rw [rearrange_obj, rearrange_obj, hvalues, a.natural, b.natural, heq members hkeys]

theorem rearrange_comp (a b : Arrangement) (value : Json ν) :
    (value.rearrange b).rearrange a = value.rearrange (a.comp b) := by
  induction value using Json.induction with
  | null | bool | num | str => rfl
  | arr items ih            =>
    have hitems : (items.map (rearrange b)).map (rearrange a) =
        items.map (rearrange (a.comp b)) := by
      rw [List.map_map]
      exact List.map_congr_left ih
    rw [rearrange_arr, rearrange_arr, rearrange_arr, hitems]
  | obj members ih          =>
    have hvalues : (members.map (Prod.map id (rearrange b))).map (Prod.map id (rearrange a)) =
        members.map (Prod.map id (rearrange (a.comp b))) := by
      rw [List.map_map]
      exact List.map_congr_left fun member hmember => Prod.ext rfl (ih member hmember)
    rw [rearrange_obj, rearrange_obj, rearrange_obj, ← b.natural, hvalues]
    rfl

-- An arrangement that loses no member and adds none
def Arrangement.Permutes (a : Arrangement) (P : List Text → Prop) : Prop :=
  ∀ {β : Type} (members : List (Text × β)), P (members.map (·.1)) → (a.apply members).Perm members

-- What holds of keys in every order
def Unordered (P : List Text → Prop) : Prop :=
  ∀ keys keys' : List Text, keys.Perm keys' → P keys → P keys'

theorem keys_perm (ha : a.Permutes P) {keys : List Text} (h : P keys) : (a.keys keys).Perm keys := by
  have hkeys : (keys.map fun key => (key, ())).map (·.1) = keys := by simp [Function.comp_def]
  have hperm := (ha (keys.map fun key => (key, ())) (hkeys.symm ▸ h)).map (·.1)
  rw [hkeys] at hperm
  exact hperm

theorem objects_rearrange (ha : a.Permutes P) (hQ : Unordered Q) (h : value.Objects P) :
    (value.rearrange a).Objects Q ↔ value.Objects Q := by
  induction h with
  | null | bool | num | str => constructor <;> intro h <;> cases h <;> constructor
  | @arr items _ ih         =>
    rw [rearrange_arr, objects_arr, objects_arr, List.forall_mem_map]
    exact forall₂_congr ih
  | @obj members hkeys _ ih =>
    have hperm := keys_perm ha hkeys
    have hmembers (member : Text × Json ν) : member ∈ a.apply members ↔ member ∈ members :=
      (ha members hkeys).mem_iff
    rw [rearrange_obj, objects_obj, objects_obj, a.natural, List.forall_mem_map, List.map_map]
    refine and_congr ?_ ?_
    · have hfst : (a.apply members).map ((·.1) ∘ Prod.map id (rearrange a)) =
          a.keys (members.map (·.1)) := a.map_fst_apply members
      rw [hfst]
      exact ⟨hQ _ _ hperm, hQ _ _ hperm.symm⟩
    · exact forall_congr' fun member => imp_congr_ctx (hmembers member) fun hmember => ih member hmember

theorem unordered_nodup : Unordered List.Nodup :=
  fun _ _ hperm => hperm.nodup_iff.mp

end Objects

section Same

variable {P : List Text → Prop} {r : Text → Text → Prop} {β : Type}
  {members members' : List (Text × β)} {value value' : Json ν}

theorem eq_of_sorted (hnodup : (members.map (·.1)).Nodup) (hperm : members.Perm members')
    (hmembers : members.Pairwise fun m m' => r m.1 m'.1)
    (hmembers' : members'.Pairwise fun m m' => r m.1 m'.1)
    (hr : ∀ m ∈ members, ∀ m' ∈ members, r m.1 m'.1 → r m'.1 m.1 → m.1 = m'.1) :
    members = members' := by
  refine hperm.eq_of_pairwise (fun m m' hm hm' hle hge => ?_) hmembers hmembers'
  have hm' := hperm.mem_iff.mpr hm'
  exact List.inj_on_of_nodup_map hnodup hm hm' (hr m hm m' hm' hle hge)

variable [DecidableRel r]

variable [Std.Total r] [IsTrans Text r]

theorem pairwise_sort (members : List (Text × β)) :
    ((Arrangement.sort r).apply members).Pairwise fun m m' => r m.1 m'.1 :=
  have : Std.Total fun m m' : Text × β => r m.1 m'.1 := ⟨fun m m' => Std.Total.total m.1 m'.1⟩
  have : IsTrans (Text × β) fun m m' => r m.1 m'.1 := ⟨fun _ _ _ => trans_of r⟩
  List.pairwise_insertionSort _ members

-- The members in the order of their keys
def byKey : Arrangement :=
  .sort (· ≤ ·)

-- Two values are the same when they agree up to the order of the members of every object.
def Same (value value' : Json ν) : Prop :=
  value.rearrange byKey = value'.rearrange byKey

theorem byKey_eq_of_perm (hnodup : (members.map (·.1)).Nodup) (hperm : members.Perm members') :
    byKey.apply members = byKey.apply members' := by
  have hsorted : (byKey.apply members).Perm members := List.perm_insertionSort _ _
  have hsorted' : (byKey.apply members').Perm members' := List.perm_insertionSort _ _
  refine eq_of_sorted ((hsorted.map _).nodup_iff.mpr hnodup)
    (hsorted.trans (hperm.trans hsorted'.symm)) (pairwise_sort members) (pairwise_sort members')
    fun _ _ _ _ => le_antisymm

theorem permutes_byKey : byKey.Permutes P :=
  fun members _ => List.perm_insertionSort _ members

theorem Same.objects (h : Same value value') (hP : Unordered P) :
    value.Objects P ↔ value'.Objects P := by
  have hkey : byKey.Permutes fun _ => True := permutes_byKey (P := fun _ => True)
  rw [← objects_rearrange hkey hP (objects_true value), h,
    objects_rearrange hkey hP (objects_true value')]

-- An arrangement that keeps the members gives the same value.
theorem same_rearrange {a : Arrangement} (hnodup : value.WellFormed) (h : value.Objects P)
    (ha : a.Permutes P) : Same value (value.rearrange a) := by
  unfold Same
  rw [rearrange_comp]
  exact rearrange_congr (hnodup.and h) fun members hkeys =>
    byKey_eq_of_perm hkeys.1 (ha members hkeys.2).symm

end Same

section Pairs

variable {α : Type} {x y : α} {l : List α}

theorem pair_sublist_of_mem (hx : x ∈ l) (hy : y ∈ l) (hne : x ≠ y) :
    [x, y].Sublist l ∨ [y, x].Sublist l := by
  induction l with
  | nil => cases hx
  | cons z l ih =>
    rw [List.mem_cons] at hx hy
    rcases hx with rfl | hx <;> rcases hy with rfl | hy
    · exact absurd rfl hne
    · exact .inl ((List.singleton_sublist.mpr hy).cons_cons _)
    · exact .inr ((List.singleton_sublist.mpr hx).cons_cons _)
    · exact (ih hx hy).imp (·.cons _) (·.cons _)

theorem not_pair_sublist (hnodup : l.Nodup) (h : [x, y].Sublist l) : ¬[y, x].Sublist l := by
  intro h'
  induction l with
  | nil => cases h
  | cons z l ih =>
    rw [List.nodup_cons] at hnodup
    cases h with
    | cons _ h =>
      cases h' with
      | cons _ h' => exact ih hnodup.2 h h'
      | cons_cons _ h' => exact hnodup.1 (h.subset (by simp))
    | cons_cons _ h =>
      cases h' with
      | cons _ h' => exact hnodup.1 (h'.subset (by simp))
      | cons_cons _ h' => exact hnodup.1 (List.singleton_sublist.mp h)

end Pairs

section PropertyOrder

-- The number of a key that is the text of an array index
def arrayIndex (key : Text) : Option Nat :=
  let n := key.foldl (fun n u => 10 * n + (u.val - 0x30)) 0
  if n < 4294967295 ∧ key = ofString (toString n) then some n else none

def isIndex (key : Text) : Bool :=
  (arrayIndex key).isSome

def IndexLe (key key' : Text) : Prop :=
  (arrayIndex key).getD 0 ≤ (arrayIndex key').getD 0

instance : DecidableRel IndexLe := fun key key' =>
  inferInstanceAs (Decidable ((arrayIndex key).getD 0 ≤ (arrayIndex key').getD 0))

instance : Std.Total IndexLe :=
  ⟨fun _ _ => Nat.le_total _ _⟩

instance : IsTrans Text IndexLe :=
  ⟨fun _ _ _ => Nat.le_trans⟩

-- The array indices come first, in their order, and then the other keys in the order of their
-- insertion.
def propertyOrder : Arrangement :=
  .append ((Arrangement.sort IndexLe).comp (.select isIndex)) (.select fun key => !isIndex key)

theorem eq_ofString_of_arrayIndex {key : Text} {n : Nat} (h : arrayIndex key = some n) :
    key = ofString (toString n) := by
  unfold arrayIndex at h
  dsimp only at h
  split_ifs at h with hindex
  rw [← Option.some.inj h]
  exact hindex.2

theorem indexLe_antisymm {key key' : Text} (h : isIndex key) (h' : isIndex key')
    (hle : IndexLe key key') (hge : IndexLe key' key) : key = key' := by
  obtain ⟨n, hn⟩ := Option.isSome_iff_exists.mp h
  obtain ⟨n', hn'⟩ := Option.isSome_iff_exists.mp h'
  simp only [IndexLe, hn, hn', Option.getD_some] at hle hge
  rw [eq_ofString_of_arrayIndex hn, eq_ofString_of_arrayIndex hn', Nat.le_antisymm hle hge]

variable {P : List Text → Prop} {r s : Text → Text → Prop} [DecidableRel r] [DecidableRel s] {β : Type}
  {members members' : List (Text × β)}

theorem permutes_propertyOrder : propertyOrder.Permutes P := fun members _ => by
  have hindex := List.perm_insertionSort (fun m m' : Text × _ => IndexLe m.1 m'.1)
    (members.filter fun member => isIndex member.1)
  have hsplit := List.filter_append_perm (fun member => isIndex member.1) members
  exact (hindex.append_right _).trans hsplit

-- The order in which the members of an object are enumerated that were inserted in an order of
-- their keys
def inOrder (r : Text → Text → Prop) [DecidableRel r] : Arrangement :=
  propertyOrder.comp ((Arrangement.sort r).comp propertyOrder)

theorem permutes_inOrder : (inOrder r).Permutes P := fun _ _ =>
  (permutes_propertyOrder (P := fun _ => True) _ trivial).trans
    ((List.perm_insertionSort _ _).trans (permutes_propertyOrder (P := fun _ => True) _ trivial))

-- Two orders that agree on the keys that are no indices, and tie none of them, enumerate them alike.
theorem inOrder_eq [Std.Total r] [IsTrans Text r] [Std.Total s] [IsTrans Text s]
    (hnodup : (members.map (·.1)).Nodup) (hperm : members.Perm members')
    (hr : ∀ m ∈ members, ∀ m' ∈ members, ¬isIndex m.1 → ¬isIndex m'.1 →
      r m.1 m'.1 → r m'.1 m.1 → m.1 = m'.1)
    (hs : ∀ m ∈ members, ∀ m' ∈ members, ¬isIndex m.1 → ¬isIndex m'.1 → s m.1 m'.1 → r m.1 m'.1) :
    (inOrder r).apply members = (inOrder s).apply members' := by
  have hx : ((Arrangement.sort r).apply (propertyOrder.apply members)).Perm members :=
    (List.perm_insertionSort _ _).trans (permutes_propertyOrder (P := fun _ => True) _ trivial)
  have hy : ((Arrangement.sort s).apply (propertyOrder.apply members')).Perm members' :=
    (List.perm_insertionSort _ _).trans (permutes_propertyOrder (P := fun _ => True) _ trivial)
  have hsorted := pairwise_sort (r := r) (propertyOrder.apply members)
  have hsorted' := pairwise_sort (r := s) (propertyOrder.apply members')
  show propertyOrder.apply ((Arrangement.sort r).apply (propertyOrder.apply members)) =
    propertyOrder.apply ((Arrangement.sort s).apply (propertyOrder.apply members'))
  generalize (Arrangement.sort r).apply (propertyOrder.apply members) = xs at hx hsorted ⊢
  generalize (Arrangement.sort s).apply (propertyOrder.apply members') = ys at hy hsorted' ⊢
  have hxy : xs.Perm ys := hx.trans (hperm.trans hy.symm)
  have hkeys : (xs.map (·.1)).Nodup := (hx.map _).nodup_iff.mpr hnodup
  refine congrArg₂ (· ++ ·) ?_ ?_
  · have hsub : (xs.filter fun m => isIndex m.1).Sublist xs := List.filter_sublist
    have hindex (l : List (Text × β)) : ((Arrangement.sort IndexLe).apply l).Perm l :=
      List.perm_insertionSort _ l
    refine eq_of_sorted (((hindex _).map _).nodup_iff.mpr (hkeys.sublist (hsub.map _)))
      ((hindex _).trans ((hxy.filter _).trans (hindex _).symm)) (pairwise_sort _) (pairwise_sort _)
      fun m hm m' hm' hle hge => ?_
    have hm := List.mem_filter.mp ((hindex _).mem_iff.mp hm)
    have hm' := List.mem_filter.mp ((hindex _).mem_iff.mp hm')
    exact indexLe_antisymm hm.2 hm'.2 hle hge
  · have hsub : (xs.filter fun m => !isIndex m.1).Sublist xs := List.filter_sublist
    have hother (l : List (Text × β)) (m : Text × β) (h : m ∈ l.filter fun m => !isIndex m.1) :
        m ∈ l ∧ ¬isIndex m.1 := by
      simpa using h
    refine eq_of_sorted (hkeys.sublist (hsub.map _)) (hxy.filter _) (hsorted.sublist hsub) ?_ ?_
    · refine (hsorted'.sublist List.filter_sublist).imp_of_mem fun {m m'} hm hm' hle => ?_
      have hm := hother _ _ hm
      have hm' := hother _ _ hm'
      have hmem (m : Text × β) (hm : m ∈ ys) : m ∈ members := hx.mem_iff.mp (hxy.mem_iff.mpr hm)
      exact hs m (hmem m hm.1) m' (hmem m' hm'.1) hm.2 hm'.2 hle
    · intro m hm m' hm'
      have hm := hother _ _ hm
      have hm' := hother _ _ hm'
      exact hr m (hx.mem_iff.mp hm.1) m' (hx.mem_iff.mp hm'.1) hm.2 hm'.2

theorem pair_sublist_propertyOrder {m m' : Text × β} (hm : ¬isIndex m.1) (hm' : ¬isIndex m'.1)
    (h : [m, m'].Sublist members) : [m, m'].Sublist (propertyOrder.apply members) := by
  have hfilter := h.filter fun m => !isIndex m.1
  have hpair : [m, m'].filter (fun m => !isIndex m.1) = [m, m'] := by simp [hm, hm']
  rw [hpair] at hfilter
  exact hfilter.trans (List.sublist_append_right _ _)

-- Two keys that are tied stay as they were inserted.
theorem pair_sublist_inOrder {m m' : Text × β} (hm : ¬isIndex m.1) (hm' : ¬isIndex m'.1)
    (hle : r m.1 m'.1) (h : [m, m'].Sublist members) :
    [m, m'].Sublist ((inOrder r).apply members) :=
  pair_sublist_propertyOrder hm hm'
    (List.pair_sublist_insertionSort hle (pair_sublist_propertyOrder hm hm' h))

theorem pair_sublist_inOrder_of_not [Std.Total r] [IsTrans Text r] {m m' : Text × β}
    (hm : ¬isIndex m.1) (hm' : ¬isIndex m'.1) (hlt : ¬r m'.1 m.1) (hmem : m ∈ members)
    (hmem' : m' ∈ members) : [m, m'].Sublist ((inOrder r).apply members) := by
  apply pair_sublist_propertyOrder hm hm'
  have hperm : ((Arrangement.sort r).apply (propertyOrder.apply members)).Perm members :=
    (List.perm_insertionSort _ _).trans (permutes_propertyOrder (P := fun _ => True) _ trivial)
  have hne : m ≠ m' := by
    rintro rfl
    exact hlt ((Std.Total.total m.1 m.1).elim id id)
  rcases pair_sublist_of_mem (hperm.mem_iff.mpr hmem) (hperm.mem_iff.mpr hmem') hne with h | h
  · exact h
  · have hpair := (pairwise_sort (r := r) (propertyOrder.apply members)).sublist h
    exact absurd (List.pairwise_pair.mp hpair) hlt

end PropertyOrder

section Keys

variable {r : Text → Text → Prop}

-- No two of the keys that are no indices are tied.
def Separated (r : Text → Text → Prop) (keys : List Text) : Prop :=
  ∀ key ∈ keys, ∀ key' ∈ keys, ¬isIndex key → ¬isIndex key' → r key key' → r key' key → key = key'

theorem unordered_separated : Unordered (Separated r) :=
  fun _ _ hperm h key hkey key' hkey' =>
    h key (hperm.mem_iff.mpr hkey) key' (hperm.mem_iff.mpr hkey')

-- Two orders compare the keys that are no indices alike.
def AgreeOn (r s : Text → Text → Prop) (keys : List Text) : Prop :=
  ∀ key ∈ keys, ∀ key' ∈ keys, ¬isIndex key → ¬isIndex key' → (r key key' ↔ s key key')

end Keys

section Members

variable {P : List Text → Prop} {r s : Text → Text → Prop} [DecidableRel r] [DecidableRel s]
  {a b : Arrangement} {members members' : List (Text × Json ν)} {key : Text}
  {value value' : Json ν} {items items' : List (Json ν)}

theorem rearrange_of_mem (ha : (a.apply members').Perm members') (hb : (b.apply members).Perm members)
    (hnodup : (members.map (·.1)).Nodup)
    (heq : (Json.obj members').rearrange a = (Json.obj members).rearrange b)
    (hvalue' : (key, value') ∈ members') (hvalue : (key, value) ∈ members) :
    value'.rearrange a = value.rearrange b := by
  rw [rearrange_obj, rearrange_obj, a.natural, b.natural] at heq
  have hmem : (key, value'.rearrange a) ∈ (a.apply members').map (Prod.map id (rearrange a)) :=
    List.mem_map_of_mem (ha.mem_iff.mpr hvalue')
  rw [Json.obj.inj heq] at hmem
  obtain ⟨⟨key', value''⟩, hmember, hpair⟩ := List.mem_map.mp hmem
  obtain ⟨rfl, hsame⟩ := Prod.mk.inj hpair
  have hunique := List.inj_on_of_nodup_map hnodup (hb.mem_iff.mp hmember) hvalue rfl
  rw [← hsame, (Prod.mk.inj hunique).2]

theorem rearrange_of_mem_items (h : (Json.arr items').rearrange a = (Json.arr items).rearrange b) :
    items'.map (rearrange a) = items.map (rearrange b) := by
  rw [rearrange_arr, rearrange_arr] at h
  exact Json.arr.inj h

-- An arrangement that gives the same value back has lost no member.
theorem objects_of_same_rearrange (ha : a.Permutes P)
    (hlength : ∀ {β : Type} (members : List (Text × β)),
      (a.apply members).length = members.length → P (members.map (·.1)))
    (hnodup : value.WellFormed) (h : Same value (value.rearrange a)) : value.Objects P := by
  unfold Same at h
  rw [rearrange_comp] at h
  induction value using Json.induction with
  | null           => exact .null
  | bool           => exact .bool
  | num            => exact .num
  | str            => exact .str
  | arr items ih   =>
    rw [WellFormed, objects_arr] at hnodup
    have hitems := rearrange_of_mem_items h
    exact .arr fun item hitem => ih item hitem (hnodup item hitem) (List.map_inj_left.mp hitems item hitem)
  | obj members ih =>
    rw [WellFormed, objects_obj] at hnodup
    have hkeys : P (members.map (·.1)) := by
      apply hlength
      have hboth := h
      rw [rearrange_obj, rearrange_obj, byKey.natural, (byKey.comp a).natural] at hboth
      have hlengths := congrArg List.length (Json.obj.inj hboth)
      have hsorted := (permutes_byKey (P := fun _ => True) members trivial).length_eq
      have hsorted' := (permutes_byKey (P := fun _ => True) (a.apply members) trivial).length_eq
      rw [List.length_map, List.length_map, hsorted] at hlengths
      exact (hlengths.trans hsorted').symm
    have hbyKey := permutes_byKey (P := fun _ => True) members trivial
    have hcomp : ((byKey.comp a).apply members).Perm members :=
      (permutes_byKey (P := fun _ => True) (a.apply members) trivial).trans (ha members hkeys)
    refine .obj hkeys fun member hmember => ih member hmember (hnodup.2 member hmember) ?_
    exact rearrange_of_mem hbyKey hcomp hnodup.1 h hmember hmember

theorem same_obj_of_perm (hnodup : (members.map (·.1)).Nodup) (h : members.Perm members') :
    Same (.obj members) (.obj members') := by
  unfold Same
  rw [rearrange_obj, rearrange_obj, byKey.natural, byKey.natural, byKey_eq_of_perm hnodup h]

theorem keys_of_rearrange
    (h : (Json.obj members).rearrange a = (Json.obj members').rearrange b) :
    (a.apply members).map (·.1) = (b.apply members').map (·.1) := by
  rw [rearrange_obj, rearrange_obj, a.natural, b.natural] at h
  have hkeys := congrArg (List.map (·.1)) (Json.obj.inj h)
  rw [List.map_map, List.map_map] at hkeys
  exact hkeys

-- An object that is enumerated alike in every order of insertion has no tied keys.
theorem separated_of_perm (hnodup : (members.map (·.1)).Nodup)
    (h : ∀ members' : List (Text × Json ν), members.Perm members' →
      ((inOrder r).apply members').map (·.1) = ((inOrder r).apply members).map (·.1)) :
    Separated r (members.map (·.1)) := by
  intro key hkey key' hkey' hindex hindex' hle hge
  by_contra hne
  obtain ⟨m, hm, rfl⟩ := List.mem_map.mp hkey
  obtain ⟨m', hm', rfl⟩ := List.mem_map.mp hkey'
  obtain ⟨before, after, rfl⟩ := List.append_of_mem hm
  have hmem : m' ∈ before ++ after := by
    rcases List.mem_append.mp hm' with h | h
    · exact List.mem_append_left _ h
    · rcases List.mem_cons.mp h with rfl | h
      · exact absurd rfl hne
      · exact List.mem_append_right _ h
  obtain ⟨before', after', hsplit⟩ := List.append_of_mem hmem
  have hperm : (before ++ m :: after).Perm (m :: m' :: (before' ++ after')) := by
    refine List.perm_middle.trans (.cons _ ?_)
    rw [hsplit]
    exact List.perm_middle
  have hswap := hperm.trans (List.Perm.swap m' m _)
  have hfirst := pair_sublist_inOrder hindex hindex' hle
    (List.sublist_append_left [m, m'] (before' ++ after'))
  have hsecond := pair_sublist_inOrder hindex' hindex hge
    (List.sublist_append_left [m', m] (before' ++ after'))
  have hfirst := hfirst.map (·.1)
  have hsecond := hsecond.map (·.1)
  rw [List.cons_append, List.cons_append, List.nil_append, h _ hperm] at hfirst
  rw [List.cons_append, List.cons_append, List.nil_append, h _ hswap] at hsecond
  have hkeys : (((inOrder r).apply (before ++ m :: after)).map (·.1)).Nodup :=
    ((permutes_inOrder (P := fun _ => True) _ trivial).map _).nodup_iff.mpr hnodup
  exact not_pair_sublist hkeys hfirst hsecond

-- A value that is enumerated alike in every order of insertion has no tied keys.
theorem separated_of_same (hnodup : value.WellFormed)
    (h : ∀ value', Same value value' → value'.rearrange (inOrder r) = value.rearrange (inOrder r)) :
    value.Objects (Separated r) := by
  induction value using Json.induction with
  | null           => exact .null
  | bool           => exact .bool
  | num            => exact .num
  | str            => exact .str
  | arr items ih   =>
    rw [WellFormed, objects_arr] at hnodup
    refine .arr fun item hitem => ih item hitem (hnodup item hitem) fun item' hitem' => ?_
    obtain ⟨before, after, rfl⟩ := List.append_of_mem hitem
    have hsame : Same (.arr (before ++ item :: after)) (.arr (before ++ item' :: after)) := by
      unfold Same at hitem' ⊢
      simp only [rearrange_arr, List.map_append, List.map_cons, hitem']
    have hitems := rearrange_of_mem_items (h _ hsame)
    rw [List.map_append, List.map_append, List.map_cons, List.map_cons] at hitems
    exact (List.cons.inj (List.append_cancel_left hitems)).1
  | obj members ih =>
    rw [WellFormed, objects_obj] at hnodup
    refine .obj ?_ fun member hmember => ih member hmember (hnodup.2 member hmember) ?_
    · exact separated_of_perm hnodup.1 fun members' hperm =>
        keys_of_rearrange (h _ (same_obj_of_perm hnodup.1 hperm))
    · intro value' hvalue'
      obtain ⟨key, value⟩ := member
      obtain ⟨before, after, rfl⟩ := List.append_of_mem hmember
      have hsame : Same (.obj (before ++ (key, value) :: after))
          (.obj (before ++ (key, value') :: after)) := by
        unfold Same at hvalue' ⊢
        simp only [rearrange_obj, List.map_append, List.map_cons, Prod.map, id, hvalue']
      have hperm {members : List (Text × Json ν)} : ((inOrder r).apply members).Perm members :=
        permutes_inOrder (P := fun _ => True) _ trivial
      have hmember' : (key, value') ∈ before ++ (key, value') :: after := by simp
      exact rearrange_of_mem hperm hperm hnodup.1 (h _ hsame) hmember' hmember

variable [Std.Total r] [IsTrans Text r] [Std.Total s] [IsTrans Text s]

theorem le_of_keys (hnodup : (members.map (·.1)).Nodup) (hr : Separated r (members.map (·.1)))
    (h : ((inOrder r).apply members).map (·.1) = ((inOrder s).apply members).map (·.1))
    {m m' : Text × Json ν} (hm : m ∈ members) (hm' : m' ∈ members) (hindex : ¬isIndex m.1)
    (hindex' : ¬isIndex m'.1) (hle : r m.1 m'.1) : s m.1 m'.1 := by
  by_contra hlt
  have hne : m.1 ≠ m'.1 := by
    intro heq
    rw [heq] at hlt
    exact hlt ((Std.Total.total m'.1 m'.1).elim id id)
  have hgt : ¬r m'.1 m.1 := fun hge =>
    hne (hr _ (List.mem_map_of_mem hm) _ (List.mem_map_of_mem hm') hindex hindex' hle hge)
  have hfirst := (pair_sublist_inOrder_of_not hindex hindex' hgt hm hm').map (·.1)
  have hsecond := (pair_sublist_inOrder_of_not hindex' hindex hlt hm' hm).map (·.1)
  have hkeys : (((inOrder r).apply members).map (·.1)).Nodup :=
    ((permutes_inOrder (P := fun _ => True) _ trivial).map _).nodup_iff.mpr hnodup
  rw [← h] at hsecond
  exact not_pair_sublist hkeys hfirst hsecond

theorem agree_of_rearrange (hnodup : value.WellFormed) (hr : value.Objects (Separated r))
    (hs : value.Objects (Separated s))
    (h : value.rearrange (inOrder r) = value.rearrange (inOrder s)) :
    value.Objects (AgreeOn r s) := by
  induction value using Json.induction with
  | null           => exact .null
  | bool           => exact .bool
  | num            => exact .num
  | str            => exact .str
  | arr items ih   =>
    rw [WellFormed, objects_arr] at hnodup
    rw [objects_arr] at hr hs
    have hitems := List.map_inj_left.mp (rearrange_of_mem_items h)
    exact .arr fun item hitem =>
      ih item hitem (hnodup item hitem) (hr item hitem) (hs item hitem) (hitems item hitem)
  | obj members ih =>
    rw [WellFormed, objects_obj] at hnodup
    rw [objects_obj] at hr hs
    have hkeys := keys_of_rearrange h
    refine .obj ?_ fun member hmember => ih member hmember (hnodup.2 member hmember)
      (hr.2 member hmember) (hs.2 member hmember) ?_
    · intro key hkey key' hkey' hindex hindex'
      obtain ⟨m, hm, rfl⟩ := List.mem_map.mp hkey
      obtain ⟨m', hm', rfl⟩ := List.mem_map.mp hkey'
      exact ⟨le_of_keys hnodup.1 hr.1 hkeys hm hm' hindex hindex',
        le_of_keys hnodup.1 hs.1 hkeys.symm hm hm' hindex hindex'⟩
    · have hperm {r : Text → Text → Prop} [DecidableRel r] :
          ((inOrder r).apply members).Perm members :=
        permutes_inOrder (P := fun _ => True) _ trivial
      exact rearrange_of_mem hperm hperm hnodup.1 h hmember hmember

-- Two orders that agree, and tie no keys of the value, enumerate it alike.
theorem rearrange_eq_of_agree (hnodup : value.WellFormed) (hr : value.Objects (Separated r))
    (h : value.Objects (AgreeOn r s)) :
    value.rearrange (inOrder r) = value.rearrange (inOrder s) := by
  refine rearrange_congr (hnodup.and (hr.and h)) fun members hkeys => ?_
  have hmem {m : Text × _} (hm : m ∈ members) : m.1 ∈ members.map (·.1) := List.mem_map_of_mem hm
  exact inOrder_eq hkeys.1 (.refl members)
    (fun m hm m' hm' => hkeys.2.1 m.1 (hmem hm) m'.1 (hmem hm'))
    (fun m hm m' hm' hindex hindex' =>
      (hkeys.2.2 m.1 (hmem hm) m'.1 (hmem hm') hindex hindex').mpr)

-- A value without tied keys is enumerated alike in every order of insertion.
theorem rearrange_eq_of_same (hnodup : value.WellFormed) (hr : value.Objects (Separated r))
    (h : Same value value') : value'.rearrange (inOrder r) = value.rearrange (inOrder r) := by
  have hsorted {value : Json ν} (hnodup : value.WellFormed) (hr : value.Objects (Separated r)) :
      value.rearrange (inOrder r) = (value.rearrange byKey).rearrange (inOrder r) := by
    rw [rearrange_comp]
    refine rearrange_congr (hnodup.and hr) fun members hkeys => ?_
    have hmem {m : Text × _} (hm : m ∈ members) : m.1 ∈ members.map (·.1) := List.mem_map_of_mem hm
    exact inOrder_eq hkeys.1 (permutes_byKey (P := fun _ => True) members trivial).symm
      (fun m hm m' hm' => hkeys.2 m.1 (hmem hm) m'.1 (hmem hm'))
      (fun _ _ _ _ _ _ => id)
  have hnodup' := (h.objects unordered_nodup).mp hnodup
  have hr' := (h.objects unordered_separated).mp hr
  rw [hsorted hnodup hr, hsorted hnodup' hr', h]

-- An arrangement that adds no member keeps the keys distinct.
theorem wellFormed_rearrange
    (ha : ∀ {β : Type} (members : List (Text × β)), (a.apply members).Subperm members)
    (h : value.WellFormed) : (value.rearrange a).WellFormed := by
  induction h with
  | null            => exact .null
  | bool            => exact .bool
  | num             => exact .num
  | str             => exact .str
  | @arr items _ ih =>
    rw [rearrange_arr]
    exact .arr (List.forall_mem_map.mpr ih)
  | @obj members hkeys _ ih =>
    rw [rearrange_obj, a.natural]
    refine .obj ?_ (List.forall_mem_map.mpr fun member hmember => ?_)
    · rw [List.map_map]
      obtain ⟨kept, hperm, hsub⟩ := ha members
      exact (hperm.map (·.1)).nodup_iff.mp (hkeys.sublist (hsub.map _))
    · exact ih member ((ha members).subset hmember)

end Members

end Json
