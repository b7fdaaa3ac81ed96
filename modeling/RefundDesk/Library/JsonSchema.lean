import RefundDesk.Library.JsonObjects

-- Schemas that a value of JSON is parsed with: the value is checked, and what is kept of it comes out
-- in the shape of the schema.
namespace Json

open Utf16

variable {ν : Type}

-- What is made of a member that an object does not have
inductive Presence (ν : Type)
  | required
  | optional
  | default (value : Json ν)

inductive Schema (ν : Type)
  | string (accepts : Text → Bool)
  | trimmed (accepts : Text → Bool)
  | number (accepts : ν → Bool)
  | bool (accepts : Bool → Bool)
  | nullable (schema : Schema ν)
  | array (accepts : Nat → Bool) (item : Schema ν)
  | object (fields : List (Text × Presence ν × Schema ν))
  | union (options : List (Schema ν))

namespace Schema

mutual

-- An object has no members that the schema does not name, and its members come out in the order of
-- the schema.
def parse : Schema ν → Json ν → Option (Json ν)
  | string accepts, .str s       => if accepts s then some (.str s) else none
  | trimmed accepts, .str s      =>
    if accepts (trimUnits s) then some (.str (trimUnits s)) else none
  | number accepts, .num n       => if accepts n then some (.num n) else none
  | bool accepts, .bool b        => if accepts b then some (.bool b) else none
  | nullable _, .null            => some .null
  | nullable schema, value       => parse schema value
  | array accepts item, .arr items =>
    if accepts items.length then (items.mapM (parse item)).map .arr else none
  | object fields, .obj members  =>
    if members.all fun member => (fields.map (·.1)).contains member.1 then
      (parseFields fields members).map .obj
    else
      none
  | union options, value         => parseUnion options value
  | _, _                         => none

def parseFields : List (Text × Presence ν × Schema ν) → List (Text × Json ν) →
    Option (List (Text × Json ν))
  | [], _                                    => some []
  | (key, presence, schema) :: fields, members =>
    match members.find? fun member => member.1 = key, presence with
    | some member, _       => do
      let value ← parse schema member.2
      let rest ← parseFields fields members
      pure ((key, value) :: rest)
    | none, .required      => none
    | none, .optional      => parseFields fields members
    | none, .default value => do
      let rest ← parseFields fields members
      pure ((key, value) :: rest)

def parseUnion : List (Schema ν) → Json ν → Option (Json ν)
  | [], _                    => none
  | schema :: options, value => (parse schema value).or (parseUnion options value)

end

attribute [simp] parse parseFields parseUnion

theorem induction {P : Schema ν → Prop} (string : ∀ accepts, P (string accepts))
    (trimmed : ∀ accepts, P (trimmed accepts)) (number : ∀ accepts, P (number accepts))
    (bool : ∀ accepts, P (bool accepts)) (nullable : ∀ schema, P schema → P (nullable schema))
    (array : ∀ accepts item, P item → P (array accepts item))
    (object : ∀ fields, (∀ field ∈ fields, P field.2.2) → P (object fields))
    (union : ∀ options, (∀ option ∈ options, P option) → P (union options)) : ∀ schema, P schema
  | .string accepts     => string accepts
  | .trimmed accepts    => trimmed accepts
  | .number accepts     => number accepts
  | .bool accepts       => bool accepts
  | .nullable schema    =>
    nullable schema (induction string trimmed number bool nullable array object union schema)
  | .array accepts item =>
    array accepts item (induction string trimmed number bool nullable array object union item)
  | .object fields      => object fields fun field _ =>
    induction string trimmed number bool nullable array object union field.2.2
  | .union options      => union options fun option _ =>
    induction string trimmed number bool nullable array object union option
termination_by schema => sizeOf schema
decreasing_by
  · decreasing_tactic
  · decreasing_tactic
  · have hlt := List.sizeOf_lt_of_mem ‹field ∈ fields›
    obtain ⟨key, presence, schema⟩ := field
    simp only [Schema.object.sizeOf_spec, Prod.mk.sizeOf_spec] at hlt ⊢
    omega
  · have hlt := List.sizeOf_lt_of_mem ‹option ∈ options›
    simp only [Schema.union.sizeOf_spec]
    omega

section Same

variable {schema : Schema ν} {value value' : Json ν} {fields : List (Text × Presence ν × Schema ν)}
variable {members members' : List (Text × Json ν)} {β : Type}

theorem find?_key_of_perm {members members' : List (Text × β)} (hnodup : (members.map (·.1)).Nodup)
    (hperm : members.Perm members') (key : Text) :
    members.find? (fun member => member.1 = key) =
      members'.find? fun member => member.1 = key := by
  have hinj := List.inj_on_of_nodup_map hnodup
  cases hfind : members.find? fun member => member.1 = key with
  | none        =>
    refine (List.find?_eq_none.mpr fun member hmember => ?_).symm
    exact List.find?_eq_none.mp hfind member (hperm.mem_iff.mpr hmember)
  | some member =>
    have hmem := List.mem_of_find?_eq_some hfind
    have hkey : member.1 = key := by simpa using List.find?_some hfind
    cases hfind' : members'.find? fun member => member.1 = key with
    | none         =>
      have hnone := List.find?_eq_none.mp hfind' member (hperm.mem_iff.mp hmem)
      simp [hkey] at hnone
    | some member' =>
      have hmem' := hperm.mem_iff.mpr (List.mem_of_find?_eq_some hfind')
      have hkey' : member'.1 = key := by simpa using List.find?_some hfind'
      rw [hinj hmem hmem' (hkey.trans hkey'.symm)]

-- The same objects have the same values under a key.
theorem find?_of_same (h : Same (.obj members) (.obj members')) (hnodup : (members.map (·.1)).Nodup)
    (hnodup' : (members'.map (·.1)).Nodup) (key : Text) :
    (members.find? fun member => member.1 = key).map (·.2.rearrange byKey) =
      (members'.find? fun member => member.1 = key).map (·.2.rearrange byKey) := by
  have hvalues {members : List (Text × Json ν)} (hnodup : (members.map (·.1)).Nodup) :
      (members.find? fun member => member.1 = key).map (·.2.rearrange byKey) =
        ((byKey.apply (members.map (Prod.map id (rearrange byKey)))).find?
          fun member => member.1 = key).map (·.2) := by
    have hsorted : (byKey.apply (members.map (Prod.map id (rearrange byKey)))).Perm
        (members.map (Prod.map id (rearrange byKey))) :=
      permutes_byKey (P := fun _ => True) _ trivial
    have hkeys : ((members.map (Prod.map id (rearrange byKey))).map (·.1)).Nodup := by
      rwa [List.map_map]
    rw [find?_key_of_perm (hsorted.symm.map _ |>.nodup_iff.mp hkeys) hsorted, List.find?_map,
      Option.map_map]
    rfl
  unfold Same at h
  rw [rearrange_obj, rearrange_obj, Json.obj.injEq] at h
  rw [hvalues hnodup, hvalues hnodup', h]

-- A text is seen in the last member of an object.
theorem same_last_str_iff {key s s' : Text} (hnodup : (members.map (·.1) ++ [key]).Nodup) :
    Same (.obj (members ++ [(key, .str s)])) (.obj (members ++ [(key, .str s')])) ↔ s = s' := by
  refine ⟨fun h => ?_, fun h => h ▸ rfl⟩
  have hkeys (t : Text) : ((members ++ [(key, Json.str t)]).map Prod.fst).Nodup := by
    simpa using hnodup
  have hlast (t : Text) : (members ++ [(key, Json.str t)]).find? (fun member => member.1 = key) =
      some (key, .str t) := by
    have hnone : members.find? (fun member => member.1 = key) = none := by
      rw [List.find?_eq_none]
      rintro member hmember hkey
      rw [List.nodup_append] at hnodup
      exact hnodup.2.2 _ (List.mem_map_of_mem hmember) key (by simp) (by simpa using hkey)
    simp [List.find?_append, hnone]
  have hvalue := find?_of_same h (hkeys s) (hkeys s') key
  rw [hlast, hlast] at hvalue
  exact Json.str.inj (Option.some.inj hvalue)

-- What is made of the members depends on the values under the keys of the fields.
theorem parseFields_congr (h : ∀ field ∈ fields,
    (members.find? fun member => member.1 = field.1).map (field.2.2.parse ·.2) =
      (members'.find? fun member => member.1 = field.1).map (field.2.2.parse ·.2)) :
    parseFields fields members = parseFields fields members' := by
  induction fields with
  | nil => rfl
  | cons field fields ih =>
    obtain ⟨key, presence, schema⟩ := field
    rw [List.forall_mem_cons] at h
    obtain ⟨hfield, hrest⟩ := h
    dsimp only at hfield
    cases hfind : members.find? fun member => member.1 = key with
    | none        =>
      rw [hfind] at hfield
      have hfind' := Option.map_eq_none_iff.mp hfield.symm
      cases presence <;> simp only [parseFields, hfind, hfind', ih hrest]
    | some member =>
      rw [hfind] at hfield
      obtain ⟨member', hfind', hparse⟩ := Option.map_eq_some_iff.mp hfield.symm
      simp only [parseFields, hfind, hfind', hparse, ih hrest]

theorem parseUnion_congr {options : List (Schema ν)}
    (h : ∀ option ∈ options, option.parse value = option.parse value') :
    parseUnion options value = parseUnion options value' := by
  induction options with
  | nil                  => rfl
  | cons schema options ih =>
    rw [List.forall_mem_cons] at h
    rw [parseUnion, parseUnion, h.1, ih h.2]

theorem mapM_congr {α β : Type} {f g : α → Option β} {items : List α}
    (h : ∀ item ∈ items, f item = g item) : items.mapM f = items.mapM g := by
  induction items with
  | nil                => rfl
  | cons item items ih =>
    rw [List.forall_mem_cons] at h
    rw [List.mapM_cons, List.mapM_cons, h.1, ih h.2]

-- A parser that accepts the items with a property, each with one result
theorem mapM_eq_some_iff {α β : Type} {f : α → Option β} {p : α → Prop} {g : α → β}
    (hf : ∀ item result, f item = some result ↔ p item ∧ result = g item) {items : List α}
    {results : List β} :
    items.mapM f = some results ↔ (∀ item ∈ items, p item) ∧ results = items.map g := by
  induction items generalizing results with
  | nil                => simp [eq_comm]
  | cons item items ih =>
    simp only [List.mapM_cons, Option.bind_eq_bind, Option.bind_eq_some_iff, hf,
      List.forall_mem_cons, Option.pure_def, Option.some.injEq, List.map_cons]
    constructor
    · rintro ⟨_, ⟨hitem, rfl⟩, _, hitems, rfl⟩
      obtain ⟨hall, rfl⟩ := ih.mp hitems
      exact ⟨⟨hitem, hall⟩, rfl⟩
    · rintro ⟨⟨hitem, hitems⟩, rfl⟩
      exact ⟨_, ⟨hitem, rfl⟩, _, ih.mpr ⟨hitems, rfl⟩, rfl⟩

theorem parse_byKey (h : value.WellFormed) :
    schema.parse (value.rearrange byKey) = schema.parse value := by
  induction schema using Schema.induction generalizing value with
  | string accepts | trimmed accepts | number accepts | bool accepts =>
    cases value <;> rfl
  | nullable schema ih =>
    cases h with
    | null => rfl
    | bool | num | str => exact ih (by constructor)
    | arr hitems => exact ih (.arr hitems)
    | obj hkeys hmembers => exact ih (.obj hkeys hmembers)
  | array accepts item ih =>
    cases h with
    | null | bool | num | str | obj => rfl
    | @arr items hitems =>
      have hmapM : (items.map (rearrange byKey)).mapM item.parse = items.mapM item.parse := by
        rw [List.mapM_map]
        exact mapM_congr fun value hvalue => ih (hitems value hvalue)
      rw [rearrange_arr, parse, parse, List.length_map, hmapM]
  | object fields ih =>
    cases h with
    | null | bool | num | str | arr => rfl
    | @obj members hkeys hmembers =>
      have hsorted : (byKey.apply (members.map (Prod.map id (rearrange byKey)))).Perm
          (members.map (Prod.map id (rearrange byKey))) :=
        permutes_byKey (P := fun _ => True) _ trivial
      have hnodup : ((members.map (Prod.map id (rearrange byKey))).map (·.1)).Nodup := by
        rwa [List.map_map]
      have hall : (byKey.apply (members.map (Prod.map id (rearrange byKey)))).all
          (fun member => (fields.map (·.1)).contains member.1) =
          members.all fun member => (fields.map (·.1)).contains member.1 := by
        rw [hsorted.all_eq, List.all_map]
        rfl
      rw [rearrange_obj, parse, parse, hall]
      congr 2
      refine parseFields_congr fun field hfield => ?_
      rw [find?_key_of_perm (hsorted.symm.map _ |>.nodup_iff.mp hnodup) hsorted, List.find?_map,
        Option.map_map]
      refine Option.map_congr fun member hmember => ?_
      exact ih field hfield (hmembers member (List.mem_of_find?_eq_some hmember))
  | union options ih =>
    exact parseUnion_congr fun option hoption => ih option hoption h

-- A schema makes the same of values that are the same.
theorem parse_same (hsame : Same value value') (h : value.WellFormed) (h' : value'.WellFormed) :
    schema.parse value = schema.parse value' := by
  rw [← parse_byKey h, hsame, parse_byKey h']

end Same

-- The lists of keys of its objects meet a condition, and so do the values that it fills in.
inductive Keys (P : List Text → Prop) : Schema ν → Prop
  | string {accepts : Text → Bool} : Keys P (.string accepts)
  | trimmed {accepts : Text → Bool} : Keys P (.trimmed accepts)
  | number {accepts : ν → Bool} : Keys P (.number accepts)
  | bool {accepts : Bool → Bool} : Keys P (.bool accepts)
  | nullable {schema : Schema ν} : Keys P schema → Keys P (.nullable schema)
  | array {accepts : Nat → Bool} {item : Schema ν} : Keys P item → Keys P (.array accepts item)
  | object {fields : List (Text × Presence ν × Schema ν)} :
    P (fields.map (·.1)) → (∀ field ∈ fields, Keys P field.2.2) →
    (∀ field ∈ fields, ∀ value, field.2.1 = .default value → value.Objects P) →
    Keys P (.object fields)
  | union {options : List (Schema ν)} :
    (∀ option ∈ options, Keys P option) → Keys P (.union options)

section Keys

variable {P : List Text → Prop} {schema : Schema ν} {value parsed : Json ν}
variable {fields : List (Text × Presence ν × Schema ν)} {members kept : List (Text × Json ν)}

@[simp]
theorem keys_nullable : Keys P (.nullable schema) ↔ Keys P schema :=
  ⟨fun | .nullable h => h, .nullable⟩

@[simp]
theorem keys_array {accepts : Nat → Bool} : Keys P (.array accepts schema) ↔ Keys P schema :=
  ⟨fun | .array h => h, .array⟩

@[simp]
theorem keys_object : Keys P (.object fields) ↔ P (fields.map (·.1)) ∧
    (∀ field ∈ fields, Keys P field.2.2) ∧
    ∀ field ∈ fields, ∀ value, field.2.1 = .default value → value.Objects P :=
  ⟨fun | .object hkeys hfields hdefault => ⟨hkeys, hfields, hdefault⟩,
    fun h => .object h.1 h.2.1 h.2.2⟩

@[simp]
theorem keys_union {options : List (Schema ν)} :
    Keys P (.union options) ↔ ∀ option ∈ options, Keys P option :=
  ⟨fun | .union h => h, .union⟩

attribute [simp] Keys.string Keys.trimmed Keys.number Keys.bool

theorem Keys.mono {Q : List Text → Prop} (h : Keys P schema) (hPQ : ∀ keys, P keys → Q keys) :
    Keys Q schema := by
  induction h with
  | string => exact .string
  | trimmed => exact .trimmed
  | number => exact .number
  | bool => exact .bool
  | nullable _ ih => exact .nullable ih
  | array _ ih => exact .array ih
  | object hkeys _ hdefault ih =>
    exact .object (hPQ _ hkeys) ih fun field hfield value hvalue =>
      (hdefault field hfield value hvalue).mono hPQ
  | union _ ih => exact .union ih

theorem exists_of_parseUnion {options : List (Schema ν)}
    (h : parseUnion options value = some parsed) : ∃ option ∈ options, option.parse value = some parsed := by
  induction options with
  | nil                    => cases h
  | cons schema options ih =>
    rw [parseUnion, Option.or_eq_some_iff] at h
    rcases h with h | ⟨-, h⟩
    · exact ⟨schema, List.mem_cons_self, h⟩
    · obtain ⟨option, hoption, hparse⟩ := ih h
      exact ⟨option, List.mem_cons_of_mem _ hoption, hparse⟩

-- A member of what is made is parsed from a member under its key, or filled in.
theorem exists_of_parseFields (h : parseFields fields members = some kept) :
    (kept.map (·.1)).Sublist (fields.map (·.1)) ∧ ∀ member ∈ kept, ∃ field ∈ fields,
      (∃ given ∈ members, given.1 = field.1 ∧ field.2.2.parse given.2 = some member.2) ∨
        field.2.1 = .default member.2 := by
  induction fields generalizing kept with
  | nil                => cases h; simp
  | cons field fields ih =>
    obtain ⟨key, presence, schema⟩ := field
    unfold parseFields at h
    split at h
    case h_1 given hfind =>
      simp only [Option.bind_eq_bind, Option.bind_eq_some_iff, Option.pure_def,
        Option.some.injEq] at h
      obtain ⟨value, hvalue, rest, hrest, rfl⟩ := h
      obtain ⟨hsub, hmembers⟩ := ih hrest
      refine ⟨by simpa using hsub, List.forall_mem_cons.mpr ⟨?_, fun member hmember => ?_⟩⟩
      · exact ⟨_, List.mem_cons_self, .inl ⟨given, List.mem_of_find?_eq_some hfind,
          by simpa using List.find?_some hfind, hvalue⟩⟩
      · obtain ⟨field, hfield, hfrom⟩ := hmembers member hmember
        exact ⟨field, List.mem_cons_of_mem _ hfield, hfrom⟩
    case h_2 => cases h
    case h_3 =>
      obtain ⟨hsub, hmembers⟩ := ih h
      refine ⟨hsub.cons _, fun member hmember => ?_⟩
      obtain ⟨field, hfield, hfrom⟩ := hmembers member hmember
      exact ⟨field, List.mem_cons_of_mem _ hfield, hfrom⟩
    case h_4 value _ =>
      simp only [Option.bind_eq_bind, Option.bind_eq_some_iff, Option.pure_def,
        Option.some.injEq] at h
      obtain ⟨rest, hrest, rfl⟩ := h
      obtain ⟨hsub, hmembers⟩ := ih hrest
      refine ⟨by simpa using hsub, List.forall_mem_cons.mpr ⟨?_, fun member hmember => ?_⟩⟩
      · exact ⟨_, List.mem_cons_self, .inr rfl⟩
      · obtain ⟨field, hfield, hfrom⟩ := hmembers member hmember
        exact ⟨field, List.mem_cons_of_mem _ hfield, hfrom⟩

theorem exists_of_mapM {α β : Type} {f : α → Option β} {items : List α} {results : List β}
    (h : items.mapM f = some results) : ∀ result ∈ results, ∃ item ∈ items, f item = some result := by
  induction items generalizing results with
  | nil                => cases h; simp
  | cons item items ih =>
    simp only [List.mapM_cons, Option.bind_eq_bind, Option.bind_eq_some_iff, Option.pure_def,
      Option.some.injEq] at h
    obtain ⟨first, hfirst, rest, hrest, rfl⟩ := h
    refine List.forall_mem_cons.mpr ⟨⟨item, List.mem_cons_self, hfirst⟩, fun result hresult => ?_⟩
    obtain ⟨item', hitem, hresult'⟩ := ih hrest result hresult
    exact ⟨item', List.mem_cons_of_mem _ hitem, hresult'⟩

-- What is made of a value has the keys of the schema.
theorem objects_of_parse (hP : ∀ keys keys', keys.Sublist keys' → P keys' → P keys)
    (hschema : schema.Keys P) (h : schema.parse value = some parsed) : parsed.Objects P := by
  induction schema using Schema.induction generalizing value parsed with
  | string accepts | trimmed accepts | number accepts | bool accepts =>
    cases value <;> simp only [parse, reduceCtorEq] at h
    split_ifs at h
    obtain rfl := Option.some.inj h
    constructor
  | nullable schema ih =>
    cases hschema with
    | nullable hschema =>
      cases value with
      | null => cases h; exact .null
      | bool | num | str | arr | obj => exact ih hschema h
  | array accepts item ih =>
    cases hschema with
    | array hitem =>
      cases value <;> simp only [parse, reduceCtorEq] at h
      split_ifs at h
      obtain ⟨items, hitems, rfl⟩ := Option.map_eq_some_iff.mp h
      refine .arr fun result hresult => ?_
      obtain ⟨given, -, hparse⟩ := exists_of_mapM hitems result hresult
      exact ih hitem hparse
  | object fields ih =>
    cases hschema with
    | object hkeys hfields hdefault =>
      cases value <;> simp only [parse, reduceCtorEq] at h
      split_ifs at h
      obtain ⟨kept, hkept, rfl⟩ := Option.map_eq_some_iff.mp h
      obtain ⟨hsub, hmembers⟩ := exists_of_parseFields hkept
      refine .obj (hP _ _ hsub hkeys) fun member hmember => ?_
      obtain ⟨field, hfield, ⟨given, -, -, hparse⟩ | hfilled⟩ := hmembers member hmember
      · exact ih field hfield (hfields field hfield) hparse
      · exact hdefault field hfield member.2 hfilled
  | union options ih =>
    cases hschema with
    | union hoptions =>
      obtain ⟨option, hoption, hparse⟩ := exists_of_parseUnion h
      exact ih option hoption (hoptions option hoption) hparse

theorem find?_of_mem {β : Type} {members : List (Text × β)} {member : Text × β} {key : Text}
    (hnodup : (members.map (·.1)).Nodup) (hmember : member ∈ members) (hkey : member.1 = key) :
    (members.find? fun member => member.1 = key) = some member := by
  subst hkey
  cases hfind : members.find? fun given => given.1 = member.1 with
  | none       => exact absurd (List.find?_eq_none.mp hfind member hmember) (by simp)
  | some given =>
    have hgiven : given.1 = member.1 := by simpa using List.find?_some hfind
    rw [List.inj_on_of_nodup_map hnodup (List.mem_of_find?_eq_some hfind) hmember hgiven]

theorem parses_of_mapM {α β : Type} {f : α → Option β} {items : List α} {results : List β}
    (h : items.mapM f = some results) : ∀ item ∈ items, ∃ result, f item = some result := by
  induction items generalizing results with
  | nil                => simp
  | cons item items ih =>
    simp only [List.mapM_cons, Option.bind_eq_bind, Option.bind_eq_some_iff] at h
    obtain ⟨first, hfirst, rest, hrest, -⟩ := h
    exact List.forall_mem_cons.mpr ⟨⟨first, hfirst⟩, ih hrest⟩

theorem parses_of_parseFields (h : parseFields fields members = some kept) : ∀ field ∈ fields,
    ∀ given, (members.find? fun member => member.1 = field.1) = some given →
      ∃ value, field.2.2.parse given.2 = some value := by
  induction fields generalizing kept with
  | nil                => simp
  | cons field fields ih =>
    obtain ⟨key, presence, schema⟩ := field
    have hrest : ∃ rest, parseFields fields members = some rest := by
      unfold parseFields at h
      split at h
      case h_1 =>
        simp only [Option.bind_eq_bind, Option.bind_eq_some_iff] at h
        obtain ⟨-, -, rest, hrest, -⟩ := h
        exact ⟨rest, hrest⟩
      case h_2 => cases h
      case h_3 => exact ⟨kept, h⟩
      case h_4 =>
        simp only [Option.bind_eq_bind, Option.bind_eq_some_iff] at h
        obtain ⟨rest, hrest, -⟩ := h
        exact ⟨rest, hrest⟩
    obtain ⟨rest, hrest⟩ := hrest
    refine List.forall_mem_cons.mpr ⟨fun given hfind => ?_, ih hrest⟩
    dsimp only at hfind
    simp only [parseFields, hfind, Option.bind_eq_bind, Option.bind_eq_some_iff] at h
    exact h.imp fun _ h => h.1

-- So has a value that it accepts.
theorem objects_of_parsed (hP : ∀ keys keys', keys ⊆ keys' → P keys' → P keys)
    (hschema : schema.Keys P) (hvalue : value.WellFormed) (h : schema.parse value = some parsed) :
    value.Objects P := by
  induction schema using Schema.induction generalizing value parsed with
  | string accepts | trimmed accepts | number accepts | bool accepts =>
    cases value <;> first | cases h | constructor
  | nullable schema ih =>
    cases hschema with
    | nullable hschema =>
      cases value with
      | null => exact .null
      | bool | num | str | arr | obj => exact ih hschema hvalue h
  | array accepts item ih =>
    cases hschema with
    | array hitem =>
      cases hvalue with
      | null | bool | num | str | obj => cases h
      | @arr items hitems =>
        rw [parse] at h
        split_ifs at h
        obtain ⟨results, hresults, -⟩ := Option.map_eq_some_iff.mp h
        refine .arr fun given hgiven => ?_
        obtain ⟨result, hresult⟩ := parses_of_mapM hresults given hgiven
        exact ih hitem (hitems given hgiven) hresult
  | object fields ih =>
    cases hschema with
    | object hkeys hfields _ =>
      cases hvalue with
      | null | bool | num | str | arr => cases h
      | @obj members hnodup hmembers =>
        rw [parse] at h
        split_ifs at h with hnamed
        obtain ⟨kept, hkept, -⟩ := Option.map_eq_some_iff.mp h
        have hnames : ∀ member ∈ members, member.1 ∈ fields.map (·.1) := by simpa using hnamed
        refine .obj (hP _ _ ?_ hkeys) fun member hmember => ?_
        · rintro key hkey
          obtain ⟨member, hmember, rfl⟩ := List.mem_map.mp hkey
          exact hnames member hmember
        · obtain ⟨field, hfield, hname⟩ := List.mem_map.mp (hnames member hmember)
          obtain ⟨value, hparse⟩ := parses_of_parseFields hkept field hfield member
            (find?_of_mem hnodup hmember hname.symm)
          exact ih field hfield (hfields field hfield) (hmembers member hmember) hparse
  | union options ih =>
    cases hschema with
    | union hoptions =>
      obtain ⟨option, hoption, hparse⟩ := exists_of_parseUnion h
      exact ih option hoption (hoptions option hoption) hvalue hparse

end Keys

end Schema
end Json
