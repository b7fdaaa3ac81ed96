import RefundDesk.Library.Utf16

open Utf16

-- The values of JSON, over the numbers of an application. The members of an object are in the order
-- of their insertion.
inductive Json (ν : Type) where
  | null
  | bool (b : Bool)
  | num (n : ν)
  | str (s : Text)
  | arr (items : List (Json ν))
  | obj (members : List (Text × Json ν))

namespace Json

variable {ν : Type}

theorem induction {P : Json ν → Prop} (null : P null) (bool : ∀ b, P (bool b)) (num : ∀ n, P (num n))
    (str : ∀ s, P (str s)) (arr : ∀ items, (∀ item ∈ items, P item) → P (arr items))
    (obj : ∀ members, (∀ member ∈ members, P member.2) → P (obj members)) : ∀ value, P value
  | .null        => null
  | .bool b      => bool b
  | .num n       => num n
  | .str s       => str s
  | .arr items   => arr items fun item _ => induction null bool num str arr obj item
  | .obj members => obj members fun member _ => induction null bool num str arr obj member.2
termination_by value => sizeOf value
decreasing_by
  · have hlt := List.sizeOf_lt_of_mem ‹item ∈ items›
    simp only [Json.arr.sizeOf_spec]
    omega
  · have hlt := List.sizeOf_lt_of_mem ‹member ∈ members›
    obtain ⟨key, value⟩ := member
    simp only [Json.obj.sizeOf_spec, Prod.mk.sizeOf_spec] at hlt ⊢
    omega

section Texts

-- `"`, `,`, `:`, `[`, `\`, `]`, `{` and `}`
abbrev quotation : CodeUnit := 0x22
abbrev comma : CodeUnit := 0x2C
abbrev colon : CodeUnit := 0x3A
abbrev openBracket : CodeUnit := 0x5B
abbrev backslash : CodeUnit := 0x5C
abbrev closeBracket : CodeUnit := 0x5D
abbrev openBrace : CodeUnit := 0x7B
abbrev closeBrace : CodeUnit := 0x7D

def nullText : Text := [0x6E, 0x75, 0x6C, 0x6C]
def trueText : Text := [0x74, 0x72, 0x75, 0x65]
def falseText : Text := [0x66, 0x61, 0x6C, 0x73, 0x65]

-- The digits, `+`, `-`, `.`, `E` and `e`
def isNumberUnit (u : CodeUnit) : Bool :=
  (0x30 ≤ u && u ≤ 0x39) || u = 0x2B || u = 0x2D || u = 0x2E || u = 0x45 || u = 0x65

def isSpace (u : CodeUnit) : Bool :=
  u = 0x20 || u = 0x09 || u = 0x0A || u = 0x0D

end Texts

-- How the numbers are written and read
structure NumberFormat (ν : Type) where
  toText         : ν → Text
  ofText         : Text → Option ν
  units          : ∀ n, ∀ u ∈ toText n, isNumberUnit u = true
  ne_nil         : ∀ n, toText n ≠ []
  ofText_toText  : ∀ n, ofText (toText n) = some n

section Strings

def hexUnit (n : Nat) : CodeUnit :=
  if n < 10 then Fin.ofNat 65536 (0x30 + n) else Fin.ofNat 65536 (0x61 + (n - 10))

def hexValue? (u : CodeUnit) : Option Nat :=
  if 0x30 ≤ u ∧ u ≤ 0x39 then some (u.val - 0x30)
  else if 0x61 ≤ u ∧ u ≤ 0x66 then some (u.val - 0x61 + 10)
  else if 0x41 ≤ u ∧ u ≤ 0x46 then some (u.val - 0x41 + 10)
  else none

-- `\u` and four digits
def unicodeEscape (u : CodeUnit) : Text :=
  [backslash, 0x75, hexUnit (u.val / 4096), hexUnit (u.val / 256 % 16), hexUnit (u.val / 16 % 16),
    hexUnit (u.val % 16)]

-- The units that have an escape of two, with its second unit
def escapes : List (CodeUnit × CodeUnit) := [
  (0x08, 0x62), (0x09, 0x74), (0x0A, 0x6E), (0x0C, 0x66), (0x0D, 0x72),
  (quotation, quotation), (backslash, backslash)
]

def escape (u : CodeUnit) : Text :=
  match escapes.find? fun e => e.1 = u with
  | some e => [backslash, e.2]
  | none   => if u < 0x20 then unicodeEscape u else [u]

-- Units that are no character of their own are escaped.
def quoteUnits : Text → Text
  | []     => []
  | [u]    => if isLead u || isTrail u then unicodeEscape u else escape u
  | u :: v :: rest =>
    if isLead u && isTrail v then u :: v :: quoteUnits rest
    else if isLead u || isTrail u then unicodeEscape u ++ quoteUnits (v :: rest)
    else escape u ++ quoteUnits (v :: rest)

def quote (s : Text) : Text :=
  quotation :: (quoteUnits s ++ [quotation])

-- What an escape of two units stands for
def unescape (second : CodeUnit) : Option CodeUnit :=
  if second = 0x2F then some 0x2F
  else (escapes.find? fun e => e.2 = second).map (·.1)

def hexValue4? (a b c d : CodeUnit) : Option CodeUnit := do
  let a ← hexValue? a
  let b ← hexValue? b
  let c ← hexValue? c
  let d ← hexValue? d
  pure (Fin.ofNat 65536 (4096 * a + 256 * b + 16 * c + d))

-- The text behind a quotation mark, up to the next one
def parseString : Text → Option (Text × Text)
  | []        => none
  | u :: rest =>
    if u = quotation then
      some ([], rest)
    else if u = backslash then
      match rest with
      | []          => none
      | v :: rest' =>
        if v = 0x75 then
          match rest' with
          | a :: b :: c :: d :: rest'' => do
            let escaped ← hexValue4? a b c d
            let (s, rest) ← parseString rest''
            pure (escaped :: s, rest)
          | _ => none
        else do
          let escaped ← unescape v
          let (s, rest) ← parseString rest'
          pure (escaped :: s, rest)
    else if u < 0x20 then
      none
    else do
      let (s, rest) ← parseString rest
      pure (u :: s, rest)

theorem hexValue?_hexUnit {n : Nat} (h : n < 16) : hexValue? (hexUnit n) = some n := by
  revert h
  revert n
  decide +kernel

theorem parseString_unicodeEscape (u : CodeUnit) (rest : Text) :
    parseString (unicodeEscape u ++ rest) =
      (parseString rest).map fun (s, rest) => (u :: s, rest) := by
  have hu := u.isLt
  have ha := hexValue?_hexUnit (n := u.val / 4096) (by omega)
  have hb := hexValue?_hexUnit (n := u.val / 256 % 16) (by omega)
  have hc := hexValue?_hexUnit (n := u.val / 16 % 16) (by omega)
  have hd := hexValue?_hexUnit (n := u.val % 16) (by omega)
  have hsum : 4096 * (u.val / 4096) + 256 * (u.val / 256 % 16) + 16 * (u.val / 16 % 16) +
      u.val % 16 = u.val := by omega
  have hfour : hexValue4? (hexUnit (u.val / 4096)) (hexUnit (u.val / 256 % 16))
      (hexUnit (u.val / 16 % 16)) (hexUnit (u.val % 16)) = some u := by
    simp only [hexValue4?, ha, hb, hc, hd, Option.bind_eq_bind, Option.bind_some, hsum]
    exact congrArg some (Fin.ext (Nat.mod_eq_of_lt hu))
  rw [unicodeEscape, List.cons_append, parseString.eq_def]
  simp only [List.cons_append, List.nil_append, if_neg (show backslash ≠ quotation by decide),
    if_true, hfour]
  cases parseString rest <;> rfl

theorem parseString_plain {u : CodeUnit} (hquotation : u ≠ quotation) (hbackslash : u ≠ backslash)
    (hcontrol : ¬u < 0x20) (rest : Text) :
    parseString (u :: rest) = (parseString rest).map fun (s, rest) => (u :: s, rest) := by
  rw [parseString.eq_def]
  simp only [if_neg hquotation, if_neg hbackslash, if_neg hcontrol]
  cases parseString rest <;> rfl

theorem parseString_escape (u : CodeUnit) (rest : Text) :
    parseString (escape u ++ rest) =
      (parseString rest).map fun (s, rest) => (u :: s, rest) := by
  unfold escape
  cases hfind : escapes.find? fun e => e.1 = u with
  | some e =>
    have hall : (escapes.all fun e => e.2 ≠ 0x75 ∧ unescape e.2 = some e.1) = true := by decide
    have hback := List.all_eq_true.mp hall e (List.mem_of_find?_eq_some hfind)
    obtain ⟨hsecond, hunescape⟩ := of_decide_eq_true hback
    have hfirst : e.1 = u := by simpa using List.find?_some hfind
    rw [List.cons_append, List.cons_append, List.nil_append, parseString.eq_def]
    simp only [if_neg (show backslash ≠ quotation by decide), if_true, if_neg hsecond, hunescape,
      hfirst]
    cases parseString rest <;> rfl
  | none =>
    have hnone : ∀ e ∈ escapes, e.1 ≠ u := by simpa using hfind
    split_ifs with hcontrol
    · exact parseString_unicodeEscape u rest
    · have hquotation : quotation ≠ u := hnone (quotation, quotation) (by decide)
      have hbackslash : backslash ≠ u := hnone (backslash, backslash) (by decide)
      exact parseString_plain hquotation.symm hbackslash.symm hcontrol rest

theorem surrogate_plain {u : CodeUnit} (h : isLead u = true ∨ isTrail u = true) :
    u ≠ quotation ∧ u ≠ backslash ∧ ¬u < 0x20 := by
  have hle : 0xD800 ≤ u.val := by
    rcases h with h | h
    · exact (isLead_iff.mp h).1
    · exact Nat.le_trans (by decide) (isTrail_iff.mp h).1
  refine ⟨?_, ?_, ?_⟩
  · rintro rfl
    exact absurd hle (by decide)
  · rintro rfl
    exact absurd hle (by decide)
  · intro hlt
    have hlt : u.val < 0x20 := hlt
    omega

theorem parseString_end (rest : Text) : parseString (quotation :: rest) = some ([], rest) := by
  rw [parseString.eq_def]
  simp

-- What was quoted is read back.
theorem parseString_quoteUnits (s rest : Text) :
    parseString (quoteUnits s ++ quotation :: rest) = some (s, rest) := by
  induction s using quoteUnits.induct with
  | case1 => exact parseString_end rest
  | case2 u hsurrogate =>
    rw [quoteUnits, if_pos hsurrogate, parseString_unicodeEscape, parseString_end]
    rfl
  | case3 u hsurrogate =>
    rw [quoteUnits, if_neg hsurrogate, parseString_escape, parseString_end]
    rfl
  | case4 u v tail hpair ih =>
    have hboth := hpair
    rw [Bool.and_eq_true] at hboth
    obtain ⟨hu, hu', hu''⟩ := surrogate_plain (.inl hboth.1)
    obtain ⟨hv, hv', hv''⟩ := surrogate_plain (.inr hboth.2)
    rw [quoteUnits, if_pos hpair, List.cons_append, List.cons_append,
      parseString_plain hu hu' hu'', parseString_plain hv hv' hv'', ih]
    rfl
  | case5 u v tail hpair hsurrogate ih =>
    rw [quoteUnits, if_neg hpair, if_pos hsurrogate, List.append_assoc, parseString_unicodeEscape,
      ih]
    rfl
  | case6 u v tail hpair hsurrogate ih =>
    rw [quoteUnits, if_neg hpair, if_neg hsurrogate, List.append_assoc, parseString_escape, ih]
    rfl

end Strings

section Definitions

variable (format : NumberFormat ν)

mutual

def print : Json ν → Text
  | .null        => nullText
  | .bool b      => if b then trueText else falseText
  | .num n       => format.toText n
  | .str s       => quote s
  | .arr items   => openBracket :: printItems items
  | .obj members => openBrace :: printMembers members

def printItems : List (Json ν) → Text
  | []            => [closeBracket]
  | item :: items => print item ++ printRestItems items

def printRestItems : List (Json ν) → Text
  | []            => [closeBracket]
  | item :: items => comma :: (print item ++ printRestItems items)

def printMembers : List (Text × Json ν) → Text
  | []                      => [closeBrace]
  | (key, value) :: members =>
    quote key ++ colon :: (print value ++ printRestMembers members)

def printRestMembers : List (Text × Json ν) → Text
  | []                      => [closeBrace]
  | (key, value) :: members =>
    comma :: (quote key ++ colon :: (print value ++ printRestMembers members))

end

def skip (text : Text) : Text :=
  text.dropWhile isSpace

def parseLiteral (text : Text) : Option (Json ν × Text) :=
  if nullText.isPrefixOf text then some (.null, text.drop 4)
  else if trueText.isPrefixOf text then some (.bool true, text.drop 4)
  else if falseText.isPrefixOf text then some (.bool false, text.drop 5)
  else none

-- A member that is repeated has its last value, in its first place.
def addMember (key : Text) (value : Json ν) (members : List (Text × Json ν)) :
    List (Text × Json ν) :=
  match members.find? fun member => member.1 = key with
  | none        => (key, value) :: members
  | some member => (key, member.2) :: members.filter fun member => member.1 ≠ key

-- A key with its colon
def parseKey (text : Text) : Option (Text × Text) :=
  match skip text with
  | []        => none
  | u :: rest =>
    if u = quotation then do
      let (key, rest) ← parseString rest
      match skip rest with
      | []        => none
      | v :: rest => if v = colon then pure (key, rest) else none
    else
      none

mutual

-- The fuel bounds the nesting, and is the length of the text.
def parseValue : Nat → Text → Option (Json ν × Text)
  | 0, _           => none
  | fuel + 1, text =>
    match skip text with
    | []        => none
    | u :: rest =>
      if u = quotation then
        (parseString rest).map fun result => (.str result.1, result.2)
      else if u = openBracket then
        (parseItems fuel rest).map fun result => (.arr result.1, result.2)
      else if u = openBrace then
        (parseMembers fuel rest).map fun result => (.obj result.1, result.2)
      else if isNumberUnit u then
        (format.ofText ((u :: rest).takeWhile isNumberUnit)).map fun n =>
          (.num n, (u :: rest).dropWhile isNumberUnit)
      else
        parseLiteral (u :: rest)

def parseItems : Nat → Text → Option (List (Json ν) × Text)
  | 0, _           => none
  | fuel + 1, text =>
    match skip text with
    | []        => none
    | u :: rest =>
      if u = closeBracket then
        some ([], rest)
      else do
        let (item, rest) ← parseValue fuel (u :: rest)
        let (items, rest) ← parseRestItems fuel rest
        pure (item :: items, rest)

def parseRestItems : Nat → Text → Option (List (Json ν) × Text)
  | 0, _           => none
  | fuel + 1, text =>
    match skip text with
    | []        => none
    | u :: rest =>
      if u = closeBracket then
        some ([], rest)
      else if u = comma then do
        let (item, rest) ← parseValue fuel rest
        let (items, rest) ← parseRestItems fuel rest
        pure (item :: items, rest)
      else
        none

def parseMembers : Nat → Text → Option (List (Text × Json ν) × Text)
  | 0, _           => none
  | fuel + 1, text =>
    match skip text with
    | []        => none
    | u :: rest =>
      if u = closeBrace then
        some ([], rest)
      else do
        let (key, rest) ← parseKey (u :: rest)
        let (value, rest) ← parseValue fuel rest
        let (members, rest) ← parseRestMembers fuel rest
        pure (addMember key value members, rest)

def parseRestMembers : Nat → Text → Option (List (Text × Json ν) × Text)
  | 0, _           => none
  | fuel + 1, text =>
    match skip text with
    | []        => none
    | u :: rest =>
      if u = closeBrace then
        some ([], rest)
      else if u = comma then do
        let (key, rest) ← parseKey rest
        let (value, rest) ← parseValue fuel rest
        let (members, rest) ← parseRestMembers fuel rest
        pure (addMember key value members, rest)
      else
        none

end

def parse (text : Text) : Option (Json ν) :=
  match parseValue format text.length text with
  | none               => none
  | some (value, rest) => if skip rest = [] then some value else none

end Definitions

-- The keys of every object meet a condition.
inductive Objects (P : List Text → Prop) : Json ν → Prop
  | null : Objects P .null
  | bool {b : Bool} : Objects P (.bool b)
  | num {n : ν} : Objects P (.num n)
  | str {s : Text} : Objects P (.str s)
  | arr {items : List (Json ν)} : (∀ item ∈ items, Objects P item) → Objects P (.arr items)
  | obj {members : List (Text × Json ν)} :
    P (members.map (·.1)) → (∀ member ∈ members, Objects P member.2) → Objects P (.obj members)

-- The keys of every object are distinct.
abbrev WellFormed : Json ν → Prop :=
  Objects List.Nodup

section RoundTrip

variable {format : NumberFormat ν} {value : Json ν} {items : List (Json ν)}
  {members : List (Text × Json ν)} {rest : Text} {fuel : Nat}

-- A value starts with a unit that is no space and closes nothing.
theorem print_head (format : NumberFormat ν) (value : Json ν) :
    ∃ u tail, print format value = u :: tail ∧ isSpace u = false ∧ u ≠ closeBracket := by
  cases value with
  | null        => exact ⟨_, _, rfl, by decide, by decide⟩
  | bool b      => cases b <;> exact ⟨_, _, rfl, by decide, by decide⟩
  | num n       =>
    obtain ⟨u, tail, hnumber⟩ := List.exists_cons_of_ne_nil (format.ne_nil n)
    have hunit := format.units n u (by rw [hnumber]; exact List.mem_cons_self)
    refine ⟨u, tail, by rw [print, hnumber], ?_, ?_⟩
    · rw [Bool.eq_false_iff]
      intro hspace
      simp only [isSpace, Bool.or_eq_true, decide_eq_true_eq] at hspace
      rcases hspace with ((rfl | rfl) | rfl) | rfl <;> exact absurd hunit (by decide)
    · rintro rfl
      exact absurd hunit (by decide)
  | str s       => exact ⟨_, _, rfl, by decide, by decide⟩
  | arr items   => exact ⟨_, _, rfl, by decide, by decide⟩
  | obj members => exact ⟨_, _, rfl, by decide, by decide⟩

theorem skip_cons {u : CodeUnit} (h : isSpace u = false) : skip (u :: rest) = u :: rest := by
  simp [skip, h]

theorem skip_print (format : NumberFormat ν) (value : Json ν) (rest : Text) :
    skip (print format value ++ rest) = print format value ++ rest := by
  obtain ⟨u, tail, hprint, hspace, -⟩ := print_head format value
  rw [hprint, List.cons_append, skip_cons hspace]

theorem length_print_pos (format : NumberFormat ν) (value : Json ν) :
    0 < (print format value).length := by
  obtain ⟨u, tail, hprint, -, -⟩ := print_head format value
  simp [hprint]

-- What may follow a number
def Ends (rest : Text) : Prop :=
  ∀ u ∈ rest.head?, isNumberUnit u = false

theorem ends_cons {u : CodeUnit} (h : isNumberUnit u = false) : Ends (u :: rest) := by
  rintro v hv
  obtain rfl : u = v := by simpa using hv
  exact h

theorem parseValue_num (n : ν) (h : Ends rest) :
    parseValue format (fuel + 1) (format.toText n ++ rest) = some (.num n, rest) := by
  have hskip := skip_print format (.num n) rest
  rw [print] at hskip
  have hunits : ∀ u ∈ format.toText n, isNumberUnit u = true := format.units n
  have hrest : rest.takeWhile isNumberUnit = [] ∧ rest.dropWhile isNumberUnit = rest := by
    cases rest with
    | nil       => exact ⟨rfl, rfl⟩
    | cons u rest => simp [h u (by simp)]
  have htake : (format.toText n ++ rest).takeWhile isNumberUnit = format.toText n := by
    rw [List.takeWhile_append_of_pos hunits, hrest.1, List.append_nil]
  have hdrop : (format.toText n ++ rest).dropWhile isNumberUnit = rest := by
    rw [List.dropWhile_append_of_pos hunits, hrest.2]
  obtain ⟨u, tail, hnumber⟩ := List.exists_cons_of_ne_nil (format.ne_nil n)
  have hunit : isNumberUnit u = true := hunits u (by rw [hnumber]; exact List.mem_cons_self)
  have hplain : u ≠ quotation ∧ u ≠ openBracket ∧ u ≠ openBrace := by
    refine ⟨?_, ?_, ?_⟩ <;> rintro rfl <;> exact absurd hunit (by decide)
  have hcons : format.toText n ++ rest = u :: (tail ++ rest) := by rw [hnumber, List.cons_append]
  rw [parseValue, hskip]
  rw [hcons] at htake hdrop ⊢
  simp only [if_neg hplain.1, if_neg hplain.2.1, if_neg hplain.2.2, hunit, if_true, htake, hdrop,
    format.ofText_toText, Option.map_some]

theorem parseValue_succ {u : CodeUnit} {tail : Text} (hspace : isSpace u = false) :
    parseValue format (fuel + 1) (u :: tail) =
      if u = quotation then
        (parseString tail).map fun result => (.str result.1, result.2)
      else if u = openBracket then
        (parseItems format fuel tail).map fun result => (.arr result.1, result.2)
      else if u = openBrace then
        (parseMembers format fuel tail).map fun result => (.obj result.1, result.2)
      else if isNumberUnit u then
        (format.ofText ((u :: tail).takeWhile isNumberUnit)).map fun n =>
          (.num n, (u :: tail).dropWhile isNumberUnit)
      else
        parseLiteral (u :: tail) := by
  rw [parseValue, skip_cons hspace]

theorem parseKey_quote (key rest : Text) :
    parseKey (quote key ++ colon :: rest) = some (key, rest) := by
  have hquotation : skip (quote key ++ colon :: rest) =
      quotation :: (quoteUnits key ++ quotation :: colon :: rest) := by
    rw [quote, List.cons_append, List.append_assoc, skip_cons (by decide)]
    rfl
  have hcolon : skip (colon :: rest) = colon :: rest := skip_cons (by decide)
  simp [parseKey, hquotation, parseString_quoteUnits, hcolon]

-- That the text of a value is read back, whatever follows it
def Reads (format : NumberFormat ν) (value : Json ν) : Prop :=
  ∀ fuel rest, (print format value).length ≤ fuel → Ends rest →
    parseValue format fuel (print format value ++ rest) = some (value, rest)

theorem ends_printRestItems : Ends (printRestItems format items ++ rest) := by
  cases items <;> exact ends_cons (by decide)

theorem ends_printRestMembers : Ends (printRestMembers format members ++ rest) := by
  cases members with
  | nil              => exact ends_cons (by decide)
  | cons member rest => exact ends_cons (by decide)

theorem length_printRestItems_pos : 0 < (printRestItems format items).length := by
  cases items <;> simp [printRestItems]

theorem parseRestItems_print (hreads : ∀ item ∈ items, Reads format item)
    (hfuel : (printRestItems format items).length ≤ fuel) :
    parseRestItems format fuel (printRestItems format items ++ rest) = some (items, rest) := by
  induction items generalizing fuel with
  | nil =>
    match fuel, hfuel with
    | fuel + 1, _ =>
      have hskip : skip (closeBracket :: rest) = closeBracket :: rest := skip_cons (by decide)
      simp [printRestItems, parseRestItems, hskip]
  | cons item items ih =>
    rw [List.forall_mem_cons] at hreads
    simp only [printRestItems, List.length_cons, List.length_append] at hfuel
    match fuel, hfuel with
    | fuel + 1, hfuel =>
      have hitem := hreads.1 fuel (printRestItems format items ++ rest) (by omega)
        ends_printRestItems
      have hitems : parseRestItems format fuel (printRestItems format items ++ rest) =
          some (items, rest) := ih hreads.2 (by omega)
      have hskip (tail : Text) : skip (comma :: tail) = comma :: tail := skip_cons (by decide)
      simp only [printRestItems, List.cons_append, List.append_assoc, parseRestItems, hskip,
        if_neg (show comma ≠ closeBracket by decide), if_true, hitem, hitems, Option.bind_eq_bind,
        Option.bind_some, Option.pure_def]

theorem parseItems_print (hreads : ∀ item ∈ items, Reads format item)
    (hfuel : (printItems format items).length ≤ fuel) :
    parseItems format fuel (printItems format items ++ rest) = some (items, rest) := by
  cases items with
  | nil =>
    match fuel, hfuel with
    | fuel + 1, _ =>
      have hskip : skip (closeBracket :: rest) = closeBracket :: rest := skip_cons (by decide)
      simp [printItems, parseItems, hskip]
  | cons item items =>
    rw [List.forall_mem_cons] at hreads
    simp only [printItems, List.length_append] at hfuel
    have hpos := length_print_pos format item
    have hrest : 0 < (printRestItems format items).length := length_printRestItems_pos
    cases fuel with
    | zero      => omega
    | succ fuel =>
      have hitem := hreads.1 fuel (printRestItems format items ++ rest) (by omega)
        ends_printRestItems
      have hitems : parseRestItems format fuel (printRestItems format items ++ rest) =
          some (items, rest) := parseRestItems_print hreads.2 (by omega)
      have hskip := skip_print format item (printRestItems format items ++ rest)
      obtain ⟨u, tail, hprint, -, hclose⟩ := print_head format item
      rw [hprint, List.cons_append] at hitem hskip
      simp only [printItems, List.append_assoc, parseItems, hprint, List.cons_append, hskip,
        if_neg hclose, hitem, hitems, Option.bind_eq_bind, Option.bind_some, Option.pure_def]

theorem addMember_of_notMem {key : Text} (h : key ∉ members.map (·.1)) :
    addMember key value members = (key, value) :: members := by
  have hnone : members.find? (fun member => member.1 = key) = none := by
    rw [List.find?_eq_none]
    intro member hmember heq
    exact h (List.mem_map.mpr ⟨member, hmember, by simpa using heq⟩)
  rw [addMember, hnone]

theorem parseRestMembers_print (hnodup : (members.map (·.1)).Nodup)
    (hreads : ∀ member ∈ members, Reads format member.2)
    (hfuel : (printRestMembers format members).length ≤ fuel) :
    parseRestMembers format fuel (printRestMembers format members ++ rest) =
      some (members, rest) := by
  induction members generalizing fuel with
  | nil =>
    match fuel, hfuel with
    | fuel + 1, _ =>
      have hskip : skip (closeBrace :: rest) = closeBrace :: rest := skip_cons (by decide)
      simp [printRestMembers, parseRestMembers, hskip]
  | cons member members ih =>
    obtain ⟨key, value⟩ := member
    rw [List.forall_mem_cons] at hreads
    rw [List.map_cons, List.nodup_cons] at hnodup
    simp only [printRestMembers, List.length_cons, List.length_append] at hfuel
    match fuel, hfuel with
    | fuel + 1, hfuel =>
      have hlength : (print format value).length ≤ fuel := by omega
      have hvalue := hreads.1 fuel (printRestMembers format members ++ rest) hlength
        ends_printRestMembers
      have hmembers : parseRestMembers format fuel (printRestMembers format members ++ rest) =
          some (members, rest) := ih hnodup.2 hreads.2 (by omega)
      have hskip (tail : Text) : skip (comma :: tail) = comma :: tail := skip_cons (by decide)
      simp only [printRestMembers, List.cons_append, List.append_assoc, parseRestMembers, hskip,
        if_neg (show comma ≠ closeBrace by decide), if_true, parseKey_quote, hvalue, hmembers,
        addMember_of_notMem hnodup.1, Option.bind_eq_bind, Option.bind_some, Option.pure_def]

theorem parseMembers_print (hnodup : (members.map (·.1)).Nodup)
    (hreads : ∀ member ∈ members, Reads format member.2)
    (hfuel : (printMembers format members).length ≤ fuel) :
    parseMembers format fuel (printMembers format members ++ rest) = some (members, rest) := by
  cases members with
  | nil =>
    match fuel, hfuel with
    | fuel + 1, _ =>
      have hskip : skip (closeBrace :: rest) = closeBrace :: rest := skip_cons (by decide)
      simp [printMembers, parseMembers, hskip]
  | cons member members =>
    obtain ⟨key, value⟩ := member
    rw [List.forall_mem_cons] at hreads
    rw [List.map_cons, List.nodup_cons] at hnodup
    simp only [printMembers, List.length_cons, List.length_append] at hfuel
    match fuel, hfuel with
    | fuel + 1, hfuel =>
      have hlength : (print format value).length ≤ fuel := by omega
      have hvalue := hreads.1 fuel (printRestMembers format members ++ rest) hlength
        ends_printRestMembers
      have hmembers : parseRestMembers format fuel (printRestMembers format members ++ rest) =
          some (members, rest) := parseRestMembers_print hnodup.2 hreads.2 (by omega)
      have hkey := parseKey_quote key (print format value ++ (printRestMembers format members ++ rest))
      have hskip (tail : Text) : skip (quotation :: tail) = quotation :: tail :=
        skip_cons (by decide)
      rw [quote, List.cons_append] at hkey
      simp only [printMembers, quote, List.cons_append, List.append_assoc, parseMembers, hskip,
        if_neg (show quotation ≠ closeBrace by decide)] at hkey ⊢
      simp only [hkey, hvalue, hmembers, addMember_of_notMem hnodup.1, Option.bind_eq_bind,
        Option.bind_some, Option.pure_def]

theorem WellFormed.reads (h : WellFormed value) : Reads format value := by
  induction h with
  | null =>
    rintro (_ | fuel) rest hfuel -
    · simp [print, nullText] at hfuel
    · rw [print, nullText, List.cons_append, parseValue_succ (by decide)]
      rfl
  | @bool b =>
    rintro (_ | fuel) rest hfuel -
    · cases b <;> simp [print, trueText, falseText] at hfuel
    · cases b
      · rw [print, if_neg (by decide), falseText, List.cons_append, parseValue_succ (by decide)]
        rfl
      · rw [print, if_pos rfl, trueText, List.cons_append, parseValue_succ (by decide)]
        rfl
  | @num n =>
    rintro (_ | fuel) rest hfuel hends
    · have hpos := length_print_pos format (.num n)
      omega
    · exact parseValue_num n hends
  | @str s =>
    rintro (_ | fuel) rest hfuel -
    · simp [print, quote] at hfuel
    · rw [print, quote, List.cons_append, List.append_assoc, parseValue_succ (by decide), if_pos rfl,
        List.cons_append, List.nil_append, parseString_quoteUnits]
      rfl
  | @arr items _ ih =>
    rintro (_ | fuel) rest hfuel -
    · simp [print] at hfuel
    · simp only [print, List.length_cons, Nat.add_le_add_iff_right] at hfuel
      rw [print, List.cons_append, parseValue_succ (by decide), if_neg (by decide), if_pos rfl,
        parseItems_print ih hfuel]
      rfl
  | @obj members hnodup _ ih =>
    rintro (_ | fuel) rest hfuel -
    · simp [print] at hfuel
    · simp only [print, List.length_cons, Nat.add_le_add_iff_right] at hfuel
      rw [print, List.cons_append, parseValue_succ (by decide), if_neg (by decide),
        if_neg (by decide), if_pos rfl, parseMembers_print hnodup ih hfuel]
      rfl

-- What was printed is parsed.
theorem parse_print (h : WellFormed value) : parse format (print format value) = some value := by
  have hreads : Reads format value := h.reads
  have hvalue := hreads (print format value).length [] (Nat.le_refl _) (by rintro u ⟨⟩)
  rw [List.append_nil] at hvalue
  rw [parse, hvalue]
  rfl

theorem print_injective {value' : Json ν} (h : WellFormed value) (h' : WellFormed value')
    (heq : print format value = print format value') : value = value' := by
  have hparse : parse format (print format value) = some value := parse_print h
  rw [heq, parse_print h'] at hparse
  exact (Option.some.inj hparse).symm

end RoundTrip

end Json
