import Mathlib.Logic.Basic

-- The truth values of SQL: a comparison with NULL is unknown.
inductive Truth
  | true
  | false
  | unknown
  deriving DecidableEq, Repr

namespace Truth

variable {α : Type} [DecidableEq α]

def ofBool : Bool → Truth
  | .true  => true
  | .false => false

def not : Truth → Truth
  | true    => false
  | false   => true
  | unknown => unknown

def or : Truth → Truth → Truth
  | true, _           => true
  | _, true           => true
  | false, false      => false
  | _, _              => unknown

-- `IF` and `WHERE` act on a condition that is true, neither on a false nor on an unknown one.
def Holds (t : Truth) : Prop :=
  t = true

instance (t : Truth) : Decidable t.Holds :=
  inferInstanceAs (Decidable (t = true))

-- `left = right`
def equal : Option α → Option α → Truth
  | some a, some b => ofBool (a = b)
  | _, _           => unknown

-- `left <> right`
def distinct (left right : Option α) : Truth :=
  not (equal left right)

-- `value IN (list)`
def member (value : Option α) (list : List α) : Truth :=
  match value with
  | none   => unknown
  | some a => ofBool (a ∈ list)

@[simp]
theorem holds_ofBool {b : Bool} : (ofBool b).Holds ↔ b := by
  cases b <;> simp [ofBool, Holds]

@[simp]
theorem holds_or {p q : Truth} : (or p q).Holds ↔ p.Holds ∨ q.Holds := by
  cases p <;> cases q <;> simp [or, Holds]

@[simp]
theorem holds_not_ofBool {b : Bool} : (not (ofBool b)).Holds ↔ b = .false := by
  cases b <;> simp [ofBool, not, Holds]

@[simp]
theorem not_unknown : not unknown = unknown :=
  rfl

@[simp]
theorem not_holds_unknown : ¬unknown.Holds := by
  simp [Holds]

theorem holds_equal {left right : Option α} :
    (equal left right).Holds ↔ ∃ a, left = some a ∧ right = some a := by
  cases left <;> cases right <;> simp [equal, eq_comm]

-- A comparison that holds has compared two values that are not NULL.
theorem holds_distinct {left right : Option α} :
    (distinct left right).Holds ↔ ∃ a b, left = some a ∧ right = some b ∧ a ≠ b := by
  cases left <;> cases right <;> simp [distinct, equal]

theorem holds_member {value : Option α} {list : List α} :
    (member value list).Holds ↔ ∃ a, value = some a ∧ a ∈ list := by
  cases value <;> simp [member]

theorem holds_not_member {value : Option α} {list : List α} :
    (not (member value list)).Holds ↔ ∃ a, value = some a ∧ a ∉ list := by
  cases value <;> simp [member]

end Truth
