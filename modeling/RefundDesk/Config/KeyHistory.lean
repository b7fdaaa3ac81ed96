import RefundDesk.Config.KeyRotation

namespace RefundDesk

namespace ApplicationKeys

def Valid (keys : ApplicationKeys) : Prop :=
  applicationKeyMaterialStateIsValid keys.materialState

instance (keys : ApplicationKeys) : Decidable keys.Valid :=
  inferInstanceAs (Decidable (applicationKeyMaterialStateIsValid keys.materialState = true))

-- A version that both have is the same key in both.
def Agrees (previous target : ApplicationKeys) : Prop :=
  ∀ version key key',
    previous.key? version = some key → target.key? version = some key' → key = key'

-- The reader still has, or already has, the key that the writer uses.
def Holds (reader writer : ApplicationKeys) : Prop :=
  reader.key? writer.activeVersion = writer.key? writer.activeVersion

variable {keys previous target : ApplicationKeys}

theorem Valid.v1_isSome (h : keys.Valid) (hstate : keys.rotationState ≠ .retired) :
    ∃ key, keys.v1 = some key := by
  simp only [Valid, applicationKeyMaterialStateIsValid, materialState] at h
  rw [← Option.isSome_iff_exists]
  cases hs : keys.rotationState <;> simp_all

theorem Valid.v2_isSome (h : keys.Valid) (hstate : keys.rotationState ≠ .legacy) :
    ∃ key, keys.v2 = some key := by
  simp only [Valid, applicationKeyMaterialStateIsValid, materialState] at h
  rw [← Option.isSome_iff_exists]
  cases hs : keys.rotationState <;> simp_all

theorem Valid.activeVersion_eq_v2_iff (h : keys.Valid) :
    keys.activeVersion = .v2 ↔ keys.rotationState = .active ∨ keys.rotationState = .retired := by
  simp only [Valid, applicationKeyMaterialStateIsValid, materialState] at h
  cases hs : keys.rotationState <;> cases hversion : keys.activeVersion <;> simp_all

theorem Valid.key?_active (h : keys.Valid) : ∃ key, keys.key? keys.activeVersion = some key := by
  cases hversion : keys.activeVersion with
  | v1 =>
    refine h.v1_isSome fun hstate => ?_
    have hv2 := h.activeVersion_eq_v2_iff.mpr (.inr hstate)
    simp [hversion] at hv2
  | v2 =>
    refine h.v2_isSome fun hstate => ?_
    have hactive := h.activeVersion_eq_v2_iff.mp hversion
    simp [hstate] at hactive

theorem Agrees.v1_eq (h : previous.Agrees target) (hprevious : ∃ key, previous.v1 = some key)
    (htarget : ∃ key, target.v1 = some key) : previous.v1 = target.v1 := by
  obtain ⟨key, hkey⟩ := hprevious
  obtain ⟨key', hkey'⟩ := htarget
  rw [hkey, hkey', h .v1 key key' hkey hkey']

theorem Agrees.v2_eq (h : previous.Agrees target) (hprevious : ∃ key, previous.v2 = some key)
    (htarget : ∃ key, target.v2 = some key) : previous.v2 = target.v2 := by
  obtain ⟨key, hkey⟩ := hprevious
  obtain ⟨key', hkey'⟩ := htarget
  rw [hkey, hkey', h .v2 key key' hkey hkey']

end ApplicationKeys

-- What a family of keys does at a release that the transition check accepts.
structure Rotates (previous : Option ApplicationKeys) (target : ApplicationKeys) : Prop where
  allowed : target.rotationState ∈
    (previous.map (·.rotationState)).elim allowedInitialStates allowedTransitions
  valid   : target.Valid
  agrees  : ∀ keys ∈ previous, keys.Agrees target

theorem Rotates.cases {previous target : ApplicationKeys} (h : Rotates (some previous) target)
    (hretired : previous.rotationState ≠ .retired) :
    (previous.rotationState = .legacy ∨ previous.rotationState = .staged) ∧
      (target.rotationState = .legacy ∨ target.rotationState = .staged) ∨
    previous.rotationState = .staged ∧ target.rotationState = .active ∨
    (previous.rotationState = .active ∨ previous.rotationState = .rollback) ∧
      (target.rotationState = .active ∨ target.rotationState = .rollback) := by
  have hallowed := h.allowed
  simp only [Option.map_some, Option.elim_some] at hallowed
  cases hs : previous.rotationState
  all_goals
    simp only [hs, allowedTransitions, List.mem_cons, List.not_mem_nil, or_false] at hallowed
    grind

-- The keys of a family at the releases so far, the newest ones first.
inductive KeyHistory : List ApplicationKeys → Prop
  | none : KeyHistory []
  | release {target : ApplicationKeys} {history : List ApplicationKeys}
      (earlier : KeyHistory history) (rotates : Rotates history.head? target) :
      KeyHistory (target :: history)

-- The second key is in use from the first release in the active state on, and before it no key but
-- the first one is in use.
structure Retained (target : ApplicationKeys) (history : List ApplicationKeys) : Prop where
  valid     : target.Valid
  retired   : target.rotationState ≠ .retired
  v1        : ∀ keys ∈ history, keys.v1 = target.v1
  unused    : target.rotationState = .legacy ∨ target.rotationState = .staged →
    ∀ keys ∈ history, keys.activeVersion = .v1
  v2        : target.rotationState = .active ∨ target.rotationState = .rollback →
    ∀ keys ∈ history, keys.activeVersion = .v2 → keys.v2 = target.v2

namespace Retained

variable {previous target : ApplicationKeys} {history : List ApplicationKeys}

theorem first (h : Rotates none target) : Retained target [] where
  valid   := h.valid
  retired := by
    intro hstate
    have hallowed := h.allowed
    simp [hstate, allowedInitialStates] at hallowed
  v1      := by simp
  unused  := by simp
  v2      := by simp

theorem activeVersion_eq_v1 (h : target.Valid)
    (hstate : target.rotationState = .legacy ∨ target.rotationState = .staged ∨
      target.rotationState = .rollback) : target.activeVersion = .v1 := by
  cases hversion : target.activeVersion with
  | v1 => rfl
  | v2 =>
    have hactive := h.activeVersion_eq_v2_iff.mp hversion
    grind

theorem next (h : Retained previous history) (hrotates : Rotates (some previous) target) :
    Retained target (previous :: history) := by
  have hcases := hrotates.cases h.retired
  have hagrees := hrotates.agrees previous rfl
  have hretired : target.rotationState ≠ .retired := by grind
  have hv1 := hagrees.v1_eq (h.valid.v1_isSome h.retired) (hrotates.valid.v1_isSome hretired)
  refine ⟨hrotates.valid, hretired, ?v1, ?unused, ?v2⟩
  case v1 =>
    intro keys hkeys
    rcases List.mem_cons.mp hkeys with rfl | hkeys
    · exact hv1
    · exact (h.v1 keys hkeys).trans hv1
  case unused =>
    intro hstate keys hkeys
    have hbefore : previous.rotationState = .legacy ∨ previous.rotationState = .staged := by grind
    rcases List.mem_cons.mp hkeys with rfl | hkeys
    · exact activeVersion_eq_v1 h.valid (by tauto)
    · exact h.unused hbefore keys hkeys
  case v2 =>
    intro hstate keys hkeys hversion
    have hv2 := hagrees.v2_eq (h.valid.v2_isSome (by grind)) (hrotates.valid.v2_isSome (by grind))
    rcases List.mem_cons.mp hkeys with rfl | hkeys
    · exact hv2
    rcases hcases with ⟨-, hlegacy⟩ | ⟨hstaged, -⟩ | ⟨hused, -⟩
    · grind
    · have hunused := h.unused (.inr hstaged) keys hkeys
      rw [hunused] at hversion
      exact absurd hversion (by decide)
    · exact (h.v2 hused keys hkeys hversion).trans hv2

theorem holds (h : Retained target history) {keys : ApplicationKeys} (hkeys : keys ∈ history) :
    target.Holds keys := by
  cases hversion : keys.activeVersion with
  | v1 =>
    simp only [ApplicationKeys.Holds, hversion, ApplicationKeys.key?]
    exact (h.v1 keys hkeys).symm
  | v2 =>
    have hused : target.rotationState = .active ∨ target.rotationState = .rollback := by
      have hunused := h.unused
      have hretired := h.retired
      cases hs : target.rotationState <;> grind
    simp only [ApplicationKeys.Holds, hversion, ApplicationKeys.key?]
    exact (h.v2 hused keys hkeys hversion).symm

-- A release before which the second key was not in use has it staged.
theorem previous_holds (h : Retained previous history) (hrotates : Rotates (some previous) target) :
    previous.Holds target := by
  have hnext := h.next hrotates
  cases hversion : target.activeVersion with
  | v1 =>
    simp only [ApplicationKeys.Holds, hversion, ApplicationKeys.key?]
    exact hnext.v1 previous (List.mem_cons_self ..)
  | v2 =>
    have hstate : target.rotationState = .active := by
      have hactive := hrotates.valid.activeVersion_eq_v2_iff.mp hversion
      have hretired := hnext.retired
      tauto
    have hlegacy : previous.rotationState ≠ .legacy := by
      have hcases := hrotates.cases h.retired
      grind
    simp only [ApplicationKeys.Holds, hversion, ApplicationKeys.key?]
    exact (hrotates.agrees previous rfl).v2_eq (h.valid.v2_isSome hlegacy)
      (hrotates.valid.v2_isSome (by simp [hstate]))

end Retained

namespace KeyHistory

variable {target : ApplicationKeys} {history : List ApplicationKeys}

theorem retained (h : KeyHistory (target :: history)) : Retained target history := by
  induction history generalizing target with
  | nil =>
    cases h with
    | release earlier rotates => exact .first rotates
  | cons previous history ih =>
    cases h with
    | release earlier rotates => exact (ih earlier).next rotates

theorem valid (h : KeyHistory history) : ∀ keys ∈ history, keys.Valid := by
  induction h with
  | none => simp
  | release earlier rotates ih => exact List.forall_mem_cons.mpr ⟨rotates.valid, ih⟩

theorem later_holds (h : KeyHistory history) :
    history.Pairwise fun reader writer => reader.Holds writer := by
  induction h with
  | none => exact .nil
  | release earlier rotates ih =>
    exact .cons (fun keys hkeys => (earlier.release rotates).retained.holds hkeys) ih

theorem previous_holds (h : KeyHistory history) :
    history.IsChain fun writer reader => reader.Holds writer := by
  induction h with
  | none => exact .nil
  | @release target history earlier rotates ih =>
    cases history with
    | nil => exact .singleton _
    | cons previous history => exact .cons_cons (earlier.retained.previous_holds rotates) ih

-- The reader is the writer itself, one of the releases after it or the one just before it.
theorem holds (h : KeyHistory history) {i j : Nat} {reader writer : ApplicationKeys}
    (hwriter : history[i]? = some writer) (hreader : history[j]? = some reader)
    (hij : j ≤ i ∨ j = i + 1) : reader.Holds writer := by
  obtain ⟨hi, rfl⟩ := List.getElem?_eq_some_iff.mp hwriter
  obtain ⟨hj, rfl⟩ := List.getElem?_eq_some_iff.mp hreader
  rcases hij with hij | rfl
  · rcases Nat.lt_or_eq_of_le hij with hij | rfl
    · exact List.pairwise_iff_getElem.mp h.later_holds j i hj hi hij
    · rfl
  · exact List.isChain_iff_getElem.mp h.previous_holds i hj

end KeyHistory
end RefundDesk
