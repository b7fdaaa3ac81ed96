import RefundDesk.Worker.Operations

namespace RefundDesk

open Transaction RequestRepository WorkerStore

namespace ExecutionAttemptState

-- An attempt that did not end the execution.
def isOpen : ExecutionAttemptState → Bool
  | started | retryableFailure | ambiguousFailure => true
  | terminalFailure | completed                   => false

-- The revisions of the request that an attempt in this state accounts for once it is over.
def revisions : ExecutionAttemptState → Nat
  | retryableFailure => 2
  | _                => 4

end ExecutionAttemptState

-- The attempts of an execution that can still be tried again.
structure OpenAttempts (attempts : List RefundExecutionAttempt) : Prop where
  numbered : attempts.map (·.attemptNumber) = List.range' 1 attempts.length
  isOpen   : ∀ attempt ∈ attempts, attempt.state.isOpen

def revisions (attempts : List RefundExecutionAttempt) : Nat :=
  (attempts.map (·.state.revisions)).sum

section Attempts

variable {attempts attempts' : List RefundExecutionAttempt} {attempt : RefundExecutionAttempt}
variable {input : FinishExecutionAttemptInput}

@[simp]
theorem revisions_append :
    revisions (attempts ++ attempts') = revisions attempts + revisions attempts' := by
  simp [revisions]

theorem revisions_of_started (h : attempt.state = .started) : revisions [attempt] = 4 := by
  simp [revisions, h, ExecutionAttemptState.revisions]

theorem resolvedRevisionCosts_of_open (h : ∀ attempt ∈ attempts, attempt.state.isOpen) :
    resolvedRevisionCosts attempts = some (revisions attempts) := by
  have hcost : attempts.mapM resolvedRevisionCost = some (attempts.map (·.state.revisions)) := by
    induction attempts with
    | nil => rfl
    | cons attempt attempts ih =>
      have hcost : resolvedRevisionCost attempt = some attempt.state.revisions := by
        have hopen := h attempt (by simp)
        unfold resolvedRevisionCost
        cases hs : attempt.state <;>
          simp_all [ExecutionAttemptState.isOpen, ExecutionAttemptState.revisions]
      simp [List.mapM_cons, hcost, ih fun attempt hm => h attempt (by simp [hm])]
  simp [resolvedRevisionCosts, hcost, revisions]

namespace OpenAttempts

theorem nil : OpenAttempts [] where
  numbered := rfl
  isOpen   := by simp

theorem attemptsAreOpen (h : OpenAttempts attempts) : attemptsAreOpen attempts := by
  simp only [WorkerStore.attemptsAreOpen, List.all_eq_true, decide_eq_true_eq, Prod.forall]
  intro attempt index hm
  have hget := List.mem_zipIdx_iff_getElem?.mp hm
  have hnumber : attempt.attemptNumber = index + 1 := by
    have hmap := congrArg (·[index]?) h.numbered
    obtain ⟨hlt, -⟩ := List.getElem?_eq_some_iff.mp hget
    simp only [List.getElem?_map, hget, Option.map_some, List.getElem?_range' hlt,
      Option.some.injEq] at hmap
    omega
  have hopen := h.isOpen attempt (List.mem_of_getElem? hget)
  refine ⟨hnumber, ?_, ?_⟩ <;> intro hs <;> simp [hs, ExecutionAttemptState.isOpen] at hopen

theorem append (h : OpenAttempts attempts) (hn : attempt.attemptNumber = attempts.length + 1)
    (hs : attempt.state.isOpen) : OpenAttempts (attempts ++ [attempt]) where
  numbered := by
    rw [List.map_append, h.numbered, List.length_append, List.length_singleton,
      List.range'_1_concat]
    simp [hn, add_comm]
  isOpen   := by
    intro attempt' hm
    rcases List.mem_append.mp hm with hm | hm
    · exact h.isOpen attempt' hm
    · obtain rfl := List.mem_singleton.mp hm
      exact hs

-- The attempt that is begun has the next number.
theorem maximumAttemptNumber {execution : RefundExecution} (h : OpenAttempts execution.attempts) :
    maximumAttemptNumber execution = execution.attempts.length := by
  have hmax (n : Nat) : (List.range' 1 n).foldl max 0 = n := by
    induction n with
    | zero => rfl
    | succ n ih => rw [List.range'_1_concat, List.foldl_append, ih]; simp [add_comm]
  rw [RequestRepository.maximumAttemptNumber, h.numbered, hmax]

end OpenAttempts

def isRunning (attemptNumber : Nat) (attempt : RefundExecutionAttempt) : Bool :=
  attempt.attemptNumber = attemptNumber ∧ attempt.state = .started

-- The attempts after the one with the given number, if it is still running, is finished.
def finishedAttempts (input : FinishExecutionAttemptInput)
    (attempts : List RefundExecutionAttempt) : List RefundExecutionAttempt :=
  attempts.map fun attempt =>
    if isRunning input.attemptNumber attempt then finishAttempt input attempt else attempt

theorem OpenAttempts.finished (h : OpenAttempts attempts) (hs : input.state.isOpen) :
    OpenAttempts (finishedAttempts input attempts) where
  numbered := by
    have hnumber : (finishedAttempts input attempts).map (·.attemptNumber) =
        attempts.map (·.attemptNumber) := by
      simp only [finishedAttempts, List.map_map]
      refine List.map_congr_left fun attempt _ => ?_
      simp only [Function.comp]
      split_ifs <;> rfl
    rw [hnumber, h.numbered, finishedAttempts, List.length_map]
  isOpen   := by
    intro attempt hm
    obtain ⟨attempt₀, hm₀, rfl⟩ := List.mem_map.mp hm
    split_ifs
    · exact hs
    · exact h.isOpen attempt₀ hm₀

-- A running attempt counts like one that is over after an ambiguous failure.
theorem revisions_finished :
    revisions (finishedAttempts input attempts) +
        (4 - input.state.revisions) * attempts.countP (isRunning input.attemptNumber) =
      revisions attempts := by
  have hle : input.state.revisions ≤ 4 := by cases input.state <;> decide
  induction attempts with
  | nil => rfl
  | cons attempt attempts ih =>
    simp only [finishedAttempts, revisions, List.map_cons, List.sum_cons, List.countP_cons] at ih ⊢
    split_ifs with hrun
    · have hstarted : attempt.state.revisions = 4 := by
        simp [(of_decide_eq_true hrun).2, ExecutionAttemptState.revisions]
      have hfinished : (finishAttempt input attempt).state = input.state := rfl
      rw [hstarted, hfinished]
      grind
    · grind

theorem commits_finishExecutionAttempt {d d' : RefundRequestDetail} {b : Bool} :
    (finishExecutionAttempt input).Commits d b d' ↔
      d.execution = none ∧ b = false ∧ d' = d ∨
      ∃ execution, d.execution = some execution ∧
        b = decide (execution.attempts.countP (isRunning input.attemptNumber) = 1) ∧
        d' = { d with
          execution := some { execution with
            attempts := finishedAttempts input execution.attempts
          }
        } := by
  simp only [finishExecutionAttempt, commits_bind, commits_get, exists_and_left, exists_eq_left,
    and_assoc]
  cases he : d.execution with
  | none           => simp
  | some execution =>
    simp only [commits_bind, commits_set, commits_pure, reduceCtorEq, false_and, false_or,
      Option.some.injEq, exists_eq_left']
    constructor
    · rintro ⟨_, _, rfl, rfl, rfl⟩
      exact ⟨rfl, rfl⟩
    · rintro ⟨rfl, rfl⟩
      exact ⟨(), _, rfl, rfl, rfl⟩

end Attempts
end RefundDesk
