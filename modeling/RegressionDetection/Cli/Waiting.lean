import Mathlib.Data.Rat.Floor
import RegressionDetection.Cli.Commands

/-! `mrds wait` in time: how often it polls at most, and what its exit code is about. -/

namespace RegressionDetection.Cli

open Foundation Policy Api

/-- The options of `wait` as the command line accepts them. -/
structure WaitOptions where
  timeoutSeconds : ℚ := 300
  pollInterval : ℚ := 2
  timeoutBounded : 1 ≤ timeoutSeconds ∧ timeoutSeconds ≤ 3600
  intervalBounded : 1 / 10 ≤ pollInterval ∧ pollInterval ≤ 60

/-- One turn of the loop: what the request gives and how long it takes, and how long the loop sleeps
if it goes on, which is at least as long as it asks for. -/
structure WaitTurn (options : WaitOptions) where
  answer : Answer RunStatusResponse
  requested : ℚ
  slept : ℚ
  forward : 0 ≤ requested
  rested : options.pollInterval ≤ slept

def WaitTurn.took {options : WaitOptions} (turn : WaitTurn options) : ℚ := turn.requested + turn.slept

section Loop

variable (options : WaitOptions)

/-- The loop's turns as the clock has them, from a reading on: has the deadline passed at its check? -/
def timed : ℚ → List (WaitTurn options) → List (Bool × Answer RunStatusResponse)
  | _, [] => []
  | clock, turn :: rest =>
    (decide (options.timeoutSeconds ≤ clock), turn.answer) :: timed (clock + turn.took) rest

variable {options}

theorem WaitTurn.took_ge (turn : WaitTurn options) : options.pollInterval ≤ turn.took :=
  le_add_of_nonneg_of_le turn.forward turn.rested

theorem gateExitCode_ne_timeout (gateOutcome : Option String) : gateExitCode gateOutcome ≠ exitTimeout := by
  unfold gateExitCode
  split
  · decide
  · split <;> decide

theorem waitPoll_ne_timeout {answer : Answer RunStatusResponse} {code : Nat}
    (exits : waitPoll answer = some code) : code ≠ exitTimeout := by
  cases answer with
  | payload body =>
    simp only [waitPoll] at exits
    split at exits
    · exact Option.some.inj exits ▸ gateExitCode_ne_timeout _
    · cases exits
  | httpStatus _ => exact Option.some.inj exits ▸ (by decide : exitError ≠ exitTimeout)
  | timeout => cases exits
  | failure => exact Option.some.inj exits ▸ (by decide : exitError ≠ exitTimeout)

/-- How `wait` ends: at a turn before which it went on, with the deadline or with the turn's answer. -/
def WaitEnds (clock : ℚ) (turns : List (WaitTurn options)) (code : Nat) : Prop :=
  ∃ earlier last later, turns = earlier ++ last :: later ∧
    (∀ turn ∈ earlier, waitPoll turn.answer = none) ∧
    (options.timeoutSeconds ≤ clock + (earlier.map WaitTurn.took).sum ∧ code = exitTimeout ∨
      clock + (earlier.map WaitTurn.took).sum < options.timeoutSeconds ∧
        waitPoll last.answer = some code ∧ code ≠ exitTimeout)

/-- While there is time left for no more than the turns to come, one of them ends the loop. -/
theorem timed_ends (clock : ℚ) (turn : WaitTurn options) (rest : List (WaitTurn options))
    (enough : options.timeoutSeconds ≤ clock + rest.length * options.pollInterval) :
    ∃ code, wait (timed options clock (turn :: rest)) = some code ∧
      WaitEnds clock (turn :: rest) code := by
  induction rest generalizing clock turn with
  | nil =>
    have late : options.timeoutSeconds ≤ clock := by simpa using enough
    refine ⟨exitTimeout, by simp [timed, wait, late], [], turn, [], rfl, by simp, .inl ⟨?_, rfl⟩⟩
    simpa using late
  | cons next rest ih =>
    unfold timed wait
    by_cases late : options.timeoutSeconds ≤ clock
    · refine ⟨exitTimeout, by simp [late], [], turn, _, rfl, by simp, .inl ⟨by simpa using late, rfl⟩⟩
    · rw [if_neg (by simpa using late)]
      cases polled : waitPoll turn.answer with
      | some code =>
        exact ⟨code, rfl, [], turn, _, rfl, by simp,
          .inr ⟨by simpa using late, polled, waitPoll_ne_timeout polled⟩⟩
      | none =>
        have left : options.timeoutSeconds ≤ clock + turn.took + rest.length * options.pollInterval := by
          have step := turn.took_ge
          rw [List.length_cons, Nat.cast_succ, add_one_mul] at enough
          linarith
        obtain ⟨code, ended, earlier, last, later, split, went, ends⟩ := ih (clock + turn.took) next left
        refine ⟨code, ended, turn :: earlier, last, later, by rw [split, List.cons_append],
          List.forall_mem_cons.mpr ⟨polled, went⟩, ?_⟩
        rwa [List.map_cons, List.sum_cons, ← add_assoc]

end Loop

/-- One interval fits into the timeout. -/
def hastyOptions : WaitOptions where
  timeoutSeconds := 2
  pollInterval := 2
  timeoutBounded := by norm_num
  intervalBounded := by norm_num

/-- A request that is never answered, and a turn after it. -/
def silentTurns : List (WaitTurn hastyOptions) :=
  [{ answer := .timeout, requested := 10, slept := 9 / 4
     forward := by norm_num, rested := by norm_num [hastyOptions] },
    { answer := .failure, requested := 1 / 3, slept := 7 / 3
      forward := by norm_num, rested := by norm_num [hastyOptions] }]

end RegressionDetection.Cli
