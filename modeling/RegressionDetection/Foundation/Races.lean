import Mathlib.Data.List.Count
import Mathlib.Data.List.Induction
import Mathlib.Logic.Function.Basic
import RegressionDetection.Foundation.Run

/-! Two concurrent calls that look a key up and insert a row under it when it is missing.
An uncommitted insert is invisible to lookups and makes another write of the key wait. -/

namespace RegressionDetection.Foundation

variable {State Reply Error : Type}

/-- What a lookup leads to: the end of the call, or a write of the key. -/
inductive Plan (State Reply Error : Type) where
  | reply (outcome : Except Error Reply)
  | write (statement : State → Except Error (Reply × State))

/-- A call by its statements: those before its lookup, which can end it, the lookup, and what
it does once its write has been refused and rolled back. -/
structure RaceCall (State Reply Error : Type) where
  opening : State → Option (Except Error Reply)
  lookup : State → Plan State Reply Error
  recover : Error → State → Except Error Reply

/-- Where a call and its transaction stand. -/
inductive RacePhase (State Reply Error : Type) where
  | opening
  | looking
  | writing (statement : State → Except Error (Reply × State))
  /-- The write has gone through; its commit is due. -/
  | committing (statement : State → Except Error (Reply × State))
  /-- The write has been refused. -/
  | refused (error : Error)
  | finished (outcome : Except Error Reply)

/-- The committed state, the two calls, and the call whose write is not committed yet. -/
structure Race (State Reply Error : Type) where
  state : State
  phases : Bool → RacePhase State Reply Error
  writer : Option Bool

namespace Race

def start (state : State) : Race State Reply Error :=
  { state, phases := fun _ => .opening, writer := none }

def enter (race : Race State Reply Error) (index : Bool) (phase : RacePhase State Reply Error) :
    Race State Reply Error :=
  { race with phases := Function.update race.phases index phase }

/-- The next statement of one call. -/
def step (calls : Bool → RaceCall State Reply Error) (race : Race State Reply Error) (index : Bool) :
    Race State Reply Error :=
  match race.phases index with
  | .opening =>
    match (calls index).opening race.state with
    | some outcome => race.enter index (.finished outcome)
    | none => race.enter index .looking
  | .looking =>
    match (calls index).lookup race.state with
    | .reply outcome => race.enter index (.finished outcome)
    | .write statement => race.enter index (.writing statement)
  | .writing statement =>
    -- The write waits for the end of the other transaction, then fails or goes through.
    if race.writer.isSome then race
    else
      match statement race.state with
      | .ok _ => { race.enter index (.committing statement) with writer := some index }
      | .error error => race.enter index (.refused error)
  | .committing statement =>
    match statement race.state with
    | .ok (reply, next) =>
      { race.enter index (.finished (.ok reply)) with state := next, writer := none }
    | .error error => { race.enter index (.finished (.error error)) with writer := none }
  | .refused error => race.enter index (.finished ((calls index).recover error race.state))
  | .finished _ => race

/-- Both calls have ended. -/
def Over (race : Race State Reply Error) : Prop :=
  ∀ index, ∃ outcome, race.phases index = .finished outcome

@[simp] theorem enter_self (race : Race State Reply Error) (index : Bool)
    (phase : RacePhase State Reply Error) : (race.enter index phase).phases index = phase := by
  simp [enter]

@[simp] theorem enter_other (race : Race State Reply Error) (index : Bool)
    (phase : RacePhase State Reply Error) :
    (race.enter index phase).phases (!index) = race.phases (!index) := by
  cases index <;> simp [enter]

@[simp] theorem enter_state (race : Race State Reply Error) (index : Bool)
    (phase : RacePhase State Reply Error) : (race.enter index phase).state = race.state := rfl

@[simp] theorem enter_writer (race : Race State Reply Error) (index : Bool)
    (phase : RacePhase State Reply Error) : (race.enter index phase).writer = race.writer := rfl

end Race

/-- The call by itself: how it ends and the state it leaves. -/
def RaceCall.attempt (call : RaceCall State Reply Error) (state : State) :
    Except Error Reply × State :=
  match call.opening state with
  | some outcome => (outcome, state)
  | none =>
    match call.lookup state with
    | .reply outcome => (outcome, state)
    | .write statement =>
      match statement state with
      | .ok (reply, next) => (.ok reply, next)
      | .error error => (call.recover error state, state)

/-- What holds of one call and of the other one holds of both. -/
theorem both_calls {holds : Bool → Prop} {index : Bool} (own : holds index) (other : holds (!index)) :
    ∀ call, holds call := by
  intro call
  by_cases self : call = index
  · exact self ▸ own
  · exact Bool.eq_not.mpr self ▸ other

section Steps

variable {calls : Bool → RaceCall State Reply Error} {race : Race State Reply Error} {index : Bool}
  {statement : State → Except Error (Reply × State)} {reply : Reply} {next : State} {error : Error}
  {outcome : Except Error Reply}

theorem Race.step_ending (phase : race.phases index = .opening)
    (ends : (calls index).opening race.state = some outcome) :
    race.step calls index = race.enter index (.finished outcome) := by
  simp [Race.step, phase, ends]

theorem Race.step_opening (phase : race.phases index = .opening)
    (opens : (calls index).opening race.state = none) :
    race.step calls index = race.enter index .looking := by
  simp [Race.step, phase, opens]

theorem Race.step_looking (phase : race.phases index = .looking)
    (planned : (calls index).lookup race.state = .write statement) :
    race.step calls index = race.enter index (.writing statement) := by
  simp [Race.step, phase, planned]

theorem Race.step_replying (phase : race.phases index = .looking)
    (planned : (calls index).lookup race.state = .reply outcome) :
    race.step calls index = race.enter index (.finished outcome) := by
  simp [Race.step, phase, planned]

theorem Race.step_waiting {holder : Bool} (phase : race.phases index = .writing statement)
    (waits : race.writer = some holder) : race.step calls index = race := by
  simp [Race.step, phase, waits]

theorem Race.step_writing (phase : race.phases index = .writing statement)
    (free : race.writer = none) (succeeds : statement race.state = .ok (reply, next)) :
    race.step calls index =
      { race.enter index (.committing statement) with writer := some index } := by
  simp [Race.step, phase, free, succeeds]

theorem Race.step_denied (phase : race.phases index = .writing statement)
    (free : race.writer = none) (fails : statement race.state = .error error) :
    race.step calls index = race.enter index (.refused error) := by
  simp [Race.step, phase, free, fails]

theorem Race.step_committing (phase : race.phases index = .committing statement)
    (succeeds : statement race.state = .ok (reply, next)) :
    race.step calls index =
      { race.enter index (.finished (.ok reply)) with state := next, writer := none } := by
  simp [Race.step, phase, succeeds]

theorem Race.step_refused (phase : race.phases index = .refused error) :
    race.step calls index =
      race.enter index (.finished ((calls index).recover error race.state)) := by
  simp [Race.step, phase]

theorem Race.step_finished (phase : race.phases index = .finished outcome) :
    race.step calls index = race := by
  simp [Race.step, phase]

end Steps

section Attempts

variable {call : RaceCall State Reply Error} {state next : State} {outcome : Except Error Reply}
  {statement : State → Except Error (Reply × State)} {reply : Reply} {error : Error}

theorem RaceCall.attempt_ended (ends : call.opening state = some outcome) :
    call.attempt state = (outcome, state) := by
  simp [RaceCall.attempt, ends]

theorem RaceCall.attempt_reply (opens : call.opening state = none)
    (planned : call.lookup state = .reply outcome) : call.attempt state = (outcome, state) := by
  simp [RaceCall.attempt, opens, planned]

theorem RaceCall.attempt_write (opens : call.opening state = none)
    (planned : call.lookup state = .write statement) (succeeds : statement state = .ok (reply, next)) :
    call.attempt state = (.ok reply, next) := by
  simp [RaceCall.attempt, opens, planned, succeeds]

theorem RaceCall.attempt_refused (opens : call.opening state = none)
    (planned : call.lookup state = .write statement) (fails : statement state = .error error) :
    call.attempt state = (call.recover error state, state) := by
  simp [RaceCall.attempt, opens, planned, fails]

end Attempts

/-- The stages of a call that runs by itself, with the state and whether its write is open. -/
inductive Solo (call : RaceCall State Reply Error) (state : State) :
    RacePhase State Reply Error → State → Bool → Prop where
  | opening : Solo call state .opening state false
  | looking (opens : call.opening state = none) : Solo call state .looking state false
  | writing {statement} (opens : call.opening state = none)
      (planned : call.lookup state = .write statement) : Solo call state (.writing statement) state false
  | committing {statement reply next} (opens : call.opening state = none)
      (planned : call.lookup state = .write statement)
      (succeeds : statement state = .ok (reply, next)) :
      Solo call state (.committing statement) state true
  | refused {statement error} (opens : call.opening state = none)
      (planned : call.lookup state = .write statement) (fails : statement state = .error error) :
      Solo call state (.refused error) state false
  | finished : Solo call state (.finished (call.attempt state).1) (call.attempt state).2 false

section Solos

variable {calls : Bool → RaceCall State Reply Error} {race : Race State Reply Error} {index : Bool}
  {state : State}

theorem Solo.ended {call : RaceCall State Reply Error} {outcome : Except Error Reply} {next : State}
    (ends : call.attempt state = (outcome, next)) : Solo call state (.finished outcome) next false := by
  have last : Solo call state (.finished (call.attempt state).1) (call.attempt state).2 false := .finished
  rwa [ends] at last

theorem Solo.outcome {call : RaceCall State Reply Error} {outcome : Except Error Reply} {now : State}
    {wrote : Bool} (solo : Solo call state (.finished outcome) now wrote) :
    outcome = (call.attempt state).1 ∧ now = (call.attempt state).2 := by
  cases solo
  exact ⟨rfl, rfl⟩

/-- The next step of a call that runs by itself; the other call stays where it is. -/
theorem Solo.step {wrote : Bool} (solo : Solo (calls index) state (race.phases index) race.state wrote)
    (writer : race.writer = if wrote then some index else none) :
    ∃ wrote, Solo (calls index) state ((race.step calls index).phases index)
        (race.step calls index).state wrote ∧
      (race.step calls index).writer = (if wrote then some index else none) ∧
      (race.step calls index).phases (!index) = race.phases (!index) := by
  have still (phase : RacePhase State Reply Error) := race.enter_other index phase
  generalize phase : race.phases index = current at solo
  generalize before : race.state = now at solo
  cases solo with
  | opening =>
    cases opens : (calls index).opening state with
    | some outcome =>
      rw [Race.step_ending phase (before ▸ opens)]
      exact ⟨false, by simpa [before] using Solo.ended (RaceCall.attempt_ended opens), writer, still _⟩
    | none =>
      rw [Race.step_opening phase (before ▸ opens)]
      exact ⟨false, by simpa [before] using .looking opens, writer, still _⟩
  | looking opens =>
    cases planned : (calls index).lookup state with
    | reply outcome =>
      have ended := Solo.ended (RaceCall.attempt_reply opens planned)
      rw [Race.step_replying phase (before ▸ planned)]
      exact ⟨false, by simpa [before] using ended, writer, still _⟩
    | write statement =>
      rw [Race.step_looking phase (before ▸ planned)]
      exact ⟨false, by simpa [before] using .writing opens planned, writer, still _⟩
  | @writing statement opens planned =>
    have free : race.writer = none := writer
    cases outcome : statement state with
    | ok result =>
      rw [Race.step_writing phase free (before ▸ outcome)]
      exact ⟨true, by simpa [before] using .committing opens planned outcome, rfl, still _⟩
    | error error =>
      rw [Race.step_denied phase free (before ▸ outcome)]
      exact ⟨false, by simpa [before] using .refused opens planned outcome, writer, still _⟩
  | @committing statement reply next opens planned succeeds =>
    have ended := Solo.ended (RaceCall.attempt_write opens planned succeeds)
    rw [Race.step_committing phase (before ▸ succeeds)]
    exact ⟨false, by simpa using ended, rfl, still _⟩
  | @refused statement error opens planned fails =>
    have ended := Solo.ended (RaceCall.attempt_refused opens planned fails)
    rw [Race.step_refused phase]
    exact ⟨false, by simpa [before] using ended, writer, still _⟩
  | finished =>
    rw [Race.step_finished phase, phase, before]
    exact ⟨false, .finished, writer, rfl⟩

end Solos

/-- One call commits, with its fourth statement at the earliest, before the other takes its
second one, the lookup. -/
def Apart (schedule : List Bool) : Prop :=
  ∃ first done, done <+: schedule ∧ 4 ≤ done.count first ∧ done.count (!first) < 2

/-- Each call by itself would insert a row that makes the other's insert fail. -/
structure Contest (calls : Bool → RaceCall State Reply Error) (start : State)
    (statement : Bool → State → Except Error (Reply × State)) (reply : Bool → Reply)
    (after : Bool → State) (violation : Error) : Prop where
  opens : ∀ index, (calls index).opening start = none
  opensLate : ∀ index, (calls (!index)).opening (after index) = none
  absent : ∀ index, (calls index).lookup start = .write (statement index)
  inserts : ∀ index, statement index start = .ok (reply index, after index)
  collides : ∀ index, statement (!index) (after index) = .error violation

section Orders

variable {schedule : List Bool} {index : Bool}

theorem Apart.append (apart : Apart schedule) (index : Bool) : Apart (schedule ++ [index]) := by
  obtain ⟨first, done, before, enough, few⟩ := apart
  exact ⟨first, done, before.trans (List.prefix_append schedule [index]), enough, few⟩

theorem not_apart_append (together : ¬ Apart schedule)
    (last : ∀ first, (schedule ++ [index]).count (!first) < 2 → (schedule ++ [index]).count first < 4) :
    ¬ Apart (schedule ++ [index]) := by
  rintro ⟨first, done, before, enough, few⟩
  rcases List.prefix_concat_iff.mp before with rfl | earlier
  · exact absurd (last first few) (Nat.not_lt.mpr enough)
  · exact together ⟨first, done, earlier, enough, few⟩

theorem count_append_self (schedule : List Bool) (index : Bool) :
    (schedule ++ [index]).count index = schedule.count index + 1 := by
  simp

theorem count_append_other (schedule : List Bool) (index : Bool) :
    (schedule ++ [index]).count (!index) = schedule.count (!index) := by
  cases index <;> simp

end Orders

section Contests

variable (calls : Bool → RaceCall State Reply Error) (start : State)
  (statement : Bool → State → Except Error (Reply × State)) (reply : Bool → Reply)
  (after : Bool → State) (violation : Error)

/-- Where an uncommitted call stands, by the number of its turns; a turn is in vain only
while the other's write is open. -/
def Stage (schedule : List Bool) (race : Race State Reply Error) (index : Bool) : Prop :=
  match race.phases index with
  | .opening => schedule.count index = 0
  | .looking => schedule.count index = 1
  | .writing own =>
    own = statement index ∧ 2 ≤ schedule.count index ∧ race.writer ≠ some index ∧
      (schedule.count (!index) < 2 → schedule.count index = 2)
  | .committing own =>
    own = statement index ∧ 3 ≤ schedule.count index ∧ race.writer = some index ∧
      (schedule.count (!index) < 2 → schedule.count index = 3)
  | .refused _ | .finished _ => False

/-- What holds of a contest after the turns of a schedule. -/
inductive ContestSound (schedule : List Bool) (race : Race State Reply Error) : Prop where
  /-- Nobody has committed. -/
  | uncommitted (state : race.state = start) (together : ¬ Apart schedule)
      (stages : ∀ index, Stage statement schedule race index)
      (writes : ∀ index, race.writer = some index → ∃ own, race.phases index = .committing own)
  /-- One call has committed, and the other looks the key up after that. -/
  | apart (winner wrote : Bool) (won : race.phases winner = .finished (.ok (reply winner)))
      (late : Solo (calls (!winner)) (after winner) (race.phases (!winner)) race.state wrote)
      (writer : race.writer = if wrote then some (!winner) else none) (apart : Apart schedule)
  /-- One call has committed, and the other had looked the key up before that. -/
  | together (winner : Bool) (won : race.phases winner = .finished (.ok (reply winner)))
      (state : race.state = after winner) (free : race.writer = none)
      (beaten : race.phases (!winner) = .writing (statement (!winner)) ∨
        race.phases (!winner) = .refused violation ∨
        race.phases (!winner) = .finished ((calls (!winner)).recover violation (after winner)))
      (turns : ∀ index, 2 ≤ schedule.count index) (together : ¬ Apart schedule)

variable {calls start statement reply after violation} {schedule : List Bool}
  {race : Race State Reply Error}

theorem contestSound_start :
    ContestSound calls start statement reply after violation [] (Race.start start) := by
  refine .uncommitted rfl ?_ (fun _ => rfl) (fun _ impossible => by cases impossible)
  rintro ⟨first, done, before, enough, _⟩
  obtain rfl := List.prefix_nil.mp before
  cases enough

/-- A call that has looked the key up has had two turns. -/
theorem Stage.bounded {index : Bool} (stage : Stage statement schedule race index) :
    schedule.count (!index) < 2 → schedule.count index < 4 := by
  unfold Stage at stage
  intro few
  split at stage
  · omega
  · omega
  · obtain ⟨_, _, _, exact⟩ := stage
    have := exact few
    omega
  · obtain ⟨_, _, _, exact⟩ := stage
    have := exact few
    omega
  · cases stage
  · cases stage

/-- A turn of one call leaves the stage of the other, unless it commits. -/
theorem Stage.other {index : Bool} {next : Race State Reply Error}
    (stage : Stage statement schedule race (!index))
    (same : next.phases (!index) = race.phases (!index))
    (writer : next.writer = race.writer ∨ race.writer = none ∧ next.writer = some index) :
    Stage statement (schedule ++ [index]) next (!index) := by
  have more := count_append_self schedule index
  unfold Stage at stage ⊢
  rw [same, count_append_other]
  rw [Bool.not_not] at stage ⊢
  cases phase : race.phases (!index) with
  | opening | looking =>
    rw [phase] at stage
    exact stage
  | refused | finished => simp [phase] at stage
  | writing own =>
    rw [phase] at stage
    obtain ⟨statement, turns, closed, exact⟩ := stage
    refine ⟨statement, turns, ?_, fun few => exact (by omega)⟩
    rcases writer with kept | ⟨_, taken⟩
    · rwa [kept]
    · rw [taken]
      cases index <;> simp
  | committing own =>
    rw [phase] at stage
    obtain ⟨statement, turns, open', exact⟩ := stage
    refine ⟨statement, turns, ?_, fun few => exact (by omega)⟩
    rcases writer with kept | ⟨free, _⟩
    · rwa [kept]
    · cases open'.symm.trans free

/-- A turn that commits nothing. -/
theorem ContestSound.moved {index : Bool} {next : Race State Reply Error}
    (state : race.state = start) (together : ¬ Apart schedule)
    (stages : ∀ index, Stage statement schedule race index) (unchanged : next.state = race.state)
    (own : Stage statement (schedule ++ [index]) next index)
    (same : next.phases (!index) = race.phases (!index))
    (writer : next.writer = race.writer ∨ race.writer = none ∧ next.writer = some index)
    (writes : ∀ index, next.writer = some index → ∃ own, next.phases index = .committing own) :
    ContestSound calls start statement reply after violation (schedule ++ [index]) next := by
  have after : ∀ other, Stage statement (schedule ++ [index]) next other :=
    both_calls own ((stages _).other same writer)
  exact .uncommitted (unchanged.trans state)
    (not_apart_append together fun first => (after first).bounded) after writes

/-- The first commit settles whether the calls have met. -/
theorem ContestSound.commits (contest : Contest calls start statement reply after violation)
    {index : Bool} {next : Race State Reply Error} (together : ¬ Apart schedule)
    (stages : ∀ index, Stage statement schedule race index)
    (won : next.phases index = .finished (.ok (reply index))) (state : next.state = after index)
    (free : next.writer = none) (same : next.phases (!index) = race.phases (!index))
    (writer : race.writer = some index) (turns : 3 ≤ schedule.count index) :
    ContestSound calls start statement reply after violation (schedule ++ [index]) next := by
  have more := count_append_self schedule index
  have others := count_append_other schedule index
  have loser := stages (!index)
  have late (few : schedule.count (!index) < 2)
      (solo : Solo (calls (!index)) (after index) (race.phases (!index)) (after index) false) :
      ContestSound calls start statement reply after violation (schedule ++ [index]) next :=
    .apart index false won (by rwa [same, state]) free
      ⟨index, _, List.prefix_rfl, by omega, by omega⟩
  unfold Stage at loser
  cases phase : race.phases (!index) with
  | opening =>
    rw [phase] at loser
    exact late (by simp only at loser; omega) (phase ▸ .opening)
  | looking =>
    rw [phase] at loser
    exact late (by simp only at loser; omega) (phase ▸ .looking (contest.opensLate index))
  | writing own =>
    rw [phase] at loser
    obtain ⟨rfl, looked, _⟩ := loser
    have own : 2 ≤ (schedule ++ [index]).count index := by omega
    have other : 2 ≤ (schedule ++ [index]).count (!index) := by omega
    have both : ∀ other, 2 ≤ (schedule ++ [index]).count other := both_calls own other
    exact .together index won state free (.inl (same.trans phase)) both
      (not_apart_append together fun first few => absurd few (Nat.not_lt.mpr (both _)))
  | committing own =>
    rw [phase] at loser
    obtain ⟨_, _, open', _⟩ := loser
    rw [writer] at open'
    cases index <;> cases open'
  | refused | finished => simp [phase] at loser

/-- The open write stays that of a committing call when another one moves. -/
theorem enter_writes {index : Bool} (next : RacePhase State Reply Error)
    (writes : ∀ index, race.writer = some index → ∃ own, race.phases index = .committing own)
    (moving : ∀ own, race.phases index ≠ .committing own) :
    ∀ other, (race.enter index next).writer = some other →
      ∃ own, (race.enter index next).phases other = .committing own := by
  intro other held
  obtain ⟨own, phase⟩ := writes other held
  have apart : other ≠ index := by
    rintro rfl
    exact moving own phase
  obtain rfl := Bool.eq_not.mpr apart
  exact ⟨own, (race.enter_other index next).trans phase⟩

/-- A turn before the first commit. -/
theorem ContestSound.before (contest : Contest calls start statement reply after violation)
    (state : race.state = start) (together : ¬ Apart schedule)
    (stages : ∀ index, Stage statement schedule race index)
    (writes : ∀ index, race.writer = some index → ∃ own, race.phases index = .committing own)
    (index : Bool) :
    ContestSound calls start statement reply after violation (schedule ++ [index])
      (race.step calls index) := by
  have more := count_append_self schedule index
  have others := count_append_other schedule index
  have stage := stages index
  unfold Stage at stage
  cases phase : race.phases index with
  | opening =>
    rw [phase] at stage
    rw [Race.step_opening phase (state ▸ contest.opens index)]
    refine .moved state together stages rfl ?_ (race.enter_other index _) (.inl rfl)
      (enter_writes _ writes (by simp [phase]))
    simp only [Stage, Race.enter_self]
    omega
  | looking =>
    rw [phase] at stage
    have closed : race.writer ≠ some index := by
      intro held
      obtain ⟨own, committing⟩ := writes index held
      cases committing.symm.trans phase
    rw [Race.step_looking phase (state ▸ contest.absent index)]
    refine .moved state together stages rfl ?_ (race.enter_other index _) (.inl rfl)
      (enter_writes _ writes (by simp [phase]))
    simp only [Stage, Race.enter_self, Race.enter_writer]
    exact ⟨trivial, by omega, closed, fun _ => by omega⟩
  | writing own =>
    rw [phase] at stage
    obtain ⟨rfl, turns, closed, exact⟩ := stage
    cases waits : race.writer with
    | some holder =>
      obtain rfl : holder = !index :=
        Bool.eq_not.mpr fun same => closed (waits.trans (congrArg some same))
      have held := stages (!index)
      obtain ⟨own, committing⟩ := writes (!index) waits
      unfold Stage at held
      rw [committing] at held
      rw [Race.step_waiting phase waits]
      refine .moved state together stages rfl ?_ rfl (.inl rfl) writes
      simp only [Stage, phase]
      exact ⟨trivial, by omega, closed, fun few => by have := held.2.1; omega⟩
    | none =>
      rw [Race.step_writing phase waits (state ▸ contest.inserts index)]
      refine .moved state together stages rfl ?_ (race.enter_other index _) (.inr ⟨waits, rfl⟩) ?_
      · simp only [Stage, Race.enter_self]
        exact ⟨trivial, by omega, trivial, fun few => by have := exact (by omega); omega⟩
      · rintro other ⟨⟩
        exact ⟨_, race.enter_self index _⟩
  | committing own =>
    rw [phase] at stage
    obtain ⟨rfl, turns, writer, _⟩ := stage
    rw [Race.step_committing phase (state ▸ contest.inserts index)]
    exact .commits contest together stages (race.enter_self index _) rfl rfl
      (race.enter_other index _) writer turns
  | refused | finished => simp [phase] at stage

/-- A turn of the call that has met the winner. -/
theorem ContestSound.beaten (contest : Contest calls start statement reply after violation)
    {winner : Bool} (won : race.phases winner = .finished (.ok (reply winner)))
    (state : race.state = after winner) (free : race.writer = none)
    (beaten : race.phases (!winner) = .writing (statement (!winner)) ∨
      race.phases (!winner) = .refused violation ∨
      race.phases (!winner) = .finished ((calls (!winner)).recover violation (after winner)))
    (turns : ∀ index, 2 ≤ (schedule ++ [!winner]).count index)
    (together : ¬ Apart (schedule ++ [!winner])) :
    ContestSound calls start statement reply after violation (schedule ++ [!winner])
      (race.step calls (!winner)) := by
  have kept (next : RacePhase State Reply Error) :
      (race.enter (!winner) next).phases winner = .finished (.ok (reply winner)) := by
    have same := race.enter_other (!winner) next
    rw [Bool.not_not] at same
    exact same.trans won
  rcases beaten with phase | phase | phase
  · rw [Race.step_denied phase free (state ▸ contest.collides winner)]
    exact .together winner (kept _) state free (.inr (.inl (race.enter_self _ _))) turns together
  · rw [Race.step_refused phase, state]
    exact .together winner (kept _) state free (.inr (.inr (race.enter_self _ _))) turns together
  · rw [Race.step_finished phase]
    exact .together winner won state free (.inr (.inr phase)) turns together

theorem contestSound_step (contest : Contest calls start statement reply after violation)
    (sound : ContestSound calls start statement reply after violation schedule race) (index : Bool) :
    ContestSound calls start statement reply after violation (schedule ++ [index])
      (race.step calls index) := by
  cases sound with
  | uncommitted state together stages writes => exact .before contest state together stages writes index
  | apart winner wrote won late writer apart =>
    by_cases own : index = winner
    · subst own
      rw [Race.step_finished won]
      exact .apart index wrote won late writer (apart.append _)
    · obtain rfl := Bool.eq_not.mpr own
      obtain ⟨wroteNext, solo, writerNext, same⟩ := late.step writer
      rw [Bool.not_not] at same
      exact .apart winner wroteNext (same.trans won) solo writerNext (apart.append _)
  | together winner won state free beaten turns together =>
    have turnsNext (other : Bool) : 2 ≤ (schedule ++ [index]).count other := by
      rw [List.count_append]
      have := turns other
      omega
    have togetherNext : ¬ Apart (schedule ++ [index]) :=
      not_apart_append together fun first few => absurd few (Nat.not_lt.mpr (turnsNext _))
    by_cases own : index = winner
    · subst own
      rw [Race.step_finished won]
      exact .together index won state free beaten turnsNext togetherNext
    · obtain rfl := Bool.eq_not.mpr own
      exact .beaten contest won state free beaten turnsNext togetherNext

theorem contest_sound (contest : Contest calls start statement reply after violation)
    (schedule : List Bool) :
    ContestSound calls start statement reply after violation schedule
      (run (Race.step calls) (Race.start start) schedule) := by
  induction schedule using List.reverseRecOn with
  | nil => exact contestSound_start
  | append_singleton earlier index ih =>
    rw [run_append]
    exact contestSound_step contest ih index

/-- How a contest ends: one call has inserted its row, and the other has either run by itself
after that, or been refused. Which of them it is, the schedule tells. -/
theorem contest_outcome (contest : Contest calls start statement reply after violation)
    (schedule : List Bool) (bothEnd : (run (Race.step calls) (Race.start start) schedule).Over) :
    let final := run (Race.step calls) (Race.start start) schedule
    ∃ winner, final.phases winner = .finished (.ok (reply winner)) ∧
      ((Apart schedule ∧
          final.phases (!winner) = .finished ((calls (!winner)).attempt (after winner)).1 ∧
          final.state = ((calls (!winner)).attempt (after winner)).2) ∨
        (¬ Apart schedule ∧
          final.phases (!winner) = .finished ((calls (!winner)).recover violation (after winner)) ∧
          final.state = after winner)) := by
  intro final
  cases contest_sound contest schedule with
  | uncommitted state together stages writes =>
    obtain ⟨outcome, finished⟩ := bothEnd true
    have stage := stages true
    simp [Stage, finished] at stage
  | apart winner wrote won late writer apart =>
    refine ⟨winner, won, .inl ⟨apart, ?_⟩⟩
    obtain ⟨outcome, finished⟩ := bothEnd (!winner)
    rw [finished] at late
    obtain ⟨rfl, state⟩ := late.outcome
    exact ⟨finished, state⟩
  | together winner won state free beaten turns together =>
    refine ⟨winner, won, .inr ⟨together, ?_, state⟩⟩
    obtain ⟨outcome, finished⟩ := bothEnd (!winner)
    rcases beaten with phase | phase | phase
    · cases finished.symm.trans phase
    · cases finished.symm.trans phase
    · exact phase

end Contests

section Bystanders

variable {calls : Bool → RaceCall State Reply Error} {start : State} {index : Bool}
  {outcome : Except Error Reply}

theorem Solo.state {call : RaceCall State Reply Error} {phase : RacePhase State Reply Error}
    {before now : State} {wrote : Bool} (solo : Solo call before phase now wrote) :
    now = before ∨ now = (call.attempt before).2 := by
  cases solo with
  | finished => exact .inr rfl
  | opening | looking | writing | committing | refused => exact .inl rfl

/-- One call runs by itself; the other ends without a lookup. -/
structure Aside (calls : Bool → RaceCall State Reply Error) (start : State) (index : Bool)
    (outcome : Except Error Reply) (race : Race State Reply Error) : Prop where
  solo : ∃ wrote, Solo (calls index) start (race.phases index) race.state wrote ∧
    race.writer = if wrote then some index else none
  other : race.phases (!index) = .opening ∨ race.phases (!index) = .finished outcome

theorem Aside.step {race : Race State Reply Error}
    (ends : (calls (!index)).opening start = some outcome)
    (endsLate : (calls (!index)).opening ((calls index).attempt start).2 = some outcome)
    (aside : Aside calls start index outcome race) (turn : Bool) :
    Aside calls start index outcome (race.step calls turn) := by
  obtain ⟨⟨wrote, solo, writer⟩, other⟩ := aside
  by_cases own : turn = index
  · subst own
    obtain ⟨wroteNext, next, writerNext, same⟩ := solo.step writer
    exact ⟨⟨wroteNext, next, writerNext⟩, same ▸ other⟩
  · obtain rfl := Bool.eq_not.mpr own
    rcases other with phase | phase
    · have opens : (calls (!index)).opening race.state = some outcome := by
        rcases solo.state with same | same
        · rwa [same]
        · rwa [same]
      have still := race.enter_other (!index) (.finished outcome)
      rw [Bool.not_not] at still
      rw [Race.step_ending phase opens]
      exact ⟨⟨wrote, still ▸ solo, writer⟩, .inr (race.enter_self _ _)⟩
    · rw [Race.step_finished phase]
      exact ⟨⟨wrote, solo, writer⟩, .inr phase⟩

/-- Next to a call that ends before its lookup, the other one runs by itself. -/
theorem bystander_outcome (ends : (calls (!index)).opening start = some outcome)
    (endsLate : (calls (!index)).opening ((calls index).attempt start).2 = some outcome)
    (schedule : List Bool) (bothEnd : (run (Race.step calls) (Race.start start) schedule).Over) :
    let final := run (Race.step calls) (Race.start start) schedule
    final.phases index = .finished ((calls index).attempt start).1 ∧
      final.state = ((calls index).attempt start).2 ∧ final.phases (!index) = .finished outcome := by
  intro final
  obtain ⟨⟨wrote, solo, _⟩, other⟩ : Aside calls start index outcome final :=
    run_invariant_free _ (fun _ turn aside => aside.step ends endsLate turn) schedule
      ⟨⟨false, .opening, rfl⟩, .inl rfl⟩
  obtain ⟨own, finished⟩ := bothEnd index
  obtain ⟨theirs, ended⟩ := bothEnd (!index)
  change final.phases index = _ at finished
  rw [finished] at solo
  obtain ⟨rfl, state⟩ := solo.outcome
  refine ⟨finished, state, ?_⟩
  rcases other with phase | phase
  · cases ended.symm.trans phase
  · exact phase

/-- No write of the calls goes through on the state. -/
def Barren (calls : Bool → RaceCall State Reply Error) (start : State) : Prop :=
  ∀ index statement, (calls index).opening start = none →
    (calls index).lookup start = .write statement → ∃ error, statement start = .error error

theorem Barren.attempt (barren : Barren calls start) (index : Bool) :
    ((calls index).attempt start).2 = start := by
  cases opens : (calls index).opening start with
  | some outcome => rw [RaceCall.attempt_ended opens]
  | none =>
    cases planned : (calls index).lookup start with
    | reply outcome => rw [RaceCall.attempt_reply opens planned]
    | write statement =>
      obtain ⟨error, fails⟩ := barren index statement opens planned
      rw [RaceCall.attempt_refused opens planned fails]

theorem Solo.fruitless {phase : RacePhase State Reply Error} {now : State} {wrote : Bool}
    (solo : Solo (calls index) start phase now wrote) (barren : Barren calls start) :
    now = start ∧ wrote = false := by
  cases solo with
  | committing opens planned succeeds =>
    obtain ⟨error, fails⟩ := barren index _ opens planned
    cases succeeds.symm.trans fails
  | finished => exact ⟨barren.attempt index, rfl⟩
  | opening | looking | writing | refused => exact ⟨rfl, rfl⟩

/-- Each call runs by itself on the unchanged state. -/
structure Fruitless (calls : Bool → RaceCall State Reply Error) (start : State)
    (race : Race State Reply Error) : Prop where
  state : race.state = start
  writer : race.writer = none
  solo : ∀ index, Solo (calls index) start (race.phases index) start false

theorem Fruitless.step {race : Race State Reply Error} (barren : Barren calls start)
    (fruitless : Fruitless calls start race) (turn : Bool) :
    Fruitless calls start (race.step calls turn) := by
  obtain ⟨state, writer, solo⟩ := fruitless
  have before : Solo (calls turn) start (race.phases turn) race.state false := state ▸ solo turn
  obtain ⟨wrote, next, writerNext, same⟩ := before.step writer
  obtain ⟨stateNext, rfl⟩ := next.fruitless barren
  have other : Solo (calls (!turn)) start ((race.step calls turn).phases (!turn)) start false :=
    same ▸ solo (!turn)
  exact ⟨stateNext, writerNext, both_calls (stateNext ▸ next) other⟩

/-- Calls whose writes all fail end as they do by themselves. -/
theorem barren_outcome (barren : Barren calls start) (schedule : List Bool)
    (bothEnd : (run (Race.step calls) (Race.start start) schedule).Over) :
    let final := run (Race.step calls) (Race.start start) schedule
    final.state = start ∧ ∀ index, final.phases index = .finished ((calls index).attempt start).1 := by
  intro final
  have fruitless : Fruitless calls start final :=
    run_invariant_free _ (fun _ turn fruitless => fruitless.step barren turn) schedule
      ⟨rfl, rfl, fun _ => .opening⟩
  refine ⟨fruitless.state, fun index => ?_⟩
  obtain ⟨outcome, finished⟩ := bothEnd index
  have solo := fruitless.solo index
  change final.phases index = _ at finished
  rw [finished] at solo
  obtain ⟨rfl, _⟩ := solo.outcome
  exact finished

end Bystanders

end RegressionDetection.Foundation
