import Mathlib.Data.List.Permutation
import RegressionDetection.Persistence.Calls
import RegressionDetection.Persistence.Finality

/-! Interleaved lifecycle calls of different sessions on one run: they are
serialisable as long as no call acts on a decision the run has outdated. -/

namespace RegressionDetection.Persistence

open Foundation Specification Execution

section Linearisation

variable {view : RunView}

/-- No call takes a run out of its terminal states. -/
theorem perform_terminal (call : LifecycleCall) (ended : view.run.state.terminal = true) :
    (call.perform view).2.run.state.terminal = true := by
  cases call with
  | cancelRun now =>
    cases state : view.run.state <;>
      simp_all [LifecycleCall.perform, selectCancel, Selected.perform, RunState.terminal]
  | completeRun now report workerId =>
    simp only [LifecycleCall.perform, selectComplete]
    split
    · unfold Selected.withRows
      split
      · simp only [Selected.perform, RunView.write]
        split
        · simp only [completeRow]
          split <;> rfl
        · exact ended
      · exact ended
    · exact ended
  | acknowledgeCancellation now workerId report =>
    have other : ¬ view.run.state = .cancelling := by
      intro state
      rw [state] at ended
      cases ended
    simpa [LifecycleCall.perform, selectAcknowledge, other, Selected.perform] using ended
  | updateClaim now workerId leaseSeconds branch =>
    have other : ¬ view.run.state = branch.state := by
      intro state
      rw [state] at ended
      cases branch <;> cases ended
    simpa [LifecycleCall.perform, RunView.updateIf, other] using ended
  | heartbeat now workerId leaseSeconds =>
    have missed : heartbeatMatches workerId view.run = false := by
      cases state : view.run.state <;> simp_all [heartbeatMatches, RunState.terminal]
    simpa [LifecycleCall.perform, RunView.updateIf, missed] using ended
  | reconcileStrandedRuns now leaseGraceSeconds maxCreatedAgeSeconds =>
    have missed : reconcileAll now
        (reconcileStatements now leaseGraceSeconds maxCreatedAgeSeconds) view = (0, view) :=
      reconcileAll_miss fun statement _ => matches_terminal ended
    simpa [LifecycleCall.perform, missed] using ended

variable {Index : Type} {calls : Index → LifecycleCall}

/-- Sessions that interleave their calls on one run. -/
abbrev Sessions (Index : Type) := Interleaved Index RunView CallPhase

/-- The decision a step acts on still stands. A checking call that writes would pass
its checks again and write the same columns; a reconciliation that has not selected
the run has no earlier UPDATE that would select it by its last one. -/
def StillDecided (call : LifecycleCall) (view : RunView) : CallPhase → Prop
  | .writing loaded changed rows =>
    call.select view = some (.write (RunRow.flush loaded changed view.run) rows)
  | .reconciling now [last] 0 =>
    ∀ leaseGraceSeconds maxCreatedAgeSeconds,
      call = .reconcileStrandedRuns now leaseGraceSeconds maxCreatedAgeSeconds →
      ∀ statement ∈ reconcileStatements now leaseGraceSeconds maxCreatedAgeSeconds,
        statement.1.matches statement.2 view.run = true → last.1.matches last.2 view.run = true
  | _ => True

def DecisionHolds (calls : Index → LifecycleCall) (sessions : Sessions Index) (index : Index) : Prop :=
  StillDecided (calls index) sessions.state (sessions.phases index)

/-- A waiting call is the session's own; a reconciliation has UPDATEs of its own
left, and once one of them has selected the run, the run has ended. -/
def PhaseSound (call : LifecycleCall) (view : RunView) : CallPhase → Prop
  | .starting waiting => waiting = call
  | .reconciling now statements count =>
    statements ≠ [] ∧ (∃ leaseGraceSeconds maxCreatedAgeSeconds,
      call = .reconcileStrandedRuns now leaseGraceSeconds maxCreatedAgeSeconds ∧
      ∀ statement ∈ statements,
        statement ∈ reconcileStatements now leaseGraceSeconds maxCreatedAgeSeconds) ∧
    (count ≠ 0 → view.run.state.terminal = true)
  | .writing _ _ _ | .finished _ => True

/-- A step that leaves the run alone, or has the whole call's reply and effect. -/
def SilentOrWhole (view : RunView) (whole : LifecycleReply × RunView)
    (stepped : CallPhase × RunView) : Prop :=
  (stepped.1.committed = none ∧ stepped.2 = view) ∨
    (stepped.1.committed = some whole.1 ∧ stepped.2 = whole.2)

/-- An UPDATE of a reconciliation that has not selected the run yet. -/
theorem advanceReconcile_linear {now : Time} {leaseGraceSeconds : Int}
    {maxCreatedAgeSeconds : Option Int} {statement : ReconcileReason × Time}
    {rest : List (ReconcileReason × Time)}
    (own : statement ∈ reconcileStatements now leaseGraceSeconds maxCreatedAgeSeconds)
    (decided : rest = [] → ∀ other ∈ reconcileStatements now leaseGraceSeconds maxCreatedAgeSeconds,
      other.1.matches other.2 view.run = true → statement.1.matches statement.2 view.run = true) :
    SilentOrWhole view
      ((LifecycleCall.reconcileStrandedRuns now leaseGraceSeconds maxCreatedAgeSeconds).perform view)
      (advanceReconcile now view 0 (statement :: rest)) := by
  by_cases hit : statement.1.matches statement.2 view.run = true
  · right
    have whole : reconcileAll now
        (reconcileStatements now leaseGraceSeconds maxCreatedAgeSeconds) view = _ :=
      reconcileAll_hit own hit
    cases rest <;>
      simp [advanceReconcile, reconcileStatement_hit hit, LifecycleCall.perform, whole,
        CallPhase.committed]
  · have miss : statement.1.matches statement.2 view.run = false := by simpa using hit
    cases rest with
    | nil =>
      right
      have whole : reconcileAll now
          (reconcileStatements now leaseGraceSeconds maxCreatedAgeSeconds) view = _ :=
        reconcileAll_miss fun other member => by
          simpa using fun selects => hit (decided rfl other member selects)
      simp [advanceReconcile, reconcileStatement_miss miss, LifecycleCall.perform, whole,
        CallPhase.committed]
    | cons second rest =>
      left
      simp [advanceReconcile, reconcileStatement_miss miss, CallPhase.committed]

/-- An UPDATE of a reconciliation on a run that has ended. -/
theorem advanceReconcile_ended (now : Time) (count : Nat) (statements : List (ReconcileReason × Time))
    (ended : view.run.state.terminal = true) :
    (advanceReconcile now view (count + 1) statements).1.committed = some (.counted (count + 1)) ∧
      (advanceReconcile now view (count + 1) statements).2 = view := by
  match statements with
  | [] => exact ⟨rfl, rfl⟩
  | [statement] =>
    simp [advanceReconcile, reconcileStatement_miss (matches_terminal ended), CallPhase.committed]
  | statement :: second :: rest =>
    simp [advanceReconcile, reconcileStatement_miss (matches_terminal ended), CallPhase.committed]

/-- The transaction of a checking call is its SELECT and what that decides. -/
theorem perform_select {call : LifecycleCall} {selected : Selected}
    (checks : call.select view = some selected) : call.perform view = selected.perform view := by
  cases call <;> cases checks <;> rfl

/-- The SELECT of a checking call. -/
theorem Selected.advance_linear (selected : Selected) :
    SilentOrWhole view (selected.perform view) (selected.advance view) := by
  cases selected with
  | reply answer => exact .inr ⟨rfl, rfl⟩
  | write changed rows => exact .inl ⟨rfl, rfl⟩

theorem linearStep_of_decisionHolds {sessions : Sessions Index} {index : Index}
    (decided : DecisionHolds calls sessions index)
    (sound : PhaseSound (calls index) sessions.state (sessions.phases index)) :
    lifecycleCalls.LinearStep calls sessions index := by
  unfold StepwiseCalls.LinearStep
  unfold DecisionHolds StillDecided at decided
  simp only [lifecycleCalls]
  cases phase : sessions.phases index with
  | starting call =>
    rw [phase] at decided sound
    cases sound
    cases own : calls index with
    | cancelRun now => exact Selected.advance_linear _
    | completeRun now report workerId => exact Selected.advance_linear _
    | acknowledgeCancellation now workerId report => exact Selected.advance_linear _
    | updateClaim now workerId leaseSeconds branch => exact .inr ⟨rfl, rfl⟩
    | heartbeat now workerId leaseSeconds => exact .inr ⟨rfl, rfl⟩
    | reconcileStrandedRuns now leaseGraceSeconds maxCreatedAgeSeconds =>
      exact advanceReconcile_linear List.mem_cons_self fun only => by cases only
  | writing loaded changed rows =>
    rw [phase] at decided
    right
    rw [perform_select decided]
    exact ⟨rfl, rfl⟩
  | reconciling now statements count =>
    rw [phase] at decided sound
    obtain ⟨nonempty, ⟨leaseGraceSeconds, maxCreatedAgeSeconds, own, members⟩, ended⟩ := sound
    cases count with
    | zero =>
      cases statements with
      | nil => exact absurd rfl nonempty
      | cons statement rest =>
        rw [own]
        refine advanceReconcile_linear (members statement List.mem_cons_self) fun last => ?_
        subst last
        exact decided leaseGraceSeconds maxCreatedAgeSeconds own
    | succ count => exact advanceReconcile_ended now count statements (ended (Nat.succ_ne_zero count))
  | finished reply => exact ⟨rfl, rfl⟩

theorem advanceReconcile_cons (now : Time) (count : Nat) (statement second : ReconcileReason × Time)
    (rest : List (ReconcileReason × Time)) :
    advanceReconcile now view count (statement :: second :: rest) =
      (.reconciling now (second :: rest) (count + (reconcileStatement now view statement).1.toNat),
        (reconcileStatement now view statement).2) := rfl

theorem advanceReconcile_sound {now : Time} {leaseGraceSeconds : Int}
    {maxCreatedAgeSeconds : Option Int} {statements : List (ReconcileReason × Time)} {count : Nat}
    (own : ∀ statement ∈ statements,
      statement ∈ reconcileStatements now leaseGraceSeconds maxCreatedAgeSeconds)
    (ended : count ≠ 0 → view.run.state.terminal = true) :
    PhaseSound (.reconcileStrandedRuns now leaseGraceSeconds maxCreatedAgeSeconds)
      (advanceReconcile now view count statements).2 (advanceReconcile now view count statements).1 := by
  match statements with
  | [] => trivial
  | [statement] => trivial
  | statement :: second :: rest =>
    rw [advanceReconcile_cons]
    refine ⟨List.cons_ne_nil _ _, ⟨leaseGraceSeconds, maxCreatedAgeSeconds, rfl,
      fun other member => own other (List.mem_cons_of_mem _ member)⟩, ?_⟩
    by_cases hit : statement.1.matches statement.2 view.run = true
    · rw [reconcileStatement_hit hit]
      intro _
      cases statement.1 <;> rfl
    · have miss : statement.1.matches statement.2 view.run = false := by simpa using hit
      rw [reconcileStatement_miss miss]
      exact ended

theorem Selected.advance_sound (selected : Selected) (call : LifecycleCall) :
    PhaseSound call (selected.advance view).2 (selected.advance view).1 := by
  cases selected <;> trivial

theorem advanceCall_sound {call : LifecycleCall} {phase : CallPhase} (sound : PhaseSound call view phase) :
    PhaseSound call (advanceCall view phase).2 (advanceCall view phase).1 := by
  cases phase with
  | starting waiting =>
    cases sound
    cases call with
    | cancelRun now => exact Selected.advance_sound _ _
    | completeRun now report workerId => exact Selected.advance_sound _ _
    | acknowledgeCancellation now workerId report => exact Selected.advance_sound _ _
    | updateClaim now workerId leaseSeconds branch => trivial
    | heartbeat now workerId leaseSeconds => trivial
    | reconcileStrandedRuns now leaseGraceSeconds maxCreatedAgeSeconds =>
      exact advanceReconcile_sound (fun statement member => member) (fun counted => absurd rfl counted)
  | writing loaded changed rows => trivial
  | reconciling now statements count =>
    obtain ⟨_, ⟨leaseGraceSeconds, maxCreatedAgeSeconds, rfl, own⟩, ended⟩ := sound
    exact advanceReconcile_sound own ended
  | finished reply => trivial

/-- A step of another session: an ended run stays ended. -/
theorem PhaseSound.transfer {call : LifecycleCall} {phase : CallPhase} {next : RunView}
    (sound : PhaseSound call view phase)
    (stays : view.run.state.terminal = true → next.run.state.terminal = true) :
    PhaseSound call next phase := by
  cases phase with
  | reconciling now statements count => exact ⟨sound.1, sound.2.1, fun counted => stays (sound.2.2 counted)⟩
  | _ => exact sound

/-- Replies read off finished phases. -/
theorem finished_replies {phases : Index → CallPhase} {order : List Index} {replies : List LifecycleReply}
    (committed : replies.map some = order.map (fun index => (phases index).committed))
    (finished : ∀ index ∈ order, ∃ reply, phases index = .finished reply) :
    replies.map CallPhase.finished = order.map phases := by
  induction order generalizing replies with
  | nil => simpa using committed
  | cons index rest ih =>
    cases replies with
    | nil => cases committed
    | cons reply others =>
      obtain ⟨given, done⟩ := finished index List.mem_cons_self
      simp only [List.map_cons, List.cons.injEq, done] at committed ⊢
      obtain ⟨same, later⟩ := committed
      cases same
      exact ⟨rfl, ih later fun other member => finished other (List.mem_cons_of_mem _ member)⟩

variable [DecidableEq Index]

theorem interleave_sound {sessions : Sessions Index} {index : Index}
    (decided : DecisionHolds calls sessions index)
    (sound : ∀ index, PhaseSound (calls index) sessions.state (sessions.phases index)) :
    ∀ other, PhaseSound (calls other) (lifecycleCalls.interleave sessions index).state
      ((lifecycleCalls.interleave sessions index).phases other) := by
  intro other
  by_cases own : other = index
  · subst own
    simpa [StepwiseCalls.interleave, lifecycleCalls] using advanceCall_sound (sound other)
  · have stays : sessions.state.run.state.terminal = true →
        (lifecycleCalls.interleave sessions index).state.run.state.terminal = true := by
      intro ended
      change (lifecycleCalls.advance sessions.state (sessions.phases index)).2.run.state.terminal = true
      rcases (linearStep_of_decisionHolds decided (sound index)).state with same | effect
      · rw [same]
        exact ended
      · rw [effect]
        exact perform_terminal (calls index) ended
    simpa [StepwiseCalls.interleave, own] using (sound other).transfer stays

/-- The calls that were scheduled have all finished, and some serial order of them
leaves the same run and gives the same replies. -/
def Serialisable (calls : Index → LifecycleCall) (view : RunView) (schedule : List Index) : Prop :=
  ∃ order : List Index, order.Nodup ∧ (∀ index, index ∈ order ↔ index ∈ schedule) ∧
    (serial LifecycleCall.perform view (order.map calls)).2 =
      (run lifecycleCalls.interleave (lifecycleCalls.initial calls view) schedule).state ∧
    (serial LifecycleCall.perform view (order.map calls)).1.map CallPhase.finished =
      order.map (run lifecycleCalls.interleave (lifecycleCalls.initial calls view) schedule).phases

end Linearisation

/-- Every interleaving in which no call acts on a decision the run has outdated is
serialisable. -/
theorem interleaving_serialisable {Index : Type} [DecidableEq Index] (calls : Index → LifecycleCall)
    (view : RunView) (schedule : List Index)
    (decided : Guarded lifecycleCalls.interleave (DecisionHolds calls)
      (lifecycleCalls.initial calls view) schedule)
    (ended : ∀ index ∈ schedule, ∃ reply, (run lifecycleCalls.interleave
      (lifecycleCalls.initial calls view) schedule).phases index = .finished reply) :
    Serialisable calls view schedule := by
  have sound : ∀ index, PhaseSound (calls index) (lifecycleCalls.initial calls view).state
      ((lifecycleCalls.initial calls view).phases index) := fun _ => rfl
  have linear : Guarded lifecycleCalls.interleave (lifecycleCalls.LinearStep calls)
      (lifecycleCalls.initial calls view) schedule :=
    decided.strengthen (fun sessions index holds invariant => interleave_sound holds invariant)
      (fun sessions index holds invariant => linearStep_of_decisionHolds holds (invariant index))
      sound
  obtain ⟨order, nodup, members, state, replies⟩ := StepwiseCalls.explained_of_linear linear
  have finished : ∀ index ∈ order, ∃ reply, (run lifecycleCalls.interleave
      (lifecycleCalls.initial calls view) schedule).phases index = .finished reply := by
    intro index member
    apply ended
    by_contra absent
    apply (members index).mp member
    rw [StepwiseCalls.phases_of_not_mem absent]
    rfl
  refine ⟨order, nodup, fun index => ⟨fun member => ?_, fun member => ?_⟩, state, ?_⟩
  · by_contra absent
    apply (members index).mp member
    rw [StepwiseCalls.phases_of_not_mem absent]
    rfl
  · obtain ⟨reply, done⟩ := ended index member
    apply (members index).mpr
    rw [done]
    exact Option.some_ne_none reply
  · exact finished_replies replies finished

section Examples

/-- The run `"run"` of the history, claimed by `"worker"`. -/
def claimedView : RunView :=
  { run :=
      { createdRow 0 "run" "project" ⟨plainDocument "Say ok" ["first"] {}, greeting_valid⟩ HexDigest.zero
          HexDigest.zero with
        state := .running, workerId := some "worker", leaseExpiresAt := some (seconds 60) }
    cases := [] }

def cancelAndComplete : Bool → LifecycleCall
  | true => .cancelRun 1
  | false => .completeRun 2 (gradedReport true) (some "worker")

def cancelAndHeartbeat : Bool → LifecycleCall
  | true => .cancelRun 1
  | false => .heartbeat 1 "worker" 60

end Examples

/-- A cancellation and a completion both read the running run; the completion
writes first, then the cancellation: the run is cancelling, the completion
answered True, and no serial order of the two does that. -/
theorem cancel_overwrites_completion :
    (run lifecycleCalls.interleave (lifecycleCalls.initial cancelAndComplete claimedView)
      [true, false, false, true]).state.run.state = .cancelling ∧
    ¬ Serialisable cancelAndComplete claimedView [true, false, false, true] := by
  refine ⟨by decide, ?_⟩
  rintro ⟨order, nodup, members, state, _⟩
  have both : order.Perm [true, false] :=
    (List.perm_ext_iff_of_nodup nodup (by decide)).mpr fun index => by simpa using members index
  have orders : List.permutations' [true, false] = [[true, false], [false, true]] := by decide
  have listed := List.mem_permutations'.mpr both
  rw [orders] at listed
  simp only [List.mem_cons, List.not_mem_nil, or_false] at listed
  rcases listed with rfl | rfl
  · exact absurd state (by decide)
  · exact absurd state (by decide)

/-- A heartbeat between the two steps of a cancellation is serialisable. -/
theorem heartbeat_serialises :
    Serialisable cancelAndHeartbeat claimedView [true, false, true] := by
  apply interleaving_serialisable
  · exact ⟨trivial, trivial, rfl, trivial⟩
  · intro index _
    cases index
    · exact ⟨.answered true, rfl⟩
    · exact ⟨.answered true, rfl⟩

end RegressionDetection.Persistence
