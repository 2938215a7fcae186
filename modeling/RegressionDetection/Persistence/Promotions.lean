import RegressionDetection.Foundation.Interleaving
import RegressionDetection.Foundation.Links
import RegressionDetection.Persistence.ApprovedBaselines

/-! Concurrent `promote_run` calls for one channel as their database steps: the
SELECT of the run, the SELECT of the channel row, and the INSERT or the UPDATE
conditional on the run id that was read. -/

namespace RegressionDetection.Persistence

open Foundation

/-- The arguments of one promotion to the channel, and the time its row would bear. -/
structure PromoteCall where
  runId : String
  reason : Option String
  now : Time

abbrev PromoteReply := Except PyError (Option (Bool × BaselineChannelRow))

/-- Where a promotion stands between two of its steps. -/
inductive PromotePhase where
  | starting (call : PromoteCall)
  | eligible (call : PromoteCall)
  | inserting (call : PromoteCall)
  | updating (call : PromoteCall) (existing : BaselineChannelRow)
  | finished (reply : PromoteReply)

section Steps

variable (projectId channel : String) (store : Store)

/-- The run the channel points to. -/
def channelRun : Option String :=
  (store.baselines.find? (projectId, channel)).map BaselineChannelRow.runId

/-- The conditional UPDATE. -/
def updateBaseline (call : PromoteCall) (previousRunId : String) : Store :=
  { store with
    baselines := store.baselines.update (baselineHits projectId channel previousRunId)
      (replaceBaseline call.runId call.reason previousRunId)
      (replaceBaseline_key call.runId call.reason _) }

def advancePromotion : PromotePhase → PromotePhase × Store
  | .starting call =>
    if (store.runs.find? call.runId).any RunRow.promotable then (.eligible call, store)
    else (.finished (.ok none), store)
  | .eligible call =>
    match store.baselines.find? (projectId, channel) with
    | none => (.inserting call, store)
    | some existing =>
      if existing.runId = call.runId then (.finished (.ok (some (true, existing))), store)
      else (.updating call existing, store)
  | .inserting call =>
    let row := newBaseline call.now projectId channel call.runId call.reason
    match insertBaseline store row with
    | .ok next => (.finished (.ok (some (true, row))), next)
    | .error error => (.finished (.error error), store)
  | .updating call existing =>
    (.finished (.ok (if store.baselines.matching (baselineHits projectId channel existing.runId) = 0
      then none else some (false, replaceBaseline call.runId call.reason existing.runId existing))),
      updateBaseline projectId channel store call existing.runId)
  | .finished reply => (.finished reply, store)

def PromotePhase.committed : PromotePhase → Option PromoteReply
  | .finished reply => some reply
  | _ => none

/-- The whole call as one transaction. -/
def PromoteCall.perform (call : PromoteCall) : PromoteReply × Store :=
  let outcome := promoteRun call.now projectId channel call.runId call.reason store
  (outcome.map Prod.fst, settle store outcome)

def promoteCalls : StepwiseCalls PromoteCall Store PromotePhase PromoteReply where
  start := .starting
  advance store phase := advancePromotion projectId channel store phase
  committed := PromotePhase.committed
  perform call store := call.perform projectId channel store
  start_uncommitted _ := rfl

@[simp] theorem promoteCalls_advance (phase : PromotePhase) :
    (promoteCalls projectId channel).advance store phase =
      advancePromotion projectId channel store phase := rfl

@[simp] theorem promoteCalls_committed (phase : PromotePhase) :
    (promoteCalls projectId channel).committed phase = phase.committed := rfl

/-- The next step of a promotion that nothing interrupts. -/
def advancePromotionAlone (call : PromotePhase × Store) : PromotePhase × Store :=
  advancePromotion projectId channel call.2 call.1

/-- A promotion whose steps nothing interrupts is `promote_run`. -/
theorem advancePromotion_alone (call : PromoteCall) :
    advancePromotionAlone projectId channel (advancePromotionAlone projectId channel
      (advancePromotionAlone projectId channel (.starting call, store))) =
      (call.perform projectId channel store).map .finished id := by
  unfold PromoteCall.perform promoteRun
  by_cases eligible : (store.runs.find? call.runId).any RunRow.promotable = true
  · have first : advancePromotionAlone projectId channel (.starting call, store) =
        (.eligible call, store) := by
      simp [advancePromotionAlone, advancePromotion, eligible]
    rw [first, if_pos eligible]
    unfold promoteEligible
    cases found : store.baselines.find? (projectId, channel) with
    | none =>
      have second : advancePromotionAlone projectId channel (.eligible call, store) =
          (.inserting call, store) := by
        simp [advancePromotionAlone, advancePromotion, found]
      rw [second]
      cases inserted : insertBaseline store
          (newBaseline call.now projectId channel call.runId call.reason) <;>
        simp [advancePromotionAlone, advancePromotion, inserted, bind, Except.bind, pure, Except.pure,
          Except.map, settle]
    | some existing =>
      by_cases same : existing.runId = call.runId
      · simp [advancePromotionAlone, advancePromotion, found, same, Except.map, settle]
      · have second : advancePromotionAlone projectId channel (.eligible call, store) =
            (.updating call existing, store) := by
          simp [advancePromotionAlone, advancePromotion, found, same]
        rw [second]
        by_cases missed :
            store.baselines.matching (baselineHits projectId channel existing.runId) = 0 <;>
          simp [advancePromotionAlone, advancePromotion, same, missed, Except.map, settle,
            updateBaseline]
  · have first : advancePromotionAlone projectId channel (.starting call, store) =
        (.finished (.ok none), store) := by
      simp [advancePromotionAlone, advancePromotion, eligible]
    rw [first, if_neg eligible]
    rfl

end Steps

section Accounts

variable {Index : Type} [DecidableEq Index] (projectId channel : String) (calls : Index → PromoteCall)
  (config : Interleaved Index Store PromotePhase) (index : Index)

/-- What a step has done to the channel, by the answer it gives its call. -/
def AnswerAccounts (call : PromoteCall) (before after : Store) : Option PromoteReply → Prop
  | some (.ok (some (false, record))) =>
    record.runId = call.runId ∧ record.previousRunId.isSome = true ∧
      record.previousRunId = channelRun projectId channel before ∧
      some record.runId = channelRun projectId channel after ∧
      some record.runId ≠ channelRun projectId channel before
  | some (.ok (some (true, record))) =>
    record.runId = call.runId ∧ some record.runId = channelRun projectId channel after ∧
      (after = before ∨
        channelRun projectId channel before = none ∧ record.previousRunId = none)
  | some (.ok none) | some (.error _) | none => after = before

/-- The step of one call accounts for what it does. -/
def StepAccounts : Prop :=
  AnswerAccounts projectId channel (calls index) config.state
    ((promoteCalls projectId channel).interleave config index).state
    ((promoteCalls projectId channel).answered config index)

/-- The record of an answer that tells of a change: an update, or the first insert. -/
def promotion : Option BaselineChannelRow :=
  match (promoteCalls projectId channel).answered config index with
  | some (.ok (some (created, record))) =>
    if created = true ∧ channelRun projectId channel config.state ≠ none then none else some record
  | _ => none

/-- The phase belongs to the call, and an update is to another run than the one read. -/
def PhaseOf (call : PromoteCall) : PromotePhase → Prop
  | .starting own | .eligible own | .inserting own => own = call
  | .updating own existing => own = call ∧ existing.runId ≠ call.runId
  | .finished _ => True

variable {calls config index}

theorem PhaseOf.advance {call : PromoteCall} {phase : PromotePhase} (own : PhaseOf call phase)
    (store : Store) : PhaseOf call (advancePromotion projectId channel store phase).1 := by
  cases phase with
  | starting other =>
    simp only [advancePromotion]
    split
    · exact own
    · trivial
  | eligible other =>
    obtain rfl : other = call := own
    simp only [advancePromotion]
    split
    · rfl
    · split
      · trivial
      · rename_i apart
        exact ⟨rfl, apart⟩
  | inserting other =>
    simp only [advancePromotion]
    split <;> trivial
  | updating other existing => trivial
  | finished reply => trivial

theorem phaseOf_interleave (own : ∀ other, PhaseOf (calls other) (config.phases other)) (other : Index) :
    PhaseOf (calls other) (((promoteCalls projectId channel).interleave config index).phases other) := by
  by_cases same : other = index
  · subst same
    simpa [StepwiseCalls.interleave] using (own other).advance projectId channel config.state
  · simpa [StepwiseCalls.interleave, same] using own other

/-- A new channel points to the run of the inserted row. -/
theorem insertBaseline_channel {store next : Store} {row : BaselineChannelRow}
    (inserted : insertBaseline store row = .ok next) :
    channelRun row.projectId row.channel store = none ∧
      channelRun row.projectId row.channel next = some row.runId := by
  obtain ⟨_, baselines, placed, rfl⟩ := insertBaseline_eq_ok.mp inserted
  constructor
  · exact congrArg (Option.map BaselineChannelRow.runId)
      (Table.find?_eq_none_iff.mpr (Table.rows_insert placed).2)
  · have row := Table.find?_insert placed row.key
    rw [if_pos rfl] at row
    exact congrArg (Option.map BaselineChannelRow.runId) row

/-- The conditional UPDATE moves the channel exactly when it still points to the run read. -/
theorem updateBaseline_channel (store : Store) (call : PromoteCall) (previousRunId : String) :
    (store.baselines.matching (baselineHits projectId channel previousRunId) = 0 ∧
      updateBaseline projectId channel store call previousRunId = store) ∨
    (store.baselines.matching (baselineHits projectId channel previousRunId) ≠ 0 ∧
      channelRun projectId channel store = some previousRunId ∧
      channelRun projectId channel (updateBaseline projectId channel store call previousRunId) =
        some call.runId) := by
  by_cases missed : store.baselines.matching (baselineHits projectId channel previousRunId) = 0
  · refine .inl ⟨missed, ?_⟩
    have unhit : ∀ row ∈ store.baselines.rows,
        baselineHits projectId channel previousRunId row = false := by
      intro row member
      simpa using List.countP_eq_zero.mp missed row member
    unfold updateBaseline
    rw [Table.update_of_miss unhit]
  · refine .inr ⟨missed, ?_⟩
    have counted := Table.matching_key store.baselines (projectId, channel)
      (fun row => decide (row.runId = previousRunId))
    have hit : (store.baselines.find? (projectId, channel)).any
        (fun row => decide (row.runId = previousRunId)) = true := by
      by_contra none
      rw [if_neg none] at counted
      exact missed counted
    obtain ⟨row, found, points⟩ := (Option.any_eq_true _ _).mp hit
    rw [decide_eq_true_eq] at points
    refine ⟨by rw [channelRun, found, Option.map_some, points], ?_⟩
    unfold channelRun updateBaseline baselineHits
    rw [Table.find?_updateKey, if_pos rfl, found]
    simp [points, replaceBaseline]

/-- Every step of a promotion accounts for what it does to the channel. -/
theorem advancePromotion_accounts {call : PromoteCall} {phase : PromotePhase}
    (own : PhaseOf call phase) (pending : phase.committed = none) (store : Store) :
    AnswerAccounts projectId channel call store (advancePromotion projectId channel store phase).2
      (advancePromotion projectId channel store phase).1.committed := by
  cases phase with
  | starting other =>
    by_cases eligible : (store.runs.find? other.runId).any RunRow.promotable = true
    · simp [advancePromotion, eligible, PromotePhase.committed, AnswerAccounts]
    · simp [advancePromotion, eligible, PromotePhase.committed, AnswerAccounts]
  | eligible other =>
    obtain rfl : other = call := own
    cases found : store.baselines.find? (projectId, channel) with
    | none => simp [advancePromotion, found, PromotePhase.committed, AnswerAccounts]
    | some existing =>
      by_cases same : existing.runId = other.runId
      · simp [advancePromotion, found, same, PromotePhase.committed, AnswerAccounts, channelRun]
      · simp [advancePromotion, found, same, PromotePhase.committed, AnswerAccounts]
  | inserting other =>
    obtain rfl : other = call := own
    cases inserted : insertBaseline store
        (newBaseline other.now projectId channel other.runId other.reason) with
    | error error => simp [advancePromotion, inserted, PromotePhase.committed, AnswerAccounts]
    | ok next =>
      obtain ⟨before, after⟩ := insertBaseline_channel inserted
      simp only [advancePromotion, inserted, PromotePhase.committed, AnswerAccounts]
      exact ⟨rfl, after.symm, .inr ⟨before, rfl⟩⟩
  | updating other existing =>
    obtain ⟨rfl, apart⟩ := own
    rcases updateBaseline_channel projectId channel store other existing.runId with
      ⟨missed, same⟩ | ⟨hit, before, after⟩
    · simp only [advancePromotion, if_pos missed, PromotePhase.committed, AnswerAccounts]
      exact same
    · simp only [advancePromotion, if_neg hit, PromotePhase.committed, AnswerAccounts]
      refine ⟨rfl, rfl, before.symm, after.symm, ?_⟩
      rw [before]
      exact fun same => apart (Option.some.inj same).symm
  | finished reply => cases pending

theorem stepAccounts (own : ∀ other, PhaseOf (calls other) (config.phases other)) :
    StepAccounts projectId channel calls config index := by
  have pending := fun before =>
    advancePromotion_accounts projectId channel (own index) before config.state
  unfold StepAccounts StepwiseCalls.answered
  simp only [promoteCalls_committed, promoteCalls_advance]
  cases phase : config.phases index with
  | finished reply =>
    simp [StepwiseCalls.interleave, phase, advancePromotion, PromotePhase.committed, AnswerAccounts]
  | starting call | eligible call | inserting call | updating call existing =>
    rw [phase] at pending
    simpa [StepwiseCalls.interleave, phase, PromotePhase.committed] using pending rfl

/-- What a step does to the channel is the promotion its answer tells of, if any. -/
theorem StepAccounts.accounted (accounts : StepAccounts projectId channel calls config index) :
    Accounted (promoteCalls projectId channel).interleave
      (fun config => channelRun projectId channel config.state) (promotion projectId channel)
      BaselineChannelRow.previousRunId (fun record => some record.runId) config index := by
  unfold StepAccounts at accounts
  unfold Accounted promotion
  have still (same : ((promoteCalls projectId channel).interleave config index).state = config.state) :
      channelRun projectId channel ((promoteCalls projectId channel).interleave config index).state =
        channelRun projectId channel config.state := congrArg _ same
  cases answer : (promoteCalls projectId channel).answered config index with
  | none =>
    rw [answer] at accounts
    exact still accounts
  | some reply =>
    rw [answer] at accounts
    match reply with
    | .error error | .ok none => exact still accounts
    | .ok (some (false, record)) =>
      obtain ⟨_, _, before, after, moved⟩ := accounts
      exact ⟨before, after, moved⟩
    | .ok (some (true, record)) =>
      obtain ⟨_, after, unchanged⟩ := accounts
      cases before : channelRun projectId channel config.state with
      | none =>
        rcases unchanged with same | ⟨_, first⟩
        · rw [still same, before] at after
          cases after
        · simpa [before, first] using after
      | some current =>
        rcases unchanged with same | ⟨impossible, _⟩
        · simpa [before] using still same
        · cases before.symm.trans impossible

end Accounts

/-- Any number of promotions to a channel, in any interleaving of their steps: the channel
keeps at most one row, every answer accounts for what its step did, and the values the
channel shows form one chain, each change linked to the run it replaced. -/
theorem promotions_linked {Index : Type} [DecidableEq Index] (projectId channel : String)
    (calls : Index → PromoteCall) (store : Store) (schedule : List Index) :
    let steps := promoteCalls projectId channel
    let final := run steps.interleave (steps.initial calls store) schedule
    let made := changes steps.interleave (promotion projectId channel) (steps.initial calls store)
      schedule
    final.state.baselines.matching (fun row => decide (row.key = (projectId, channel))) ≤ 1 ∧
    (∀ index, StepAccounts projectId channel calls final index) ∧
    Linked BaselineChannelRow.previousRunId (fun record => some record.runId)
      (channelRun projectId channel store) made (channelRun projectId channel final.state) ∧
    shown steps.interleave (fun config => channelRun projectId channel config.state)
        (steps.initial calls store) schedule =
      channelRun projectId channel store :: made.map (fun record => some record.runId) := by
  intro steps final made
  have own : ∀ index, PhaseOf (calls index) ((steps.initial calls store).phases index) := fun _ => rfl
  have carried : ∀ index, PhaseOf (calls index) (final.phases index) :=
    run_invariant_free
      (fun config : Interleaved Index Store PromotePhase =>
        ∀ index, PhaseOf (calls index) (config.phases index))
      (fun _ _ before => phaseOf_interleave projectId channel before) schedule own
  have accounted : Guarded steps.interleave
      (Accounted steps.interleave (fun config => channelRun projectId channel config.state)
        (promotion projectId channel) BaselineChannelRow.previousRunId
        (fun record => some record.runId)) (steps.initial calls store) schedule :=
    Guarded.of_invariant (fun _ _ before => phaseOf_interleave projectId channel before)
      (fun _ _ before => (stepAccounts projectId channel before).accounted) schedule own
  refine ⟨?_, fun index => stepAccounts projectId channel carried, changes_linked accounted,
    shown_eq accounted⟩
  have counted := Table.matching_key final.state.baselines (projectId, channel) (fun _ => true)
  simp only [Bool.and_true] at counted
  rw [counted]
  split <;> omega

end RegressionDetection.Persistence
