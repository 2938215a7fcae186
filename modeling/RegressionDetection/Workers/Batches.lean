import RegressionDetection.Execution.Cancellation
import RegressionDetection.Persistence.Ownership
import RegressionDetection.Persistence.Queue
import RegressionDetection.Workers.Leases

/-! A worker by itself. As long as nobody else acts, its calls of `run_once` are one sequential
evaluation of the created runs, the oldest first, which hands the state of the provider on from
run to run and ends with the first exception. -/

namespace RegressionDetection.Workers

open Foundation Specification Providers Policy Execution Persistence

/-- One call of `run_once`: the clock of its claim, and its ticks after that. -/
structure Round where
  now : Time
  ticks : List Tick

/-- No run but one, and none of the results of the others, changes. -/
structure TouchesOnly (target : String) (before after : Store) : Prop where
  row : ∀ other ≠ target, after.runs.find? other = before.runs.find? other
  cases : ∀ other ≠ target, after.casesOf other = before.casesOf other

/-- The runs that wait for their first claim. -/
def waitingRuns (store : Store) : List RunRow :=
  store.runs.rows.filter fun run => decide (run.state = .created)

/-- The runs evaluated one after the other, as they are stored at the end: each completed with the
report of its evaluation, which starts with the provider as the one before left it, up to one
that raised. -/
inductive Batch (environment : Environment) (worker : Worker σ) (after : Store) :
    List RunRow → σ → WorkerState σ → Prop where
  | done : Batch environment worker after [] start ⟨.idle processed, start⟩
  | next (returned : executeLocalEvaluation environment worker.retrying row.snapshot neverCancelled
        start = .ok (report, later))
      (stored : after.view row.id = some view) (completed : view.run.state = .completed)
      (evidence : StoredFrom report view) (rest : Batch environment worker after rows later state) :
      Batch environment worker after (row :: rows) start state
  | stopped (raises : executeLocalEvaluation environment worker.retrying row.snapshot neverCancelled
        start = .error error)
      (held : Held worker row.id row.snapshot after) (phase : state.phase = .raised error)
      (waiting : ∀ other ∈ rows, after.runs.find? other.id = some other) :
      Batch environment worker after (row :: rows) start state

section Ticks

variable {environment : Environment} {worker : Worker σ} {runId : String}
  {specification : EvaluationSpecification} {start : σ} {alone : Alone σ}

theorem TouchesOnly.refl (target : String) (store : Store) : TouchesOnly target store store :=
  ⟨fun _ _ => rfl, fun _ _ => rfl⟩

theorem TouchesOnly.trans {target : String} {first second third : Store}
    (earlier : TouchesOnly target first second) (later : TouchesOnly target second third) :
    TouchesOnly target first third :=
  ⟨fun other apart => (later.row other apart).trans (earlier.row other apart),
    fun other apart => (later.cases other apart).trans (earlier.cases other apart)⟩

theorem TouchesOnly.view {target other : String} {before after : Store}
    (touches : TouchesOnly target before after) (apart : other ≠ target) :
    after.view other = before.view other := by
  unfold Store.view
  rw [touches.row other apart, touches.cases other apart]

theorem heartbeat_touches {now : Time} {workerId : String} {leaseSeconds : Int} {store : Store} :
    TouchesOnly runId store (heartbeat now runId workerId leaseSeconds store).2 := by
  refine ⟨fun other apart => ?_, fun _ _ => rfl⟩
  unfold heartbeat heartbeatHits
  dsimp only
  rw [Table.find?_updateKey, if_neg apart]

theorem completeRun_touches {now : Time} {store next : Store} {report : LocalEvaluationReport}
    {workerId : Option String} {answer : Bool}
    (returned : completeRun now runId store report workerId = .ok (answer, next)) :
    TouchesOnly runId store next := by
  obtain ⟨row, loaded, rest⟩ := bind_eq_ok.mp returned
  have own : row.id = runId := Table.key_of_find? (findRun_eq_ok.mp loaded)
  split at rest
  · obtain ⟨rows, built, later⟩ := bind_eq_ok.mp rest
    obtain ⟨table, inserted, made⟩ := bind_eq_ok.mp later
    cases made
    refine ⟨fun other apart => ?_, fun other apart => ?_⟩
    · have updated := Table.find?_update store.runs (fun run => run.id = row.id)
        (RunRow.flush row (completeRow now report row)) (RunRow.flush_id _ _) other
      refine updated.trans ?_
      cases found : store.runs.find? other with
      | none => rfl
      | some run =>
        have key : run.id = other := Table.key_of_find? found
        simp [key, own, apart]
    · refine (casesOf_insert (insertRows_eq_ok.mp inserted) (caseRows_runId built)).trans ?_
      rw [if_neg (Ne.symm apart), List.append_nil]
  · cases rest
    exact .refl _ _

/-- The run is completed by the worker's evaluation, whose last provider state the worker has. -/
def Ended (environment : Environment) (worker : Worker σ) (runId : String)
    (specification : EvaluationSpecification) (start : σ) (alone : Alone σ) : Prop :=
  alone.worker.phase = .idle true ∧
    ∃ report view, executeLocalEvaluation environment worker.retrying specification neverCancelled
        start = .ok (report, alone.worker.provider) ∧
      alone.store.view runId = some view ∧ view.run.state = .completed ∧ StoredFrom report view

/-- On course, the step that returns from `run_once` is the completion of the run. -/
theorem advance_ended (now : Time)
    (course : OnCourse environment worker runId specification start alone)
    (busy : ∀ processed, alone.worker.phase ≠ .idle processed) :
    (∀ processed, (tick environment worker alone (.advance now)).worker.phase = .idle processed →
      Ended environment worker runId specification start
        (tick environment worker alone (.advance now))) ∧
    TouchesOnly runId alone.store (tick environment worker alone (.advance now)).store := by
  have onward := (advance_onCourse now course).1
  -- Before the report, nothing is stored, and the run is still running.
  have early (same : (tick environment worker alone (.advance now)).store = alone.store)
      (held : Held worker runId specification alone.store) (processed : Bool)
      (idle : (tick environment worker alone (.advance now)).worker.phase = .idle processed) :
      Ended environment worker runId specification start
        (tick environment worker alone (.advance now)) := by
    unfold OnCourse at onward
    simp only [idle] at onward
    obtain ⟨_, _, _, row, found, terminal⟩ := onward
    obtain ⟨before, present, running, _⟩ := held.row
    rw [same] at found
    cases present.symm.trans found
    rw [running] at terminal
    cases terminal
  obtain ⟨store, phase, provider⟩ := alone
  cases phase with
  | idle processed => exact absurd rfl (busy processed)
  | cancelSeen seen => exact course.elim
  | raised error => exact ⟨fun _ idle => (by cases idle), .refl _ _⟩
  | claimed claimed =>
    refine ⟨early ?_ course.2.2, ?_⟩
    · rfl
    · exact .refl _ _
  | admitted admitted =>
    obtain ⟨row, found, _⟩ := course.2.2.row
    have same : (tick environment worker ⟨store, ⟨.admitted admitted, provider⟩⟩ (.advance now)).store =
        store := by
      simp only [tick, advance]
      split <;> rfl
    refine ⟨early same course.2.2, ?_⟩
    rw [same]
    exact .refl _ _
  | executing active =>
    refine ⟨early ?_ course.2.2.2.2, ?_⟩
    · rfl
    · exact .refl _ _
  | reported reported report token =>
    obtain ⟨rfl, rfl, returned, held⟩ := course
    obtain ⟨summarised, keys⟩ := evaluation_covers returned
    obtain ⟨next, completed, row, found, terminal⟩ := completeRun_held held now summarised keys
    have result : tick environment worker ⟨store, ⟨.reported reported report false, provider⟩⟩
        (.advance now) = ⟨next, ⟨.idle true, provider⟩⟩ := by
      simp only [tick, advance, Bool.false_eq_true, ↓reduceIte, conclude, completed]
    have performed : perform store ⟨now, .completeRun reported report worker.workerId⟩ = next :=
      congrArg (settle store) completed
    rw [result]
    refine ⟨fun _ _ => ⟨rfl, ?_⟩, completeRun_touches completed⟩
    obtain ⟨other, later, view, made, stored, _, full, evidence⟩ :=
      delivered_of_complete held returned ⟨row, performed ▸ found, terminal⟩
    cases returned.symm.trans made
    exact ⟨report, view, returned, performed ▸ stored, full, evidence⟩

theorem beat_touches (now : Time)
    (course : OnCourse environment worker runId specification start alone) :
    TouchesOnly runId alone.store (tick environment worker alone (.beat now)).store := by
  obtain ⟨store, phase, provider⟩ := alone
  cases phase with
  | executing active =>
    obtain ⟨rfl, _⟩ := course
    simp only [tick, beat]
    split
    · exact .refl _ _
    · exact heartbeat_touches
  | idle | reported | claimed | cancelSeen | admitted | raised => exact .refl _ _

/-- Between two calls of `run_once`, and after an exception, the worker does nothing by itself. -/
theorem tick_settled (event : Tick)
    (settled : (∃ processed, alone.worker.phase = .idle processed) ∨
      ∃ error, alone.worker.phase = .raised error) :
    tick environment worker alone event = alone := by
  obtain ⟨store, phase, provider⟩ := alone
  rcases settled with ⟨processed, same⟩ | ⟨error, same⟩ <;> cases same <;> cases event <;> rfl

theorem run_ended (schedule : List Tick)
    (course : OnCourse environment worker runId specification start alone)
    (ended : ∀ processed, alone.worker.phase = .idle processed →
      Ended environment worker runId specification start alone) :
    (∀ processed, (run (tick environment worker) alone schedule).worker.phase = .idle processed →
      Ended environment worker runId specification start
        (run (tick environment worker) alone schedule)) ∧
    TouchesOnly runId alone.store (run (tick environment worker) alone schedule).store := by
  induction schedule generalizing alone with
  | nil => exact ⟨ended, .refl _ _⟩
  | cons event rest ih =>
    rw [run_cons]
    by_cases idle : ∃ processed, alone.worker.phase = .idle processed
    · rw [tick_settled event (.inl idle)]
      exact ih course ended
    · have busy : ∀ processed, alone.worker.phase ≠ .idle processed := fun processed phase =>
        idle ⟨processed, phase⟩
      cases event with
      | advance now =>
        obtain ⟨onward, touched⟩ := advance_ended now course busy
        obtain ⟨arrived, later⟩ := ih (advance_onCourse now course).1 onward
        exact ⟨arrived, touched.trans later⟩
      | beat now =>
        have kept (processed : Bool) :
            (tick environment worker alone (.beat now)).worker.phase ≠ .idle processed := by
          obtain ⟨store, phase, provider⟩ := alone
          cases phase with
          | executing active =>
            simp only [tick, beat]
            split <;> simp
          | idle already => exact absurd rfl (busy already)
          | claimed | cancelSeen | admitted | reported | raised => simp [tick, beat]
        obtain ⟨arrived, later⟩ := ih (beat_onCourse now course).1 fun processed phase =>
          absurd phase (kept processed)
        exact ⟨arrived, (beat_touches now course).trans later⟩

/-- One call of `run_once` on a run that waits, with ticks enough: it is completed, or its
evaluation raised, and nothing else has changed. -/
theorem runOnce_waiting {now : Time} {store : Store} {state : WorkerState σ} {processed : Bool}
    (idle : state.phase = .idle processed)
    (claims : (claimNextRun now worker.workerId worker.leaseSeconds store).1 = some runId)
    {row : RunRow} (found : store.runs.find? runId = some row)
    (unevaluated : store.casesOf runId = []) {schedule : List Tick}
    (enough : row.snapshot.val.cases.length + 4 ≤ schedule.countP Tick.advances) :
    let after := runOnce environment worker now store state schedule
    (Ended environment worker runId row.snapshot state.provider after ∨
      ∃ error, after.worker.phase = .raised error ∧
        executeLocalEvaluation environment worker.retrying row.snapshot neverCancelled
          state.provider = .error error ∧ Held worker runId row.snapshot after.store) ∧
    TouchesOnly runId store after.store := by
  intro after
  obtain ⟨course, ended⟩ := runOnce_ends idle claims found unevaluated enough
  obtain ⟨next, claimed⟩ : ∃ next,
      claimNextRun now worker.workerId worker.leaseSeconds store = (some runId, next) :=
    ⟨_, Prod.ext claims rfl⟩
  have begun : after = run (tick environment worker)
      { store := next, worker := { state with phase := .claimed runId } } schedule := by
    change runOnce environment worker now store state schedule = _
    rw [runOnce, poll, idle, claimed]
  have start : OnCourse environment worker runId row.snapshot state.provider
      { store := next, worker := { state with phase := .claimed runId } } :=
    ⟨rfl, rfl, claimNextRun_held claimed found unevaluated⟩
  obtain ⟨finishes, touched⟩ := run_ended schedule start fun _ phase => by cases phase
  rw [← begun] at finishes touched
  have first : TouchesOnly runId store next := by
    have kept := claim_claimsOnly ⟨worker.workerId, worker.leaseSeconds, now⟩ store
    obtain ⟨runs, same⟩ := kept.tables
    simp only [ClaimCall.claim, claimed] at same
    refine ⟨fun other apart => ?_, fun _ _ => by rw [same]; rfl⟩
    have others : (claimNextRun now worker.workerId worker.leaseSeconds store).1 ≠ some other := by
      rw [claims]
      exact fun same => apart (Option.some.inj same).symm
    have untouched := claimNextRun_others others
    rwa [claimed] at untouched
  refine ⟨?_, first.trans touched⟩
  change OnCourse environment worker runId row.snapshot state.provider after at course
  change after.worker.phase.stepsLeft row.snapshot.val.cases.length = 0 at ended
  cases phase : after.worker.phase with
  | idle processed => exact .inl (finishes processed phase)
  | raised error =>
    unfold OnCourse at course
    simp only [phase] at course
    exact .inr ⟨error, rfl, course⟩
  | cancelSeen seen =>
    unfold OnCourse at course
    simp only [phase] at course
  | claimed | admitted | executing | reported =>
    rw [phase] at ended
    cases ended

end Ticks

section Rounds

variable {environment : Environment} {worker : Worker σ} {alone : Alone σ}

/-- One call of `run_once` after another. -/
def runRounds (environment : Environment) (worker : Worker σ) : Alone σ → List Round → Alone σ :=
  run fun alone round =>
    runOnce environment worker round.now alone.store alone.worker round.ticks

theorem mem_waitingRuns {store : Store} {row : RunRow} :
    row ∈ waitingRuns store ↔ store.runs.find? row.id = some row ∧ row.state = .created := by
  unfold waitingRuns
  rw [List.mem_filter, decide_eq_true_eq]
  exact and_congr_left fun _ => ⟨Table.find?_of_mem, Table.mem_of_find?⟩

theorem waitingRuns_ids (store : Store) : ((waitingRuns store).map RunRow.id).Nodup :=
  store.runs.distinct.sublist (List.filter_sublist.map _)

/-- The other runs that wait have ids of their own. -/
theorem mem_erase_waitingRuns {store : Store} {row other : RunRow} (member : row ∈ waitingRuns store)
    (listed : other ∈ (waitingRuns store).erase row) :
    other ∈ waitingRuns store ∧ other.id ≠ row.id := by
  obtain ⟨different, present⟩ := (waitingRuns_ids store).of_map.mem_erase_iff.mp listed
  exact ⟨present, fun same =>
    different (List.inj_on_of_nodup_map (waitingRuns_ids store) present member same)⟩

/-- A claim takes the oldest run that waits. -/
theorem claims_oldest {store : Store} (now : Time) (workerId : String) (leaseSeconds : Int)
    (waiting : waitingRuns store ≠ []) :
    ∃ row ∈ waitingRuns store, (∀ other ∈ waitingRuns store, row.createdAt ≤ other.createdAt) ∧
      (claimNextRun now workerId leaseSeconds store).1 = some row.id := by
  have same : store.candidates .created now = waitingRuns store := rfl
  rcases claim_cases ⟨workerId, leaseSeconds, now⟩ store with
    ⟨branch, row, first, member, least, claims⟩ | ⟨drained, _⟩
  · cases branch with
    | created =>
      rw [ClaimCall.claim] at claims
      exact ⟨row, same ▸ member, fun other listed => least other (same ▸ listed),
        congrArg Prod.fst claims⟩
    | expired => exact absurd (same ▸ first rfl) waiting
  · exact absurd (same ▸ drained) waiting

/-- The runs that wait once one of them does no longer. -/
theorem waitingRuns_erase {before after : Store} {row : RunRow} (member : row ∈ waitingRuns before)
    (touches : TouchesOnly row.id before after)
    (taken : ∃ other, after.runs.find? row.id = some other ∧ other.state ≠ .created) :
    ((waitingRuns before).erase row).Perm (waitingRuns after) := by
  have distinct (store : Store) : (waitingRuns store).Nodup := (waitingRuns_ids store).of_map
  refine (List.perm_ext_iff_of_nodup ((distinct before).erase row) (distinct after)).mpr fun other => ?_
  rw [(distinct before).mem_erase_iff, mem_waitingRuns, mem_waitingRuns]
  by_cases same : other.id = row.id
  · obtain ⟨current, found, begun⟩ := taken
    constructor
    · rintro ⟨apart, stored, _⟩
      rw [same] at stored
      exact absurd (Option.some.inj (stored.symm.trans (mem_waitingRuns.mp member).1)) apart
    · rintro ⟨stored, created⟩
      rw [same, found] at stored
      cases stored
      exact absurd created begun
  · rw [touches.row other.id same]
    exact ⟨And.right, fun both => ⟨fun equal => same (congrArg RunRow.id equal), both⟩⟩

theorem runRounds_raised {error : PyError} (phase : alone.worker.phase = .raised error)
    (rounds : List Round) : runRounds environment worker alone rounds = alone := by
  have still (events : List Tick) : run (tick environment worker) alone events = alone := by
    induction events with
    | nil => rfl
    | cons event rest ih => rw [run_cons, tick_settled event (.inr ⟨error, phase⟩), ih]
  unfold runRounds
  induction rounds with
  | nil => rfl
  | cons round rest ih =>
    have nothing : runOnce environment worker round.now alone.store alone.worker round.ticks = alone := by
      have polled : poll worker round.now alone.store alone.worker = (alone.worker, alone.store) := by
        rw [poll, phase]
      rw [runOnce, polled]
      exact still round.ticks
    rw [run_cons, nothing]
    exact ih

/-- Calls of `run_once` one after the other, no more than there are runs that wait. -/
theorem rounds_batch (rounds : List Round) {processed : Bool}
    (idle : alone.worker.phase = .idle processed)
    (unevaluated : ∀ row ∈ waitingRuns alone.store, alone.store.casesOf row.id = [])
    (few : rounds.length ≤ (waitingRuns alone.store).length)
    (enough : ∀ round ∈ rounds, ∀ row ∈ waitingRuns alone.store,
      row.snapshot.val.cases.length + 4 ≤ round.ticks.countP Tick.advances) :
    let final := runRounds environment worker alone rounds
    ∃ order, InOrder RunRow.createdAt (waitingRuns alone.store) order ∧
      Batch environment worker final.store (order.take rounds.length) alone.worker.provider
        final.worker ∧
      ∀ runId ∉ (order.take rounds.length).map RunRow.id,
        final.store.view runId = alone.store.view runId := by
  induction rounds generalizing alone processed with
  | nil =>
    obtain ⟨order, inOrder⟩ := exists_inOrder RunRow.createdAt (waitingRuns alone.store)
    refine ⟨order, inOrder, ?_, fun _ _ => rfl⟩
    have same : alone.worker = ⟨.idle processed, alone.worker.provider⟩ := by rw [← idle]
    rw [runRounds, run_nil, same]
    exact .done
  | cons round rest ih =>
    have waiting : waitingRuns alone.store ≠ [] := by
      intro none
      rw [none] at few
      exact Nat.not_succ_le_zero _ few
    obtain ⟨row, member, least, claims⟩ :=
      claims_oldest round.now worker.workerId worker.leaseSeconds waiting
    let next := runOnce environment worker round.now alone.store alone.worker round.ticks
    obtain ⟨outcome, touched⟩ : (Ended environment worker row.id row.snapshot alone.worker.provider next ∨
        ∃ error, next.worker.phase = .raised error ∧
          executeLocalEvaluation environment worker.retrying row.snapshot neverCancelled
            alone.worker.provider = .error error ∧ Held worker row.id row.snapshot next.store) ∧
        TouchesOnly row.id alone.store next.store :=
      runOnce_waiting idle claims (mem_waitingRuns.mp member).1 (unevaluated row member)
        (enough round List.mem_cons_self row member)
    have apart {other : RunRow} (listed : other ∈ (waitingRuns alone.store).erase row) :
        other ∈ waitingRuns alone.store ∧ other.id ≠ row.id := mem_erase_waitingRuns member listed
    have onward : runRounds environment worker alone (round :: rest) =
        runRounds environment worker next rest := rfl
    rw [onward]
    rcases outcome with ⟨phase, report, view, returned, stored, completed, evidence⟩ |
      ⟨error, phase, raises, held⟩
    · have left := waitingRuns_erase member touched
        ⟨view.run, (Store.view_eq_some.mp stored).1, by rw [completed]; decide⟩
      obtain ⟨order, inOrder, batch, frame⟩ := ih phase
        (fun other listed => by
          obtain ⟨present, different⟩ := apart (left.mem_iff.mpr listed)
          exact (touched.cases other.id different).trans (unevaluated other present))
        (by
          rw [← left.length_eq, List.length_erase_of_mem member]
          exact Nat.le_sub_one_of_lt few)
        fun later listed other waits => enough later (List.mem_cons_of_mem _ listed) other
          (apart (left.mem_iff.mpr waits)).1
      have fresh : row.id ∉ (order.take rest.length).map RunRow.id := by
        intro listed
        obtain ⟨other, taken, same⟩ := List.mem_map.mp listed
        have waits := inOrder.perm.mem_iff.mp (List.mem_of_mem_take taken)
        exact (apart (left.mem_iff.mpr waits)).2 same
      refine ⟨row :: order, InOrder.cons ⟨inOrder.perm.trans left.symm, inOrder.sorted⟩ member least,
        ?_, fun runId others => ?_⟩
      · exact .next returned ((frame row.id fresh).trans stored) completed evidence batch
      · simp only [List.length_cons, List.take_succ_cons, List.map_cons, List.mem_cons, not_or] at others
        exact (frame runId others.2).trans (touched.view others.1)
    · obtain ⟨order, inOrder⟩ :=
        exists_inOrder RunRow.createdAt ((waitingRuns alone.store).erase row)
      rw [runRounds_raised phase]
      refine ⟨row :: order, inOrder.cons member least, ?_, fun runId others => ?_⟩
      · refine .stopped raises held phase fun other taken => ?_
        obtain ⟨present, different⟩ := apart (inOrder.perm.mem_iff.mp (List.mem_of_mem_take taken))
        exact (touched.row other.id different).trans (mem_waitingRuns.mp present).1
      · simp only [List.length_cons, List.take_succ_cons, List.map_cons, List.mem_cons, not_or] at others
        exact touched.view others.1

end Rounds

section Fleets

variable {Index σ : Type} [DecidableEq Index] {environment : Environment}
  {workers : Index → Worker σ} {fleet : Fleet Index σ} {index : Index}

def Tick.event (index : Index) : Tick → FleetEvent Index
  | .advance now => .advance index now
  | .beat now => .beat index now

/-- The claim of a call of `run_once` and its ticks, as events of the fleet. -/
def Round.events (index : Index) (round : Round) : List (FleetEvent Index) :=
  .poll index round.now :: round.ticks.map (Tick.event index)

/-- The database and one worker of the fleet. -/
def Fleet.alone (fleet : Fleet Index σ) (index : Index) : Alone σ :=
  { store := fleet.store, worker := fleet.workers index }

theorem fleet_ticks (ticks : List Tick) :
    (run (fleetStep environment workers) fleet (ticks.map (Tick.event index))).alone index =
      run (tick environment (workers index)) (fleet.alone index) ticks := by
  induction ticks generalizing fleet with
  | nil => rfl
  | cons event rest ih =>
    rw [List.map_cons, run_cons, run_cons, ih]
    congr 1
    cases event <;> simp [Tick.event, fleetStep, Fleet.alone, tick]

/-- Where one worker alone acts, the fleet is that worker and the database. -/
theorem fleet_rounds (rounds : List Round) :
    (run (fleetStep environment workers) fleet (rounds.flatMap (Round.events index))).alone index =
      runRounds environment (workers index) (fleet.alone index) rounds := by
  induction rounds generalizing fleet with
  | nil => rfl
  | cons round rest ih =>
    rw [List.flatMap_cons, run_append, ih, Round.events, run_cons, fleet_ticks]
    unfold runRounds
    rw [run_cons]
    congr 1
    simp [fleetStep, Fleet.alone, runOnce]

end Fleets

section Examples

/-- Two runs are submitted. -/
def submittedTwice : List (FleetEvent Unit) :=
  [.call (submissionCall (literalSuite ["first"] {} greeting_valid)),
    .call ⟨⟨1, .createRun "project" (literalSuite ["first", "second"] {} twoGreetings_valid)
      HexDigest.zero HexDigest.zero none none "later"⟩, rfl⟩]

def twoRounds : List Round :=
  [⟨2, [.advance 3, .advance 4, .advance 5, .beat 6, .advance 7, .advance 8, .advance 9]⟩,
    ⟨10, [.advance 11, .advance 12, .advance 13, .advance 14, .advance 15, .advance 16]⟩]

end Examples

/-- In any state that a fleet reaches from a database without runs: as long as one idle worker
alone acts from then on, its calls of `run_once` evaluate the runs that wait for a worker one after
the other, in the order of their creation, each with the provider as the last one left it, and
store the reports, up to the first evaluation that raises. Other runs stay as they are. -/
theorem rounds_evaluate {Index σ : Type} [DecidableEq Index] (environment : Environment)
    (workers : Index → Worker σ) {fleet : Fleet Index σ} (empty : NoRuns fleet.store)
    (idle : fleet.AllIdle) (earlier : List (FleetEvent Index)) {index : Index} {processed : Bool}
    (waits : ((run (fleetStep environment workers) fleet earlier).workers index).phase =
      .idle processed) (rounds : List Round)
    (few : rounds.length ≤
      (waitingRuns (run (fleetStep environment workers) fleet earlier).store).length)
    (enough : ∀ round ∈ rounds,
      ∀ row ∈ waitingRuns (run (fleetStep environment workers) fleet earlier).store,
        row.snapshot.val.cases.length + 4 ≤ round.ticks.countP Tick.advances) :
    let reached := run (fleetStep environment workers) fleet earlier
    let final := run (fleetStep environment workers) fleet
      (earlier ++ rounds.flatMap (Round.events index))
    ∃ order, InOrder RunRow.createdAt (waitingRuns reached.store) order ∧
      Batch environment (workers index) final.store (order.take rounds.length)
        (reached.workers index).provider (final.workers index) ∧
      ∀ runId ∉ (order.take rounds.length).map RunRow.id,
        final.store.view runId = reached.store.view runId := by
  intro reached final
  have evidenced := (fleet_keeps environment workers earlier empty idle).1
  have unevaluated : ∀ row ∈ waitingRuns reached.store, reached.store.casesOf row.id = [] := by
    intro row member
    obtain ⟨found, created⟩ := mem_waitingRuns.mp member
    have viewed : reached.store.view row.id = some ⟨row, reached.store.casesOf row.id⟩ :=
      Store.view_eq_some.mpr ⟨found, rfl⟩
    rcases evidenced.stored row.id _ viewed with ⟨none, _⟩ | ⟨ended, _⟩
    · exact none
    · rw [created] at ended
      cases ended
  have alone : final.alone index =
      runRounds environment (workers index) (reached.alone index) rounds := by
    rw [← fleet_rounds]
    change (run _ fleet (earlier ++ _)).alone index = _
    rw [run_append]
  have batch := @rounds_batch σ environment (workers index) (reached.alone index) rounds processed waits
    unevaluated few enough
  rw [← alone] at batch
  exact batch

/-- Two calls evaluate both runs. -/
theorem twoRounds_evaluate : ∃ order : List RunRow, order.length = 2 ∧
    Batch Environment.plain sampleWorker
      (run soloStep soloFleet (submittedTwice ++ twoRounds.flatMap (Round.events ()))).store order ()
      ((run soloStep soloFleet (submittedTwice ++ twoRounds.flatMap (Round.events ()))).workers ()) := by
  have waiting : (waitingRuns (run soloStep soloFleet submittedTwice).store).length = 2 := by
    decide +kernel
  obtain ⟨order, inOrder, batch, _⟩ := rounds_evaluate Environment.plain (fun _ : Unit => sampleWorker)
    (⟨rfl, rfl, rfl⟩ : NoRuns soloFleet.store) (fun _ => ⟨false, rfl⟩) submittedTwice rfl twoRounds
    (Nat.le_of_eq waiting.symm) (by decide +kernel)
  have length : order.length = 2 := inOrder.perm.length_eq.trans waiting
  exact ⟨order, length, List.take_of_length_le (Nat.le_of_eq length) ▸ batch⟩

end RegressionDetection.Workers
