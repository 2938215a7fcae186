import RegressionDetection.Foundation.Races
import RegressionDetection.Persistence.Promotions
import RegressionDetection.Persistence.Submissions

/-! Two concurrent calls with one natural key to an operation that inserts a missing row:
`ensure_project`, `promote_run` and `create_run`, and how a lost race ends for the caller. -/

namespace RegressionDetection.Persistence

open Foundation Specification Execution

inductive RaceReply where
  | project (row : ProjectRow)
  | promotion (answer : Option (Bool × BaselineChannelRow))
  | run (runId : String)

abbrev StoreCall := RaceCall Store RaceReply PyError

/-- The INSERT of `ensure_project`, or of `promote_run` on a channel without a row. -/
def insertProject (project : ProjectRow) (store : Store) : Except PyError (RaceReply × Store) :=
  if project.slug ∈ store.projects.rows.map ProjectRow.slug then .error .integrityError
  else do
    let projects ← insertRow store.projects project
    return (.project project, { store with projects })

def insertChannel (row : BaselineChannelRow) (store : Store) : Except PyError (RaceReply × Store) := do
  let next ← insertBaseline store row
  return (.promotion (some (true, row)), next)

/-- `ensure_project`; an IntegrityError of its flush is not caught. -/
def ensureProjectCall (project : ProjectRow) : StoreCall where
  opening _ := none
  lookup store :=
    match store.projects.find? project.id with
    | some existing => .reply (.ok (.project existing))
    | none => .write (insertProject project)
  recover error _ := .error error

/-- The row that a promotion inserts. -/
def PromoteCall.row (call : PromoteCall) (projectId channel : String) : BaselineChannelRow :=
  newBaseline call.now projectId channel call.runId call.reason

/-- `promote_run`: the SELECT of the run comes before that of the channel row. An
IntegrityError of its flush is not caught. -/
def promoteRunCall (projectId channel : String) (call : PromoteCall) : StoreCall where
  opening store :=
    if (store.runs.find? call.runId).any RunRow.promotable then none
    else some (.ok (.promotion none))
  lookup store :=
    match store.baselines.find? (projectId, channel) with
    | none => .write (insertChannel (call.row projectId channel))
    | some existing =>
      if existing.runId = call.runId then .reply (.ok (.promotion (some (true, existing))))
      else .write fun store => .ok
        (.promotion (if store.baselines.matching (baselineHits projectId channel existing.runId) = 0
          then none
          else some (false, replaceBaseline call.runId call.reason existing.runId existing)),
          updateBaseline projectId channel store call existing.runId)
  recover error _ := .error error

/-- `create_run` with an idempotency key: the INSERT of the run comes first, and the INSERT
of the record needs no lookup. Its IntegrityError is answered by one. -/
def createRunCall (call : Submission) (key : String) : StoreCall where
  opening store :=
    match insertRun store call.row with
    | .ok _ => none
    | .error error => some (.error error)
  lookup _ := .write fun store => (call.writes store).map fun next => (.run call.runId, next)
  recover _ store :=
    (findIdempotentRun store call.projectId key (call.requestHash.getD "")).map .run

section Alone

variable {store : Store}

/-- A method's outcome as that of a call in a session of its own. -/
def concluded (store : Store) (wrap : α → RaceReply) (outcome : Except PyError (α × Store)) :
    Except PyError RaceReply × Store :=
  match outcome with
  | .ok (value, next) => (.ok (wrap value), next)
  | .error error => (.error error, store)

theorem ensureProjectCall_attempt (project : ProjectRow) :
    (ensureProjectCall project).attempt store =
      concluded store .project (ensureProject store project.id project.slug project.name) := by
  cases found : store.projects.find? project.id with
  | some existing =>
    simp [RaceCall.attempt, ensureProjectCall, ensureProject, found, concluded]
  | none =>
    by_cases taken : project.slug ∈ store.projects.rows.map ProjectRow.slug
    · simp only [RaceCall.attempt, ensureProjectCall, ensureProject, found, insertProject, if_pos taken,
        concluded]
    · simp only [RaceCall.attempt, ensureProjectCall, ensureProject, found, insertProject, if_neg taken]
      cases insertRow store.projects project <;> rfl

theorem promoteRunCall_attempt (projectId channel : String) (call : PromoteCall) :
    (promoteRunCall projectId channel call).attempt store =
      concluded store .promotion
        (promoteRun call.now projectId channel call.runId call.reason store) := by
  unfold promoteRun
  by_cases eligible : (store.runs.find? call.runId).any RunRow.promotable = true
  · rw [if_pos eligible]
    cases found : store.baselines.find? (projectId, channel) with
    | none =>
      simp only [RaceCall.attempt, promoteRunCall, promoteEligible, found, insertChannel,
        PromoteCall.row, if_pos eligible]
      cases insertBaseline store
        (newBaseline call.now projectId channel call.runId call.reason) <;> rfl
    | some existing =>
      by_cases same : existing.runId = call.runId
      · simp only [RaceCall.attempt, promoteRunCall, promoteEligible, found, if_pos eligible,
          if_pos same, concluded]
      · by_cases missed :
            store.baselines.matching (baselineHits projectId channel existing.runId) = 0 <;>
          simp [RaceCall.attempt, promoteRunCall, promoteEligible, found, eligible, same, missed,
            concluded, updateBaseline]
  · rw [if_neg eligible]
    simp only [RaceCall.attempt, promoteRunCall, if_neg eligible, concluded]

theorem createRunCall_attempt {call : Submission} {key : String}
    (keyed : call.idempotencyKey = some key) :
    (createRunCall call key).attempt store = concluded store .run (call.perform store) := by
  cases inserted : insertRun store call.row with
  | error error =>
    have performed : call.perform store = .error error := by
      unfold Submission.perform createRun
      rw [← Submission.row, inserted]
      rfl
    simp only [RaceCall.attempt, createRunCall, inserted, performed, concluded]
  | ok next =>
    rw [Submission.perform_inserted inserted, keyed]
    simp only [RaceCall.attempt, createRunCall, inserted, Submission.writes, keyed, bind, Except.bind,
      insertRow]
    cases recorded : next.idempotency.insert? (call.record key) with
    | some idempotency => simp [concluded, pure, Except.pure, Except.map]
    | none =>
      simp only [Except.map]
      cases findIdempotentRun store call.projectId key (call.requestHash.getD "") <;> rfl

end Alone

/-- Two calls of an operation with the same natural key. -/
inductive KeyedPair where
  | ensureProject (projectId : String) (slug name : Bool → String)
  | promoteRun (projectId channel : String) (call : Bool → PromoteCall)
  | createRun (call : Bool → Submission) (key : String)

/-- The calls carry one idempotency key and one body. -/
structure SameRequest (call : Bool → Submission) (key : String) : Prop where
  project : ∀ index, (call index).projectId = (call true).projectId
  keyed : ∀ index, (call index).idempotencyKey = some key
  body : ∀ index, (call index).requestHash = (call true).requestHash

namespace KeyedPair

def calls : KeyedPair → Bool → StoreCall
  | .ensureProject projectId slug name, index =>
    ensureProjectCall { id := projectId, slug := slug index, name := name index }
  | .promoteRun projectId channel call, index => promoteRunCall projectId channel (call index)
  | .createRun call key, index => createRunCall (call index) key

/-- The database after the turns of a schedule. -/
def final (pair : KeyedPair) (start : Store) (schedule : List Bool) : Race Store RaceReply PyError :=
  run (Race.step pair.calls) (Race.start start) schedule

/-- What callers see to: a free slug next to a new project id, a channel without a row, fresh run
ids in an existing project. -/
def Admissible (start : Store) : KeyedPair → Prop
  | .ensureProject projectId slug _ =>
    projectId ∉ start.projects.rows.map ProjectRow.id ∧
      ∀ index, slug index ∉ start.projects.rows.map ProjectRow.slug
  | .promoteRun projectId channel _ => start.baselines.find? (projectId, channel) = none
  | .createRun call key => SameRequest call key ∧ FreshSubmissions call start

/-- How many rows are stored under the key. -/
def rowCount (store : Store) : KeyedPair → Nat
  | .ensureProject projectId _ _ => store.projects.matching fun row => row.id = projectId
  | .promoteRun projectId channel _ =>
    store.baselines.matching fun row => row.key = (projectId, channel)
  | .createRun call key =>
    store.idempotency.matching fun row => row.key = ((call true).projectId, key)

/-- What a call returns that has inserted its row. -/
def reply (winner : Bool) : KeyedPair → RaceReply
  | .ensureProject projectId slug name =>
    .project { id := projectId, slug := slug winner, name := name winner }
  | .promoteRun projectId channel call =>
    .promotion (some (true, (call winner).row projectId channel))
  | .createRun call _ => .run (call winner).runId

/-- The stored row and the ends of the two calls are as documented: both return the winner's
row, or a promotion of a different run is refused or moves the channel on from it. For a key
that was in use, its record plays the winner's, and another body is a conflict. -/
def Accepts (start : Store) (winner : Bool) (outcome : Bool → Except PyError RaceReply)
    (store : Store) : KeyedPair → Prop
  | .ensureProject projectId slug name =>
    let row : ProjectRow := { id := projectId, slug := slug winner, name := name winner }
    store.projects.find? projectId = some row ∧ ∀ index, outcome index = .ok (.project row)
  | .promoteRun projectId channel call =>
    let row := (call winner).row projectId channel
    let other := call (!winner)
    let replaced := replaceBaseline other.runId other.reason row.runId row
    outcome winner = .ok (.promotion (some (true, row))) ∧
      if other.runId = row.runId then
        store.baselines.find? (projectId, channel) = some row ∧
          outcome (!winner) = .ok (.promotion (some (true, row)))
      else
        (store.baselines.find? (projectId, channel) = some row ∧
          outcome (!winner) = .ok (.promotion none)) ∨
        (store.baselines.find? (projectId, channel) = some replaced ∧
          outcome (!winner) = .ok (.promotion (some (false, replaced))))
  | .createRun call key =>
    let record := (start.idempotency.find? ((call true).projectId, key)).getD
      ((call winner).record key)
    store.idempotency.find? ((call true).projectId, key) = some record ∧
      ∀ index, outcome index =
        if record.requestHash = (call true).requestHash.getD "" then .ok (.run record.runId)
        else .error (.idempotencyConflict key)

/-- One row is stored under the key, and both calls have ended as documented. -/
def Tolerates (pair : KeyedPair) (start : Store) (final : Race Store RaceReply PyError) : Prop :=
  pair.rowCount final.state = 1 ∧
    ∃ winner outcome, (∀ index, final.phases index = .finished (outcome index)) ∧
      pair.Accepts start winner outcome final.state

/-- The run may be promoted. -/
def Eligible (store : Store) (call : PromoteCall) : Prop :=
  (store.runs.find? call.runId).any RunRow.promotable = true

/-- When the operation tolerates the race: always for `create_run`; otherwise when one call
commits before the other's lookup, which an ineligible promotion never reaches. For there to be
a row, a promotion needs its project and an eligible run. -/
def HoldsWhen (start : Store) (schedule : List Bool) : KeyedPair → Prop
  | .ensureProject _ _ _ => Apart schedule
  | .promoteRun projectId _ call =>
    projectId ∈ start.projects.rows.map ProjectRow.id ∧ (∃ index, Eligible start (call index)) ∧
      ((∀ index, Eligible start (call index)) → Apart schedule)
  | .createRun _ _ => True

end KeyedPair

section Outcomes

variable {pair : KeyedPair} {start : Store} {schedule : List Bool} {winner : Bool}
  {final : Race Store RaceReply PyError}

/-- An integrity error is no documented end. -/
theorem KeyedPair.Accepts.handled {outcome : Bool → Except PyError RaceReply} {store : Store}
    (accepts : pair.Accepts start winner outcome store) (index : Bool) :
    outcome index ≠ .error .integrityError := by
  intro raised
  cases pair with
  | ensureProject projectId slug name => cases raised.symm.trans (accepts.2 index)
  | promoteRun projectId channel call =>
    obtain ⟨won, lost⟩ := accepts
    by_cases own : index = winner
    · subst own
      cases raised.symm.trans won
    · obtain rfl := Bool.eq_not.mpr own
      split at lost
      · cases raised.symm.trans lost.2
      · rcases lost with refused | moved
        · cases raised.symm.trans refused.2
        · cases raised.symm.trans moved.2
  | createRun call key =>
    have ended := accepts.2 index
    rw [raised] at ended
    split at ended <;> cases ended

theorem KeyedPair.Tolerates.handled {index : Bool} (tolerates : pair.Tolerates start final) :
    final.phases index ≠ .finished (.error .integrityError) := by
  obtain ⟨_, winner, outcome, ended, accepts⟩ := tolerates
  intro raised
  exact accepts.handled index (RacePhase.finished.inj ((ended index).symm.trans raised))

theorem KeyedPair.Tolerates.of_finished {first second : Except PyError RaceReply}
    (counted : pair.rowCount final.state = 1) (won : final.phases winner = .finished first)
    (lost : final.phases (!winner) = .finished second)
    (accepts : ∀ outcome : Bool → Except PyError RaceReply, outcome winner = first →
      outcome (!winner) = second → pair.Accepts start winner outcome final.state) :
    pair.Tolerates start final := by
  let outcome (index : Bool) : Except PyError RaceReply := if index = winner then first else second
  have own : outcome winner = first := if_pos rfl
  have other : outcome (!winner) = second := if_neg (by cases winner <;> simp)
  have wonSo : final.phases winner = .finished (outcome winner) := by
    rw [own]
    exact won
  have lostSo : final.phases (!winner) = .finished (outcome (!winner)) := by
    rw [other]
    exact lost
  exact ⟨counted, winner, outcome, both_calls wonSo lostSo, accepts outcome own other⟩

/-- Without a handler a race is tolerated exactly when the calls do not meet. -/
theorem tolerates_iff_apart {statement : Bool → Store → Except PyError (RaceReply × Store)}
    {after : Bool → Store}
    (contest : Contest pair.calls start statement (fun index => pair.reply index) after
      PyError.integrityError)
    (unhandled : ∀ winner, (pair.calls (!winner)).recover .integrityError (after winner) =
      .error .integrityError)
    (late : ∀ winner, ∃ answer next, (pair.calls (!winner)).attempt (after winner) = (answer, next) ∧
      pair.rowCount next = 1 ∧ ∀ outcome : Bool → Except PyError RaceReply,
        outcome winner = .ok (pair.reply winner) → outcome (!winner) = answer →
          pair.Accepts start winner outcome next)
    (bothEnd : (pair.final start schedule).Over) :
    pair.Tolerates start (pair.final start schedule) ↔ Apart schedule := by
  obtain ⟨winner, won, ⟨apart, lost, state⟩ | ⟨together, lost, _⟩⟩ :=
    contest_outcome contest schedule bothEnd
  · obtain ⟨answer, next, attempt, counted, accepts⟩ := late winner
    rw [attempt] at lost state
    refine iff_of_true (.of_finished ?_ won lost ?_) apart
    · exact (congrArg (fun store => pair.rowCount store) state).trans counted
    · exact fun outcome own other => state ▸ accepts outcome own other
  · rw [unhandled] at lost
    exact iff_of_false (fun tolerates => tolerates.handled lost) together

section Projects

variable {projectId : String} {slug name : Bool → String}

/-- New projects under one id make each other's INSERT fail. -/
theorem ensureProject_contest
    (admissible : (KeyedPair.ensureProject projectId slug name).Admissible start) :
    ∃ after, Contest (KeyedPair.ensureProject projectId slug name).calls start
        (fun index => insertProject { id := projectId, slug := slug index, name := name index })
        (fun index => (KeyedPair.ensureProject projectId slug name).reply index) after
        PyError.integrityError ∧
      ∀ index, (after index).projects.find? projectId =
        some { id := projectId, slug := slug index, name := name index } := by
  obtain ⟨fresh, free⟩ := admissible
  let row (index : Bool) : ProjectRow := { id := projectId, slug := slug index, name := name index }
  have added (index : Bool) : ∃ next, start.projects.insert? (row index) = some next :=
    Table.insert?_of_fresh fresh
  choose projects inserted using added
  have found (index : Bool) : (projects index).find? projectId = some (row index) :=
    (Table.find?_insert (inserted index) projectId).trans (if_pos rfl)
  have missing : start.projects.find? projectId = none := Table.find?_eq_none_iff.mpr fresh
  refine ⟨fun index => { start with projects := projects index },
    ⟨fun _ => rfl, fun _ => rfl, fun index => ?_, fun index => ?_, fun index => ?_⟩, found⟩
  · simp [KeyedPair.calls, ensureProjectCall, missing]
  · rw [insertProject, if_neg (free index), insertRow, inserted index]
    rfl
  · have present : (row (!index)).id ∈ (projects index).rows.map ProjectRow.id :=
      List.mem_map.mpr ⟨_, Table.mem_of_find? (found index), rfl⟩
    unfold insertProject
    split
    · rfl
    · rw [insertRow, Table.insert?_eq_none_iff.mpr present]
      rfl

theorem ensureProject_tolerates_iff
    (admissible : (KeyedPair.ensureProject projectId slug name).Admissible start)
    (bothEnd : ((KeyedPair.ensureProject projectId slug name).final start schedule).Over) :
    (KeyedPair.ensureProject projectId slug name).Tolerates start
        ((KeyedPair.ensureProject projectId slug name).final start schedule) ↔ Apart schedule := by
  obtain ⟨after, contest, found⟩ := ensureProject_contest admissible
  refine tolerates_iff_apart contest (fun _ => rfl) (fun winner => ?_) bothEnd
  refine ⟨.ok ((KeyedPair.ensureProject projectId slug name).reply winner), after winner, ?_,
    Table.matching_of_found (found winner), fun outcome own other => ?_⟩
  · simp only [RaceCall.attempt, KeyedPair.calls, ensureProjectCall, found winner, KeyedPair.reply]
  · exact ⟨found winner, both_calls own other⟩

end Projects

section Promotions

variable {projectId channel : String} {call : Bool → PromoteCall}

/-- The first row of a channel goes in where its project exists. -/
theorem insertBaseline_new {row : BaselineChannelRow}
    (known : row.projectId ∈ start.projects.rows.map ProjectRow.id)
    (missing : start.baselines.find? row.key = none) :
    ∃ baselines, insertBaseline start row = .ok { start with baselines } ∧
      baselines.find? row.key = some row := by
  obtain ⟨baselines, inserted⟩ := Table.insert?_of_fresh (Table.find?_eq_none_iff.mp missing)
  exact ⟨baselines, insertBaseline_eq_ok.mpr ⟨known, baselines, inserted, rfl⟩,
    (Table.find?_insert inserted _).trans (if_pos rfl)⟩

/-- A channel takes no second row. -/
theorem insertBaseline_taken {store : Store} {row stored : BaselineChannelRow}
    (found : store.baselines.find? row.key = some stored) :
    insertBaseline store row = .error .integrityError := by
  have present : row.key ∈ store.baselines.rows.map BaselineChannelRow.key :=
    List.mem_map.mpr ⟨stored, Table.mem_of_find? found, Table.key_of_find? found⟩
  unfold insertBaseline
  split
  · rw [insertRow, Table.insert?_eq_none_iff.mpr present]
    rfl
  · rfl

/-- Promotions of eligible runs to a new channel make each other's INSERT fail. -/
theorem promoteRun_contest (known : projectId ∈ start.projects.rows.map ProjectRow.id)
    (missing : start.baselines.find? (projectId, channel) = none)
    (eligible : ∀ index, KeyedPair.Eligible start (call index)) :
    ∃ after, Contest (KeyedPair.promoteRun projectId channel call).calls start
        (fun index => insertChannel ((call index).row projectId channel))
        (fun index => (KeyedPair.promoteRun projectId channel call).reply index) after
        PyError.integrityError ∧
      ∀ index, (after index).runs = start.runs ∧
        (after index).baselines.find? (projectId, channel) =
          some ((call index).row projectId channel) := by
  have added (index : Bool) : ∃ baselines,
      insertBaseline start ((call index).row projectId channel) = .ok { start with baselines } ∧
        baselines.find? (projectId, channel) = some ((call index).row projectId channel) :=
    insertBaseline_new known missing
  choose baselines inserted found using added
  refine ⟨fun index => { start with baselines := baselines index },
    ⟨fun index => if_pos (eligible index), fun index => if_pos (eligible (!index)),
      fun index => ?_, fun index => ?_, fun index => ?_⟩, fun index => ⟨rfl, found index⟩⟩
  · simp [KeyedPair.calls, promoteRunCall, missing]
  · rw [insertChannel, inserted index]
    rfl
  · have refused : insertBaseline { start with baselines := baselines index }
        ((call (!index)).row projectId channel) = .error .integrityError :=
      insertBaseline_taken (found index)
    rw [insertChannel, refused]
    rfl

/-- The conditional UPDATE of a row just read hits it, and nothing else. -/
theorem baselineHits_found {store : Store} {row : BaselineChannelRow}
    (found : store.baselines.find? (projectId, channel) = some row) :
    store.baselines.matching (baselineHits projectId channel row.runId) = 1 := by
  have counted := Table.matching_key store.baselines (projectId, channel)
    fun stored => decide (stored.runId = row.runId)
  rw [found] at counted
  exact counted.trans (if_pos (decide_eq_true rfl))

theorem updateBaseline_found {store : Store} {row : BaselineChannelRow} (other : PromoteCall)
    (found : store.baselines.find? (projectId, channel) = some row) :
    (updateBaseline projectId channel store other row.runId).baselines.find? (projectId, channel) =
      some (replaceBaseline other.runId other.reason row.runId row) := by
  unfold updateBaseline baselineHits
  rw [Table.find?_updateKey, if_pos rfl, found]
  simp

/-- A promotion that finds the winner's row returns it or moves the channel on. -/
theorem promoteRun_late {store : Store} (eligible : KeyedPair.Eligible store (call (!winner)))
    (found : store.baselines.find? (projectId, channel) = some ((call winner).row projectId channel)) :
    ∃ answer next,
      ((KeyedPair.promoteRun projectId channel call).calls (!winner)).attempt store = (answer, next) ∧
      (KeyedPair.promoteRun projectId channel call).rowCount next = 1 ∧
      ∀ outcome : Bool → Except PyError RaceReply,
        outcome winner = .ok ((KeyedPair.promoteRun projectId channel call).reply winner) →
          outcome (!winner) = answer →
            (KeyedPair.promoteRun projectId channel call).Accepts start winner outcome next := by
  let row := (call winner).row projectId channel
  let other := call (!winner)
  by_cases same : row.runId = other.runId
  · refine ⟨.ok (.promotion (some (true, row))), store, ?_, Table.matching_of_found found,
      fun outcome own ended => ⟨own, ?_⟩⟩
    · have planned : (promoteRunCall projectId channel other).lookup store =
          .reply (.ok (.promotion (some (true, row)))) := by
        simp only [promoteRunCall, found]
        exact if_pos same
      exact RaceCall.attempt_reply (if_pos eligible) planned
    · rw [if_pos same.symm]
      exact ⟨found, ended⟩
  · have hit := baselineHits_found found
    let replaced := replaceBaseline other.runId other.reason row.runId row
    let next := updateBaseline projectId channel store other row.runId
    have moved : next.baselines.find? (projectId, channel) = some replaced :=
      updateBaseline_found other found
    refine ⟨.ok (.promotion (some (false, replaced))), next, ?_, Table.matching_of_found moved,
      fun outcome own ended => ⟨own, ?_⟩⟩
    · have planned : (promoteRunCall projectId channel other).lookup store = .write fun store => .ok
          (.promotion (if store.baselines.matching (baselineHits projectId channel row.runId) = 0
            then none
            else some (false, replaced)),
            updateBaseline projectId channel store other row.runId) := by
        simp only [promoteRunCall, found]
        exact if_neg same
      refine RaceCall.attempt_write (if_pos eligible) planned ?_
      rw [if_neg (by rw [hit]; decide)]
    · rw [if_neg (Ne.symm same)]
      exact .inr ⟨moved, ended⟩

/-- Next to an ineligible promotion, an eligible one has the channel to itself. -/
theorem promoteRun_aside {index : Bool} (known : projectId ∈ start.projects.rows.map ProjectRow.id)
    (missing : start.baselines.find? (projectId, channel) = none)
    (eligible : KeyedPair.Eligible start (call index))
    (barred : ¬ KeyedPair.Eligible start (call (!index)))
    (bothEnd : ((KeyedPair.promoteRun projectId channel call).final start schedule).Over) :
    (KeyedPair.promoteRun projectId channel call).Tolerates start
      ((KeyedPair.promoteRun projectId channel call).final start schedule) := by
  obtain ⟨baselines, inserted, found⟩ : ∃ baselines,
      insertBaseline start ((call index).row projectId channel) = .ok { start with baselines } ∧
        baselines.find? (projectId, channel) = some ((call index).row projectId channel) :=
    insertBaseline_new known missing
  have attempt : ((KeyedPair.promoteRun projectId channel call).calls index).attempt start =
      (.ok (.promotion (some (true, (call index).row projectId channel))),
        { start with baselines }) := by
    have planned : (promoteRunCall projectId channel (call index)).lookup start =
        .write (insertChannel ((call index).row projectId channel)) := by
      simp only [promoteRunCall, missing]
    refine RaceCall.attempt_write (if_pos eligible) planned ?_
    rw [insertChannel, inserted]
    rfl
  have differ : (call (!index)).runId ≠ ((call index).row projectId channel).runId := by
    intro same
    change (call (!index)).runId = (call index).runId at same
    unfold KeyedPair.Eligible at eligible barred
    rw [same] at barred
    exact barred eligible
  obtain ⟨won, state, lost⟩ := bystander_outcome (if_neg barred)
    (by rw [attempt]; exact if_neg barred) schedule bothEnd
  rw [attempt] at won state
  refine .of_finished ?_ won lost fun outcome own other => ⟨own, ?_⟩
  · exact (congrArg (fun store : Store => store.baselines.matching _) state).trans
      (Table.matching_of_found found)
  · rw [if_neg differ]
    exact .inl ⟨(congrArg (fun store : Store => store.baselines.find? _) state).trans found, other⟩

/-- Without a project, or without an eligible run, no promotion stores a row. -/
theorem promoteRun_barren (missing : start.baselines.find? (projectId, channel) = none)
    (hopeless : projectId ∈ start.projects.rows.map ProjectRow.id →
      ∀ index, ¬ KeyedPair.Eligible start (call index)) :
    Barren (KeyedPair.promoteRun projectId channel call).calls start := by
  intro index statement opens planned
  have eligible : KeyedPair.Eligible start (call index) := by
    by_contra barred
    cases opens.symm.trans (if_neg barred)
  have unknown : projectId ∉ start.projects.rows.map ProjectRow.id :=
    fun known => hopeless known index eligible
  have inserts : (promoteRunCall projectId channel (call index)).lookup start =
      .write (insertChannel ((call index).row projectId channel)) := by
    simp only [promoteRunCall, missing]
  obtain rfl := Plan.write.inj (inserts.symm.trans planned)
  have refused : insertBaseline start ((call index).row projectId channel) = .error .integrityError :=
    if_neg unknown
  exact ⟨.integrityError, by rw [insertChannel, refused]; rfl⟩

theorem promoteRun_tolerates_iff
    (missing : start.baselines.find? (projectId, channel) = none)
    (bothEnd : ((KeyedPair.promoteRun projectId channel call).final start schedule).Over) :
    (KeyedPair.promoteRun projectId channel call).Tolerates start
        ((KeyedPair.promoteRun projectId channel call).final start schedule) ↔
      (KeyedPair.promoteRun projectId channel call).HoldsWhen start schedule := by
  by_cases hopeless : projectId ∈ start.projects.rows.map ProjectRow.id →
      ∀ index, ¬ KeyedPair.Eligible start (call index)
  · obtain ⟨state, _⟩ := barren_outcome (promoteRun_barren missing hopeless) schedule bothEnd
    refine iff_of_false (fun tolerates => ?_) fun holds => ?_
    · have none : (KeyedPair.promoteRun projectId channel call).rowCount start = 0 :=
        Table.matching_of_missing missing
      have one := tolerates.1
      rw [KeyedPair.final, state, none] at one
      cases one
    · obtain ⟨known, ⟨index, eligible⟩, _⟩ := holds
      exact hopeless known index eligible
  · obtain ⟨known, some⟩ := Classical.not_imp.mp hopeless
    obtain ⟨index, able⟩ := not_forall.mp some
    have eligible : KeyedPair.Eligible start (call index) := not_not.mp able
    by_cases barred : KeyedPair.Eligible start (call (!index))
    · have both (other : Bool) : KeyedPair.Eligible start (call other) := by
        by_cases own : other = index
        · exact own ▸ eligible
        · obtain rfl : other = !index := by cases index <;> cases other <;> simp_all
          exact barred
      obtain ⟨after, contest, facts⟩ := promoteRun_contest known missing both
      have apart := tolerates_iff_apart contest (fun _ => rfl) (fun winner => promoteRun_late
        (by unfold KeyedPair.Eligible; rw [(facts winner).1]; exact both _) (facts winner).2) bothEnd
      exact apart.trans ⟨fun apart => ⟨known, ⟨index, eligible⟩, fun _ => apart⟩,
        fun holds => holds.2.2 both⟩
    · refine iff_of_true (promoteRun_aside known missing eligible barred bothEnd) ?_
      exact ⟨known, ⟨index, eligible⟩, fun both => absurd (both _) barred⟩

end Promotions

section Submissions

variable {call : Bool → Submission} {key : String}

/-- What `find_idempotent_run` answers, from the record under the key. -/
theorem findIdempotentRun_found {store : Store} {projectId requestHash : String}
    {record : IdempotencyRecordRow} (found : store.idempotency.find? (projectId, key) = some record) :
    findIdempotentRun store projectId key requestHash =
      if record.requestHash = requestHash then .ok record.runId
      else .error (.idempotencyConflict key) := by
  rw [findIdempotentRun, found]
  split <;> simp_all

/-- An INSERT of the record fails once there is one. -/
theorem Submission.writes_taken {index : Bool} {store : Store} {record : IdempotencyRecordRow}
    (same : SameRequest call key)
    (inserted : ∃ runs, insertRun store (call index).row = .ok { store with runs })
    (found : store.idempotency.find? ((call true).projectId, key) = some record) :
    (call index).writes store = .error .integrityError := by
  obtain ⟨runs, inserted⟩ := inserted
  have present : ((call index).record key).key ∈
      store.idempotency.rows.map IdempotencyRecordRow.key := by
    refine List.mem_map.mpr ⟨record, Table.mem_of_find? found, ?_⟩
    rw [Table.key_of_find? found, ← same.project index]
    rfl
  unfold Submission.writes
  rw [inserted, same.keyed index]
  dsimp only [bind, Except.bind]
  rw [insertRow, Table.insert?_eq_none_iff.mpr present]

/-- The lookup after a refused INSERT, from the record under the key. -/
theorem createRun_recovers {store : Store} {record : IdempotencyRecordRow}
    (same : SameRequest call key)
    (found : store.idempotency.find? ((call true).projectId, key) = some record) (index : Bool)
    (error : PyError) :
    ((KeyedPair.createRun call key).calls index).recover error store =
      if record.requestHash = (call true).requestHash.getD "" then .ok (.run record.runId)
      else .error (.idempotencyConflict key) := by
  change (findIdempotentRun store (call index).projectId key
    ((call index).requestHash.getD "")).map RaceReply.run = _
  rw [same.project index, same.body index, findIdempotentRun_found found]
  split <;> rfl

theorem createRun_opens {store : Store} {index : Bool}
    (inserted : ∃ runs, insertRun store (call index).row = .ok { store with runs }) :
    ((KeyedPair.createRun call key).calls index).opening store = none := by
  obtain ⟨runs, inserted⟩ := inserted
  simp only [KeyedPair.calls, createRunCall, inserted]

theorem createRun_inserts (fresh : FreshSubmissions call start) (index : Bool) :
    ∃ runs, insertRun start (call index).row = .ok { start with runs } ∧
      runs.rows = start.runs.rows ++ [(call index).row] := by
  have unused : (call index).row.id ∉ start.runs.rows.map RunRow.id := fresh.unused index
  obtain ⟨runs, added, inserted⟩ := insertRun_of_unused (fresh.projects index) unused
  exact ⟨runs, inserted, (Table.rows_insert added).1⟩

/-- Calls with a new key make each other's INSERT of the record fail. -/
theorem createRun_contest (same : SameRequest call key) (fresh : FreshSubmissions call start)
    (missing : start.idempotency.find? ((call true).projectId, key) = none) :
    ∃ after, Contest (KeyedPair.createRun call key).calls start
        (fun index store => ((call index).writes store).map fun next => (.run (call index).runId, next))
        (fun index => (KeyedPair.createRun call key).reply index) after PyError.integrityError ∧
      ∀ index, (after index).idempotency.find? ((call true).projectId, key) =
        some ((call index).record key) := by
  have keys (index : Bool) : ((call index).record key).key = ((call true).projectId, key) :=
    Prod.ext (same.project index) rfl
  have recorded (index : Bool) :
      ∃ idempotency, start.idempotency.insert? ((call index).record key) = some idempotency := by
    refine Table.insert?_of_fresh ?_
    rw [keys index]
    exact Table.find?_eq_none_iff.mp missing
  choose runs inserted rows using createRun_inserts fresh
  choose idempotency added using recorded
  let after (index : Bool) : Store :=
    { start with runs := runs index, idempotency := idempotency index }
  have found (index : Bool) : (after index).idempotency.find? ((call true).projectId, key) =
      some ((call index).record key) :=
    (Table.find?_insert (added index) _).trans (if_pos (keys index))
  have late (index : Bool) :
      ∃ runs, insertRun (after index) (call (!index)).row = .ok { after index with runs } := by
    have unused : (call (!index)).row.id ∉ (runs index).rows.map RunRow.id := by
      rw [rows index, List.map_append, List.mem_append, not_or]
      refine ⟨fresh.unused (!index), fun member => ?_⟩
      have equal := fresh.distinct (List.mem_singleton.mp member)
      cases index <;> cases equal
    obtain ⟨runs, _, inserted⟩ : ∃ runs, _ ∧ insertRun (after index) (call (!index)).row = _ :=
      insertRun_of_unused (fresh.projects (!index)) unused
    exact ⟨runs, inserted⟩
  refine ⟨after, ⟨fun index => createRun_opens ⟨runs index, inserted index⟩,
    fun index => createRun_opens (late index), fun _ => rfl, fun index => ?_, fun index => ?_⟩, found⟩
  · have written : (call index).writes start = .ok (after index) := by
      unfold Submission.writes
      rw [inserted index, same.keyed index]
      dsimp only [bind, Except.bind]
      rw [insertRow, added index]
      rfl
    rw [written]
    rfl
  · rw [Submission.writes_taken same (late index) (found index)]
    rfl

/-- A used key lets neither call insert its record. -/
theorem createRun_barren {record : IdempotencyRecordRow} (same : SameRequest call key)
    (fresh : FreshSubmissions call start)
    (found : start.idempotency.find? ((call true).projectId, key) = some record) :
    Barren (KeyedPair.createRun call key).calls start := by
  rintro index statement _ ⟨⟩
  obtain ⟨runs, inserted, _⟩ := createRun_inserts fresh index
  have refused := Submission.writes_taken same ⟨runs, inserted⟩ found
  exact ⟨.integrityError, congrArg (Except.map _) refused⟩

/-- With a used key both calls answer from its record. -/
theorem createRun_tolerates_stored {record : IdempotencyRecordRow} (same : SameRequest call key)
    (fresh : FreshSubmissions call start)
    (stored : start.idempotency.find? ((call true).projectId, key) = some record)
    (bothEnd : ((KeyedPair.createRun call key).final start schedule).Over) :
    (KeyedPair.createRun call key).Tolerates start
      ((KeyedPair.createRun call key).final start schedule) := by
  have barren := createRun_barren same fresh stored
  obtain ⟨state, ended⟩ := barren_outcome barren schedule bothEnd
  refine ⟨?_, true, fun index => (((KeyedPair.createRun call key).calls index).attempt start).1,
    ended, ?_, fun index => ?_⟩
  · exact (congrArg (fun store : Store => store.idempotency.matching _) state).trans
      (Table.matching_of_found stored)
  · rw [stored]
    exact (congrArg (fun store : Store => store.idempotency.find? _) state).trans stored
  · obtain ⟨runs, inserted, _⟩ := createRun_inserts fresh index
    have refused := Submission.writes_taken same ⟨runs, inserted⟩ stored
    have opens : ((KeyedPair.createRun call key).calls index).opening start = none :=
      createRun_opens ⟨runs, inserted⟩
    have attempt := RaceCall.attempt_refused opens rfl
      (congrArg (Except.map fun next => (RaceReply.run (call index).runId, next)) refused)
    rw [stored]
    exact (congrArg Prod.fst attempt).trans (createRun_recovers same stored index .integrityError)

/-- With a new key both calls return the winner's run, whether or not they meet. -/
theorem createRun_tolerates_missing (same : SameRequest call key)
    (fresh : FreshSubmissions call start)
    (missing : start.idempotency.find? ((call true).projectId, key) = none)
    (bothEnd : ((KeyedPair.createRun call key).final start schedule).Over) :
    (KeyedPair.createRun call key).Tolerates start
      ((KeyedPair.createRun call key).final start schedule) := by
  obtain ⟨after, contest, found⟩ := createRun_contest same fresh missing
  obtain ⟨winner, won, outcome⟩ := contest_outcome contest schedule bothEnd
  have attempt := RaceCall.attempt_refused (contest.opensLate winner) rfl (contest.collides winner)
  have both : ((KeyedPair.createRun call key).final start schedule).phases (!winner) =
        .finished (((KeyedPair.createRun call key).calls (!winner)).recover .integrityError
          (after winner)) ∧
      ((KeyedPair.createRun call key).final start schedule).state = after winner := by
    rcases outcome with ⟨_, lost, state⟩ | ⟨_, lost, state⟩
    · rw [attempt] at lost state
      exact ⟨lost, state⟩
    · exact ⟨lost, state⟩
  obtain ⟨lost, state⟩ := both
  have body : ((call winner).record key).requestHash = (call true).requestHash.getD "" :=
    congrArg (Option.getD · "") (same.body winner)
  have recovered := (createRun_recovers same (found winner) (!winner) .integrityError).trans
    (if_pos body)
  refine .of_finished ?_ won lost fun outcome own other => ?_
  · exact (congrArg (fun store : Store => store.idempotency.matching _) state).trans
      (Table.matching_of_found (found winner))
  · have ended : ∀ index, outcome index = .ok (.run (call winner).runId) :=
      both_calls own (other.trans recovered)
    refine ⟨?_, fun index => ?_⟩
    · rw [missing]
      exact (congrArg (fun store : Store => store.idempotency.find? _) state).trans (found winner)
    · rw [missing]
      exact (ended index).trans (if_pos body).symm

theorem createRun_tolerates (same : SameRequest call key) (fresh : FreshSubmissions call start)
    (bothEnd : ((KeyedPair.createRun call key).final start schedule).Over) :
    (KeyedPair.createRun call key).Tolerates start
      ((KeyedPair.createRun call key).final start schedule) := by
  cases stored : start.idempotency.find? ((call true).projectId, key) with
  | some record => exact createRun_tolerates_stored same fresh stored bothEnd
  | none => exact createRun_tolerates_missing same fresh stored bothEnd

end Submissions

/-- Which races the operations tolerate, over every interleaving of the two calls. -/
theorem races_tolerated_iff (pair : KeyedPair) (start : Store) (admissible : pair.Admissible start)
    (schedule : List Bool) (bothEnd : (pair.final start schedule).Over) :
    pair.Tolerates start (pair.final start schedule) ↔ pair.HoldsWhen start schedule := by
  cases pair with
  | ensureProject projectId slug name => exact ensureProject_tolerates_iff admissible bothEnd
  | promoteRun projectId channel call => exact promoteRun_tolerates_iff admissible bothEnd
  | createRun call key =>
    exact iff_of_true (createRun_tolerates admissible.1 admissible.2 bothEnd) trivial

end Outcomes

section Examples

/-- A project with a run that has passed. -/
def passedStore : Store :=
  { projectStore with
    runs := ⟨[{ createdRow 0 "run" "project" ⟨plainDocument "Say ok" ["first"] {}, greeting_valid⟩
      HexDigest.zero HexDigest.zero with state := .completed, gateOutcome := some .pass }],
      by decide⟩ }

/-- Two promotions of the run to one channel. -/
def twinPromotions : KeyedPair := .promoteRun "project" "main" fun _ => ⟨"run", none, 2⟩

/-- Both calls look the channel up before either INSERT. -/
def lookupsFirst : List Bool := [true, false, true, false, true, true, false, false]

/-- The first call has committed when the second one begins. -/
def oneByOne : List Bool := [true, true, true, true, false, false]

end Examples

/-- The run is promoted, and a call that comes after that returns the row. -/
theorem twinPromotions_tolerated :
    twinPromotions.Tolerates passedStore (twinPromotions.final passedStore oneByOne) := by
  have bothEnd : (twinPromotions.final passedStore oneByOne).Over := by
    rintro (_ | _)
    · exact ⟨_, rfl⟩
    · exact ⟨_, rfl⟩
  refine (races_tolerated_iff twinPromotions passedStore rfl oneByOne bothEnd).mpr ?_
  refine ⟨by decide, ⟨true, rfl⟩, fun _ => ?_⟩
  exact ⟨true, [true, true, true, true], by decide, by decide, by decide⟩

/-- Of two promotions of one run, one raises when neither has seen the other's row. -/
theorem twinPromotions_collide :
    ¬ ∀ (pair : KeyedPair) (start : Store), pair.Admissible start → ∀ schedule : List Bool,
      (pair.final start schedule).Over → pair.Tolerates start (pair.final start schedule) := by
  intro claim
  have bothEnd : (twinPromotions.final passedStore lookupsFirst).Over := by
    rintro (_ | _)
    · exact ⟨_, rfl⟩
    · exact ⟨_, rfl⟩
  have raised : (twinPromotions.final passedStore lookupsFirst).phases false =
      .finished (.error .integrityError) := rfl
  exact (claim twinPromotions passedStore rfl lookupsFirst bothEnd).handled raised

end RegressionDetection.Persistence
