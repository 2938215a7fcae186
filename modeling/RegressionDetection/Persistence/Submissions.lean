import Mathlib.Logic.Function.Basic
import RegressionDetection.Foundation.Run
import RegressionDetection.Persistence.Lifecycle

/-! Concurrent `create_run` calls as their database steps. The transaction of an
uncommitted idempotency record makes a colliding INSERT wait for its end. -/

namespace RegressionDetection.Persistence

open Foundation Specification

universe u

variable {Index : Type u}

/-- One call, with the clock reading and the fresh id it draws. -/
structure Submission where
  now : Time
  runId : String
  projectId : String
  specification : EvaluationSpecification
  configurationHash : HexDigest
  datasetHash : HexDigest
  idempotencyKey : Option String
  requestHash : Option String

/-- The run row the call inserts. -/
def Submission.row (call : Submission) : RunRow :=
  createdRow call.now call.runId call.projectId call.specification call.configurationHash
    call.datasetHash

/-- The idempotency record it inserts under a key. -/
def Submission.record (call : Submission) (key : String) : IdempotencyRecordRow :=
  { projectId := call.projectId, idempotencyKey := key, requestHash := call.requestHash.getD "",
    runId := call.runId }

/-- What `find_idempotent_run` makes of a stored record. -/
def Submission.verdict (call : Submission) (key : String) (record : IdempotencyRecordRow) :
    Except PyError String :=
  if record.requestHash ≠ call.requestHash.getD "" then .error (.idempotencyConflict key)
  else .ok record.runId

/-- Where a call and its transaction stand. -/
inductive SubmissionPhase where
  | started
  | runInserted (key : String)
  /-- `create_run` has returned the new id; the commit of its caller is due. -/
  | returning
  | committed
  /-- The INSERT of the record has failed and the session is rolled back. -/
  | rolledBack (key : String)
  | answered (outcome : Except PyError String)
  /-- The transaction was lost before its commit. -/
  | aborted
deriving DecidableEq

/-- The committed store, and where every call stands. `holders` are the open transactions
that have inserted a record; `log` is bookkeeping: the commits, in order. -/
structure SubmissionState (Index : Type u) where
  store : Store
  phases : Index → SubmissionPhase
  holders : List Index
  log : List Index

inductive SubmissionEvent (Index : Type u) where
  | advance (index : Index)
  | abort (index : Index)

/-- The call whose event it is. -/
def SubmissionEvent.index : SubmissionEvent Index → Index
  | .advance index | .abort index => index

/-- Nobody has begun. -/
def SubmissionState.start (store : Store) : SubmissionState Index :=
  { store, phases := fun _ => .started, holders := [], log := [] }

section Steps

variable [DecidableEq Index]

def SubmissionState.enter (state : SubmissionState Index) (index : Index) (phase : SubmissionPhase) :
    SubmissionState Index :=
  { state with phases := Function.update state.phases index phase }

/-- Another open transaction has inserted a record under the same project and key. -/
def SubmissionState.blocked (calls : Index → Submission) (state : SubmissionState Index)
    (index : Index) : Bool :=
  state.holders.any fun other =>
    decide ((calls other).projectId = (calls index).projectId) &&
      decide ((calls other).idempotencyKey = (calls index).idempotencyKey)

/-- What a commit makes visible: the run and, under a key, the record. -/
def Submission.writes (call : Submission) (store : Store) : Except PyError Store := do
  let inserted ← insertRun store call.row
  match call.idempotencyKey with
  | none => return inserted
  | some key =>
    let idempotency ← insertRow inserted.idempotency (call.record key)
    return { inserted with idempotency }

def submitStep (calls : Index → Submission) (state : SubmissionState Index) :
    SubmissionEvent Index → SubmissionState Index
  | .advance index =>
    match state.phases index with
    | .started =>
      match insertRun state.store (calls index).row with
      | .error error => state.enter index (.answered (.error error))
      | .ok _ =>
        match (calls index).idempotencyKey with
        | none => state.enter index .returning
        | some key => state.enter index (.runInserted key)
    | .runInserted key =>
      -- A colliding INSERT waits for the other transaction, then fails or succeeds.
      if state.blocked calls index then state
      else
        match state.store.idempotency.insert? ((calls index).record key) with
        | some _ => { state.enter index .returning with holders := index :: state.holders }
        | none => state.enter index (.rolledBack key)
    | .returning =>
      match (calls index).writes state.store with
      | .ok store =>
        { state.enter index .committed with
          store, holders := state.holders.erase index, log := state.log ++ [index] }
      | .error error =>
        { state.enter index (.answered (.error error)) with holders := state.holders.erase index }
    | .rolledBack key =>
      state.enter index (.answered (findIdempotentRun state.store (calls index).projectId key
        ((calls index).requestHash.getD "")))
    | .committed | .answered _ | .aborted => state
  | .abort index =>
    match state.phases index with
    | .committed | .answered _ | .aborted => state
    | _ => { state.enter index .aborted with holders := state.holders.erase index }

end Steps

/-- The run id with which the call has returned, be its commit still due or not. -/
def SubmissionState.returned (calls : Index → Submission) (state : SubmissionState Index)
    (index : Index) : Option String :=
  match state.phases index with
  | .returning | .committed => some (calls index).runId
  | .answered (.ok runId) => some runId
  | _ => none

/-- The exception with which it has ended. -/
def SubmissionState.raised (state : SubmissionState Index) (index : Index) : Option PyError :=
  match state.phases index with
  | .answered (.error error) => some error
  | _ => none

section Alone

variable [DecidableEq Index] {calls : Index → Submission}

@[simp] theorem SubmissionState.enter_self (state : SubmissionState Index) (index : Index)
    (phase : SubmissionPhase) : (state.enter index phase).phases index = phase := by
  simp [SubmissionState.enter]

@[simp] theorem SubmissionState.enter_other {state : SubmissionState Index} {index other : Index}
    {phase : SubmissionPhase} (apart : other ≠ index) :
    (state.enter index phase).phases other = state.phases other := by
  simp [SubmissionState.enter, apart]

/-- `create_run` on the arguments of the call, in a session of its own. -/
def Submission.perform (call : Submission) (store : Store) : Except PyError (String × Store) :=
  createRun call.now call.runId store store call.projectId call.specification
    call.configurationHash call.datasetHash call.idempotencyKey call.requestHash

theorem Submission.perform_inserted {call : Submission} {store inserted : Store}
    (added : insertRun store call.row = .ok inserted) :
    call.perform store =
      match call.idempotencyKey with
      | none => .ok (call.runId, inserted)
      | some key =>
        match inserted.idempotency.insert? (call.record key) with
        | some idempotency => .ok (call.runId, { inserted with idempotency })
        | none => do
          let existing ← findIdempotentRun store call.projectId key (call.requestHash.getD "")
          return (existing, store) :=
  createRun_inserted added

/-- A call that nobody interrupts does in its steps what `create_run` and a commit do. -/
theorem createRun_steps (state : SubmissionState Index) (index : Index)
    (begins : state.phases index = .started) (alone : state.holders = []) :
    let final := run (submitStep calls) state (List.replicate 3 (.advance index))
    match (calls index).perform state.store with
    | .ok (runId, next) => final.returned calls index = some runId ∧ final.store = next
    | .error error => final.phases index = .answered (.error error) ∧ final.store = state.store := by
  cases inserted : insertRun state.store (calls index).row with
  | error error =>
    have performed : (calls index).perform state.store = .error error := by
      unfold Submission.perform createRun
      rw [← Submission.row, inserted]
      rfl
    simp [performed, submitStep, begins, inserted, SubmissionState.enter, List.replicate]
  | ok view =>
    rw [Submission.perform_inserted inserted]
    obtain ⟨_, runs, _, rfl⟩ := insertRun_eq_ok.mp inserted
    cases keyed : (calls index).idempotencyKey with
    | none =>
      simp [submitStep, begins, inserted, keyed, Submission.writes, SubmissionState.enter,
        List.replicate, SubmissionState.returned, bind, Except.bind, pure, Except.pure]
    | some key =>
      cases recorded : state.store.idempotency.insert? ((calls index).record key) with
      | some idempotency =>
        simp [submitStep, begins, inserted, keyed, Submission.writes, SubmissionState.enter,
          List.replicate, SubmissionState.returned, bind, Except.bind, pure, Except.pure, recorded,
          insertRow, SubmissionState.blocked, alone]
      | none =>
        cases found : findIdempotentRun state.store (calls index).projectId key
            ((calls index).requestHash.getD "") <;>
          simp [submitStep, begins, inserted, keyed, SubmissionState.enter, List.replicate,
            SubmissionState.returned, bind, Except.bind, pure, Except.pure, recorded,
            SubmissionState.blocked, alone, found]

end Alone

section Invariant

/-- Fresh ids, as `uuid4` draws them, and projects that exist. -/
structure FreshSubmissions (calls : Index → Submission) (start : Store) : Prop where
  distinct : Function.Injective fun index => (calls index).runId
  unused : ∀ index, (calls index).runId ∉ start.runs.rows.map RunRow.id
  projects : ∀ index, (calls index).projectId ∈ start.projects.rows.map ProjectRow.id

/-- The store is the first one with a run and, under a key, a record for each of the
calls, in order, and with nothing else. -/
structure Extends (calls : Index → Submission) (start : Store) (log : List Index) (store : Store) :
    Prop where
  runs : store.runs.rows = start.runs.rows ++ log.map fun index => (calls index).row
  idempotency : store.idempotency.rows = start.idempotency.rows ++
    log.filterMap fun index => (calls index).idempotencyKey.map (calls index).record
  projects : store.projects = start.projects
  cases : store.cases = start.cases
  baselines : store.baselines = start.baselines
  tokens : store.tokens = start.tokens

/-- What is known of a call from where it stands. -/
def SubmissionSound (calls : Index → Submission) (state : SubmissionState Index) (index : Index) : Prop :=
  match state.phases index with
  | .runInserted key => (calls index).idempotencyKey = some key
  | .returning => ∀ key, (calls index).idempotencyKey = some key →
      index ∈ state.holders ∧ state.store.idempotency.find? ((calls index).projectId, key) = none
  | .rolledBack key => (calls index).idempotencyKey = some key ∧
      ∃ record, state.store.idempotency.find? ((calls index).projectId, key) = some record
  | .answered outcome => ∃ key record, (calls index).idempotencyKey = some key ∧
      state.store.idempotency.find? ((calls index).projectId, key) = some record ∧
      outcome = (calls index).verdict key record
  | .started | .committed | .aborted => True

/-- What holds of the calls and the store after any interleaving. -/
structure SubmissionsSound (calls : Index → Submission) (start : Store) (state : SubmissionState Index) :
    Prop where
  phases : ∀ index, SubmissionSound calls state index
  holding : ∀ index ∈ state.holders, state.phases index = .returning
  exclusive : ∀ first ∈ state.holders, ∀ second ∈ state.holders,
    (calls first).projectId = (calls second).projectId →
      (calls first).idempotencyKey = (calls second).idempotencyKey → first = second
  holdersDistinct : state.holders.Nodup
  logged : ∀ index, index ∈ state.log ↔ state.phases index = .committed
  logDistinct : state.log.Nodup
  stored : Extends calls start state.log state.store

variable {calls : Index → Submission} {start : Store} {state : SubmissionState Index} {index : Index}

theorem sound_start : SubmissionsSound calls start (SubmissionState.start start) where
  phases _ := trivial
  holding _ member := by cases member
  exclusive _ member := by cases member
  holdersDistinct := List.nodup_nil
  logged _ := by simp [SubmissionState.start]
  logDistinct := List.nodup_nil
  stored := by constructor <;> simp [SubmissionState.start]

/-- What a call knows survives a step of another one that keeps its place among the
holders, every stored record, and the slots the holders have claimed. -/
theorem SubmissionSound.frame {later : SubmissionState Index} (sound : SubmissionSound calls state index)
    (same : later.phases index = state.phases index)
    (held : index ∈ state.holders → index ∈ later.holders)
    (kept : ∀ slot record, state.store.idempotency.find? slot = some record →
      later.store.idempotency.find? slot = some record)
    (free : index ∈ state.holders → ∀ key, (calls index).idempotencyKey = some key →
      state.store.idempotency.find? ((calls index).projectId, key) = none →
        later.store.idempotency.find? ((calls index).projectId, key) = none) :
    SubmissionSound calls later index := by
  unfold SubmissionSound at sound ⊢
  rw [same]
  cases phase : state.phases index with
  | returning =>
    rw [phase] at sound
    intro key keyed
    obtain ⟨member, unclaimed⟩ := sound key keyed
    exact ⟨held member, free member key keyed unclaimed⟩
  | rolledBack key =>
    rw [phase] at sound
    obtain ⟨keyed, record, found⟩ := sound
    exact ⟨keyed, record, kept _ _ found⟩
  | answered outcome =>
    rw [phase] at sound
    obtain ⟨key, record, keyed, found, verdict⟩ := sound
    exact ⟨key, record, keyed, kept _ _ found, verdict⟩
  | runInserted key =>
    rw [phase] at sound
    exact sound
  | started => trivial
  | committed => trivial
  | aborted => trivial

/-- A fresh run can be inserted, whoever has committed meanwhile. -/
theorem insertRun_fresh (fresh : FreshSubmissions calls start) {log : List Index} {store : Store}
    (stored : Extends calls start log store) (absent : index ∉ log) :
    ∃ runs, store.runs.insert? (calls index).row = some runs ∧
      insertRun store (calls index).row = .ok { store with runs } := by
  have unused : (calls index).row.id ∉ store.runs.rows.map RunRow.id := by
    rw [stored.runs, List.map_append, List.mem_append, not_or]
    refine ⟨fresh.unused index, fun member => ?_⟩
    obtain ⟨row, listed, same⟩ := List.mem_map.mp member
    obtain ⟨other, logged, rfl⟩ := List.mem_map.mp listed
    exact absent (fresh.distinct same ▸ logged)
  refine insertRun_of_unused ?_ unused
  rw [stored.projects]
  exact fresh.projects index

variable [DecidableEq Index]

/-- A step of one call that commits nothing. -/
theorem SubmissionsSound.moved (sound : SubmissionsSound calls start state) {phase : SubmissionPhase}
    {holders : List Index} (before : state.phases index ≠ .committed) (after : phase ≠ .committed)
    (own : SubmissionSound calls { state.enter index phase with holders } index)
    (holding : ∀ other ∈ holders, (state.enter index phase).phases other = .returning)
    (exclusive : ∀ first ∈ holders, ∀ second ∈ holders,
      (calls first).projectId = (calls second).projectId →
        (calls first).idempotencyKey = (calls second).idempotencyKey → first = second)
    (distinct : holders.Nodup) (others : ∀ other, other ≠ index → other ∈ state.holders → other ∈ holders) :
    SubmissionsSound calls start { state.enter index phase with holders } where
  phases other := by
    by_cases same : other = index
    · exact same ▸ own
    · exact (sound.phases other).frame (SubmissionState.enter_other same) (others other same)
        (fun _ _ found => found) (fun _ _ _ unclaimed => unclaimed)
  holding := holding
  exclusive := exclusive
  holdersDistinct := distinct
  logged other := by
    by_cases same : other = index
    · subst same
      have absent : other ∉ state.log := fun member => before ((sound.logged other).mp member)
      simp [SubmissionState.enter, absent, after]
    · simpa [SubmissionState.enter, same] using sound.logged other
  logDistinct := sound.logDistinct
  stored := sound.stored

/-- The same for a call that neither holds a record nor comes to hold one. -/
theorem SubmissionsSound.entered (sound : SubmissionsSound calls start state) (index : Index)
    (phase : SubmissionPhase) (before : state.phases index ≠ .committed)
    (waiting : state.phases index ≠ .returning) (after : phase ≠ .committed)
    (own : SubmissionSound calls (state.enter index phase) index) :
    SubmissionsSound calls start (state.enter index phase) := by
  have outside : ∀ other ∈ state.holders, other ≠ index := by
    rintro other member rfl
    exact waiting (sound.holding other member)
  have holding : ∀ other ∈ state.holders, (state.enter index phase).phases other = .returning := by
    intro other member
    rw [SubmissionState.enter_other (outside other member)]
    exact sound.holding other member
  exact sound.moved before after own holding sound.exclusive sound.holdersDistinct
    (fun _ _ member => member)

omit [DecidableEq Index] in
theorem SubmissionState.blocked_eq_false {state : SubmissionState Index} :
    state.blocked calls index = false ↔ ∀ other ∈ state.holders,
      (calls other).projectId = (calls index).projectId →
        (calls other).idempotencyKey ≠ (calls index).idempotencyKey := by
  simp [SubmissionState.blocked]

/-- Giving a record up, by the end of the transaction. -/
theorem SubmissionsSound.mem_erase (sound : SubmissionsSound calls start state) {other : Index} :
    other ∈ state.holders.erase index ↔ other ≠ index ∧ other ∈ state.holders :=
  sound.holdersDistinct.mem_erase_iff

/-- The INSERT of the record goes through: the call holds the key from now on. -/
theorem SubmissionsSound.holds (sound : SubmissionsSound calls start state) {key : String}
    (phase : state.phases index = .runInserted key) (keyed : (calls index).idempotencyKey = some key)
    (unblocked : state.blocked calls index = false)
    (unclaimed : state.store.idempotency.find? ((calls index).projectId, key) = none) :
    SubmissionsSound calls start
      { state.enter index .returning with holders := index :: state.holders } := by
  have outside : index ∉ state.holders := by
    intro member
    cases phase.symm.trans (sound.holding index member)
  have apart := SubmissionState.blocked_eq_false.mp unblocked
  refine sound.moved (by simp [phase]) (by simp) ?_ ?_ ?_
    (List.nodup_cons.mpr ⟨outside, sound.holdersDistinct⟩)
    (fun _ _ member => List.mem_cons_of_mem _ member)
  · unfold SubmissionSound
    rw [show ({ state.enter index .returning with holders := index :: state.holders } :
      SubmissionState Index).phases index = .returning from SubmissionState.enter_self ..]
    intro other same
    obtain rfl := Option.some.inj (keyed.symm.trans same)
    exact ⟨List.mem_cons_self, unclaimed⟩
  · intro other member
    rcases List.mem_cons.mp member with rfl | held
    · simp
    · have different : other ≠ index := by
        rintro rfl
        exact outside held
      rw [SubmissionState.enter_other different]
      exact sound.holding other held
  · intro first one second two project same
    rcases List.mem_cons.mp one with rfl | held <;> rcases List.mem_cons.mp two with rfl | other
    · rfl
    · exact absurd same.symm (apart second other project.symm)
    · exact absurd same (apart first held project)
    · exact sound.exclusive first held second other project same

theorem SubmissionsSound.aborts (sound : SubmissionsSound calls start state) (index : Index)
    (before : state.phases index ≠ .committed) :
    SubmissionsSound calls start
      { state.enter index .aborted with holders := state.holders.erase index } := by
  refine sound.moved before (by simp) ?_ ?_ ?_ (sound.holdersDistinct.erase index)
    (fun _ apart member => sound.mem_erase.mpr ⟨apart, member⟩)
  · simp [SubmissionSound, SubmissionState.enter]
  · intro other member
    obtain ⟨apart, held⟩ := sound.mem_erase.mp member
    rw [SubmissionState.enter_other apart]
    exact sound.holding other held
  · exact fun first one second two => sound.exclusive first (sound.mem_erase.mp one).2
      second (sound.mem_erase.mp two).2

omit [DecidableEq Index] in
/-- What a commit adds to the tables. -/
theorem Submission.writes_eq_ok {call : Submission} {store next : Store}
    (written : call.writes store = .ok next) : ∃ runs, store.runs.insert? call.row = some runs ∧
      match call.idempotencyKey with
      | none => next = { store with runs }
      | some key => ∃ idempotency, store.idempotency.insert? (call.record key) = some idempotency ∧
          next = { store with runs, idempotency } := by
  obtain ⟨inserted, placed, rest⟩ := bind_eq_ok.mp written
  obtain ⟨_, runs, added, rfl⟩ := insertRun_eq_ok.mp placed
  refine ⟨runs, added, ?_⟩
  cases keyed : call.idempotencyKey with
  | none =>
    rw [keyed] at rest
    exact (Except.ok.inj rest).symm
  | some key =>
    rw [keyed] at rest
    obtain ⟨idempotency, recorded, made⟩ := bind_eq_ok.mp rest
    exact ⟨idempotency, insertRow_eq_ok.mp recorded, (Except.ok.inj made).symm⟩

omit [DecidableEq Index] in
theorem Extends.commit {log : List Index} {store next : Store} (stored : Extends calls start log store)
    (written : (calls index).writes store = .ok next) : Extends calls start (log ++ [index]) next := by
  obtain ⟨runs, added, rest⟩ := Submission.writes_eq_ok written
  have grown := (Table.rows_insert added).1
  cases keyed : (calls index).idempotencyKey with
  | none =>
    rw [keyed] at rest
    subst rest
    exact { stored with
      runs := by simp [grown, stored.runs]
      idempotency := by simp [stored.idempotency, keyed] }
  | some key =>
    rw [keyed] at rest
    obtain ⟨idempotency, recorded, rfl⟩ := rest
    have grownRecords := (Table.rows_insert recorded).1
    exact { stored with
      runs := by simp [grown, stored.runs]
      idempotency := by simp [grownRecords, stored.idempotency, keyed] }

omit [DecidableEq Index] in
/-- A commit leaves every record but its own as it was. -/
theorem Submission.writes_records {call : Submission} {store next : Store}
    (written : call.writes store = .ok next) (slot : String × String) :
    next.idempotency.find? slot =
      if call.idempotencyKey.map (call.projectId, ·) = some slot then
        call.idempotencyKey.map call.record
      else store.idempotency.find? slot := by
  obtain ⟨runs, _, rest⟩ := Submission.writes_eq_ok written
  cases keyed : call.idempotencyKey with
  | none =>
    rw [keyed] at rest
    subst rest
    simp
  | some key =>
    rw [keyed] at rest
    obtain ⟨idempotency, recorded, rfl⟩ := rest
    by_cases own : (call.projectId, key) = slot <;>
      simp [Table.find?_insert recorded, IdempotencyRecordRow.key, Submission.record, own]

/-- The commit of a call: its run is new, and nobody has taken its key. -/
theorem SubmissionsSound.commits (fresh : FreshSubmissions calls start)
    (sound : SubmissionsSound calls start state) (due : state.phases index = .returning) :
    ∃ store, (calls index).writes state.store = .ok store ∧
      SubmissionsSound calls start
        { state.enter index .committed with
          store, holders := state.holders.erase index, log := state.log ++ [index] } := by
  have absent : index ∉ state.log := by simp [sound.logged, due]
  have known := sound.phases index
  unfold SubmissionSound at known
  rw [due] at known
  obtain ⟨store, written⟩ : ∃ store, (calls index).writes state.store = .ok store := by
    obtain ⟨runs, _, inserted⟩ := insertRun_fresh fresh sound.stored absent
    cases keyed : (calls index).idempotencyKey with
    | none => exact ⟨_, by simp [Submission.writes, inserted, keyed, bind, Except.bind]; rfl⟩
    | some key =>
      have unclaimed : ((calls index).record key).key ∉
          state.store.idempotency.rows.map IdempotencyRecordRow.key :=
        Table.find?_eq_none_iff.mp (known key keyed).2
      obtain ⟨idempotency, recorded⟩ := Table.insert?_of_fresh unclaimed
      exact ⟨_, by simp [Submission.writes, inserted, keyed, bind, Except.bind, insertRow, recorded]; rfl⟩
  refine ⟨store, written, ?_⟩
  have records := Submission.writes_records written
  constructor
  case phases =>
    intro other
    by_cases same : other = index
    · subst same
      simp [SubmissionSound, SubmissionState.enter]
    · refine (sound.phases other).frame (SubmissionState.enter_other same)
        (fun member => sound.mem_erase.mpr ⟨same, member⟩) ?_ ?_
      · intro slot record found
        rw [records, if_neg]
        · exact found
        · intro own
          obtain ⟨key, keyed, rfl⟩ := Option.map_eq_some_iff.mp own
          cases found.symm.trans (known key keyed).2
      · intro member key keyed unclaimed
        rw [records, if_neg]
        · exact unclaimed
        · intro own
          obtain ⟨_, mine, slot⟩ := Option.map_eq_some_iff.mp own
          obtain ⟨project, rfl⟩ := Prod.mk.inj slot
          exact same (sound.exclusive other member index (known _ mine).1 project.symm
            (keyed.trans mine.symm))
  case holding =>
    intro other member
    obtain ⟨apart, held⟩ := sound.mem_erase.mp member
    exact (SubmissionState.enter_other apart).trans (sound.holding other held)
  case exclusive =>
    exact fun first one second two => sound.exclusive first (sound.mem_erase.mp one).2
      second (sound.mem_erase.mp two).2
  case holdersDistinct => exact sound.holdersDistinct.erase index
  case logged =>
    intro other
    by_cases same : other = index
    · subst same
      simp [SubmissionState.enter]
    · simpa [SubmissionState.enter, same] using sound.logged other
  case logDistinct => exact List.nodup_append.mpr ⟨sound.logDistinct, by simp, fun _ one _ two same =>
    absent (List.mem_singleton.mp two ▸ same ▸ one)⟩
  case stored => exact sound.stored.commit written

/-- Every step keeps what holds of the calls and the store. -/
theorem submitStep_sound (fresh : FreshSubmissions calls start)
    (sound : SubmissionsSound calls start state) (event : SubmissionEvent Index) :
    SubmissionsSound calls start (submitStep calls state event) := by
  cases event with
  | advance index =>
    have known := sound.phases index
    unfold SubmissionSound at known
    cases phase : state.phases index with
    | started =>
      have absent : index ∉ state.log := by simp [sound.logged, phase]
      obtain ⟨runs, _, inserted⟩ := insertRun_fresh fresh sound.stored absent
      cases keyed : (calls index).idempotencyKey with
      | none =>
        simp only [submitStep, phase, inserted, keyed]
        exact sound.entered index .returning (by simp [phase]) (by simp [phase]) (by simp)
          (by simp [SubmissionSound, keyed])
      | some key =>
        simp only [submitStep, phase, inserted, keyed]
        exact sound.entered index (.runInserted key) (by simp [phase]) (by simp [phase]) (by simp)
          (by simp [SubmissionSound, keyed])
    | runInserted key =>
      rw [phase] at known
      simp only [submitStep, phase]
      split
      · exact sound
      · rename_i unblocked
        cases recorded : state.store.idempotency.insert? ((calls index).record key) with
        | some idempotency =>
          exact sound.holds phase known (by simpa using unblocked)
            (Table.find?_eq_none_iff.mpr (Table.rows_insert recorded).2)
        | none =>
          obtain ⟨record, member, slot⟩ := List.mem_map.mp (Table.insert?_eq_none_iff.mp recorded)
          have found := slot ▸ Table.find?_of_mem member
          exact sound.entered index (.rolledBack key) (by simp [phase]) (by simp [phase]) (by simp)
            (by simpa [SubmissionSound] using ⟨known, record, found⟩)
    | returning =>
      obtain ⟨store, written, next⟩ := sound.commits fresh phase
      simpa only [submitStep, phase, written] using next
    | rolledBack key =>
      rw [phase] at known
      obtain ⟨keyed, record, found⟩ := known
      have answer : findIdempotentRun state.store (calls index).projectId key
          ((calls index).requestHash.getD "") = (calls index).verdict key record := by
        simp [findIdempotentRun, found, Submission.verdict]
      simp only [submitStep, phase, answer]
      exact sound.entered index (.answered _) (by simp [phase]) (by simp [phase]) (by simp)
        (by simpa [SubmissionSound] using ⟨key, keyed, record, found, rfl⟩)
    | committed => simpa only [submitStep, phase] using sound
    | answered outcome => simpa only [submitStep, phase] using sound
    | aborted => simpa only [submitStep, phase] using sound
  | abort index =>
    cases phase : state.phases index with
    | committed => simpa only [submitStep, phase] using sound
    | answered outcome => simpa only [submitStep, phase] using sound
    | aborted => simpa only [submitStep, phase] using sound
    | started => simpa only [submitStep, phase] using sound.aborts index (by simp [phase])
    | runInserted key => simpa only [submitStep, phase] using sound.aborts index (by simp [phase])
    | returning => simpa only [submitStep, phase] using sound.aborts index (by simp [phase])
    | rolledBack key => simpa only [submitStep, phase] using sound.aborts index (by simp [phase])

end Invariant

section Outcomes

variable {calls : Index → Submission} {start : Store} {state : SubmissionState Index} {index : Index}

/-- What a record stored under a key of the call says of it. -/
theorem SubmissionsSound.recorded (sound : SubmissionsSound calls start state) {key : String}
    (keyed : (calls index).idempotencyKey = some key) :
    (state.phases index = .committed → state.store.idempotency.find? ((calls index).projectId, key) =
        some ((calls index).record key)) ∧
    (state.phases index = .returning → index ∈ state.holders ∧
      state.store.idempotency.find? ((calls index).projectId, key) = none) ∧
    ∀ outcome, state.phases index = .answered outcome → ∃ record,
      state.store.idempotency.find? ((calls index).projectId, key) = some record ∧
      outcome = (calls index).verdict key record := by
  have known := sound.phases index
  unfold SubmissionSound at known
  refine ⟨fun done => ?_, fun due => ?_, fun outcome answered => ?_⟩
  · have listed : (calls index).record key ∈ state.store.idempotency.rows := by
      rw [sound.stored.idempotency, List.mem_append]
      right
      exact List.mem_filterMap.mpr ⟨index, (sound.logged index).mpr done, by rw [keyed]; rfl⟩
    exact Table.find?_of_mem listed
  · rw [due] at known
    exact known key keyed
  · rw [answered] at known
    obtain ⟨other, record, same, found, verdict⟩ := known
    obtain rfl := Option.some.inj (keyed.symm.trans same)
    exact ⟨record, found, verdict⟩

/-- A call that has returned under a key holds it, or its run is the recorded one. -/
theorem SubmissionsSound.returned_keyed (sound : SubmissionsSound calls start state) {key runId : String}
    (keyed : (calls index).idempotencyKey = some key)
    (returned : state.returned calls index = some runId) :
    (index ∈ state.holders ∧ runId = (calls index).runId ∧
      state.store.idempotency.find? ((calls index).projectId, key) = none) ∨
    ∃ record, state.store.idempotency.find? ((calls index).projectId, key) = some record ∧
      record.runId = runId ∧ record.requestHash = (calls index).requestHash.getD "" := by
  obtain ⟨committed, due, answered⟩ := sound.recorded keyed
  unfold SubmissionState.returned at returned
  split at returned
  · rename_i phase
    obtain ⟨held, unclaimed⟩ := due phase
    exact .inl ⟨held, (Option.some.inj returned).symm, unclaimed⟩
  · rename_i phase
    exact .inr ⟨_, committed phase, Option.some.inj returned, rfl⟩
  · rename_i other phase
    obtain ⟨record, found, verdict⟩ := answered _ phase
    unfold Submission.verdict at verdict
    split at verdict
    · cases verdict
    · rename_i same
      exact .inr ⟨record, found, (Except.ok.inj verdict).symm.trans (Option.some.inj returned),
        not_not.mp same⟩
  · cases returned

/-- The run ids of calls under one key agree, be their commits still due or not. -/
theorem SubmissionsSound.oneRun (sound : SubmissionsSound calls start state) {first second : Index}
    {key : String} (keyed : (calls first).idempotencyKey = some key)
    (same : (calls second).idempotencyKey = some key)
    (project : (calls first).projectId = (calls second).projectId) {a b : String}
    (one : state.returned calls first = some a) (two : state.returned calls second = some b) :
    a = b := by
  rcases sound.returned_keyed keyed one with ⟨held, rfl, unclaimed⟩ | ⟨record, found, rfl, _⟩ <;>
    rcases sound.returned_keyed same two with ⟨other, rfl, free⟩ | ⟨record', found', rfl, _⟩
  · rw [sound.exclusive first held second other project (keyed.trans same.symm)]
  · rw [project, found'] at unclaimed
    cases unclaimed
  · rw [← project, found] at free
    cases free
  · rw [project, found'] at found
    rw [Option.some.inj found]

/-- A call ends in a conflict exactly when the committed record carries another hash. -/
theorem SubmissionsSound.conflicts (sound : SubmissionsSound calls start state) {key : String}
    (keyed : (calls index).idempotencyKey = some key)
    (ended : state.returned calls index ≠ none ∨ state.raised index ≠ none) :
    state.raised index = some (.idempotencyConflict key) ↔ ∃ record,
      state.store.idempotency.find? ((calls index).projectId, key) = some record ∧
      record.requestHash ≠ (calls index).requestHash.getD "" := by
  obtain ⟨committed, due, answered⟩ := sound.recorded keyed
  unfold SubmissionState.returned SubmissionState.raised at ended
  unfold SubmissionState.raised
  cases phase : state.phases index with
  | committed => simp [committed phase, Submission.record]
  | returning => simp [(due phase).2]
  | answered outcome =>
    obtain ⟨record, found, rfl⟩ := answered outcome phase
    by_cases same : record.requestHash = (calls index).requestHash.getD "" <;>
      simp [found, Submission.verdict, same]
  | started => simp [phase] at ended
  | runInserted key => simp [phase] at ended
  | rolledBack key => simp [phase] at ended
  | aborted => simp [phase] at ended

/-- Nothing else is raised, and nothing at all without a key. -/
theorem SubmissionsSound.raised_conflict (sound : SubmissionsSound calls start state) {error : PyError}
    (raised : state.raised index = some error) :
    ∃ key, (calls index).idempotencyKey = some key ∧ error = .idempotencyConflict key := by
  have known := sound.phases index
  unfold SubmissionSound at known
  unfold SubmissionState.raised at raised
  split at raised
  · rename_i other phase
    rw [phase] at known
    obtain ⟨key, record, keyed, _, verdict⟩ := known
    refine ⟨key, keyed, ?_⟩
    unfold Submission.verdict at verdict
    split at verdict
    · exact (Option.some.inj raised).symm.trans (Except.error.inj verdict)
    · cases verdict
  · cases raised

/-- A call without a key returns its own run, which its commit stores. -/
theorem SubmissionsSound.ownRun (sound : SubmissionsSound calls start state)
    (keyless : (calls index).idempotencyKey = none) {runId : String}
    (returned : state.returned calls index = some runId) : runId = (calls index).runId ∧
      (state.phases index = .returning ∨ state.phases index = .committed) := by
  have known := sound.phases index
  unfold SubmissionSound at known
  unfold SubmissionState.returned at returned
  split at returned
  · rename_i phase
    exact ⟨(Option.some.inj returned).symm, .inl phase⟩
  · rename_i phase
    exact ⟨(Option.some.inj returned).symm, .inr phase⟩
  · rename_i other phase
    rw [phase] at known
    obtain ⟨key, _, keyed, _⟩ := known
    cases keyless.symm.trans keyed
  · cases returned

/-- The run of a committed call is stored as it was created. -/
theorem SubmissionsSound.stores (sound : SubmissionsSound calls start state)
    (committed : state.phases index = .committed) :
    state.store.runs.find? (calls index).runId = some (calls index).row := by
  refine Table.find?_eq_some_iff.mpr ⟨?_, rfl⟩
  rw [sound.stored.runs]
  exact List.mem_append_right _ (List.mem_map.mpr ⟨index, (sound.logged index).mpr committed, rfl⟩)

end Outcomes

section Commits

variable [DecidableEq Index] {calls : Index → Submission} {start : Store}
  {state : SubmissionState Index} {index : Index}

/-- The store changes in the commit of a call only. -/
theorem submitStep_store (state : SubmissionState Index) (event : SubmissionEvent Index) :
    (submitStep calls state event).store = state.store ∨
      (submitStep calls state event).phases event.index = .committed := by
  cases event with
  | advance index =>
    cases phase : state.phases index with
    | started =>
      simp only [submitStep, phase]
      repeat' split
      all_goals exact .inl rfl
    | runInserted key =>
      simp only [submitStep, phase]
      repeat' split
      all_goals exact .inl rfl
    | returning =>
      simp only [submitStep, phase]
      split
      · exact .inr (SubmissionState.enter_self ..)
      · exact .inl rfl
    | rolledBack key => exact .inl (by simp [submitStep, phase, SubmissionState.enter])
    | committed => exact .inl (by simp [submitStep, phase])
    | answered outcome => exact .inl (by simp [submitStep, phase])
    | aborted => exact .inl (by simp [submitStep, phase])
  | abort index =>
    left
    simp only [submitStep]
    split <;> rfl

/-- A committed call stays committed. -/
theorem submitStep_committed (event : SubmissionEvent Index) (done : state.phases index = .committed) :
    (submitStep calls state event).phases index = .committed := by
  have others {other : Index} (apart : index ≠ other) (phase : SubmissionPhase) :
      (state.enter other phase).phases index = .committed := by
    rwa [SubmissionState.enter_other apart]
  cases event with
  | advance other =>
    by_cases same : index = other
    · subst same
      simp only [submitStep, done]
    · simp only [submitStep]
      repeat' split
      all_goals first
        | exact done
        | exact others same _
  | abort other =>
    by_cases same : index = other
    · subst same
      simp only [submitStep, done]
    · simp only [submitStep]
      repeat' split
      all_goals first
        | exact done
        | exact others same _

theorem submissions_sound (fresh : FreshSubmissions calls start) (events : List (SubmissionEvent Index)) :
    SubmissionsSound calls start (run (submitStep calls) (SubmissionState.start start) events) :=
  run_invariant_free (SubmissionsSound calls start)
    (fun _ event sound => submitStep_sound fresh sound event) events sound_start

/-- No step of a call that has not committed changes the store. -/
theorem uncommitted_frame {earlier later : List (SubmissionEvent Index)}
    {event : SubmissionEvent Index}
    (uncommitted : (run (submitStep calls) state (earlier ++ event :: later)).phases event.index ≠
      .committed) :
    (run (submitStep calls) state (earlier ++ [event])).store =
      (run (submitStep calls) state earlier).store := by
  rw [run_append, run_cons] at uncommitted
  rw [run_append, run_cons, run_nil]
  refine (submitStep_store _ event).resolve_right fun done => uncommitted ?_
  exact run_invariant_free
    (fun state : SubmissionState Index => state.phases event.index = .committed)
    (fun _ later done => submitStep_committed later done) later done

end Commits

end RegressionDetection.Persistence
