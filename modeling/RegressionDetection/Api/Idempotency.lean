import Mathlib.Data.Fintype.Basic
import Mathlib.Tactic.FinCases
import RegressionDetection.Api.Runs
import RegressionDetection.Persistence.Finality
import RegressionDetection.Persistence.Submissions
import RegressionDetection.Specification.Identity

/-! Idempotent submission. Under one key every call of a project returns the run
of the one that committed first, and its stored hashes are those of the resubmission. -/

namespace RegressionDetection.Api

open Foundation Foundation.Json Specification Persistence

section Commands

/-- The `create_run` call that the route makes for a command. -/
def RunCreateCommand.submission (around : Surroundings) (projectId : String) (command : RunCreateCommand)
    (idempotencyKey : Option String) : Submission where
  now := around.now
  runId := around.uuid.text
  projectId := projectId
  specification := command.specification
  configurationHash := (specificationHashes around.runtime command.specification.val).configuration
  datasetHash := (specificationHashes around.runtime command.specification.val).dataset
  idempotencyKey := idempotencyKey
  requestHash := idempotencyKey.map fun _ => (contentHash around.runtime command.modelDump).text

/-- In a session without changes the route answers with what that call does. -/
theorem createRunOrConflict_perform (around : Surroundings) (projectId : String)
    (command : RunCreateCommand) (idempotencyKey : Option String) (store : Store) :
    createRunOrConflict around projectId command idempotencyKey (Session.start store) =
      match (command.submission around projectId idempotencyKey).perform store with
      | .ok (runId, next) => (.ok runId, { Session.start store with current := next })
      | .error (.idempotencyConflict key) =>
        (.error (.http 409 (PyError.text around.runtime (.idempotencyConflict key))),
          Session.start store)
      | .error error => (.error (.raised error), Session.start store) := rfl

/-- Requests that dump alike are for specifications with the same hashes. -/
theorem specificationHashes_of_request (runtime : Runtime) {first second : RunCreateCommand}
    (same : sorted first.modelDump = sorted second.modelDump) :
    specificationHashes runtime first.specification.val =
      specificationHashes runtime second.specification.val := by
  have members : sorted (dumpModel false [("project_id", .str first.projectId),
        ("specification", first.specification.val.modelDump false)]) =
      sorted (dumpModel false [("project_id", .str second.projectId),
        ("specification", second.specification.val.modelDump false)]) := same
  rw [sorted_dumpModel_iff false (by rfl) (by simp)] at members
  simp only [sortedFields, List.cons.injEq, Prod.mk.injEq, true_and, and_true] at members
  obtain ⟨configuration, cases⟩ := (modelDump_sorted_iff false).mp members.2
  -- The normal form does not depend on whether None-valued fields are dumped.
  rw [configurationDump_sorted_iff, ← configurationDump_sorted_iff true] at configuration
  rw [dumpCases_sorted_iff, ← dumpCases_sorted_iff true] at cases
  have configurationText := dumps_eq_of_sorted runtime.floatRepr configuration
  have casesText := dumps_eq_of_sorted runtime.floatRepr cases
  rw [specificationHashes_eq, specificationHashes_eq]
  simp only [contentHash, canonicalJson]
  rw [casesText]
  exact congrArg (fun text => SpecificationHashes.mk (runtime.sha256 text) _) configurationText

end Commands

section Requests

variable {Index : Type} {calls : Index → Submission} {start : Store}
  {state : SubmissionState Index} {index : Index} {runtime : Runtime} {requests : Set RunCreateCommand}

/-- The call carries the specification and the hashes of one of these commands. -/
def SubmittedFrom (runtime : Runtime) (requests : Set RunCreateCommand) (call : Submission) : Prop :=
  ∃ command ∈ requests,
    call.configurationHash = (specificationHashes runtime command.specification.val).configuration ∧
    call.datasetHash = (specificationHashes runtime command.specification.val).dataset ∧
    call.requestHash =
      call.idempotencyKey.map fun _ => (contentHash runtime command.modelDump).text

/-- The run's hashes are those of a command with this request hash. -/
def HashesOf (runtime : Runtime) (requests : Set RunCreateCommand) (requestHash : String)
    (run : RunRow) : Prop :=
  ∃ command ∈ requests, requestHash = (contentHash runtime command.modelDump).text ∧
    run.configurationHash = (specificationHashes runtime command.specification.val).configuration ∧
    run.datasetHash = (specificationHashes runtime command.specification.val).dataset

/-- Every stored record names a stored run of a command with its request hash. -/
def RecordedFrom (runtime : Runtime) (requests : Set RunCreateCommand) (store : Store) : Prop :=
  ∀ record ∈ store.idempotency.rows, ∃ run, store.runs.find? record.runId = some run ∧
    HashesOf runtime requests record.requestHash run

theorem submission_submittedFrom (around : Surroundings) (projectId : String)
    {command : RunCreateCommand} (listed : command ∈ requests) (idempotencyKey : Option String) :
    SubmittedFrom around.runtime requests (command.submission around projectId idempotencyKey) :=
  ⟨command, listed, rfl, rfl, rfl⟩

/-- The commits keep every record with a run of its request. -/
theorem recordedFrom_of_extends {log : List Index} {store : Store}
    (stored : Extends calls start log store) (recorded : RecordedFrom runtime requests start)
    (submitted : ∀ index, SubmittedFrom runtime requests (calls index)) :
    RecordedFrom runtime requests store := by
  intro record member
  rw [stored.idempotency, List.mem_append] at member
  rcases member with old | new
  · obtain ⟨run, found, hashes⟩ := recorded record old
    obtain ⟨listed, named⟩ := Table.find?_eq_some_iff.mp found
    refine ⟨run, Table.find?_eq_some_iff.mpr ⟨?_, named⟩, hashes⟩
    rw [stored.runs]
    exact List.mem_append_left _ listed
  · obtain ⟨index, logged, made⟩ := List.mem_filterMap.mp new
    obtain ⟨key, keyed, rfl⟩ := Option.map_eq_some_iff.mp made
    obtain ⟨command, known, configuration, dataset, request⟩ := submitted index
    refine ⟨(calls index).row, Table.find?_eq_some_iff.mpr ⟨?_, rfl⟩, command, known, ?_,
      configuration, dataset⟩
    · rw [stored.runs]
      exact List.mem_append_right _ (List.mem_map.mpr ⟨index, logged, rfl⟩)
    · simp [Submission.record, request, keyed]

/-- A call that has ended with a run finds its own hashes stored there. -/
theorem storedHashes_of_sound (sound : SubmissionsSound calls start state) {floats : Set ℚ}
    (identifiable : Identifiable runtime floats (Set.image RunCreateCommand.modelDump requests))
    (submitted : ∀ index, SubmittedFrom runtime requests (calls index))
    (recorded : RecordedFrom runtime requests start) {runId : String}
    (returned : state.returned calls index = some runId) (ended : state.phases index ≠ .returning) :
    ∃ run, state.store.runs.find? runId = some run ∧
      run.configurationHash = (calls index).configurationHash ∧
      run.datasetHash = (calls index).datasetHash := by
  cases keyed : (calls index).idempotencyKey with
  | none =>
    obtain ⟨rfl, phase⟩ := sound.ownRun keyed returned
    exact ⟨_, sound.stores (phase.resolve_left ended), rfl, rfl⟩
  | some key =>
    rcases sound.returned_keyed keyed returned with ⟨held, _, _⟩ | ⟨record, found, rfl, request⟩
    · exact absurd (sound.holding index held) ended
    · obtain ⟨run, stored, command, known, hash, configuration, dataset⟩ :=
        recordedFrom_of_extends sound.stored recorded submitted record (Table.mem_of_find? found)
      obtain ⟨own, listed, ownConfiguration, ownDataset, ownRequest⟩ := submitted index
      have same : contentHash runtime command.modelDump = contentHash runtime own.modelDump := by
        apply HexDigest.ext_text
        rw [← hash, request, ownRequest, keyed]
        rfl
      have alike := (identifiable.contentHash_iff_sorted (Set.mem_image_of_mem _ known)
        (Set.mem_image_of_mem _ listed)).mp same
      have hashes := specificationHashes_of_request runtime alike
      exact ⟨run, stored, by rw [configuration, ownConfiguration, hashes],
        by rw [dataset, ownDataset, hashes]⟩

end Requests

section Submissions

variable {Index : Type} [DecidableEq Index] {calls : Index → Submission} {start : Store}

/-- What the calls have done after some interleaving of their steps. -/
structure Idempotent (calls : Index → Submission) (start : Store) (events : List (SubmissionEvent Index))
    (final : SubmissionState Index) : Prop where
  /-- Under one key of a project all calls that return do so with one run. -/
  oneRun : ∀ first second key, (calls first).idempotencyKey = some key →
    (calls second).idempotencyKey = some key → (calls first).projectId = (calls second).projectId →
      ∀ a b, final.returned calls first = some a → final.returned calls second = some b → a = b
  /-- A call raises exactly when the committed record of its key carries another hash. -/
  conflicts : ∀ index key, (calls index).idempotencyKey = some key →
    final.returned calls index ≠ none ∨ final.raised index ≠ none →
      (final.raised index = some (.idempotencyConflict key) ↔ ∃ record,
        final.store.idempotency.find? ((calls index).projectId, key) = some record ∧
        record.requestHash ≠ (calls index).requestHash.getD "")
  onlyConflicts : ∀ index error, final.raised index = some error →
    ∃ key, (calls index).idempotencyKey = some key ∧ error = .idempotencyConflict key
  /-- A call without a key returns the run it has created. -/
  ownRun : ∀ index, (calls index).idempotencyKey = none → ∀ runId,
    final.returned calls index = some runId → runId = (calls index).runId ∧
      (final.phases index = .returning ∨ final.store.runs.find? runId = some (calls index).row)
  /-- The committed calls have left a run and a record each, and there is nothing else. -/
  winners : Extends calls start final.log final.store ∧ final.log.Nodup ∧
    ∀ index, index ∈ final.log ↔ final.phases index = .committed
  /-- No step of another call has changed the store. -/
  losers : ∀ earlier event later, events = earlier ++ event :: later →
    final.phases event.index ≠ .committed →
      (run (submitStep calls) (SubmissionState.start start) (earlier ++ [event])).store =
        (run (submitStep calls) (SubmissionState.start start) earlier).store

/-- Submission is idempotent, however the transactions of the calls interleave; and when
they and the stored records come from requests whose hashes identify them, the returned
run carries the hashes of the resubmitted specification. -/
theorem submissions_idempotent (fresh : FreshSubmissions calls start)
    (events : List (SubmissionEvent Index)) :
    Idempotent calls start events (run (submitStep calls) (SubmissionState.start start) events) ∧
    ∀ runtime floats requests,
      Identifiable runtime floats (Set.image RunCreateCommand.modelDump requests) →
      (∀ index, SubmittedFrom runtime requests (calls index)) → RecordedFrom runtime requests start →
      let final := run (submitStep calls) (SubmissionState.start start) events
      ∀ index runId, final.returned calls index = some runId → final.phases index ≠ .returning →
        ∃ row, final.store.runs.find? runId = some row ∧
          row.configurationHash = (calls index).configurationHash ∧
          row.datasetHash = (calls index).datasetHash := by
  have sound := submissions_sound fresh events
  refine ⟨?_, fun runtime floats requests identifiable submitted recorded index runId returned ended =>
    storedHashes_of_sound sound identifiable submitted recorded returned ended⟩
  constructor
  case oneRun =>
    intro first second key keyed same project a b one two
    exact sound.oneRun keyed same project one two
  case conflicts => exact fun index key keyed ended => sound.conflicts keyed ended
  case onlyConflicts => exact fun index error raised => sound.raised_conflict raised
  case ownRun =>
    intro index keyless runId returned
    obtain ⟨rfl, phase⟩ := sound.ownRun keyless returned
    exact ⟨rfl, phase.imp_right sound.stores⟩
  case winners => exact ⟨sound.stored, sound.logDistinct, sound.logged⟩
  case losers =>
    intro earlier event later split uncommitted
    rw [split] at uncommitted
    exact uncommitted_frame uncommitted

end Submissions

section Sample

def sampleCommand : RunCreateCommand where
  projectId := "project"
  specification := ⟨sampleFirst, sampleFirst_valid⟩
  projectIdBounded := by decide
  projectIdShape := by decide

def otherCommand : RunCreateCommand where
  projectId := "project"
  specification := ⟨sampleSecond, sampleSecond_valid⟩
  projectIdBounded := by decide
  projectIdShape := by decide

def sampleRequestDigest : HexDigest where
  text := "7824438c3257627945c2e8a422f0ddcdc1efbe0337308fda4dae2e4ac88672d5"
  sized := by decide +kernel
  lowerHex := by decide +kernel

def otherRequestDigest : HexDigest where
  text := "f37fdce8436322ce0364002b6b501e29fd995f43770c1ddd36134ede92c7ffd8"
  sized := by decide +kernel
  lowerHex := by decide +kernel

/-- The SHA-256 digests of the two request bodies, and of the samples. -/
def requestDigests : List (String × HexDigest) :=
  (dumps sampleRepr sampleCommand.modelDump, sampleRequestDigest) ::
    (dumps sampleRepr otherCommand.modelDump, otherRequestDigest) :: sampleDigests

def requestRuntime : Runtime := { sampleRuntime with sha256 := digests requestDigests }

def sampleHex : Fin 4 → String
  | 0 => "00000000000000000000000000000000"
  | 1 => "00000000000000000000000000000001"
  | 2 => "00000000000000000000000000000002"
  | 3 => "00000000000000000000000000000003"

theorem sampleHex_sized : ∀ index, (sampleHex index).length = 32 := by decide

theorem sampleHex_lowerHex : ∀ index, (sampleHex index).toList.all isLowerHex = true := by decide

def sampleUuid (index : Fin 4) : Uuid where
  text := sampleHex index
  sized := sampleHex_sized index
  lowerHex := sampleHex_lowerHex index

def requestSurroundings (uuid : Uuid) : Surroundings where
  pbkdf2 := fun _ _ => []
  runtime := requestRuntime
  uuid := uuid
  raw := []
  salt := []
  authenticatedAt := 0
  now := 0
  respondedAt := 0

/-- One body twice and another one under one key, and once more without a key. -/
def sampleCalls (index : Fin 4) : Submission :=
  let around := requestSurroundings (sampleUuid index)
  match index with
  | 0 => sampleCommand.submission around "project" (some "key")
  | 1 => sampleCommand.submission around "project" (some "key")
  | 2 => otherCommand.submission around "project" (some "key")
  | 3 => sampleCommand.submission around "project" none

/-- All runs are inserted before any record, and the second call waits for the first. -/
def sampleSchedule : List (SubmissionEvent (Fin 4)) :=
  [.advance 0, .advance 1, .advance 2, .advance 3, .advance 0, .advance 1, .advance 0, .advance 1,
    .advance 1, .advance 2, .advance 2, .advance 3]

theorem sampleCalls_fresh : FreshSubmissions sampleCalls projectStore where
  distinct := by
    have apart : ∀ first second : Fin 4,
        (sampleUuid first).text = (sampleUuid second).text → first = second := by decide
    have named : ∀ index, (sampleCalls index).runId = (sampleUuid index).text := by
      intro index
      fin_cases index <;> rfl
    intro first second same
    exact apart first second ((named first).symm.trans (same.trans (named second)))
  unused index := by simp [projectStore, Store.empty, Table.empty]
  projects index := by
    fin_cases index <;> simp [projectStore, sampleCalls, RunCreateCommand.submission]

theorem requests_identifiable : Identifiable requestRuntime sampleFloats
    (Set.image RunCreateCommand.modelDump {sampleCommand, otherCommand}) where
  distinct := by
    rintro _ ⟨command, rfl | rfl, rfl⟩
    all_goals decide +kernel
  machineFloats := by
    rintro _ ⟨command, rfl | rfl, rfl⟩
    all_goals decide +kernel
  readable := sampleRepr_readable
  collisionFree := by
    refine (digests_injOn (by decide +kernel)).mono ?_
    rintro _ ⟨_, ⟨command, rfl | rfl, rfl⟩, rfl⟩
    all_goals simp [canonicalJson, requestRuntime, sampleRuntime, requestDigests]

theorem contentHash_request (value : Json) :
    contentHash requestRuntime value = digests requestDigests (dumps sampleRepr value) := rfl

theorem sampleCommand_hash : contentHash requestRuntime sampleCommand.modelDump = sampleRequestDigest := by
  rw [contentHash_request, requestDigests, digests_head]

theorem requests_sorted : sorted sampleCommand.modelDump ≠ sorted otherCommand.modelDump := by
  decide +kernel

theorem otherCommand_hash : contentHash requestRuntime otherCommand.modelDump = otherRequestDigest := by
  have texts := dumps_eq_iff_sorted sampleRepr_readable
    (requests_identifiable.machineFloats _ ⟨sampleCommand, .inl rfl, rfl⟩)
    (requests_identifiable.machineFloats _ ⟨otherCommand, .inr rfl, rfl⟩)
  have apart := mt texts.mp requests_sorted
  rw [contentHash_request, requestDigests, digests_tail apart, digests_head]

/-- The calls with their request hashes written out. -/
def hashedCalls (index : Fin 4) : Submission :=
  { sampleCalls index with
    requestHash :=
      match index with
      | 0 | 1 => some sampleRequestDigest.text
      | 2 => some otherRequestDigest.text
      | 3 => none }

theorem sampleCalls_hashed : sampleCalls = hashedCalls := by
  funext index
  match index with
  | 0 | 1 | 2 | 3 =>
    simp [sampleCalls, hashedCalls, RunCreateCommand.submission, requestSurroundings,
      sampleCommand_hash, otherCommand_hash]

/-- The first call wins, the second one returns, and the third one raises. -/
theorem sampleSchedule_outcomes :
    let final := run (submitStep sampleCalls) (SubmissionState.start projectStore) sampleSchedule
    (final.returned sampleCalls 0).isSome = true ∧ (final.returned sampleCalls 1).isSome = true ∧
      final.phases 1 ≠ .returning ∧ (final.raised 2).isSome = true := by
  rw [sampleCalls_hashed]
  decide +kernel

theorem sampleCalls_submitted (index : Fin 4) :
    SubmittedFrom requestRuntime {sampleCommand, otherCommand} (sampleCalls index) := by
  match index with
  | 0 => exact submission_submittedFrom (requestSurroundings (sampleUuid 0)) _ (.inl rfl) _
  | 1 => exact submission_submittedFrom (requestSurroundings (sampleUuid 1)) _ (.inl rfl) _
  | 2 => exact submission_submittedFrom (requestSurroundings (sampleUuid 2)) _ (.inr rfl) _
  | 3 => exact submission_submittedFrom (requestSurroundings (sampleUuid 3)) _ (.inl rfl) _

theorem resubmission_configuration : (sampleCalls 1).configurationHash =
    (specificationHashes requestRuntime sampleFirst).configuration := by
  simp only [sampleCalls, RunCreateCommand.submission, requestSurroundings, sampleCommand]

/-- The second submission of a body returns the run of the first one, with the hashes of
its own specification; the other body under the same key is refused. -/
theorem sampleSubmissions_idempotent :
    let final := run (submitStep sampleCalls) (SubmissionState.start projectStore) sampleSchedule
    final.raised 2 = some (.idempotencyConflict "key") ∧
    ∃ runId row, final.returned sampleCalls 0 = some runId ∧
      final.returned sampleCalls 1 = some runId ∧ final.store.runs.find? runId = some row ∧
      row.configurationHash = (specificationHashes requestRuntime sampleFirst).configuration := by
  obtain ⟨idempotent, hashes⟩ := submissions_idempotent sampleCalls_fresh sampleSchedule
  obtain ⟨one, two, ended, three⟩ := sampleSchedule_outcomes
  obtain ⟨first, won⟩ := Option.isSome_iff_exists.mp one
  obtain ⟨second, lost⟩ := Option.isSome_iff_exists.mp two
  obtain ⟨error, raised⟩ := Option.isSome_iff_exists.mp three
  obtain rfl := idempotent.oneRun 0 1 "key" rfl rfl rfl first second won lost
  obtain ⟨key, keyed, rfl⟩ := idempotent.onlyConflicts 2 error raised
  cases keyed
  have recorded : RecordedFrom requestRuntime {sampleCommand, otherCommand} projectStore := by
    simp [RecordedFrom, projectStore, Store.empty, Table.empty]
  obtain ⟨row, found, configuration, _⟩ := hashes requestRuntime sampleFloats _ requests_identifiable
    sampleCalls_submitted recorded 1 first lost ended
  exact ⟨raised, first, row, won, lost, found, configuration.trans resubmission_configuration⟩

end Sample

end RegressionDetection.Api
