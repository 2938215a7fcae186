import RegressionDetection.Persistence.Finality

/-! Concurrent `claim_next_run` calls as their database steps, interleaved with
heartbeats and the clock: when the conditional UPDATE hands out a run safely. -/

namespace RegressionDetection.Persistence

open Foundation

/-- The arguments of one call and the clock reading it made at its start. -/
structure ClaimCall where
  workerId : String
  leaseSeconds : Int
  now : Time

def ClaimCall.lease (call : ClaimCall) : Time := call.now + seconds call.leaseSeconds

/-- Where a session stands. `renewed` is bookkeeping that no step reads: the
last lease written to the candidate since this session selected it. -/
inductive ClaimSession where
  | idle
  | selecting (call : ClaimCall) (branch : ClaimBranch)
  | updating (call : ClaimCall) (branch : ClaimBranch) (candidate : String) (renewed : Option Time)

/-- `leases` is bookkeeping too: the last lease written for a worker on a run. -/
structure ClaimState where
  clock : Time
  store : Store
  sessions : Nat → ClaimSession
  leases : String → String → Option Time

inductive ClaimEvent where
  | wait (elapsed : Nat)
  | begin (session : Nat) (workerId : String) (leaseSeconds : Int)
  | select (session : Nat)
  | update (session : Nat)
  | heartbeat (runId workerId : String) (leaseSeconds : Int)

/-- The lease a stored running run records for a worker. -/
def Store.lease (store : Store) (runId workerId : String) : Option Time :=
  match store.runs.find? runId with
  | some run => if heartbeatMatches workerId run then run.leaseExpiresAt else none
  | none => none

/-- All sessions idle, and the leases those the store records. -/
def ClaimState.start (clock : Time) (store : Store) : ClaimState :=
  { clock, store, sessions := fun _ => .idle, leases := store.lease }

def ClaimState.setSession (state : ClaimState) (session : Nat) (next : ClaimSession) : ClaimState :=
  { state with sessions := Function.update state.sessions session next }

/-- After a branch without a claim: the other branch, or the end of the call. -/
def nextBranch (call : ClaimCall) : ClaimBranch → ClaimSession
  | .created => .selecting call .expired
  | .expired => .idle

/-- A lease written to a run, noted by the sessions that have it as candidate. -/
def ClaimSession.note (runId : String) (lease : Time) : ClaimSession → ClaimSession
  | .updating call branch candidate renewed =>
    .updating call branch candidate (if candidate = runId then some lease else renewed)
  | session => session

/-- The bookkeeping of a lease written for a worker. -/
def ClaimState.grant (state : ClaimState) (runId workerId : String) (lease : Time) : ClaimState :=
  { state with
    sessions := fun session => (state.sessions session).note runId lease
    leases := Function.update state.leases runId
      (Function.update (state.leases runId) workerId (some lease)) }

def claimStep (state : ClaimState) : ClaimEvent → ClaimState
  | .wait elapsed => { state with clock := state.clock + elapsed }
  | .begin session workerId leaseSeconds =>
    match state.sessions session with
    | .idle =>
      state.setSession session (.selecting { workerId, leaseSeconds, now := state.clock } .created)
    | _ => state
  | .select session =>
    match state.sessions session with
    | .selecting call branch =>
      match selectCandidate call.now state.store branch with
      | some candidate => state.setSession session (.updating call branch candidate none)
      | none => state.setSession session (nextBranch call branch)
    | _ => state
  | .update session =>
    match state.sessions session with
    | .updating call branch candidate _ =>
      let (count, store) :=
        updateClaim call.now candidate call.workerId call.leaseSeconds state.store branch
      if count = 1 then
        ({ state with store }.grant candidate call.workerId call.lease).setSession session .idle
      else { state with store }.setSession session (nextBranch call branch)
    | _ => state
  | .heartbeat runId workerId leaseSeconds =>
    let (extended, store) := Persistence.heartbeat state.clock runId workerId leaseSeconds state.store
    if extended then
      { state with store }.grant runId workerId (state.clock + seconds leaseSeconds)
    else { state with store }

/-- The run the event's UPDATE claims, if it claims one. -/
def claimedBy? (state : ClaimState) : ClaimEvent → Option RunRow
  | .update session =>
    match state.sessions session with
    | .updating _ branch candidate _ =>
      (state.store.runs.find? candidate).filter (fun run => decide (run.state = branch.state))
    | _ => none
  | _ => none

/-- A claim takes a created run, or a running one whose lease has expired. -/
def ClaimSound (state : ClaimState) (event : ClaimEvent) : Prop :=
  ∀ run ∈ claimedBy? state event,
    run.state = .created ∨ (run.state = .running ∧ run.leaseBefore state.clock = true)
deriving Decidable

/-- A reclaiming UPDATE comes only when every lease written to its candidate
after its own SELECT has run out. -/
def RenewalsExpired (state : ClaimState) (event : ClaimEvent) : Prop :=
  ∀ session call candidate lease, event = .update session →
    state.sessions session = .updating call .expired candidate (some lease) → lease < state.clock

/-- When a run is claimed, every lease handed out on it before has expired. -/
def EarlierLeasesExpired (state : ClaimState) (event : ClaimEvent) : Prop :=
  ∀ run ∈ claimedBy? state event, ∀ workerId, ∀ lease ∈ state.leases run.id workerId,
    lease < state.clock

/-- The worker was handed the run and its lease has not expired. -/
def HoldsRun (state : ClaimState) (runId workerId : String) : Prop :=
  ∃ lease ∈ state.leases runId workerId, state.clock ≤ lease
deriving Decidable

section Calls

variable {state : ClaimState} {session : Nat}

@[simp] theorem ClaimState.setSession_self (state : ClaimState) (session : Nat) (next : ClaimSession) :
    (state.setSession session next).sessions session = next := by
  simp [ClaimState.setSession]

/-- Undisturbed, the SELECT and the UPDATE of a branch do what the branch does in one
transaction. -/
theorem branch_steps {call : ClaimCall} {branch : ClaimBranch}
    (standing : state.sessions session = .selecting call branch) :
    (run claimStep state [.select session, .update session]).store =
      (claimBranch call.now call.workerId call.leaseSeconds state.store branch).2 ∧
    (run claimStep state [.select session, .update session]).sessions session =
      (if (claimBranch call.now call.workerId call.leaseSeconds state.store branch).1 = none
        then nextBranch call branch else .idle) := by
  cases selected : selectCandidate call.now state.store branch with
  | none =>
    have ended : claimBranch call.now call.workerId call.leaseSeconds state.store branch =
        (none, state.store) := by simp [claimBranch, selected]
    cases branch <;>
      simp [run, claimStep, standing, selected, ended, nextBranch, ClaimState.setSession]
  | some candidate =>
    have hit := updateClaim_selected selected call.workerId call.leaseSeconds
    simp [claimStep, standing, selected, claimBranch_some selected, ClaimState.setSession, hit,
      ClaimState.grant]

/-- A call whose steps nothing interrupts is `claim_next_run`. -/
theorem claimNextRun_steps (state : ClaimState) (session : Nat) (workerId : String)
    (leaseSeconds : Int) (free : state.sessions session = .idle) :
    (run claimStep state [.begin session workerId leaseSeconds, .select session, .update session,
      .select session, .update session]).store =
      (claimNextRun state.clock workerId leaseSeconds state.store).2 := by
  let call : ClaimCall := { workerId, leaseSeconds, now := state.clock }
  have begun : claimStep state (.begin session workerId leaseSeconds) =
      state.setSession session (.selecting call .created) := by simp [claimStep, free, call]
  obtain ⟨store, standing⟩ :=
    branch_steps (ClaimState.setSession_self state session (.selecting call .created))
  change (run claimStep (run claimStep (claimStep state _) [.select session, .update session])
    [.select session, .update session]).store = _
  rw [begun]
  generalize run claimStep (state.setSession session (.selecting call .created))
    [.select session, .update session] = middle at store standing
  change middle.store = (claimBranch state.clock workerId leaseSeconds state.store .created).2 at store
  change middle.sessions session = (if (claimBranch state.clock workerId leaseSeconds state.store
    .created).1 = none then .selecting call .expired else .idle) at standing
  unfold claimNextRun
  cases first : claimBranch state.clock workerId leaseSeconds state.store .created with
  | mk claimed next =>
    rw [first] at store standing
    cases claimed with
    | some candidate => simpa [claimStep, standing] using store
    | none =>
      have second := (branch_steps standing).1
      rw [second, store]

end Calls

section Writes

/-- The new store has one lease more, on the given run and for the given worker. -/
structure WroteLease (before after : Store) (run : RunRow) (workerId : String) (lease : Time) :
    Prop where
  found : before.runs.find? run.id = some run
  rows : ∀ runId, after.runs.find? runId =
    if runId = run.id then some (claimRow workerId lease run) else before.runs.find? runId

/-- The new store has the same runs. -/
def SameRuns (before after : Store) : Prop :=
  ∀ runId, after.runs.find? runId = before.runs.find? runId

variable (store : Store)

/-- An UPDATE of the row under one id, on a stored run. -/
theorem find?_updateRun {runId : String} {run : RunRow}
    (found : store.runs.find? runId = some run)
    (q : RunRow → Bool) (set : RunRow → RunRow) (keeps : ∀ run, (set run).id = run.id)
    (other : String) :
    (store.runs.update (fun run => decide (run.id = runId) && q run) set keeps).find? other =
      if other = run.id then some (if q run then set run else run) else store.runs.find? other := by
  rw [Table.find?_updateKey, Table.key_of_find? found, found]
  rfl

theorem find?_updateRun_none {runId : String} (missing : store.runs.find? runId = none)
    (q : RunRow → Bool) (set : RunRow → RunRow) (keeps : ∀ run, (set run).id = run.id)
    (other : String) :
    (store.runs.update (fun run => decide (run.id = runId) && q run) set keeps).find? other =
      store.runs.find? other := by
  rw [Table.find?_updateKey]
  by_cases same : other = runId
  · rw [if_pos same, same, missing]
    rfl
  · rw [if_neg same]

/-- A conditional UPDATE of one run by id writes the row if it meets the
condition, and otherwise nothing. -/
theorem updateRun_cases (runId : String) (q : RunRow → Bool) (set : RunRow → RunRow)
    (keeps : ∀ run, (set run).id = run.id) :
    (∃ run, store.runs.find? runId = some run ∧ run.id = runId ∧ q run = true ∧
      store.runs.matching (fun run => decide (run.id = runId) && q run) = 1 ∧
      ∀ other, (store.runs.update (fun run => decide (run.id = runId) && q run) set keeps).find? other =
        if other = run.id then some (set run) else store.runs.find? other) ∨
    ((store.runs.find? runId).filter q = none ∧
      store.runs.matching (fun run => decide (run.id = runId) && q run) = 0 ∧
      ∀ other, (store.runs.update (fun run => decide (run.id = runId) && q run) set keeps).find? other =
        store.runs.find? other) := by
  have counted := Table.matching_key store.runs runId q
  cases found : store.runs.find? runId with
  | none =>
    rw [found] at counted
    exact .inr ⟨rfl, counted, find?_updateRun_none store found q set keeps⟩
  | some run =>
    have rows := find?_updateRun store found q set keeps
    rw [found] at counted
    by_cases meets : q run = true
    · refine .inl ⟨run, rfl, Table.key_of_find? found, meets, by simpa [meets] using counted, ?_⟩
      simpa only [meets, ↓reduceIte] using rows
    · refine .inr ⟨by simp [meets], by simpa [meets] using counted, ?_⟩
      intro other
      rw [rows, if_neg meets]
      by_cases same : other = run.id
      · rw [if_pos same, same, Table.key_of_find? found, found]
      · rw [if_neg same]

/-- A claim's UPDATE succeeds exactly on a run in the branch's state. -/
theorem updateClaim_cases (now : Time) (runId workerId : String) (leaseSeconds : Int)
    (branch : ClaimBranch) :
    (∃ run, run.id = runId ∧ run.state = branch.state ∧
      (updateClaim now runId workerId leaseSeconds store branch).1 = 1 ∧
      WroteLease store (updateClaim now runId workerId leaseSeconds store branch).2 run workerId
        (now + seconds leaseSeconds)) ∨
    ((store.runs.find? runId).filter (fun run => decide (run.state = branch.state)) = none ∧
      (updateClaim now runId workerId leaseSeconds store branch).1 = 0 ∧
      SameRuns store (updateClaim now runId workerId leaseSeconds store branch).2) := by
  rcases updateRun_cases store runId (fun run => decide (run.state = branch.state))
    (claimRow workerId (now + seconds leaseSeconds)) (claimRow_id workerId _) with
    ⟨run, found, id, meets, counted, rows⟩ | missed
  · exact .inl ⟨run, id, by simpa using meets, counted, id ▸ found, rows⟩
  · exact .inr missed

/-- A heartbeat succeeds exactly on a running run of its worker, and writes there
what a claim of that worker would. -/
theorem heartbeat_cases (now : Time) (runId workerId : String) (leaseSeconds : Int) :
    (∃ run, run.id = runId ∧ run.state = .running ∧ run.workerId = some workerId ∧
      (heartbeat now runId workerId leaseSeconds store).1 = true ∧
      WroteLease store (heartbeat now runId workerId leaseSeconds store).2 run workerId
        (now + seconds leaseSeconds)) ∨
    ((heartbeat now runId workerId leaseSeconds store).1 = false ∧
      SameRuns store (heartbeat now runId workerId leaseSeconds store).2) := by
  rcases updateRun_cases store runId (heartbeatMatches workerId)
    (heartbeatRow (now + seconds leaseSeconds)) (heartbeatRow_id _) with
    ⟨run, found, id, meets, counted, rows⟩ | ⟨_, counted, rows⟩
  · simp only [heartbeatMatches, Bool.and_eq_true, decide_eq_true_eq] at meets
    refine .inl ⟨run, id, meets.2, meets.1, decide_eq_true counted, id ▸ found, ?_⟩
    have same : heartbeatRow (now + seconds leaseSeconds) run =
        claimRow workerId (now + seconds leaseSeconds) run := by
      simp [heartbeatRow, claimRow, ← meets.1, ← meets.2]
    rw [← same]
    exact rows
  · exact .inr ⟨decide_eq_false (by unfold heartbeatHits; omega), rows⟩

end Writes

section Sessions

/-- What a session may rely on: its clock reading has passed, and the candidate of
a reclaim still runs, on the expired lease it was selected with or on one noted since. -/
def SessionSound (clock : Time) (store : Store) : ClaimSession → Prop
  | .idle => True
  | .selecting call _ => call.now ≤ clock
  | .updating call branch candidate renewed => call.now ≤ clock ∧ (branch = .expired →
      ∃ run, store.runs.find? candidate = some run ∧ run.state = .running ∧
        (match renewed with
          | none => run.leaseBefore call.now = true
          | some lease => run.leaseExpiresAt = some lease))

def SessionsSound (state : ClaimState) : Prop :=
  ∀ session, SessionSound state.clock state.store (state.sessions session)

variable {clock : Time} {store next : Store} {session : ClaimSession}

theorem SessionSound.later (sound : SessionSound clock store session) {moment : Time}
    (passed : clock ≤ moment) : SessionSound moment store session := by
  cases session with
  | idle => trivial
  | selecting call branch => exact Int.le_trans sound passed
  | updating call branch candidate renewed => exact ⟨Int.le_trans sound.1 passed, sound.2⟩

theorem SessionSound.sameRuns (sound : SessionSound clock store session) (same : SameRuns store next) :
    SessionSound clock next session := by
  cases session with
  | idle => trivial
  | selecting call branch => exact sound
  | updating call branch candidate renewed => simpa only [SessionSound, same candidate] using sound

/-- A lease written by another session or a heartbeat is noted, and then relied on. -/
theorem SessionSound.noted (sound : SessionSound clock store session) {run : RunRow}
    {workerId : String} {lease : Time} (wrote : WroteLease store next run workerId lease) :
    SessionSound clock next (session.note run.id lease) := by
  cases session with
  | idle => trivial
  | selecting call branch => exact sound
  | updating call branch candidate renewed =>
    refine ⟨sound.1, fun expired => ?_⟩
    obtain ⟨row, found, running, renewal⟩ := sound.2 expired
    rw [wrote.rows]
    by_cases own : candidate = run.id
    · rw [if_pos own]
      exact ⟨_, rfl, rfl, by simp [own, claimRow]⟩
    · rw [if_neg own]
      exact ⟨row, found, running, by simpa [own] using renewal⟩

theorem nextBranch_sound (call : ClaimCall) (branch : ClaimBranch) (started : call.now ≤ clock) :
    SessionSound clock store (nextBranch call branch) := by
  cases branch
  · exact started
  · trivial

theorem SessionsSound.setSession {state : ClaimState} (sound : SessionsSound state) (index : Nat)
    (own : SessionSound state.clock state.store session) :
    SessionsSound (state.setSession index session) := by
  intro other
  by_cases same : other = index
  · subst same
    simpa [ClaimState.setSession] using own
  · simpa [ClaimState.setSession, same] using sound other

theorem SessionsSound.grant {state : ClaimState} (sound : SessionsSound state) {run : RunRow}
    {workerId : String} {lease : Time} (wrote : WroteLease state.store next run workerId lease) :
    SessionsSound ({ state with store := next }.grant run.id workerId lease) :=
  fun session => (sound session).noted wrote

theorem claimStep_sessionsSound (state : ClaimState) (event : ClaimEvent)
    (sound : SessionsSound state) : SessionsSound (claimStep state event) := by
  cases event with
  | wait elapsed => exact fun session =>
    (sound session).later (Int.le_add_of_nonneg_right (Int.natCast_nonneg elapsed))
  | begin session workerId leaseSeconds =>
    simp only [claimStep]
    split
    · exact sound.setSession session (Int.le_refl _)
    · exact sound
  | select session =>
    simp only [claimStep]
    split
    · rename_i call branch standing
      have started : call.now ≤ state.clock := by simpa [standing, SessionSound] using sound session
      split
      · rename_i candidate selected
        refine sound.setSession session ⟨started, fun expired => ?_⟩
        obtain ⟨run, found, meets⟩ := selectCandidate_some selected
        subst expired
        simp only [ClaimBranch.candidate, Bool.and_eq_true, decide_eq_true_eq] at meets
        exact ⟨run, found, meets.1, meets.2⟩
      · exact sound.setSession session (nextBranch_sound call branch started)
    · exact sound
  | update session =>
    simp only [claimStep]
    split
    · rename_i call branch candidate renewed standing
      have started : call.now ≤ state.clock := by
        have own := sound session
        rw [standing] at own
        exact own.1
      rcases updateClaim_cases state.store call.now candidate call.workerId call.leaseSeconds branch
        with ⟨run, rfl, _, counted, wrote⟩ | ⟨_, counted, same⟩
      · rw [counted, if_pos rfl]
        exact (sound.grant wrote).setSession session trivial
      · rw [counted, if_neg (by decide)]
        have kept : SessionsSound
            { state with
              store := (updateClaim call.now candidate call.workerId call.leaseSeconds state.store
                branch).2 } :=
          fun other => (sound other).sameRuns same
        exact kept.setSession session (nextBranch_sound call branch started)
    · exact sound
  | heartbeat runId workerId leaseSeconds =>
    simp only [claimStep]
    rcases heartbeat_cases state.store state.clock runId workerId leaseSeconds with
      ⟨run, rfl, _, _, extended, wrote⟩ | ⟨missed, same⟩
    · rw [extended, if_pos rfl]
      exact sound.grant wrote
    · rw [missed, if_neg Bool.false_ne_true]
      exact fun other => (sound other).sameRuns same

end Sessions

section Leases

/-- A lease handed out is the one its run records, or it has expired. -/
def LeasesSound (state : ClaimState) : Prop :=
  ∀ runId workerId, ∀ lease ∈ state.leases runId workerId,
    ∃ run, state.store.runs.find? runId = some run ∧ run.state = .running ∧
      ((run.workerId = some workerId ∧ run.leaseExpiresAt = some lease) ∨ lease < state.clock)

theorem leasesSound_start (clock : Time) (store : Store) :
    LeasesSound (ClaimState.start clock store) := by
  intro runId workerId lease member
  simp only [ClaimState.start, Store.lease] at member
  split at member
  · rename_i run found
    split at member
    · rename_i held
      simp only [heartbeatMatches, Bool.and_eq_true, decide_eq_true_eq] at held
      exact ⟨run, found, held.2, .inl ⟨held.1, member⟩⟩
    · cases member
  · cases member

variable {state : ClaimState} {next : Store} {run : RunRow} {workerId : String} {lease : Time}

/-- A lease written for a worker keeps the leases sound when those of the other
workers on the run have expired. -/
theorem LeasesSound.grant (sound : LeasesSound state)
    (wrote : WroteLease state.store next run workerId lease)
    (others : ∀ other, other ≠ workerId → ∀ earlier ∈ state.leases run.id other,
      earlier < state.clock) :
    LeasesSound ({ state with store := next }.grant run.id workerId lease) := by
  intro runId holder held member
  simp only [ClaimState.grant] at member ⊢
  rw [wrote.rows]
  by_cases own : runId = run.id
  · subst own
    rw [if_pos rfl]
    refine ⟨_, rfl, rfl, ?_⟩
    rw [Function.update_self] at member
    by_cases same : holder = workerId
    · subst same
      rw [Function.update_self] at member
      exact .inl ⟨rfl, member⟩
    · rw [Function.update_of_ne same] at member
      exact .inr (others holder same held member)
  · rw [if_neg own]
    rw [Function.update_of_ne own] at member
    exact sound runId holder held member

/-- With an expired lease on the row, no lease handed out on the run is left. -/
theorem LeasesSound.expired (sound : LeasesSound state)
    (found : state.store.runs.find? run.id = some run)
    (free : run.state = .created ∨ (run.state = .running ∧ run.leaseBefore state.clock = true))
    (holder : String) : ∀ earlier ∈ state.leases run.id holder, earlier < state.clock := by
  intro earlier member
  obtain ⟨stored, same, running, standing⟩ := sound run.id holder earlier member
  obtain rfl : run = stored := Option.some.inj (found.symm.trans same)
  rcases standing with ⟨_, recorded⟩ | past
  · rcases free with created | ⟨_, before⟩
    · rw [created] at running
      cases running
    · simpa [RunRow.leaseBefore, recorded] using before
  · exact past

theorem claimedBy?_find {event : ClaimEvent} (claims : run ∈ claimedBy? state event) :
    state.store.runs.find? run.id = some run := by
  cases event with
  | update session =>
    simp only [claimedBy?] at claims
    split at claims
    · obtain ⟨found, _⟩ := Option.filter_eq_some_iff.mp claims
      rw [Table.key_of_find? found]
      exact found
    · cases claims
  | _ => cases claims

theorem ClaimSound.earlierLeasesExpired {event : ClaimEvent} (claims : ClaimSound state event)
    (sound : LeasesSound state) : EarlierLeasesExpired state event :=
  fun run member holder =>
    sound.expired (claimedBy?_find member) (claims run member) holder

theorem claimStep_leasesSound (state : ClaimState) (event : ClaimEvent)
    (claims : ClaimSound state event) (sound : LeasesSound state) :
    LeasesSound (claimStep state event) := by
  cases event with
  | wait elapsed =>
    intro runId holder lease member
    obtain ⟨run, found, running, standing⟩ := sound runId holder lease member
    refine ⟨run, found, running, standing.imp_right fun past => ?_⟩
    exact Int.lt_of_lt_of_le past (Int.le_add_of_nonneg_right (Int.natCast_nonneg elapsed))
  | begin session workerId leaseSeconds =>
    simp only [claimStep]
    split <;> exact sound
  | select session =>
    simp only [claimStep]
    split
    · split <;> exact sound
    · exact sound
  | update session =>
    have expired := claims.earlierLeasesExpired sound
    simp only [claimStep]
    simp only [EarlierLeasesExpired, claimedBy?] at expired
    split
    · rename_i call branch candidate renewed standing
      rw [standing] at expired
      rcases updateClaim_cases state.store call.now candidate call.workerId call.leaseSeconds branch
        with ⟨run, rfl, branchState, counted, wrote⟩ | ⟨_, counted, same⟩
      · rw [counted, if_pos rfl]
        refine sound.grant wrote fun other _ => expired run ?_ other
        simp [wrote.found, branchState]
      · rw [counted, if_neg (by decide)]
        intro runId holder lease member
        obtain ⟨run, found, rest⟩ := sound runId holder lease member
        exact ⟨run, (same runId).trans found, rest⟩
    · exact sound
  | heartbeat runId workerId leaseSeconds =>
    simp only [claimStep]
    rcases heartbeat_cases state.store state.clock runId workerId leaseSeconds with
      ⟨run, rfl, _, held, extended, wrote⟩ | ⟨missed, same⟩
    · rw [extended, if_pos rfl]
      refine sound.grant wrote fun other different earlier member => ?_
      obtain ⟨stored, found, _, standing⟩ := sound run.id other earlier member
      obtain rfl : run = stored := Option.some.inj (wrote.found.symm.trans found)
      rcases standing with ⟨recorded, _⟩ | past
      · exact absurd (Option.some.inj (recorded.symm.trans held)) different
      · exact past
    · rw [missed, if_neg Bool.false_ne_true]
      intro other holder lease member
      obtain ⟨run, found, rest⟩ := sound other holder lease member
      exact ⟨run, (same other).trans found, rest⟩

/-- Sound leases leave a run to one worker at a time. -/
theorem LeasesSound.exclusive (sound : LeasesSound state) {runId first second : String}
    (one : HoldsRun state runId first) (two : HoldsRun state runId second) : first = second := by
  obtain ⟨mine, granted, current⟩ := one
  obtain ⟨yours, other, standing⟩ := two
  obtain ⟨run, found, _, held⟩ := sound runId first mine granted
  obtain ⟨row, same, _, holds⟩ := sound runId second yours other
  obtain rfl : run = row := Option.some.inj (found.symm.trans same)
  rcases held with ⟨recorded, _⟩ | past
  · rcases holds with ⟨alike, _⟩ | past
    · exact Option.some.inj (recorded.symm.trans alike)
    · exact absurd past (Int.not_lt.mpr standing)
  · exact absurd past (Int.not_lt.mpr current)

end Leases

/-- Where the sessions are sound, a claim is sound unless a lease renewed since its
SELECT still runs. -/
theorem claimSound_iff_renewalsExpired (state : ClaimState) (event : ClaimEvent)
    (sound : SessionsSound state) : ClaimSound state event ↔ RenewalsExpired state event := by
  constructor
  · rintro claims session call candidate lease rfl standing
    have own := sound session
    rw [standing] at own
    obtain ⟨run, found, running, recorded⟩ := own.2 rfl
    have claimed : run ∈ claimedBy? state (.update session) := by
      simp [claimedBy?, standing, found, running, ClaimBranch.state]
    rcases claims run claimed with created | ⟨_, before⟩
    · rw [running] at created
      cases created
    · simpa [RunRow.leaseBefore, show run.leaseExpiresAt = some lease from recorded] using before
  · intro renewals run claimed
    cases event with
    | update session =>
      cases standing : state.sessions session with
      | updating call branch candidate renewed =>
        simp only [claimedBy?, standing] at claimed
        obtain ⟨found, inBranch⟩ := Option.filter_eq_some_iff.mp claimed
        have current : run.state = branch.state := by simpa using inBranch
        cases branch with
        | created => exact .inl current
        | expired =>
          have own := sound session
          rw [standing] at own
          obtain ⟨row, same, running, recorded⟩ := own.2 rfl
          obtain rfl : run = row := Option.some.inj (found.symm.trans same)
          refine .inr ⟨running, ?_⟩
          cases renewed with
          | none =>
            -- The lease had expired at the call's clock reading, which lies in the past.
            simp only [RunRow.leaseBefore, Option.any_eq_true, decide_eq_true_eq] at recorded ⊢
            obtain ⟨lease, held, past⟩ := recorded
            exact ⟨lease, held, Int.lt_of_lt_of_le past own.1⟩
          | some lease =>
            have past := renewals session call candidate lease rfl standing
            simpa [RunRow.leaseBefore, show run.leaseExpiresAt = some lease from recorded] using past
      | _ =>
        simp [claimedBy?, standing] at claimed
    | _ => cases claimed

/-- Claims are safe in exactly the runs whose reclaims all come after the leases
renewed since their SELECT have run out: then every claim finds its run free, every
earlier lease on it has expired, and no run is held by two workers. -/
theorem claims_exclude_iff (clock : Time) (store : Store) (events : List ClaimEvent) :
    (Guarded claimStep ClaimSound (ClaimState.start clock store) events ∧
      Guarded claimStep EarlierLeasesExpired (ClaimState.start clock store) events ∧
      ∀ runId first second,
        HoldsRun (run claimStep (ClaimState.start clock store) events) runId first →
        HoldsRun (run claimStep (ClaimState.start clock store) events) runId second →
        first = second) ↔
      Guarded claimStep RenewalsExpired (ClaimState.start clock store) events := by
  have idle : SessionsSound (ClaimState.start clock store) := fun _ => trivial
  rw [← Guarded.congr claimStep_sessionsSound claimSound_iff_renewalsExpired idle]
  constructor
  · exact And.left
  · intro claims
    have leases := leasesSound_start clock store
    refine ⟨claims, claims.strengthen claimStep_leasesSound ?_ leases, ?_⟩
    · exact fun state event claim sound => claim.earlierLeasesExpired sound
    · intro runId first second
      exact (run_invariant LeasesSound claimStep_leasesSound claims leases).exclusive

/-- A run whose worker is gone, with its lease past, and two calls that have both
found nothing created. -/
def reclaiming : ClaimState :=
  run claimStep (ClaimState.start 0 (run perform projectStore [submitted, claimedBy "gone"]))
    [.wait 61000000, .begin 1 "first" 60, .begin 2 "second" 60, .select 1, .select 2]

/-- Both calls select the run as reclaimable; the second UPDATE takes it from the
first, whose lease has just begun. -/
theorem reclaims_overlap :
    ¬ ClaimSound (run claimStep reclaiming [.select 1, .select 2, .update 1]) (.update 2) ∧
    HoldsRun (run claimStep reclaiming [.select 1, .select 2, .update 1, .update 2]) "run" "first" ∧
    HoldsRun (run claimStep reclaiming [.select 1, .select 2, .update 1, .update 2]) "run" "second" := by
  decide

end RegressionDetection.Persistence
