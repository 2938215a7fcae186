import RegressionDetection.Foundation.Queues
import RegressionDetection.Persistence.Claims

/-! `claim_next_run` as a queue: calls made one after another hand out the created runs in the
order of their creation, then the runs whose lease had expired, each of them once. -/

namespace RegressionDetection.Persistence

open Foundation Specification Execution

/-- The call as one transaction. -/
def ClaimCall.claim (call : ClaimCall) (store : Store) : Option String × Store :=
  claimNextRun call.now call.workerId call.leaseSeconds store

/-- No lease runs out between the start and the last call: none that a running run held
then, and none that an earlier call handed out. -/
structure Quiet (start : Time) (store : Store) (calls : List ClaimCall) : Prop where
  begun : ∀ call ∈ calls, start ≤ call.now
  ordered : calls.Pairwise fun earlier later => earlier.now ≤ later.now
  positive : ∀ call ∈ calls, 0 < call.leaseSeconds
  held : ∀ run ∈ store.runs.rows, run.state = .running → ∀ lease, run.leaseExpiresAt = some lease →
    start ≤ lease → ∀ call ∈ calls, call.now ≤ lease
  granted : calls.Pairwise fun earlier later => later.now ≤ earlier.lease

/-- The call changes nothing but the claim columns of the run that it returns. -/
structure ClaimsOnly (call : ClaimCall) (before after : Store) (reply : Option String) : Prop where
  tables : ∃ runs, after = { before with runs }
  ids : after.runs.rows.map RunRow.id = before.runs.rows.map RunRow.id
  stored : ∀ runId ∈ reply, ∃ run, before.runs.find? runId = some run
  rows : ∀ run ∈ before.runs.rows, after.runs.find? run.id = some
    (if reply = some run.id then
      { run with state := .running, workerId := some call.workerId, leaseExpiresAt := some call.lease }
    else run)

/-- The runs that a branch of the call selects among. -/
def Store.candidates (store : Store) (branch : ClaimBranch) (moment : Time) : List RunRow :=
  store.runs.select (branch.candidate moment)

section Selection

variable {rows : List RunRow} {run : RunRow}

theorem earliest_eq_none : earliest rows = none ↔ rows = [] := by
  cases rows with
  | nil => simp [earliest]
  | cons head rest =>
    simp only [earliest, reduceCtorEq, iff_false]
    split
    · simp
    · split <;> simp

/-- No row was created before the one that `ORDER BY created_at` puts first. -/
theorem earliest_least (found : earliest rows = some run) :
    ∀ other ∈ rows, run.createdAt ≤ other.createdAt := by
  induction rows generalizing run with
  | nil => cases found
  | cons head rest ih =>
    unfold earliest at found
    cases later : earliest rest with
    | none =>
      rw [later] at found
      cases found
      rw [earliest_eq_none.mp later]
      simp
    | some first =>
      have least := ih later
      rw [later] at found
      simp only at found
      intro other member
      split at found
      · rename_i before
        cases found
        rcases List.mem_cons.mp member with rfl | listed
        · exact before.le
        · exact least other listed
      · rename_i after
        cases found
        rcases List.mem_cons.mp member with rfl | listed
        · exact le_rfl
        · exact (not_lt.mp after).trans (least other listed)

end Selection

section Calls

variable {store : Store} {run : RunRow} {now : Time} {workerId : String} {leaseSeconds : Int}
  {branch : ClaimBranch}

/-- The store after a claim of the run. -/
def Store.claimed (store : Store) (branch : ClaimBranch) (workerId : String) (lease : Time)
    (run : RunRow) : Store :=
  { store with
    runs := store.runs.update (claimHits run.id branch) (claimRow workerId lease)
      (claimRow_id workerId lease) }

/-- A branch claims the oldest of its candidates, if it has one. -/
theorem claimBranch_cases :
    (∃ run, run ∈ store.candidates branch now ∧
      (∀ other ∈ store.candidates branch now, run.createdAt ≤ other.createdAt) ∧
      claimBranch now workerId leaseSeconds store branch =
        (some run.id, store.claimed branch workerId (now + seconds leaseSeconds) run)) ∨
    (store.candidates branch now = [] ∧
      claimBranch now workerId leaseSeconds store branch = (none, store)) := by
  cases first : earliest (store.candidates branch now) with
  | none =>
    have selected : selectCandidate now store branch = none := congrArg (Option.map RunRow.id) first
    exact .inr ⟨earliest_eq_none.mp first, by rw [claimBranch, selected]⟩
  | some run =>
    have selected : selectCandidate now store branch = some run.id :=
      congrArg (Option.map RunRow.id) first
    exact .inl ⟨run, earliest_mem first, earliest_least first, claimBranch_some selected⟩

/-- The claim's UPDATE hits the selected run alone. -/
theorem claimHits_iff (member : run ∈ store.candidates branch now) {other : RunRow}
    (stored : other ∈ store.runs.rows) : claimHits run.id branch other = true ↔ other = run := by
  obtain ⟨listed, candidate⟩ := List.mem_filter.mp member
  simp only [claimHits, Bool.and_eq_true, decide_eq_true_eq]
  constructor
  · rintro ⟨same, _⟩
    exact List.inj_on_of_nodup_map store.runs.distinct stored listed same
  · rintro rfl
    exact ⟨rfl, candidate_state candidate⟩

/-- A claimed run is no candidate any more while its lease lasts. -/
theorem claimed_candidates {lease start : Time} (member : run ∈ store.candidates branch now)
    (lasting : start ≤ lease) (other : ClaimBranch) :
    (store.claimed branch workerId lease run).candidates other start =
      (store.candidates other start).erase run := by
  refine Table.select_updateOne store.runs (claimRow_id workerId lease)
    (fun _ stored => claimHits_iff member stored) ?_
  cases other <;> simp [ClaimBranch.candidate, claimRow, RunRow.leaseBefore, lasting]

/-- A candidate of one branch is none of the other. -/
theorem candidates_apart {moment : Time} {other : ClaimBranch} (apart : other ≠ branch)
    (member : run ∈ store.candidates branch now) : run ∉ store.candidates other moment := by
  intro both
  have own := candidate_state (List.mem_filter.mp member).2
  rw [candidate_state (List.mem_filter.mp both).2] at own
  cases branch <;> cases other <;> first | exact apart rfl | cases own

end Calls

section Queue

variable {start : Time} {store : Store} {call : ClaimCall} {rest : List ClaimCall}

/-- A quiet clock lapses no lease. -/
theorem Quiet.candidates (quiet : Quiet start store (call :: rest)) :
    store.candidates .expired call.now = store.candidates .expired start := by
  apply List.filter_congr
  intro run stored
  by_cases running : run.state = .running
  · cases held : run.leaseExpiresAt with
    | none => simp [ClaimBranch.candidate, RunRow.leaseBefore, held]
    | some lease =>
      have begun := quiet.begun call List.mem_cons_self
      have lasts := fun unexpired =>
        quiet.held run stored running lease held unexpired call List.mem_cons_self
      have same : lease < call.now ↔ lease < start := by
        constructor
        · intro lapsed
          by_contra unexpired
          exact absurd (lasts (not_lt.mp unexpired)) (not_le.mpr lapsed)
        · exact fun lapsed => lapsed.trans_le begun
      simp [ClaimBranch.candidate, RunRow.leaseBefore, held, same]
  · simp [ClaimBranch.candidate, running]

theorem Quiet.lease (quiet : Quiet start store (call :: rest)) : start ≤ call.lease := by
  have begun := quiet.begun call List.mem_cons_self
  have positive := quiet.positive call List.mem_cons_self
  have lasts : 0 ≤ call.leaseSeconds * 1000000 := by omega
  exact begun.trans (Int.le_add_of_nonneg_right lasts)

theorem Quiet.unchanged (quiet : Quiet start store (call :: rest)) : Quiet start store rest where
  begun later member := quiet.begun later (List.mem_cons_of_mem _ member)
  ordered := (List.pairwise_cons.mp quiet.ordered).2
  positive later member := quiet.positive later (List.mem_cons_of_mem _ member)
  granted := (List.pairwise_cons.mp quiet.granted).2
  held run stored running lease holds unexpired later member :=
    quiet.held run stored running lease holds unexpired later (List.mem_cons_of_mem _ member)

/-- The remaining calls are quiet after a claim: its lease outlasts them. -/
theorem Quiet.claimed {branch : ClaimBranch} {run : RunRow}
    (quiet : Quiet start store (call :: rest)) :
    Quiet start (store.claimed branch call.workerId call.lease run) rest where
  begun := quiet.unchanged.begun
  ordered := quiet.unchanged.ordered
  positive := quiet.unchanged.positive
  granted := quiet.unchanged.granted
  held row stored running lease holds unexpired later member := by
    obtain ⟨original, listed, rfl⟩ := List.mem_map.mp stored
    by_cases hit : claimHits run.id branch original = true
    · rw [if_pos hit] at holds
      cases holds
      exact (List.pairwise_cons.mp quiet.granted).1 later member
    · rw [if_neg hit] at running holds
      exact quiet.unchanged.held original listed running lease holds unexpired later member

/-- One call on the whole store: the oldest created run, else the oldest lapsed one. -/
theorem claim_cases (call : ClaimCall) (store : Store) :
    (∃ branch run, (branch = .expired → store.candidates .created call.now = []) ∧
      run ∈ store.candidates branch call.now ∧
      (∀ other ∈ store.candidates branch call.now, run.createdAt ≤ other.createdAt) ∧
      call.claim store = (some run.id, store.claimed branch call.workerId call.lease run)) ∨
    (store.candidates .created call.now = [] ∧ store.candidates .expired call.now = [] ∧
      call.claim store = (none, store)) := by
  unfold ClaimCall.claim claimNextRun
  rcases claimBranch_cases with ⟨run, member, least, claims⟩ | ⟨drained, missed⟩
  · rw [claims]
    exact .inl ⟨.created, run, by simp, member, least, rfl⟩
  · rw [missed]
    rcases claimBranch_cases with ⟨run, member, least, claims⟩ | ⟨empty, both⟩
    · exact .inl ⟨.expired, run, fun _ => drained, member, least, claims⟩
    · exact .inr ⟨drained, empty, both⟩

/-- A call serves the two queues of a quiet store. -/
theorem claim_serves (quiet : Quiet start store (call :: rest)) :
    Quiet start (call.claim store).2 rest ∧
      ∃ taken, (call.claim store).1 = taken.map RunRow.id ∧
        Serves RunRow.createdAt (store.candidates .created start) (store.candidates .expired start)
          taken ((call.claim store).2.candidates .created start)
          ((call.claim store).2.candidates .expired start) := by
  have created : store.candidates .created call.now = store.candidates .created start := rfl
  rcases claim_cases call store with
    ⟨branch, run, first, member, least, claims⟩ | ⟨drained, empty, missed⟩
  · rw [claims]
    have left := @claimed_candidates store run call.now call.workerId branch call.lease start member
      quiet.lease
    refine ⟨quiet.claimed, some run, rfl, ?_⟩
    simp only [left]
    cases branch with
    | created =>
      have apart : run ∉ store.candidates .expired start := candidates_apart (by decide) member
      rw [List.erase_of_not_mem apart]
      exact .first member least
    | expired =>
      have apart : run ∉ store.candidates .created start := candidates_apart (by decide) member
      rw [List.erase_of_not_mem apart]
      rw [quiet.candidates] at member least
      exact .second (first rfl) member least
  · rw [missed]
    exact ⟨quiet.unchanged, none, rfl, .neither drained (quiet.candidates ▸ empty)⟩

/-- A call returns nothing exactly when there is nothing to run. -/
theorem claim_none_iff (call : ClaimCall) (store : Store) :
    (call.claim store).1 = none ↔ ∀ run ∈ store.runs.rows, run.state ≠ .created ∧
      ¬ (run.state = .running ∧ run.leaseBefore call.now = true) := by
  have nothing : (call.claim store).1 = none ↔
      store.candidates .created call.now = [] ∧ store.candidates .expired call.now = [] := by
    rcases claim_cases call store with ⟨branch, run, first, member, _, claims⟩ | ⟨drained, empty, missed⟩
    · rw [claims]
      simp only [reduceCtorEq, false_iff, not_and]
      intro drained empty
      cases branch with
      | created => simp [drained] at member
      | expired => simp [empty] at member
    · rw [missed]
      exact iff_of_true rfl ⟨drained, empty⟩
  rw [nothing]
  simp only [Store.candidates, Table.select, List.filter_eq_nil_iff, ← forall_and, ClaimBranch.candidate,
    Bool.and_eq_true, decide_eq_true_eq]

theorem claim_claimsOnly (call : ClaimCall) (store : Store) :
    ClaimsOnly call store (call.claim store).2 (call.claim store).1 := by
  rcases claim_cases call store with ⟨branch, run, _, member, _, claims⟩ | ⟨_, _, missed⟩
  · rw [claims]
    have listed := (List.mem_filter.mp member).1
    refine ⟨⟨_, rfl⟩, ?_, ?_, fun other stored => ?_⟩
    · refine List.map_map.trans (List.map_congr_left fun other _ => ?_)
      simp only [Function.comp_apply]
      split <;> rfl
    · rintro _ ⟨⟩
      exact ⟨run, Table.find?_of_mem listed⟩
    · have found := Table.find?_update store.runs (claimHits run.id branch)
        (claimRow call.workerId call.lease) (claimRow_id call.workerId call.lease) other.id
      rw [Table.find?_of_mem stored, Option.map_some] at found
      refine found.trans (congrArg some ?_)
      by_cases own : other = run
      · subst own
        rw [if_pos ((claimHits_iff member stored).mpr rfl), if_pos rfl]
        rfl
      · have apart : run.id ≠ other.id := fun same =>
          own (List.inj_on_of_nodup_map store.runs.distinct stored listed same.symm)
        rw [if_neg (fun hit => own ((claimHits_iff member stored).mp hit)),
          if_neg (fun same => apart (Option.some.inj same))]
  · rw [missed]
    exact ⟨⟨store.runs, rfl⟩, rfl, by simp, fun run stored => Table.find?_of_mem stored⟩

end Queue

section Examples

/-- A run that waits since a moment. -/
def waitingRow (runId : String) (createdAt : Time) : RunRow :=
  createdRow createdAt runId "project" ⟨plainDocument "Say ok" ["first"] {}, greeting_valid⟩
    HexDigest.zero HexDigest.zero

/-- Two created runs, the younger one stored first, and a run whose worker is gone. -/
def queueStore : Store :=
  { projectStore with
    runs := ⟨[{ waitingRow "lapsed" 0 with state := .running, workerId := some "gone",
                                           leaseExpiresAt := some 5 },
      waitingRow "younger" 2, waitingRow "older" 1], by decide⟩ }

/-- One worker polls four times. -/
def polls : List ClaimCall := [10, 11, 12, 13].map fun now => ⟨"worker", 60, now⟩

theorem polls_quiet : Quiet 10 queueStore polls where
  begun := by decide
  ordered := by decide
  positive := by decide
  granted := by decide
  held run stored running lease holds unexpired := by
    simp only [queueStore, List.mem_cons, List.not_mem_nil, or_false] at stored
    rcases stored with rfl | rfl | rfl
    · cases holds
      exact absurd unexpired (by decide)
    · cases running
    · cases running

end Examples

example : (serial ClaimCall.claim queueStore polls).1 =
    [some "older", some "younger", some "lapsed", none] := by decide

end RegressionDetection.Persistence
