import Mathlib.Algebra.Order.Ring.Rat
import Mathlib.Tactic.Linarith
import RegressionDetection.Api.Auth
import RegressionDetection.Foundation.Run
import RegressionDetection.Foundation.SlidingWindow

/-! The per-token rate limiter of the API, with its periodic eviction of stale buckets.
Times are seconds of the monotonic clock. -/

namespace RegressionDetection.Api

open Foundation

/-- `_EVICTION_INTERVAL`. -/
def evictionInterval : ℚ := 300

/-- `RateLimitMiddleware` as constructed: `_window` and `_max`. -/
structure RateLimitMiddleware where
  window : Int
  max : Nat

/-- `_buckets` and `_last_eviction`. -/
structure LimiterState where
  buckets : String → Option (List ℚ)
  lastEviction : ℚ

/-- A request as `dispatch` sees it: its header, the clock that `_maybe_evict` reads
and the clock that `_allow` reads, for a request that carries a token id. -/
structure TimedRequest where
  authorization : Option String
  evictionClock : ℚ
  allowanceClock : ℚ

/-- The response of `call_next`, or one of the limiter's own. -/
inductive Dispatched where
  | forwarded
  | refused (status : Nat) (content : String)
deriving DecidableEq

def rateLimitExceeded : Dispatched := .refused 429 "Rate limit exceeded. Try again later."

def TimedRequest.tokenId (request : TimedRequest) : Option String :=
  (bearerSecret request.authorization).bind parseTokenId

namespace LimiterState

def start (started : ℚ) : LimiterState := ⟨fun _ => none, started⟩

/-- `self._buckets[token_id] = bucket`. -/
def store (tokenId : String) (bucket : List ℚ) (state : LimiterState) : LimiterState :=
  { state with buckets := fun key => if key = tokenId then some bucket else state.buckets key }

/-- The bucket of a token, which `setdefault` makes when it is missing. -/
def bucket (state : LimiterState) (tokenId : String) : List ℚ := (state.buckets tokenId).getD []

@[simp] theorem bucket_start (started : ℚ) (tokenId : String) :
    (start started).bucket tokenId = [] := rfl

@[simp] theorem bucket_store_self (tokenId : String) (bucket : List ℚ) (state : LimiterState) :
    (state.store tokenId bucket).bucket tokenId = bucket := by
  simp [store, LimiterState.bucket]

theorem bucket_store_other {tokenId other : String} (distinct : tokenId ≠ other)
    (bucket : List ℚ) (state : LimiterState) :
    (state.store other bucket).bucket tokenId = state.bucket tokenId := by
  simp [store, LimiterState.bucket, distinct]

end LimiterState

/-- Whether `_maybe_evict` goes on to evict. -/
def evictionDue (state : LimiterState) (now : ℚ) : Bool :=
  !decide (now - state.lastEviction < evictionInterval)

namespace RateLimitMiddleware

section Code

variable (limiter : RateLimitMiddleware)

def cutoff (now : ℚ) : ℚ := now - limiter.window

/-- `_allow`. -/
def allow (now : ℚ) (tokenId : String) (state : LimiterState) : Bool × LimiterState :=
  let recent := (state.bucket tokenId).filter (limiter.cutoff now < ·)
  if limiter.max ≤ recent.length then (false, state.store tokenId recent)
  else (true, state.store tokenId (recent ++ [now]))

/-- `not v or v[-1] <= cutoff`. -/
def isStale (now : ℚ) (bucket : List ℚ) : Bool :=
  match bucket.getLast? with
  | none => true
  | some last => decide (last ≤ limiter.cutoff now)

/-- What `_maybe_evict` does when an eviction is due. -/
def evict (now : ℚ) (state : LimiterState) : LimiterState :=
  { buckets := fun key => (state.buckets key).filter (fun bucket => !limiter.isStale now bucket),
    lastEviction := now }

/-- `_maybe_evict`, with the rule for when an eviction is due. -/
def maybeEvict (due : LimiterState → ℚ → Bool) (now : ℚ) (state : LimiterState) : LimiterState :=
  if due state now then limiter.evict now state else state

def dispatchWith (due : LimiterState → ℚ → Bool) (state : LimiterState) (request : TimedRequest) :
    Dispatched × LimiterState :=
  let evicted := limiter.maybeEvict due request.evictionClock state
  match request.tokenId with
  | none => (.forwarded, evicted)
  | some tokenId =>
    let decided := limiter.allow request.allowanceClock tokenId evicted
    (if decided.1 then .forwarded else rateLimitExceeded, decided.2)

/-- `dispatch`: an eviction is due `_EVICTION_INTERVAL` seconds after the last one. -/
def dispatch (state : LimiterState) (request : TimedRequest) : Dispatched × LimiterState :=
  limiter.dispatchWith evictionDue state request

end Code

end RateLimitMiddleware

/-- Each request with what it got, over a whole sequence. -/
def history (serve : LimiterState → TimedRequest → Dispatched × LimiterState) :
    LimiterState → List TimedRequest → List (TimedRequest × Dispatched)
  | _, [] => []
  | state, request :: rest =>
    (request, (serve state request).1) :: history serve (serve state request).2 rest

/-- The times at which the token's requests were let through. -/
def admissions (tokenId : String) (history : List (TimedRequest × Dispatched)) : List ℚ :=
  (history.filter (fun entry =>
    entry.1.tokenId = some tokenId ∧ entry.2 = .forwarded)).map (fun entry => entry.1.allowanceClock)

/-- The decisions on the token's requests, in order. -/
def verdicts (tokenId : String) (history : List (TimedRequest × Dispatched)) : List Bool :=
  (history.filter (fun entry => entry.1.tokenId = some tokenId)).map
    (fun entry => decide (entry.2 = .forwarded))

/-- The times of the token's requests. -/
def requestTimes (tokenId : String) (requests : List TimedRequest) : List ℚ :=
  (requests.filter (fun request => request.tokenId = some tokenId)).map TimedRequest.allowanceClock

/-- The clock readings never go back. -/
def ClockOrdered : ℚ → List TimedRequest → Prop
  | _, [] => True
  | last, request :: rest =>
    last ≤ request.evictionClock ∧ request.evictionClock ≤ request.allowanceClock ∧
      ClockOrdered request.allowanceClock rest

section History

variable {serve : LimiterState → TimedRequest → Dispatched × LimiterState}

/-- The state after a sequence of requests. -/
def stateAfter (serve : LimiterState → TimedRequest → Dispatched × LimiterState)
    (state : LimiterState) (requests : List TimedRequest) : LimiterState :=
  run (fun state request => (serve state request).2) state requests

theorem history_requests (state : LimiterState) (requests : List TimedRequest) :
    (history serve state requests).map Prod.fst = requests := by
  induction requests generalizing state with
  | nil => rfl
  | cons request rest ih => simp [history, ih]

theorem history_append (state : LimiterState) (first second : List TimedRequest) :
    history serve state (first ++ second) =
      history serve state first ++ history serve (stateAfter serve state first) second := by
  induction first generalizing state with
  | nil => rfl
  | cons request rest ih => simp [history, ih, stateAfter]

/-- An entry of a history is the answer in the state that the entries before it leave. -/
theorem history_entry {state : LimiterState} {requests : List TimedRequest}
    {before after : List (TimedRequest × Dispatched)} {request : TimedRequest}
    {dispatched : Dispatched}
    (shape : history serve state requests = before ++ (request, dispatched) :: after) :
    ∃ earlier later, requests = earlier ++ request :: later ∧
      before = history serve state earlier ∧
      dispatched = (serve (stateAfter serve state earlier) request).1 := by
  have split : requests = before.map Prod.fst ++ request :: after.map Prod.fst := by
    have whole : (history serve state requests).map Prod.fst = requests := history_requests state requests
    rw [← whole, shape, List.map_append, List.map_cons]
  refine ⟨before.map Prod.fst, after.map Prod.fst, split, ?_⟩
  rw [split, history_append] at shape
  have sameLength : (history serve state (before.map Prod.fst)).length = before.length := by
    rw [← List.length_map Prod.fst, history_requests, List.length_map]
  obtain ⟨front, rest⟩ := List.append_inj shape sameLength
  refine ⟨front.symm, ?_⟩
  rw [history] at rest
  exact (congrArg Prod.snd (List.cons.inj rest).1).symm

theorem admissions_append (tokenId : String) (first second : List (TimedRequest × Dispatched)) :
    admissions tokenId (first ++ second) = admissions tokenId first ++ admissions tokenId second := by
  simp [admissions]

end History

namespace RateLimitMiddleware

/-- What the state holds for a token whose admissions so far are `log`, the last clock
reading being `last`. -/
structure Tracks (limiter : RateLimitMiddleware) (tokenId : String) (last : ℚ) (log : List ℚ)
    (state : LimiterState) : Prop where
  retained : Retains (limiter.cutoff last) log (state.bucket tokenId)
  sorted : log.Pairwise (· ≤ ·)
  past : ∀ time ∈ log, time ≤ last
  paced : Paced limiter.max limiter.cutoff log
  short : (state.bucket tokenId).length ≤ limiter.max

section Steps

variable {limiter : RateLimitMiddleware} {tokenId : String} {last now : ℚ} {log : List ℚ}
  {state : LimiterState}

theorem cutoff_mono (order : last ≤ now) : limiter.cutoff last ≤ limiter.cutoff now := by
  unfold cutoff
  linarith

theorem cutoff_lt (positive : 0 < limiter.window) (now : ℚ) : limiter.cutoff now < now := by
  have wide : (0 : ℚ) < limiter.window := by exact_mod_cast positive
  unfold cutoff
  linarith

theorem Tracks.start (started : ℚ) : Tracks limiter tokenId started [] (LimiterState.start started) where
  retained := Retains.nil _
  sorted := List.Pairwise.nil
  past := by simp
  paced := Paced.nil
  short := by simp

theorem Tracks.later (tracks : Tracks limiter tokenId last log state) (order : last ≤ now) :
    Tracks limiter tokenId now log state where
  retained := tracks.retained.mono (cutoff_mono order)
  sorted := tracks.sorted
  past := fun time member => (tracks.past time member).trans order
  paced := tracks.paced
  short := tracks.short

theorem bucket_evict (now : ℚ) (tokenId : String) (state : LimiterState) :
    (limiter.evict now state).bucket tokenId =
      if limiter.isStale now (state.bucket tokenId) then [] else state.bucket tokenId := by
  unfold evict LimiterState.bucket
  dsimp only
  cases state.buckets tokenId with
  | none => simp
  | some bucket => cases stale : limiter.isStale now bucket <;> simp [Option.filter, stale]

/-- A stale bucket has nothing left in the window. -/
theorem Tracks.maybeEvict (tracks : Tracks limiter tokenId now log state)
    (due : LimiterState → ℚ → Bool) :
    Tracks limiter tokenId now log (limiter.maybeEvict due now state) := by
  unfold RateLimitMiddleware.maybeEvict
  split
  · have emptied : ∀ stale : limiter.isStale now (state.bucket tokenId) = true,
        Retains (limiter.cutoff now) log [] := by
      intro stale
      apply tracks.retained.forget tracks.sorted
      intro last found
      rw [isStale, Option.mem_def.mp found] at stale
      simpa using stale
    refine ⟨?_, tracks.sorted, tracks.past, tracks.paced, ?_⟩
    · rw [bucket_evict]
      split
      · exact emptied ‹_›
      · exact tracks.retained
    · rw [bucket_evict]
      split
      · exact Nat.zero_le _
      · exact tracks.short
  · exact tracks

theorem allow_other (limiter : RateLimitMiddleware) {other : String} (distinct : tokenId ≠ other)
    (now : ℚ) (state : LimiterState) :
    (limiter.allow now other state).2.bucket tokenId = state.bucket tokenId := by
  unfold allow
  dsimp only
  split <;> exact LimiterState.bucket_store_other distinct _ _

/-- `_allow` counts what the log has in the window. -/
theorem Tracks.allow_iff (tracks : Tracks limiter tokenId now log state) :
    (limiter.allow now tokenId state).1 = true ↔
      HasRoom limiter.max (limiter.cutoff now) log := by
  unfold allow HasRoom
  dsimp only
  rw [tracks.retained.prune_length]
  split
  · simpa using ‹_›
  · simp only [true_iff]
    omega

theorem Tracks.allow (tracks : Tracks limiter tokenId now log state)
    (positive : 0 < limiter.window) :
    Tracks limiter tokenId now (if (limiter.allow now tokenId state).1 then log ++ [now] else log)
      (limiter.allow now tokenId state).2 := by
  have decided := tracks.allow_iff
  have pruned := tracks.retained.prune_length
  unfold RateLimitMiddleware.allow at decided ⊢
  dsimp only at decided ⊢
  split
  · refine ⟨?_, tracks.sorted, tracks.past, tracks.paced, ?_⟩
    · rw [LimiterState.bucket_store_self]
      exact tracks.retained.prune
    · rw [LimiterState.bucket_store_self]
      exact (List.length_filter_le _ _).trans tracks.short
  · rename_i below
    rw [if_neg below] at decided
    have room : HasRoom limiter.max (limiter.cutoff now) log := decided.mp rfl
    refine ⟨?_, ?_, ?_, tracks.paced.append room, ?_⟩
    · rw [LimiterState.bucket_store_self]
      exact tracks.retained.prune.append (cutoff_lt positive now)
    · simpa [List.pairwise_append] using ⟨tracks.sorted, tracks.past⟩
    · simpa [or_imp, forall_and] using tracks.past
    · rw [LimiterState.bucket_store_self, List.length_append, List.length_singleton]
      omega

variable (due : LimiterState → ℚ → Bool) {request : TimedRequest}

theorem Tracks.forwarded_iff (tracks : Tracks limiter tokenId last log state)
    (forward : last ≤ request.evictionClock)
    (inOrder : request.evictionClock ≤ request.allowanceClock)
    (own : request.tokenId = some tokenId) :
    (limiter.dispatchWith due state request).1 = .forwarded ↔
      HasRoom limiter.max (limiter.cutoff request.allowanceClock) log := by
  rw [← (((tracks.later forward).maybeEvict due).later inOrder).allow_iff]
  unfold dispatchWith
  rw [own]
  dsimp only
  split <;> simp_all [rateLimitExceeded]

/-- What one request adds to the token's admissions. -/
theorem Tracks.dispatch (tracks : Tracks limiter tokenId last log state)
    (positive : 0 < limiter.window) (forward : last ≤ request.evictionClock)
    (inOrder : request.evictionClock ≤ request.allowanceClock) :
    Tracks limiter tokenId request.allowanceClock
      (log ++ admissions tokenId [(request, (limiter.dispatchWith due state request).1)])
      (limiter.dispatchWith due state request).2 := by
  have evicted := ((tracks.later forward).maybeEvict due).later inOrder
  by_cases own : request.tokenId = some tokenId
  · have allowed := evicted.allow positive
    unfold dispatchWith
    rw [own]
    dsimp only
    split
    · rw [if_pos ‹_›] at allowed
      simpa [admissions, own] using allowed
    · rw [if_neg ‹_›] at allowed
      simpa [admissions, own, rateLimitExceeded] using allowed
  · have nothing : ∀ dispatched, admissions tokenId [(request, dispatched)] = [] := by
      intro dispatched
      simp [admissions, own]
    rw [nothing, List.append_nil]
    unfold dispatchWith
    cases carried : request.tokenId with
    | none => exact evicted
    | some other =>
      -- another token's request leaves this token's bucket alone
      have distinct : tokenId ≠ other := fun same => own (carried.trans (congrArg some same.symm))
      have unchanged := allow_other limiter distinct request.allowanceClock
        (limiter.maybeEvict due request.evictionClock state)
      exact ⟨unchanged ▸ evicted.retained, evicted.sorted, evicted.past, evicted.paced,
        unchanged ▸ evicted.short⟩

/-- The step, over any sequence of requests with further ones to come. -/
theorem Tracks.history {earlier later : List TimedRequest}
    (tracks : Tracks limiter tokenId last log state) (positive : 0 < limiter.window)
    (ordered : ClockOrdered last (earlier ++ later)) :
    ∃ final, Tracks limiter tokenId final
        (log ++ admissions tokenId (Api.history (limiter.dispatchWith due) state earlier))
        (stateAfter (limiter.dispatchWith due) state earlier) ∧
      ClockOrdered final later := by
  induction earlier generalizing last log state with
  | nil => exact ⟨last, by simpa [Api.history, admissions, stateAfter] using tracks, ordered⟩
  | cons request rest ih =>
    obtain ⟨forward, inOrder, onwards⟩ := ordered
    obtain ⟨final, reached, remaining⟩ := ih (tracks.dispatch due positive forward inOrder) onwards
    refine ⟨final, ?_, remaining⟩
    have grouped := admissions_append tokenId
      [(request, (limiter.dispatchWith due state request).1)]
      (Api.history (limiter.dispatchWith due) (limiter.dispatchWith due state request).2 rest)
    rw [List.append_assoc, ← grouped] at reached
    exact reached

/-- A token's decisions are those of a limiter that sees its requests only and forgets
nothing. -/
theorem Tracks.verdicts {requests : List TimedRequest}
    (tracks : Tracks limiter tokenId last log state) (positive : 0 < limiter.window)
    (ordered : ClockOrdered last requests) :
    verdicts tokenId (Api.history (limiter.dispatchWith due) state requests) =
      windowed limiter.max limiter.cutoff log (requestTimes tokenId requests) := by
  induction requests generalizing last log state with
  | nil => rfl
  | cons request rest ih =>
    obtain ⟨forward, inOrder, onwards⟩ := ordered
    have decision := tracks.forwarded_iff due forward inOrder
    have later := ih (tracks.dispatch due positive forward inOrder) onwards
    by_cases own : request.tokenId = some tokenId
    · have decided := decision own
      by_cases room : HasRoom limiter.max (limiter.cutoff request.allowanceClock) log
      · have passed := decided.mpr room
        simp_all [Api.history, Api.verdicts, requestTimes, windowed, admissions]
      · have refused := mt decided.mp room
        simp_all [Api.history, Api.verdicts, requestTimes, windowed, admissions]
    · simp_all [Api.history, Api.verdicts, requestTimes, admissions]

end Steps

end RateLimitMiddleware

/-- What a limiter of this window and capacity promises about the requests it served. -/
structure SlidingWindow (limiter : RateLimitMiddleware)
    (history : List (TimedRequest × Dispatched)) : Prop where
  decided : ∀ before request dispatched after tokenId,
    history = before ++ (request, dispatched) :: after → request.tokenId = some tokenId →
      (dispatched = .forwarded ↔
        (admissions tokenId before).countP (fun time : ℚ =>
          request.allowanceClock - limiter.window < time ∧ time ≤ request.allowanceClock) <
            limiter.max)
  afterStart : ∀ tokenId first, (admissions tokenId history).countP
    (fun time : ℚ => first < time ∧ time ≤ first + limiter.window) ≤ limiter.max
  fromStart : ∀ tokenId first, (admissions tokenId history).countP
    (fun time : ℚ => first ≤ time ∧ time < first + limiter.window) ≤ limiter.max

/-- A bucket as the limiter keeps it. -/
structure TidyBucket (limiter : RateLimitMiddleware) (bucket : List ℚ) : Prop where
  sorted : bucket.Pairwise (· ≤ ·)
  short : bucket.length ≤ limiter.max

section Exact

variable {limiter : RateLimitMiddleware} {due : LimiterState → ℚ → Bool} {started : ℚ}
  {requests : List TimedRequest}

/-- Over a whole run the state tracks every token. -/
theorem tracked (due : LimiterState → ℚ → Bool) (tokenId : String)
    (positive : 0 < limiter.window) (ordered : ClockOrdered started requests) :
    ∃ final, limiter.Tracks tokenId final
      (admissions tokenId (history (limiter.dispatchWith due) (LimiterState.start started) requests))
      (stateAfter (limiter.dispatchWith due) (LimiterState.start started) requests) := by
  have whole : ClockOrdered started (requests ++ []) := by simpa using ordered
  obtain ⟨final, tracks, _⟩ := (RateLimitMiddleware.Tracks.start started).history due positive whole
  exact ⟨final, tracks⟩

/-- Nothing is admitted after now, so the window needs no upper edge. -/
theorem countP_window {log : List ℚ} {now : ℚ} (past : ∀ time ∈ log, time ≤ now) :
    log.countP (limiter.cutoff now < ·) =
      log.countP (fun time : ℚ => now - limiter.window < time ∧ time ≤ now) := by
  apply List.countP_congr
  intro time member
  rw [decide_eq_true_iff, decide_eq_true_iff]
  exact ⟨fun inside => ⟨inside, past time member⟩, And.left⟩

theorem slidingWindow (positive : 0 < limiter.window) (ordered : ClockOrdered started requests) :
    SlidingWindow limiter
      (history (limiter.dispatchWith due) (LimiterState.start started) requests) where
  decided := by
    intro before request dispatched after tokenId shape own
    obtain ⟨earlier, later, split, front, answered⟩ := history_entry shape
    subst split front answered
    obtain ⟨final, tracks, forward, inOrder, _⟩ :=
      (RateLimitMiddleware.Tracks.start started).history due positive ordered
    rw [List.nil_append] at tracks
    rw [tracks.forwarded_iff due forward inOrder own, HasRoom, countP_window]
    intro time member
    exact (tracks.past time member).trans (forward.trans inOrder)
  afterStart := by
    intro tokenId first
    obtain ⟨final, tracks⟩ := tracked due tokenId positive ordered
    apply tracks.paced.count_le tracks.sorted
    intro early late inside outer _
    unfold RateLimitMiddleware.cutoff
    linarith [inside.1, outer.2]
  fromStart := by
    intro tokenId first
    obtain ⟨final, tracks⟩ := tracked due tokenId positive ordered
    apply tracks.paced.count_le tracks.sorted
    intro early late inside outer _
    unfold RateLimitMiddleware.cutoff
    linarith [inside.1, outer.2]

theorem tidyBuckets (positive : 0 < limiter.window) (ordered : ClockOrdered started requests)
    {tokenId : String} {bucket : List ℚ}
    (present : (stateAfter (limiter.dispatchWith due) (LimiterState.start started) requests).buckets
      tokenId = some bucket) : TidyBucket limiter bucket := by
  obtain ⟨final, tracks⟩ := tracked due tokenId positive ordered
  have same : (stateAfter (limiter.dispatchWith due) (LimiterState.start started) requests).bucket
      tokenId = bucket := by
    rw [LimiterState.bucket, present, Option.getD_some]
  exact ⟨same ▸ tracks.sorted.sublist tracks.retained.sublist, same ▸ tracks.short⟩

end Exact

/-- The limiter is an exact sliding window per token, whatever other tokens ask for and
whenever stale buckets are evicted. -/
theorem rateLimiter_exact (limiter : RateLimitMiddleware) (positive : 0 < limiter.window)
    (started : ℚ) (requests : List TimedRequest) (ordered : ClockOrdered started requests) :
    SlidingWindow limiter (history limiter.dispatch (LimiterState.start started) requests) ∧
      (∀ tokenId bucket,
        (stateAfter limiter.dispatch (LimiterState.start started) requests).buckets tokenId =
          some bucket → TidyBucket limiter bucket) ∧
      ∀ due otherStart others tokenId, ClockOrdered otherStart others →
        requestTimes tokenId others = requestTimes tokenId requests →
          verdicts tokenId (history (limiter.dispatchWith due) (LimiterState.start otherStart) others) =
            verdicts tokenId (history limiter.dispatch (LimiterState.start started) requests) := by
  refine ⟨slidingWindow positive ordered, fun tokenId bucket => tidyBuckets positive ordered, ?_⟩
  intro due otherStart others tokenId otherOrdered same
  have fresh : ∀ clock, limiter.Tracks tokenId clock [] (LimiterState.start clock) :=
    RateLimitMiddleware.Tracks.start
  have first := (fresh otherStart).verdicts due positive otherOrdered
  have second := (fresh started).verdicts evictionDue positive ordered
  rw [first, same]
  exact second.symm

/-- One request a minute: the second comes too soon, the third exactly a window after
the first. -/
def minuteRequests : List TimedRequest :=
  [⟨some "Bearer mrds_reader_ab", 0, 0⟩, ⟨some "Bearer mrds_reader_ab", 30, 31⟩,
    ⟨some "Bearer mrds_reader_ab", 60, 60⟩]

theorem rateLimiter_exact_minute :
    SlidingWindow ⟨60, 1⟩
        (history (RateLimitMiddleware.dispatch ⟨60, 1⟩) (LimiterState.start 0) minuteRequests) ∧
      verdicts "reader"
        (history (RateLimitMiddleware.dispatch ⟨60, 1⟩) (LimiterState.start 0) minuteRequests) =
        [true, false, true] :=
  ⟨(rateLimiter_exact ⟨60, 1⟩ (by decide) 0 minuteRequests
    (by norm_num [ClockOrdered, minuteRequests])).1, by decide +kernel⟩

end RegressionDetection.Api
