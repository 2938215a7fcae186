import RegressionDetection.Application.Traffic

/-! The rate limiter among the requests in flight: it sees them as one sequence, and what it
remembers is bounded by the tokens that were used lately. -/

namespace RegressionDetection.Application

open Foundation Api

variable {Db Local Error : Type}

/-- The request with which this event consults the limiter. -/
def consulted (server : Server Db Local Error) : ServerEvent → Option TimedRequest
  | .receive _ => none
  | .advance index readings =>
    match server.flights[index]? with
    | some ⟨request, .measured⟩ => some (request.timed readings)
    | _ => none

def decision (stack : Stack) (server : Server Db Local Error) (event : ServerEvent) :
    List (TimedRequest × Dispatched) :=
  (consulted server event).toList.map fun request =>
    (request, (stack.limiter.dispatch server.shared.limiter request).1)

/-- What the limiter decides in a run, on which requests, in the order in which they reach it. -/
def decisions (stack : Stack) (routes : Routes Db Local Error) :
    Server Db Local Error → List ServerEvent → List (TimedRequest × Dispatched)
  | _, [] => []
  | server, event :: rest =>
    decision stack server event ++ decisions stack routes (serverStep stack routes server event) rest

/-- The token and whether it was let through, of an entry of the limiter's history. -/
def verdictOf (entry : TimedRequest × Dispatched) : Option String × Bool :=
  (entry.1.tokenId, decide (entry.2 = .forwarded))

/-- The same of a request that the limiter has decided on. -/
def Flight.verdict (flight : Flight Local Error) : List (Option String × Bool) :=
  let tokenId := (bearerSecret flight.request.authorization).bind parseTokenId
  match flight.phase with
  | .received | .measured | .answered .oversized _ | .closed .oversized _ => []
  | .answered .throttled _ | .closed .throttled _ => [(tokenId, false)]
  | _ => [(tokenId, true)]

section Limits

variable {stack : Stack} {routes : Routes Db Local Error} {readings : Readings}
  {request : HttpRequest} {shared after : Shared Db} {phase next : Phase Local Error}

theorem Advances.decided (step : Advances stack routes readings request shared phase next after) :
    (phase = .measured ∧ ∃ dispatched,
      stack.limiter.dispatch shared.limiter (request.timed readings) = (dispatched, after.limiter) ∧
      Flight.verdict ⟨request, next⟩ = [verdictOf (request.timed readings, dispatched)]) ∨
    (phase ≠ .measured ∧ after.limiter = shared.limiter ∧
      Flight.verdict ⟨request, next⟩ = Flight.verdict ⟨request, phase⟩) := by
  cases step with
  | admitted limiter passed => exact .inl ⟨rfl, .forwarded, passed, rfl⟩
  | throttled limiter tokenId own refused => exact .inl ⟨rfl, rateLimitExceeded, refused, rfl⟩
  | recorded treatment response =>
    refine .inr ⟨nofun, ?_, ?_⟩
    · split <;> rfl
    · cases treatment <;> rfl
  | _ => exact .inr ⟨nofun, rfl, rfl⟩

/-- One event changes the limiter as the request that it consults it with, and that request is the
one that gets the verdict. -/
theorem serverStep_decision (server : Server Db Local Error) (event : ServerEvent) :
    decision stack server event = history stack.limiter.dispatch server.shared.limiter
        ((decision stack server event).map Prod.fst) ∧
      (serverStep stack routes server event).shared.limiter =
        stateAfter stack.limiter.dispatch server.shared.limiter
          ((decision stack server event).map Prod.fst) ∧
      ((serverStep stack routes server event).flights.flatMap Flight.verdict).Perm
        (server.flights.flatMap Flight.verdict ++ (decision stack server event).map verdictOf) := by
  obtain ⟨request, rfl, same⟩ | ⟨index, readings, rfl, missing, same⟩ |
    ⟨index, readings, request, phase, next, shared, rfl, found, step, same⟩ :=
    serverStep_cases stack routes server event
  · refine ⟨rfl, by rw [same]; rfl, ?_⟩
    rw [same, List.flatMap_append]
    exact List.Perm.refl _
  · have none : decision stack server (.advance index readings) = [] := by
      simp only [decision, consulted, missing, Option.toList_none, List.map_nil]
    rw [same, none, List.map_nil, List.map_nil, List.append_nil]
    exact ⟨rfl, rfl, List.Perm.refl _⟩
  · rcases step.decided with ⟨rfl, dispatched, decided, verdict⟩ | ⟨other, kept, verdict⟩
    · have one : decision stack server (.advance index readings) =
          [(request.timed readings, dispatched)] := by
        simp only [decision, consulted, found, Option.toList_some, List.map_singleton, decided]
      rw [same, one]
      refine ⟨by simp [history, decided], by simp [stateAfter, decided], ?_⟩
      exact flatMap_set_perm found (verdict ▸ List.Perm.refl _)
    · have none : decision stack server (.advance index readings) = [] := by
        cases phase <;> first
          | exact absurd rfl other
          | simp only [decision, consulted, found, Option.toList_none, List.map_nil]
      rw [same, none, List.map_nil, List.map_nil]
      refine ⟨rfl, kept, flatMap_set_perm found ?_⟩
      rw [verdict, List.append_nil]

variable (stack routes) in
/-- The limiter sees the requests of a run one after the other. -/
theorem decisions_history (server : Server Db Local Error) (events : List ServerEvent) :
    decisions stack routes server events = history stack.limiter.dispatch server.shared.limiter
        ((decisions stack routes server events).map Prod.fst) ∧
      (run (serverStep stack routes) server events).shared.limiter =
        stateAfter stack.limiter.dispatch server.shared.limiter
          ((decisions stack routes server events).map Prod.fst) ∧
      ((run (serverStep stack routes) server events).flights.flatMap Flight.verdict).Perm
        (server.flights.flatMap Flight.verdict ++
          (decisions stack routes server events).map verdictOf) := by
  induction events generalizing server with
  | nil =>
    refine ⟨rfl, rfl, ?_⟩
    rw [decisions, List.map_nil, List.append_nil]
    exact List.Perm.refl _
  | cons event rest ih =>
    obtain ⟨first, limiter, verdicts⟩ := serverStep_decision server event
    obtain ⟨later, final, remaining⟩ := ih (serverStep stack routes server event)
    refine ⟨?_, ?_, ?_⟩
    · rw [decisions, List.map_append, history_append, ← first, ← limiter, ← later]
    · rw [run_cons, final, limiter, decisions, List.map_append, stateAfter, stateAfter, stateAfter,
        run_append]
    · rw [decisions, List.map_append, run_cons, ← List.append_assoc]
      exact remaining.trans (verdicts.append_right _)

end Limits

instance instDecidableClockOrdered : ∀ (last : ℚ) (requests : List TimedRequest), Decidable (ClockOrdered last requests)
  | _, [] => isTrue trivial
  | last, request :: rest =>
    have : Decidable (ClockOrdered request.allowanceClock rest) := instDecidableClockOrdered _ rest
    inferInstanceAs (Decidable (last ≤ request.evictionClock ∧
      request.evictionClock ≤ request.allowanceClock ∧ ClockOrdered request.allowanceClock rest))

/-- The limiter is an exact sliding window over the requests that reach it, in whatever order they
are advanced. It has let through those requests that go on to the routes and refused those that are
answered with 429. A request that declares a body over the limit never reaches it: once it has been
looked at it is closed with 413. -/
theorem traffic_limited (stack : Stack) (routes : Routes Db Local Error)
    (positive : 0 < stack.limiter.window) (db : Db) (started : ℚ) (events : List ServerEvent)
    (ordered : ClockOrdered started
      ((decisions stack routes (Server.start db started) events).map Prod.fst)) :
    let server := run (serverStep stack routes) (Server.start db started) events
    SlidingWindow stack.limiter (decisions stack routes (Server.start db started) events) ∧
      Balanced Flight.verdict server.flights
        ((decisions stack routes (Server.start db started) events).map verdictOf) ∧
      ∀ flight ∈ server.flights, ∀ n : Nat, flight.request.contentLength = some (toString n) →
        n < 10 ^ maxStrDigits → stack.maxRequestBodySize < n →
          flight.phase = .received ∨ flight.phase = .closed .oversized (.ok stack.bodyTooLarge) := by
  obtain ⟨decided, _, verdicts⟩ := decisions_history stack routes
    (Server.start db started) events
  refine ⟨?_, verdicts.symm, ?_⟩
  · rw [decided]
    exact slidingWindow positive ordered
  · intro flight member n declared short oversize
    have sound := run_sound stack routes db started events flight member
    have large : stack.tooLarge flight.request = some (n : Int) := by
      unfold Stack.tooLarge HttpRequest.declaredLength
      rw [declared, Option.bind_some, pythonInt_decimal, if_pos short]
      simpa using oversize
    exact sound.oversized (by rw [large]; exact Option.some_ne_none _)

theorem mixedTraffic_limited :
    (decisions narrowStack sampleRoutes (Server.start Persistence.Store.empty 0) mixedTraffic).map
        verdictOf = [(some "reader", true), (some "reader", false)] ∧
      SlidingWindow narrowStack.limiter
        (decisions narrowStack sampleRoutes (Server.start Persistence.Store.empty 0) mixedTraffic) :=
  ⟨by decide +kernel, (traffic_limited narrowStack sampleRoutes (by decide)
    Persistence.Store.empty 0 mixedTraffic (by decide +kernel)).1⟩

/-- What the limiter has in memory after these requests: times of requests of the same token, and
nothing of a token that was not used since a window before the last eviction. -/
structure Remembered (limiter : RateLimitMiddleware) (seen : List TimedRequest) (last : ℚ)
    (state : LimiterState) : Prop where
  past : state.lastEviction ≤ last
  checked : ∀ request ∈ seen, request.evictionClock - state.lastEviction < evictionInterval
  times : ∀ tokenId bucket, state.buckets tokenId = some bucket → ∀ time ∈ bucket,
    ∃ request ∈ seen, request.tokenId = some tokenId ∧ request.allowanceClock = time
  recent : ∀ tokenId bucket, state.buckets tokenId = some bucket →
    ∃ request ∈ seen, request.tokenId = some tokenId ∧
      state.lastEviction - limiter.window < request.allowanceClock

section Memory

variable {limiter : RateLimitMiddleware} {seen : List TimedRequest} {last now : ℚ}
  {state : LimiterState}

theorem Remembered.start (started : ℚ) :
    Remembered limiter [] started (LimiterState.start started) :=
  ⟨le_refl started, nofun, nofun, nofun⟩

theorem Remembered.evict (remembered : Remembered limiter seen last state) (order : last ≤ now) :
    Remembered limiter seen now (limiter.maybeEvict evictionDue now state) ∧
      now - (limiter.maybeEvict evictionDue now state).lastEviction < evictionInterval := by
  have past := remembered.past.trans order
  unfold RateLimitMiddleware.maybeEvict
  split
  · refine ⟨⟨le_refl now, ?_, ?_, ?_⟩, ?_⟩
    · intro request member
      have before := remembered.checked request member
      have later : request.evictionClock - now ≤ request.evictionClock - state.lastEviction := by
        linarith
      exact later.trans_lt before
    · intro tokenId bucket kept
      exact remembered.times tokenId bucket (Option.filter_eq_some_iff.mp kept).1
    · intro tokenId bucket kept
      obtain ⟨present, fresh⟩ := Option.filter_eq_some_iff.mp kept
      -- the newest entry of a bucket that is kept lies in the window
      unfold RateLimitMiddleware.isStale at fresh
      split at fresh
      · cases fresh
      · rename_i newest found
        obtain ⟨request, listed, own, clock⟩ :=
          remembered.times tokenId bucket present newest (List.mem_of_getLast? found)
        refine ⟨request, listed, own, ?_⟩
        have newer : ¬ newest ≤ limiter.cutoff now := by simpa using fresh
        rw [clock]
        exact lt_of_not_ge newer
    · have none : now - now = (0 : ℚ) := sub_self now
      exact none.trans_lt (by norm_num [evictionInterval])
  · rename_i early
    refine ⟨⟨past, remembered.checked, remembered.times, remembered.recent⟩, ?_⟩
    simpa [evictionDue] using early

theorem Remembered.observe (remembered : Remembered limiter seen last state) {request : TimedRequest}
    (order : last ≤ now) (checked : request.evictionClock - state.lastEviction < evictionInterval) :
    Remembered limiter (seen ++ [request]) now state where
  past := remembered.past.trans order
  checked := by
    intro other member
    rcases List.mem_append.mp member with old | new
    · exact remembered.checked other old
    · rwa [List.mem_singleton.mp new]
  times := by
    intro tokenId bucket present time member
    obtain ⟨other, listed, found⟩ := remembered.times tokenId bucket present time member
    exact ⟨other, List.mem_append_left _ listed, found⟩
  recent := by
    intro tokenId bucket present
    obtain ⟨other, listed, found⟩ := remembered.recent tokenId bucket present
    exact ⟨other, List.mem_append_left _ listed, found⟩

variable (limiter) in
theorem allow_state (now : ℚ) (tokenId : String) (state : LimiterState) :
    ∃ bucket, (limiter.allow now tokenId state).2 = state.store tokenId bucket ∧
      ∀ time ∈ bucket, time ∈ state.bucket tokenId ∨ time = now := by
  unfold RateLimitMiddleware.allow
  dsimp only
  split
  · exact ⟨_, rfl, fun time member => .inl (List.mem_filter.mp member).1⟩
  · refine ⟨_, rfl, fun time member => ?_⟩
    rcases List.mem_append.mp member with old | new
    · exact .inl (List.mem_filter.mp old).1
    · exact .inr (List.mem_singleton.mp new)

/-- One request: its bucket is of this moment, the others are as they were. -/
theorem Remembered.allow (remembered : Remembered limiter seen last state)
    (positive : 0 < limiter.window) {request : TimedRequest} {tokenId : String}
    (listed : request ∈ seen) (own : request.tokenId = some tokenId)
    (clock : last ≤ request.allowanceClock) :
    Remembered limiter seen last (limiter.allow request.allowanceClock tokenId state).2 := by
  obtain ⟨bucket, stored, entries⟩ := allow_state limiter request.allowanceClock tokenId state
  rw [stored]
  refine ⟨remembered.past, remembered.checked, ?_, ?_⟩
  · intro other kept present time member
    unfold LimiterState.store at present
    dsimp only at present
    split at present
    · rename_i same
      obtain rfl := Option.some.inj present
      rcases entries time member with old | new
      · unfold LimiterState.bucket at old
        cases before : state.buckets tokenId with
        | none =>
          rw [before] at old
          cases old
        | some earlier =>
          rw [before] at old
          rw [same]
          exact remembered.times tokenId earlier before time old
      · exact ⟨request, listed, same ▸ own, new.symm⟩
    · exact remembered.times other kept present time member
  · intro other kept present
    unfold LimiterState.store at present
    dsimp only at present
    split at present
    · rename_i same
      refine ⟨request, listed, same ▸ own, ?_⟩
      have wide : (0 : ℚ) < limiter.window := by exact_mod_cast positive
      have past := remembered.past
      show state.lastEviction - limiter.window < request.allowanceClock
      linarith
    · exact remembered.recent other kept present

theorem Remembered.dispatch (remembered : Remembered limiter seen last state)
    (positive : 0 < limiter.window) {request : TimedRequest} (forward : last ≤ request.evictionClock)
    (inOrder : request.evictionClock ≤ request.allowanceClock) :
    Remembered limiter (seen ++ [request]) request.allowanceClock
      (limiter.dispatch state request).2 := by
  obtain ⟨evicted, checked⟩ := remembered.evict forward
  have listed : request ∈ seen ++ [request] := List.mem_append_right _ List.mem_cons_self
  have noted := evicted.observe inOrder checked
  unfold RateLimitMiddleware.dispatch RateLimitMiddleware.dispatchWith
  cases carried : request.tokenId with
  | none => exact noted
  | some tokenId => exact noted.allow positive listed carried (le_refl _)

theorem Remembered.run (remembered : Remembered limiter seen last state)
    (positive : 0 < limiter.window) {requests : List TimedRequest}
    (ordered : ClockOrdered last requests) :
    ∃ final, Remembered limiter (seen ++ requests) final
      (stateAfter limiter.dispatch state requests) := by
  induction requests generalizing seen last state with
  | nil => exact ⟨last, by rw [List.append_nil]; exact remembered⟩
  | cons request rest ih =>
    obtain ⟨forward, inOrder, onwards⟩ := ordered
    obtain ⟨final, reached⟩ := ih (remembered.dispatch positive forward inOrder) onwards
    refine ⟨final, ?_⟩
    rw [List.append_assoc] at reached
    exact reached

end Memory

/-- The memory of the limiter is bounded at any time of any run: a token has at most `_max` entries,
and none unless one of its requests came less than a window and an eviction interval before the
last time an eviction was considered. -/
theorem traffic_remembered (stack : Stack) (routes : Routes Db Local Error)
    (positive : 0 < stack.limiter.window) (db : Db) (started : ℚ) (events : List ServerEvent)
    (ordered : ClockOrdered started
      ((decisions stack routes (Server.start db started) events).map Prod.fst))
    (tokenId : String) (bucket : List ℚ)
    (present : (run (serverStep stack routes) (Server.start db started) events).shared.limiter.buckets
      tokenId = some bucket) :
    bucket.length ≤ stack.limiter.max ∧
      ∃ request ∈ (decisions stack routes (Server.start db started) events).map Prod.fst,
        request.tokenId = some tokenId ∧
          ∀ later ∈ (decisions stack routes (Server.start db started) events).map Prod.fst,
            later.evictionClock - evictionInterval - stack.limiter.window < request.allowanceClock := by
  obtain ⟨_, reached, _⟩ := decisions_history stack routes
    (Server.start db started) events
  rw [reached] at present
  obtain ⟨final, remembered⟩ := (Remembered.start started).run positive ordered
  refine ⟨(tidyBuckets positive ordered present).short, ?_⟩
  obtain ⟨request, listed, own, recent⟩ := remembered.recent tokenId bucket present
  refine ⟨request, listed, own, fun later member => ?_⟩
  have checked := remembered.checked later member
  linarith

/-- A token that is not used again is forgotten when another one comes 400 seconds later. -/
def idleTraffic : List ServerEvent :=
  [.receive (tokenRequest none), .receive { method := "GET", path := "/health" },
    .advance 0 (readAt 0), .advance 0 (readAt 0), .advance 1 (readAt 0), .advance 1 (readAt 400)]

theorem idleTraffic_forgets :
    (run (serverStep narrowStack sampleRoutes) (Server.start Persistence.Store.empty 0)
      idleTraffic).shared.limiter.buckets "reader" = none := by
  cases present : (run (serverStep narrowStack sampleRoutes) (Server.start Persistence.Store.empty 0)
    idleTraffic).shared.limiter.buckets "reader" with
  | none => rfl
  | some bucket =>
    obtain ⟨_, request, listed, own, recent⟩ := traffic_remembered narrowStack sampleRoutes
      (by decide) Persistence.Store.empty 0 idleTraffic (by decide +kernel) "reader" bucket present
    have stale : ∀ request ∈ (decisions narrowStack sampleRoutes
        (Server.start Persistence.Store.empty 0) idleTraffic).map Prod.fst,
        request.tokenId = some "reader" → request.allowanceClock ≤ 40 := by decide +kernel
    have used : (400 : ℚ) ∈ ((decisions narrowStack sampleRoutes
        (Server.start Persistence.Store.empty 0) idleTraffic).map Prod.fst).map
          TimedRequest.evictionClock := by decide +kernel
    obtain ⟨later, member, clock⟩ := List.mem_map.mp used
    have early := stale request listed own
    have late := recent later member
    rw [clock] at late
    norm_num [evictionInterval, narrowStack] at late
    linarith

end RegressionDetection.Application
