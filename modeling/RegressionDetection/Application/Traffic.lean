import RegressionDetection.Api.Routes
import RegressionDetection.Application.Middleware
import RegressionDetection.Foundation.Run

/-! What holds of the requests in flight, in whatever order they are advanced: none that is over the
body limit is passed on, and every log record of a request carries the id of its response. -/

namespace RegressionDetection.Application

open Foundation Foundation.Json Api

variable {Db Local Error : Type}

/-- What one step of a request can do. -/
inductive Advances (stack : Stack) (routes : Routes Db Local Error) (readings : Readings)
    (request : HttpRequest) (shared : Shared Db) :
    Phase Local Error → Phase Local Error → Shared Db → Prop where
  | oversized (length : Int) (oversize : stack.tooLarge request = some length) :
      Advances stack routes readings request shared .received
        (.closed .oversized (.ok stack.bodyTooLarge))
        (shared.logged none [bodyWarning stack request length readings.created])
  | measured (within : stack.tooLarge request = none) :
      Advances stack routes readings request shared .received .measured shared
  | admitted (limiter : LimiterState)
      (passed : stack.limiter.dispatch shared.limiter (request.timed readings) = (.forwarded, limiter)) :
      Advances stack routes readings request shared .measured .admitted { shared with limiter }
  | throttled (limiter : LimiterState) (tokenId : String)
      (own : (request.timed readings).tokenId = some tokenId)
      (refused : stack.limiter.dispatch shared.limiter (request.timed readings) =
        (rateLimitExceeded, limiter)) :
      Advances stack routes readings request shared .measured (.answered .throttled rateLimited)
        ({ shared with limiter }.logged none [rateWarning request tokenId readings.created])
  | bound :
      Advances stack routes readings request shared .admitted
        (.bound (requestId request readings.uuid) (routes.start request)) shared
  | working (id : String) (progress later : Local)
      (goes : (routes.advance shared.db progress).result = .inl later) :
      Advances stack routes readings request shared (.bound id progress) (.bound id later)
        ({ shared with db := (routes.advance shared.db progress).store }.logged (some id)
          (routes.advance shared.db progress).records)
  | returned (id : String) (progress : Local) (outcome : Except Error HttpResponse)
      (ends : (routes.advance shared.db progress).result = .inr outcome) :
      Advances stack routes readings request shared (.bound id progress) (.returned id outcome)
        ({ shared with db := (routes.advance shared.db progress).store }.logged (some id)
          (routes.advance shared.db progress).records)
  | answered (id : String) (response : HttpResponse) :
      Advances stack routes readings request shared (.returned id (.ok response))
        (.answered (.routed id)
          { response with headers := setHeader stack.requestIdHeader id response.headers })
        (shared.logged (some id) [accessRecord request response.status readings])
  | raised (id : String) (error : Error) :
      Advances stack routes readings request shared (.returned id (.error error))
        (.closed (.routed id) (.error error))
        (shared.logged (some id) [accessRecord request 500 readings])
  | recorded (treatment : Treatment) (response : HttpResponse) :
      Advances stack routes readings request shared (.answered treatment response)
        (.closed treatment (.ok response))
        (if stack.prometheusAvailable then
          { shared with metrics := shared.metrics.record (labelsOf request response) readings.duration }
        else shared)
  | closed (treatment : Treatment) (outcome : Except Error HttpResponse) :
      Advances stack routes readings request shared (.closed treatment outcome)
        (.closed treatment outcome) shared

section Inversion

/-- The limiter refuses only what carries a token id, and always with the same response. -/
theorem dispatch_refused {limiter : RateLimitMiddleware} {state next : LimiterState}
    {request : TimedRequest} {status : Nat} {content : String}
    (refused : limiter.dispatch state request = (.refused status content, next)) :
    (∃ tokenId, request.tokenId = some tokenId) ∧
      Dispatched.refused status content = rateLimitExceeded := by
  unfold RateLimitMiddleware.dispatch RateLimitMiddleware.dispatchWith at refused
  cases carried : request.tokenId with
  | none =>
    rw [carried] at refused
    cases refused
  | some tokenId =>
    rw [carried] at refused
    dsimp only at refused
    refine ⟨⟨tokenId, rfl⟩, ?_⟩
    split at refused
    · cases refused
    · exact (congrArg Prod.fst refused).symm

variable (stack : Stack) (routes : Routes Db Local Error)

theorem advance_advances (readings : Readings) (request : HttpRequest) (shared : Shared Db)
    (phase : Phase Local Error) :
    Advances stack routes readings request shared phase
      (advance stack routes readings request shared phase).1
      (advance stack routes readings request shared phase).2 := by
  cases phase with
  | received =>
    unfold advance
    cases oversize : stack.tooLarge request with
    | none => exact .measured oversize
    | some length => exact .oversized length oversize
  | measured =>
    unfold advance
    cases decided : stack.limiter.dispatch shared.limiter (request.timed readings) with
    | mk dispatched limiter =>
      cases dispatched with
      | forwarded => exact .admitted limiter decided
      | refused status content =>
        obtain ⟨⟨tokenId, own⟩, same⟩ := dispatch_refused decided
        have rejected : (⟨status, [], content⟩ : HttpResponse) = rateLimited := by
          cases same
          rfl
        rw [same] at decided
        simp only [own, Option.toList_some, List.map_singleton, rejected]
        exact .throttled limiter tokenId own decided
  | admitted => exact .bound
  | bound id progress =>
    unfold advance
    dsimp only
    cases ended : (routes.advance shared.db progress).result with
    | inl later => exact .working id progress later ended
    | inr outcome => exact .returned id progress outcome ended
  | returned id outcome =>
    cases outcome with
    | ok response => exact .answered id response
    | error error => exact .raised id error
  | answered treatment response => exact .recorded treatment response
  | closed treatment outcome => exact .closed treatment outcome

/-- What one event can do: a request arrives, nothing is there to advance, or one request takes
a step. -/
theorem serverStep_cases (server : Server Db Local Error) (event : ServerEvent) :
    (∃ request, event = .receive request ∧ serverStep stack routes server event =
      ⟨server.shared, server.flights ++ [⟨request, .received⟩]⟩) ∨
    (∃ index readings, event = .advance index readings ∧ server.flights[index]? = none ∧
      serverStep stack routes server event = server) ∨
    ∃ index readings request phase next shared, event = .advance index readings ∧
      server.flights[index]? = some ⟨request, phase⟩ ∧
      Advances stack routes readings request server.shared phase next shared ∧
      serverStep stack routes server event =
        ⟨shared, server.flights.set index ⟨request, next⟩⟩ := by
  cases event with
  | receive request => exact .inl ⟨request, rfl, rfl⟩
  | advance index readings =>
    cases found : server.flights[index]? with
    | none => exact .inr (.inl ⟨index, readings, rfl, found, by simp only [serverStep, found]⟩)
    | some flight =>
      exact .inr (.inr ⟨index, readings, flight.request, flight.phase, _, _, rfl, found,
        advance_advances stack routes readings flight.request server.shared flight.phase,
        by simp only [serverStep, found]⟩)

end Inversion

/-- The id of a request: a usable one of the client's, or a generated one. -/
def Names (request : HttpRequest) (id : String) : Prop :=
  Usable id ∧ ∀ supplied, request.suppliedId = some supplied → Usable supplied → id = supplied

/-- The one header of this name. -/
def Carries (name id : String) (headers : List (String × String)) : Prop :=
  headers.filter (·.1 = name) = [(name, id)]

/-- What a request in this phase may rely on: only what is within the body limit gets past it, and
a response of the routes carries the id of its request. -/
def Sound (stack : Stack) (request : HttpRequest) : Phase Local Error → Prop
  | .received => True
  | .measured | .admitted => stack.tooLarge request = none
  | .bound id _ | .returned id _ => stack.tooLarge request = none ∧ Names request id
  | .answered .oversized _ => False
  | .closed .oversized outcome =>
    stack.tooLarge request ≠ none ∧ outcome = .ok stack.bodyTooLarge
  | .answered .throttled response => stack.tooLarge request = none ∧ response = rateLimited
  | .closed .throttled outcome => stack.tooLarge request = none ∧ outcome = .ok rateLimited
  | .answered (.routed id) response =>
    stack.tooLarge request = none ∧ Names request id ∧
      Carries stack.requestIdHeader id response.headers
  | .closed (.routed id) outcome =>
    stack.tooLarge request = none ∧ Names request id ∧
      ∀ response, outcome = .ok response → Carries stack.requestIdHeader id response.headers

section Soundness

theorem uuidText_length (uuid : Uuid) : (uuidText uuid).length = 36 := by
  have sized : uuid.text.toList.length = 32 := uuid.sized
  unfold uuidText
  simp only [String.length_ofList, List.length_append, List.length_cons, List.length_take,
    List.length_drop, sized]
  rfl

theorem requestId_names (request : HttpRequest) (uuid : Uuid) :
    Names request (requestId request uuid) := by
  have fresh : Usable (uuidText uuid) := by
    unfold Usable maxRequestIdLength
    rw [uuidText_length]
    decide
  unfold requestId Names
  cases supplied : request.suppliedId with
  | none => exact ⟨fresh, fun other none => by cases none⟩
  | some text =>
    dsimp only
    split
    · rename_i usable
      exact ⟨usable, fun other same _ => Option.some.inj same⟩
    · rename_i unusable
      exact ⟨fresh, fun other same usable => absurd (Option.some.inj same ▸ usable) unusable⟩

theorem setHeader_carries (name id : String) (headers : List (String × String)) :
    Carries name id (setHeader name id headers) := by
  unfold Carries
  induction headers with
  | nil => simp [setHeader]
  | cons header rest ih =>
    unfold setHeader
    split
    · simp [List.filter_filter]
    · rename_i other
      rw [List.filter_cons_of_neg (by simpa using other), ih]

variable {stack : Stack} {routes : Routes Db Local Error} {readings : Readings}
  {request : HttpRequest} {shared after : Shared Db} {phase next : Phase Local Error}

theorem Advances.sound (step : Advances stack routes readings request shared phase next after)
    (sound : Sound stack request phase) : Sound stack request next := by
  cases step with
  | oversized length oversize => exact ⟨by simp [oversize], rfl⟩
  | measured within => exact within
  | admitted limiter passed => exact sound
  | throttled limiter tokenId own refused => exact ⟨sound, rfl⟩
  | bound => exact ⟨sound, requestId_names request readings.uuid⟩
  | working id progress later goes => exact sound
  | returned id progress outcome ends => exact sound
  | answered id response => exact ⟨sound.1, sound.2, setHeader_carries _ id response.headers⟩
  | raised id error => exact ⟨sound.1, sound.2, fun response returned => by cases returned⟩
  | recorded treatment response =>
    cases treatment with
    | oversized => exact sound.elim
    | throttled => exact ⟨sound.1, congrArg Except.ok sound.2⟩
    | routed id => exact ⟨sound.1, sound.2.1, fun other same => Except.ok.inj same ▸ sound.2.2⟩
  | closed treatment outcome => exact sound

/-- What is over the body limit is not passed on. -/
theorem Sound.oversized (sound : Sound stack request phase) (oversize : stack.tooLarge request ≠ none) :
    phase = .received ∨ phase = .closed .oversized (.ok stack.bodyTooLarge) := by
  cases phase with
  | received => exact .inl rfl
  | measured => exact absurd sound oversize
  | admitted => exact absurd sound oversize
  | bound id progress => exact absurd sound.1 oversize
  | returned id outcome => exact absurd sound.1 oversize
  | answered treatment response =>
    cases treatment with
    | oversized => exact sound.elim
    | throttled => exact absurd sound.1 oversize
    | routed id => exact absurd sound.1 oversize
  | closed treatment outcome =>
    cases treatment with
    | oversized => exact .inr (congrArg _ sound.2)
    | throttled => exact absurd sound.1 oversize
    | routed id => exact absurd sound.1 oversize

/-- Every request of the server is sound. -/
def Server.Sound (stack : Stack) (server : Server Db Local Error) : Prop :=
  ∀ flight ∈ server.flights, Application.Sound stack flight.request flight.phase

theorem serverStep_sound {server : Server Db Local Error} (sound : server.Sound stack)
    (event : ServerEvent) : (serverStep stack routes server event).Sound stack := by
  obtain ⟨request, _, same⟩ | ⟨_, _, _, _, same⟩ | ⟨index, readings, request, phase, next, shared, _, found, step, same⟩ :=
    serverStep_cases stack routes server event
  · rw [same]
    intro flight member
    rcases List.mem_append.mp member with old | new
    · exact sound flight old
    · rw [List.mem_singleton.mp new]
      trivial
  · rw [same]
    exact sound
  · rw [same]
    intro flight member
    rcases List.mem_or_eq_of_mem_set member with old | rfl
    · exact sound flight old
    · exact step.sound (sound _ (List.mem_of_getElem? found))

variable (stack routes) in
theorem run_sound (db : Db) (started : ℚ) (events : List ServerEvent) :
    (run (serverStep stack routes) (Server.start db started) events).Sound stack :=
  run_invariant_free (Server.Sound stack) (fun _ event sound => serverStep_sound sound event) events
    (fun _ none => by cases none)

end Soundness

/-- The id that is bound while the request is passed on, and that its response carries. -/
def Phase.requestId : Phase Local Error → Option String
  | .bound id _ | .returned id _ | .answered (.routed id) _ | .closed (.routed id) _ => some id
  | _ => none

/-- A log record carries the id of a request, or is a warning of the body limit or the limiter. -/
def Tagged (server : Server Db Local Error) (entry : LogEntry) : Prop :=
  match entry.requestId with
  | some id => ∃ flight ∈ server.flights, flight.phase.requestId = some id
  | none => entry.record.levelname = "WARNING"

section Correlation

variable {stack : Stack} {routes : Routes Db Local Error} {readings : Readings}
  {request : HttpRequest} {shared after : Shared Db} {phase next : Phase Local Error}

/-- A request keeps its id, and what a step writes carries the id that the request then has. -/
theorem Advances.logged (step : Advances stack routes readings request shared phase next after) :
    (∀ id, phase.requestId = some id → next.requestId = some id) ∧
      ∃ records : List LogRecord, after.log = shared.log ++ records.map (⟨next.requestId, ·⟩) ∧
        (next.requestId = none → ∀ record ∈ records, record.levelname = "WARNING") := by
  cases step with
  | oversized length oversize =>
    exact ⟨nofun, [bodyWarning stack request length readings.created], rfl,
      fun _ record member => List.mem_singleton.mp member ▸ rfl⟩
  | measured within => exact ⟨nofun, [], (List.append_nil _).symm, fun _ => nofun⟩
  | admitted limiter passed => exact ⟨nofun, [], (List.append_nil _).symm, fun _ => nofun⟩
  | throttled limiter tokenId own refused =>
    exact ⟨nofun, [rateWarning request tokenId readings.created], rfl,
      fun _ record member => List.mem_singleton.mp member ▸ rfl⟩
  | bound => exact ⟨nofun, [], (List.append_nil _).symm, nofun⟩
  | working id progress later goes => exact ⟨fun _ same => same, _, rfl, nofun⟩
  | returned id progress outcome ends => exact ⟨fun _ same => same, _, rfl, nofun⟩
  | answered id response =>
    exact ⟨fun _ same => same, [accessRecord request response.status readings], rfl, nofun⟩
  | raised id error => exact ⟨fun _ same => same, [accessRecord request 500 readings], rfl, nofun⟩
  | recorded treatment response =>
    have same : (Phase.answered treatment response : Phase Local Error).requestId =
        (Phase.closed treatment (.ok response) : Phase Local Error).requestId := by
      cases treatment <;> rfl
    refine ⟨fun _ named => same ▸ named, [], ?_, fun _ => nofun⟩
    rw [List.map_nil, List.append_nil]
    split <;> rfl
  | closed treatment outcome =>
    exact ⟨fun _ same => same, [], (List.append_nil _).symm, fun _ => nofun⟩

theorem serverStep_tagged {server : Server Db Local Error}
    (tagged : ∀ entry ∈ server.shared.log, Tagged server entry) (event : ServerEvent) :
    ∀ entry ∈ (serverStep stack routes server event).shared.log,
      Tagged (serverStep stack routes server event) entry := by
  obtain ⟨request, _, same⟩ | ⟨_, _, _, _, same⟩ | ⟨index, readings, request, phase, next, shared, _, found, step, same⟩ :=
    serverStep_cases stack routes server event
  · rw [same]
    intro entry member
    have old := tagged entry member
    unfold Tagged at old ⊢
    split at old
    · obtain ⟨flight, listed, named⟩ := old
      exact ⟨flight, List.mem_append_left _ listed, named⟩
    · exact old
  · rw [same]
    exact tagged
  · obtain ⟨keeps, records, log, warnings⟩ := step.logged
    have here : (⟨request, next⟩ : Flight Local Error) ∈ server.flights.set index ⟨request, next⟩ :=
      List.mem_set (List.getElem?_eq_some_iff.mp found).1 _
    rw [same]
    intro entry member
    unfold Tagged
    rw [log] at member
    rcases List.mem_append.mp member with old | new
    · have before := tagged entry old
      unfold Tagged at before
      split at before
      · obtain ⟨flight, listed, named⟩ := before
        obtain ⟨position, at_position⟩ := List.mem_iff_getElem?.mp listed
        by_cases own : position = index
        · obtain rfl := own
          rw [found] at at_position
          obtain rfl := Option.some.inj at_position
          exact ⟨_, here, keeps _ named⟩
        · refine ⟨flight, List.mem_iff_getElem?.mpr ⟨position, ?_⟩, named⟩
          rw [List.getElem?_set_ne (Ne.symm own), at_position]
      · exact before
    · obtain ⟨record, written, rfl⟩ := List.mem_map.mp new
      dsimp only
      split
      · rename_i id named
        exact ⟨_, here, named⟩
      · rename_i unnamed
        exact warnings unnamed record written

end Correlation

/-- The modelled routes behind the middleware. Each request is one transaction; FastAPI decodes the
request and encodes what the route returns or raises. -/
def apiRoutes (around : Surroundings) (decode : HttpRequest → ApiRequest)
    (encode : Except ApiError ApiResponse → Except PyError HttpResponse) :
    Routes Persistence.Store HttpRequest PyError where
  start request := request
  advance store request :=
    let (result, store) := serve around request.authorization (decode request) store
    ⟨store, [], .inr (encode result)⟩

section Sample

def trafficSurroundings : Surroundings where
  pbkdf2 := fun _ _ => []
  runtime := Runtime.ascii
  uuid := ⟨"22222222222222222222222222222222", by decide, by decide⟩
  raw := []
  salt := []
  authenticatedAt := 0
  now := 0
  respondedAt := 0

def encodeSample : Except ApiError ApiResponse → Except PyError HttpResponse
  | .ok _ => .ok ⟨200, [], ""⟩
  | .error (.http status detail) => .ok ⟨status, [], detail⟩
  | .error (.raised error) => .error error

/-- Bodies of at most ten bytes, and one request a minute for each token. -/
def narrowStack : Stack :=
  { maxRequestBodySize := 10, requestIdHeader := "x-request-id", limiter := ⟨60, 1⟩ }

def sampleRoutes : Routes Persistence.Store HttpRequest PyError :=
  apiRoutes trafficSurroundings (fun _ => .listBaselines "project") encodeSample

def readAt (clock : ℚ) : Readings where
  evictionClock := clock
  allowanceClock := clock
  uuid := ⟨"22222222222222222222222222222222", by decide, by decide⟩
  duration := 1
  durationMs := 1000
  created := "2026-01-01T00:00:00+00:00"

def tokenRequest (suppliedId : Option String) : HttpRequest :=
  { method := "GET", path := "/baselines", authorization := some "Bearer mrds_reader_ab", suppliedId }

/-- An oversized request and two of one token, of which the later one reaches the limiter first. -/
def mixedTraffic : List ServerEvent :=
  [.receive { method := "POST", path := "/runs", contentLength := some " 1_1 " },
    .receive (tokenRequest (some "first")), .receive (tokenRequest none),
    .advance 0 (readAt 0), .advance 1 (readAt 0), .advance 2 (readAt 0), .advance 2 (readAt 1),
    .advance 1 (readAt 2), .advance 2 (readAt 3), .advance 1 (readAt 3), .advance 2 (readAt 4),
    .advance 2 (readAt 5), .advance 2 (readAt 6)]

def mixedServer : Server Persistence.Store HttpRequest PyError :=
  run (serverStep narrowStack sampleRoutes) (Server.start Persistence.Store.empty 0) mixedTraffic

end Sample

end RegressionDetection.Application
