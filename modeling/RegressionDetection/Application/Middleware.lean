import RegressionDetection.Api.RateLimit
import RegressionDetection.Application.Logging
import RegressionDetection.Foundation.IntText
import RegressionDetection.Foundation.Ledger

/-! The middleware around the routes, for requests that are in flight at the same time. From the
outside in: the body limit, the metrics, the rate limiter and the request context. Each request is
advanced on its own, and the routes are a parameter. -/

namespace RegressionDetection.Application

open Foundation Foundation.Json Api

/-- A request as the middleware reads it. -/
structure HttpRequest where
  method : String
  path : String
  contentLength : Option String := none
  authorization : Option String := none
  /-- The header under which a client may supply the request id. -/
  suppliedId : Option String := none

/-- A response, its header names in lower case. -/
structure HttpResponse where
  status : Nat
  headers : List (String × String)
  content : String
deriving DecidableEq

/-- What one step of a request reads from outside: the clocks of the limiter, a fresh UUID, the
seconds and rounded milliseconds that passed, and the time of its log records. -/
structure Readings where
  evictionClock : ℚ
  allowanceClock : ℚ
  uuid : Uuid
  duration : ℚ
  durationMs : ℚ
  created : String

/-- One atomic step of the routes: they go on, or they return or raise. -/
structure Turn (Db Local Error : Type) where
  store : Db
  records : List LogRecord
  result : Local ⊕ Except Error HttpResponse

/-- The routes behind the middleware, by atomic steps on the database. -/
structure Routes (Db Local Error : Type) where
  start : HttpRequest → Local
  advance : Db → Local → Turn Db Local Error

/-- `create_app`: the settings the middleware takes, and `_PROMETHEUS_AVAILABLE`. -/
structure Stack where
  maxRequestBodySize : Int
  requestIdHeader : String
  limiter : RateLimitMiddleware := ⟨60, 100⟩
  prometheusAvailable : Bool := true

/-- How the middleware treated a request, and the id under which it was passed on. -/
inductive Treatment where
  | oversized
  | throttled
  | routed (requestId : String)
deriving DecidableEq

/-- How far a request has come. -/
inductive Phase (Local Error : Type) where
  | received
  | measured
  | admitted
  | bound (requestId : String) (progress : Local)
  | returned (requestId : String) (outcome : Except Error HttpResponse)
  | answered (treatment : Treatment) (response : HttpResponse)
  | closed (treatment : Treatment) (outcome : Except Error HttpResponse)

structure Flight (Local Error : Type) where
  request : HttpRequest
  phase : Phase Local Error := .received

/-- Method, path and status of a counted response. -/
structure Labels where
  method : String
  path : String
  status : String
deriving DecidableEq

def Labels.route (labels : Labels) : String × String := (labels.method, labels.path)

def Labels.outcome (labels : Labels) : String × String := (labels.method, labels.status)

/-- The two counters, and the observations of the histogram. -/
structure Metrics where
  requestsTotal : Labels → Nat := fun _ => 0
  durations : String × String → List ℚ := fun _ => []
  wsgiTotal : String × String → Nat := fun _ => 0

def Metrics.record (labels : Labels) (duration : ℚ) (metrics : Metrics) : Metrics where
  requestsTotal := increment metrics.requestsTotal labels
  durations route :=
    if route = labels.route then metrics.durations route ++ [duration] else metrics.durations route
  wsgiTotal := increment metrics.wsgiTotal labels.outcome

/-- What the requests in flight share. -/
structure Shared (Db : Type) where
  db : Db
  limiter : LimiterState
  metrics : Metrics := {}
  log : List LogEntry := []

/-- The records written while this request id is bound. -/
def Shared.logged (requestId : Option String) (records : List LogRecord) (shared : Shared Db) :
    Shared Db :=
  { shared with log := shared.log ++ records.map (⟨requestId, ·⟩) }

structure Server (Db Local Error : Type) where
  shared : Shared Db
  flights : List (Flight Local Error) := []

/-- `str(uuid4())`. -/
def uuidText (uuid : Uuid) : String :=
  let hex := uuid.text.toList
  String.ofList (hex.take 8 ++ '-' :: (hex.drop 8).take 4 ++ '-' :: (hex.drop 12).take 4 ++
    '-' :: (hex.drop 16).take 4 ++ '-' :: hex.drop 20)

/-- `_MAX_REQUEST_ID_LENGTH`. -/
def maxRequestIdLength : Nat := 128

/-- A request id that is taken over from the client. -/
def Usable (supplied : String) : Prop := 0 < supplied.length ∧ supplied.length ≤ maxRequestIdLength
deriving Decidable

def requestId (request : HttpRequest) (uuid : Uuid) : String :=
  match request.suppliedId with
  | some supplied => if Usable supplied then supplied else uuidText uuid
  | none => uuidText uuid

/-- `headers[name] = value`: the first such header is replaced and others are dropped. -/
def setHeader (name value : String) : List (String × String) → List (String × String)
  | [] => [(name, value)]
  | header :: rest =>
    if header.1 = name then (name, value) :: rest.filter (·.1 ≠ name)
    else header :: setHeader name value rest

def HttpRequest.timed (request : HttpRequest) (readings : Readings) : TimedRequest :=
  ⟨request.authorization, readings.evictionClock, readings.allowanceClock⟩

/-- The length that the request declares, where `int` reads it. -/
def HttpRequest.declaredLength (request : HttpRequest) : Option Int :=
  request.contentLength.bind pythonInt

/-- The declared length if it is over the limit. -/
def Stack.tooLarge (stack : Stack) (request : HttpRequest) : Option Int :=
  request.declaredLength.filter fun length => decide (stack.maxRequestBodySize < length)

def rateLimited : HttpResponse := ⟨429, [], "Rate limit exceeded. Try again later."⟩

def Stack.bodyTooLarge (stack : Stack) : HttpResponse :=
  ⟨413, [], "Request body exceeds " ++ toString stack.maxRequestBodySize ++ " byte limit."⟩

def bodyWarning (stack : Stack) (request : HttpRequest) (length : Int) (created : String) : LogRecord :=
  ⟨created, "WARNING", "model_regression_detection.api.body_limit", "request_body_too_large",
    [("method", .str request.method), ("path", .str request.path), ("content_length", .int length),
      ("max_bytes", .int stack.maxRequestBodySize)], none⟩

def rateWarning (request : HttpRequest) (tokenId : String) (created : String) : LogRecord :=
  ⟨created, "WARNING", "model_regression_detection.api.ratelimit", "rate_limit_exceeded",
    [("token_id", .str tokenId), ("path", .str request.path)], none⟩

/-- The logger of `middleware.py`. -/
def accessLogger : String := "model_regression_detection.api.middleware"

/-- `response.status_code if response is not None else 500`. -/
def statusOf : Except Error HttpResponse → Nat
  | .ok response => response.status
  | .error _ => 500

/-- What an access event says about the request. -/
def accessFacts (request : HttpRequest) (status : Nat) : List (String × Json) :=
  [("http_method", .str request.method), ("http_path", .str request.path),
    ("http_status", .int status)]

def accessRecord (request : HttpRequest) (status : Nat) (readings : Readings) : LogRecord :=
  ⟨readings.created, "INFO", accessLogger, "http_request_completed",
    accessFacts request status ++ [("duration_ms", .float readings.durationMs)], none⟩

def labelsOf (request : HttpRequest) (response : HttpResponse) : Labels :=
  ⟨request.method, if request.path = "" then "/" else request.path, toString response.status⟩

section Steps

variable (stack : Stack) (routes : Routes Db Local Error)

/-- One step of one request, from one `await` of the middleware to the next. -/
def advance (readings : Readings) (request : HttpRequest) (shared : Shared Db) :
    Phase Local Error → Phase Local Error × Shared Db
  | .received =>
    match stack.tooLarge request with
    | some length =>
      (.closed .oversized (.ok stack.bodyTooLarge),
        shared.logged none [bodyWarning stack request length readings.created])
    | none => (.measured, shared)
  | .measured =>
    match stack.limiter.dispatch shared.limiter (request.timed readings) with
    | (.forwarded, limiter) => (.admitted, { shared with limiter })
    | (.refused status content, limiter) =>
      let tokenIds := (request.timed readings).tokenId.toList
      (.answered .throttled ⟨status, [], content⟩,
        { shared with limiter }.logged none
          (tokenIds.map fun tokenId => rateWarning request tokenId readings.created))
  | .admitted => (.bound (requestId request readings.uuid) (routes.start request), shared)
  | .bound id progress =>
    let turn := routes.advance shared.db progress
    let next := { shared with db := turn.store }.logged (some id) turn.records
    match turn.result with
    | .inl progress => (.bound id progress, next)
    | .inr outcome => (.returned id outcome, next)
  | .returned id outcome =>
    -- the access event is written in the `finally`, for a raised exception as well
    let next := shared.logged (some id) [accessRecord request (statusOf outcome) readings]
    match outcome with
    | .ok response =>
      let headers := setHeader stack.requestIdHeader id response.headers
      (.answered (.routed id) { response with headers }, next)
    | .error raised => (.closed (.routed id) (.error raised), next)
  | .answered treatment response =>
    (.closed treatment (.ok response),
      if stack.prometheusAvailable then
        { shared with metrics := shared.metrics.record (labelsOf request response) readings.duration }
      else shared)
  | .closed treatment outcome => (.closed treatment outcome, shared)

/-- A request arrives, or one that is in flight takes its next step. -/
inductive ServerEvent where
  | receive (request : HttpRequest)
  | advance (index : Nat) (readings : Readings)

def serverStep (server : Server Db Local Error) : ServerEvent → Server Db Local Error
  | .receive request => { server with flights := server.flights ++ [⟨request, .received⟩] }
  | .advance index readings =>
    match server.flights[index]? with
    | none => server
    | some flight =>
      let (phase, shared) := advance stack routes readings flight.request server.shared flight.phase
      ⟨shared, server.flights.set index { flight with phase }⟩

/-- The application as it starts. -/
def Server.start (db : Db) (started : ℚ) : Server Db Local Error :=
  ⟨{ db, limiter := LimiterState.start started }, []⟩

end Steps

end RegressionDetection.Application
