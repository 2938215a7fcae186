import RegressionDetection.Application.Traffic

/-! The metrics and the access log account for the requests in flight, each exactly once. -/

namespace RegressionDetection.Application

open Foundation Foundation.Json Api

variable {Db Local Error : Type}

/-- The labels under which the response was counted. -/
def Flight.counted (flight : Flight Local Error) : List Labels :=
  match flight.phase with
  | .closed .oversized _ => []
  | .closed _ (.ok response) => [labelsOf flight.request response]
  | _ => []

/-- The access event of the request: its id and what the event says. -/
def Flight.accessed (flight : Flight Local Error) : List (Option String × List (String × Json)) :=
  match flight.phase with
  | .answered (.routed id) response => [(some id, accessFacts flight.request response.status)]
  | .closed (.routed id) outcome => [(some id, accessFacts flight.request (statusOf outcome))]
  | _ => []

/-- An access event in the log, without the time the request took. -/
def LogEntry.accessed (entry : LogEntry) : List (Option String × List (String × Json)) :=
  if entry.record.name = accessLogger then
    [(entry.requestId, entry.record.attributes.filter fun item => item.1 ≠ "duration_ms")]
  else []

/-- The routes write to loggers of their own. -/
def Routes.Quiet (routes : Routes Db Local Error) : Prop :=
  ∀ db progress, ∀ record ∈ (routes.advance db progress).records, record.name ≠ accessLogger

theorem apiRoutes_quiet (around : Surroundings) (decode : HttpRequest → ApiRequest)
    (encode : Except ApiError ApiResponse → Except PyError HttpResponse) :
    (apiRoutes around decode encode).Quiet :=
  fun _ _ _ member => by cases member

/-- The metrics after one recorded response under each of these labels. -/
structure Metrics.Reads (metrics : Metrics) (labels : List Labels) : Prop where
  requestsTotal : Counts metrics.requestsTotal labels
  durations : Counts (fun route => (metrics.durations route).length) (labels.map Labels.route)
  wsgiTotal : Counts metrics.wsgiTotal (labels.map Labels.outcome)

section Accounts

theorem Metrics.Reads.nil : ({} : Metrics).Reads [] := ⟨fun _ => rfl, fun _ => rfl, fun _ => rfl⟩

theorem Metrics.Reads.perm {metrics : Metrics} {first second : List Labels}
    (reads : metrics.Reads first) (same : first.Perm second) : metrics.Reads second where
  requestsTotal := reads.requestsTotal.perm same
  durations := reads.durations.perm (same.map _)
  wsgiTotal := reads.wsgiTotal.perm (same.map _)

theorem Metrics.Reads.record {metrics : Metrics} {counted : List Labels}
    (reads : metrics.Reads counted) (labels : Labels) (duration : ℚ) :
    (metrics.record labels duration).Reads (counted ++ [labels]) where
  requestsTotal := reads.requestsTotal.increment labels
  durations := by
    have observed : (fun route => ((metrics.record labels duration).durations route).length) =
        increment (fun route => (metrics.durations route).length) labels.route := by
      funext route
      unfold Metrics.record increment
      dsimp only
      split <;> simp
    rw [observed, List.map_append]
    exact reads.durations.increment labels.route
  wsgiTotal := by
    rw [List.map_append]
    exact reads.wsgiTotal.increment labels.outcome

theorem logged_accessed (requestId : Option String) {records : List LogRecord}
    (quiet : ∀ record ∈ records, record.name ≠ accessLogger) (shared : Shared Db) :
    (shared.logged requestId records).log.flatMap LogEntry.accessed =
      shared.log.flatMap LogEntry.accessed := by
  have nothing : (records.map (⟨requestId, ·⟩)).flatMap LogEntry.accessed = [] := by
    rw [List.flatMap_eq_nil_iff]
    intro entry member
    obtain ⟨record, listed, rfl⟩ := List.mem_map.mp member
    exact if_neg (quiet record listed)
  rw [Shared.logged, List.flatMap_append, nothing, List.append_nil]

theorem logged_accessRecord (id : String) (request : HttpRequest) (status : Nat)
    (readings : Readings) (shared : Shared Db) :
    (shared.logged (some id) [accessRecord request status readings]).log.flatMap LogEntry.accessed =
      shared.log.flatMap LogEntry.accessed ++ [(some id, accessFacts request status)] := by
  have facts : LogEntry.accessed ⟨some id, accessRecord request status readings⟩ =
      [(some id, accessFacts request status)] := by
    simp [LogEntry.accessed, accessRecord, accessFacts]
  rw [Shared.logged, List.flatMap_append, List.map_singleton, List.flatMap_singleton, facts]

variable {stack : Stack} {routes : Routes Db Local Error} {readings : Readings}
  {request : HttpRequest} {shared after : Shared Db} {phase next : Phase Local Error}

/-- A step adds to the log the access event that the request then has, if any. -/
theorem Advances.accessed (quiet : routes.Quiet)
    (step : Advances stack routes readings request shared phase next after) :
    ∃ added, Flight.accessed ⟨request, next⟩ = Flight.accessed ⟨request, phase⟩ ++ added ∧
      after.log.flatMap LogEntry.accessed = shared.log.flatMap LogEntry.accessed ++ added := by
  cases step with
  | oversized length oversize =>
    refine ⟨[], rfl, ?_⟩
    rw [List.append_nil]
    exact logged_accessed none (by simp [bodyWarning, accessLogger]) shared
  | measured within => exact ⟨[], rfl, (List.append_nil _).symm⟩
  | admitted limiter passed => exact ⟨[], rfl, (List.append_nil _).symm⟩
  | throttled limiter tokenId own refused =>
    refine ⟨[], rfl, ?_⟩
    rw [List.append_nil]
    exact logged_accessed none (by simp [rateWarning, accessLogger]) { shared with limiter }
  | bound => exact ⟨[], rfl, (List.append_nil _).symm⟩
  | working id progress later goes =>
    refine ⟨[], rfl, ?_⟩
    rw [List.append_nil]
    exact logged_accessed (some id) (quiet shared.db progress) _
  | returned id progress outcome ends =>
    refine ⟨[], rfl, ?_⟩
    rw [List.append_nil]
    exact logged_accessed (some id) (quiet shared.db progress) _
  | answered id response => exact ⟨_, rfl, logged_accessRecord id request response.status readings shared⟩
  | raised id error => exact ⟨_, rfl, logged_accessRecord id request 500 readings shared⟩
  | recorded treatment response =>
    refine ⟨[], ?_, ?_⟩
    · cases treatment <;> rfl
    · rw [List.append_nil]
      split <;> rfl
  | closed treatment outcome => exact ⟨[], (List.append_nil _).symm, (List.append_nil _).symm⟩

/-- A step records the response that the request then has to its account, if any. -/
theorem Advances.counted (step : Advances stack routes readings request shared phase next after)
    (sized : ∀ response, phase ≠ .answered .oversized response) :
    ∃ added, Flight.counted ⟨request, next⟩ = Flight.counted ⟨request, phase⟩ ++ added ∧
      ∀ counted, shared.metrics.Reads counted →
        after.metrics.Reads (counted ++ if stack.prometheusAvailable then added else []) := by
  have unchanged (same : after.metrics = shared.metrics) (counted : List Labels)
      (reads : shared.metrics.Reads counted) :
      after.metrics.Reads (counted ++ if stack.prometheusAvailable then [] else []) := by
    rw [same, ite_self, List.append_nil]
    exact reads
  cases step with
  | recorded treatment response =>
    refine ⟨[labelsOf request response], ?_, fun counted reads => ?_⟩
    · cases treatment with
      | oversized => exact absurd rfl (sized response)
      | throttled => rfl
      | routed id => rfl
    · split
      · exact reads.record _ _
      · rw [List.append_nil]
        exact reads
  | closed treatment outcome => exact ⟨[], (List.append_nil _).symm, unchanged rfl⟩
  | _ => exact ⟨[], rfl, unchanged rfl⟩

/-- The metrics and the access events account for the requests of the server. -/
structure Accounted (stack : Stack) (server : Server Db Local Error) : Prop where
  sound : server.Sound stack
  events : Balanced Flight.accessed server.flights
    (server.shared.log.flatMap LogEntry.accessed)
  metrics : server.shared.metrics.Reads
    (if stack.prometheusAvailable then server.flights.flatMap Flight.counted else [])

theorem serverStep_accounted (quiet : routes.Quiet) {server : Server Db Local Error}
    (accounted : Accounted stack server) (event : ServerEvent) :
    Accounted stack (serverStep stack routes server event) := by
  refine ⟨serverStep_sound accounted.sound event, ?_, ?_⟩
  all_goals
    obtain ⟨request, _, same⟩ | ⟨_, _, _, _, same⟩ | ⟨index, readings, request, phase, next, shared, _, found, step, same⟩ :=
      serverStep_cases stack routes server event
  · rw [same]
    exact accounted.events.join rfl
  · rw [same]
    exact accounted.events
  · obtain ⟨added, account, logged⟩ := step.accessed quiet
    rw [same, logged]
    exact accounted.events.advance found (account ▸ List.Perm.refl _)
  · rw [same]
    have joined : (server.flights ++ [(⟨request, .received⟩ : Flight Local Error)]).flatMap Flight.counted =
        server.flights.flatMap Flight.counted := by
      rw [List.flatMap_append]
      exact List.append_nil _
    rw [joined]
    exact accounted.metrics
  · rw [same]
    exact accounted.metrics
  · have sized : ∀ response, phase ≠ .answered .oversized response := by
      rintro response rfl
      exact accounted.sound _ (List.mem_of_getElem? found)
    obtain ⟨added, account, reads⟩ := step.counted sized
    have after := reads _ accounted.metrics
    rw [same]
    split at after
    · rename_i available
      rw [if_pos available]
      exact after.perm (flatMap_set_perm found (account ▸ List.Perm.refl _)).symm
    · rename_i unavailable
      rw [if_neg unavailable]
      exact after

end Accounts

/-- In whatever order the requests are advanced, the access events in the log are those of the
requests that the routes have answered or that have raised, each once with its id and status. The
metrics count, by method, path and status, the responses that have passed the metrics middleware;
an oversized request and a raised exception are in none of them. -/
theorem traffic_accounted (stack : Stack) (routes : Routes Db Local Error) (quiet : routes.Quiet)
    (db : Db) (started : ℚ) (events : List ServerEvent) :
    let server := run (serverStep stack routes) (Server.start db started) events
    Balanced Flight.accessed server.flights (server.shared.log.flatMap LogEntry.accessed) ∧
      server.shared.metrics.Reads
        (if stack.prometheusAvailable then server.flights.flatMap Flight.counted else []) := by
  have nothing : (Server.start db started : Server Db Local Error).shared.metrics.Reads
      (if stack.prometheusAvailable then [] else []) := by
    rw [ite_self]
    exact Metrics.Reads.nil
  have accounted := run_invariant_free (Accounted stack)
    (fun _ event accounted => serverStep_accounted quiet accounted event) events
    ⟨(run_sound stack routes db started [] : Server.Sound stack (run (serverStep stack routes) _ [])),
      Balanced.empty Flight.accessed, nothing⟩
  exact ⟨accounted.events, accounted.metrics⟩

/-- The throttled request is counted and not in the access log, the oversized one in neither. -/
theorem mixedTraffic_accounted :
    mixedServer.shared.metrics.requestsTotal ⟨"GET", "/baselines", "429"⟩ = 1 ∧
      mixedServer.shared.metrics.wsgiTotal ("POST", "413") = 0 ∧
      (mixedServer.shared.log.flatMap LogEntry.accessed).length = 1 := by
  obtain ⟨events, metrics⟩ := traffic_accounted narrowStack sampleRoutes
    (apiRoutes_quiet trafficSurroundings _ encodeSample) Persistence.Store.empty 0 mixedTraffic
  refine ⟨(metrics.requestsTotal _).trans ?_, (metrics.wsgiTotal _).trans ?_, events.length_eq.trans ?_⟩
  all_goals decide +kernel

end RegressionDetection.Application
