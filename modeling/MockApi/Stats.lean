import MockApi.Json

/-!
# Statistics

Counts of what happened to requests, and how long they took. Times are kept in nanoseconds and shown in
milliseconds.
-/

namespace MockApi

structure Latencies where
  /-- The first of them, last first. -/
  samples : List Nat := []
  count : Nat := 0
  sum : Nat := 0
  min : Option Nat := none
  max : Option Nat := none

namespace Latencies

/-- This many are kept as samples; those that come later only count. -/
def sampleLimit : Nat := 4096

def record (l : Latencies) (nanos : Nat) : Latencies where
  samples := if l.samples.length < sampleLimit then nanos :: l.samples else l.samples
  count := l.count + 1
  sum := l.sum + nanos
  min := some ((l.min.map (Nat.min nanos)).getD nanos)
  max := some ((l.max.map (Nat.max nanos)).getD nanos)

def seconds (nanos : Nat) : Binary64 :=
  (Binary64.ofNat (nanos / 10 ^ 9)).add
    ((Binary64.ofNat (nanos % 10 ^ 9)).div (Binary64.ofNat (10 ^ 9)))

def millis (nanos : Nat) : Binary64 := (seconds nanos).mul (Binary64.ofNat 1000)

def mean (l : Latencies) : Binary64 := (millis l.sum).div (Binary64.ofNat l.count)

/-- The sample that `percent` of the samples come before. -/
def percentile (l : Latencies) (percent : Nat) : Binary64 :=
  let sorted := l.samples.mergeSort (fun a b => decide (a ≤ b))
  let share := (Binary64.ofNat percent).div (Binary64.ofNat 100)
  let place := (share.mul (Binary64.ofNat (sorted.length - 1))).toNat64
  match sorted[Nat.min place (sorted.length - 1)]? with
  | some nanos => millis nanos
  | none => Binary64.zero

def toJson (l : Latencies) : Json :=
  let shown (x : Binary64) : Json := .ofBinary64 (if l.count = 0 then Binary64.zero else x)
  .ofMembers [("count", .ofNat l.count), ("mean_ms", shown l.mean),
    ("min_ms", shown (millis (l.min.getD 0))), ("max_ms", shown (millis (l.max.getD 0))),
    ("p50_ms", shown (l.percentile 50)), ("p99_ms", shown (l.percentile 99))]

end Latencies

structure Stats where
  totalRequests : Nat := 0
  notFound : Nat := 0
  injectedErrors : Nat := 0
  injectedDelays : Nat := 0
  validationRejections : Nat := 0
  handlerFailures : Nat := 0
  latencies : Latencies := {}

namespace Stats

def recordRequest (s : Stats) : Stats := { s with totalRequests := s.totalRequests + 1 }

def recordNotFound (s : Stats) : Stats := { s with notFound := s.notFound + 1 }

def recordInjectedError (s : Stats) : Stats := { s with injectedErrors := s.injectedErrors + 1 }

def recordInjectedDelay (s : Stats) : Stats := { s with injectedDelays := s.injectedDelays + 1 }

def recordRejection (s : Stats) : Stats :=
  { s with validationRejections := s.validationRejections + 1 }

def recordFailure (s : Stats) : Stats := { s with handlerFailures := s.handlerFailures + 1 }

def recordLatency (s : Stats) (nanos : Nat) : Stats :=
  { s with latencies := s.latencies.record nanos }

def failed (s : Stats) : Nat :=
  s.notFound + s.injectedErrors + s.validationRejections + s.handlerFailures

def errorRate (s : Stats) : Binary64 :=
  if s.totalRequests = 0 then Binary64.zero
  else (Binary64.ofNat s.failed).div (Binary64.ofNat s.totalRequests)

def toJson (s : Stats) : Json :=
  .ofMembers [("total_requests", .ofNat s.totalRequests), ("not_found", .ofNat s.notFound),
    ("injected_errors", .ofNat s.injectedErrors), ("injected_delays", .ofNat s.injectedDelays),
    ("validation_rejections", .ofNat s.validationRejections),
    ("handler_failures", .ofNat s.handlerFailures), ("latency", s.latencies.toJson)]

end Stats

end MockApi
