/-!
# Draining

A gate lets requests in, counts those that are inside, and can be closed for good. Each request checks
the gate and enters it in two steps, so that others may come between.
-/

namespace MockApi

/-- How many requests are inside, and whether new ones are turned away. -/
structure Gate where
  inFlight : Nat := 0
  draining : Bool := false
deriving DecidableEq

namespace Gate

def track (g : Gate) : Gate := { g with inFlight := g.inFlight + 1 }

def release (g : Gate) : Gate := { g with inFlight := g.inFlight - 1 }

def startDrain (g : Gate) : Gate := { g with draining := true }

/-- Where a request stands at the gate. -/
inductive Visit
  | arriving
  | admitted
  | inside
  | left
  | turnedAway
deriving DecidableEq

def advance (g : Gate) : Visit → Gate × Visit
  | .arriving => (g, if g.draining then .turnedAway else .admitted)
  | .admitted => (g.track, .inside)
  | .inside => (g.release, .left)
  | .left => (g, .left)
  | .turnedAway => (g, .turnedAway)

def pollMillis : Nat := 25

/-- What one reading of the number of requests inside says to those who wait: that the gate is empty,
that the wait has taken too long, or nothing yet. -/
def verdict (timeoutMillis elapsed inFlight : Nat) : Option Bool :=
  if inFlight = 0 then some true else if timeoutMillis < elapsed then some false else none

/-- Waiting for the gate to empty, as `readings` of the number of requests inside that are
`pollMillis` apart, up to the first that decides. -/
def waitFor (timeoutMillis : Nat) (readings : List Nat) : Bool :=
  go 0 readings
where
  go (elapsed : Nat) : List Nat → Bool
    | [] => false
    | inFlight :: rest =>
      match verdict timeoutMillis elapsed inFlight with
      | some emptied => emptied
      | none => go (elapsed + pollMillis) rest

def readingLimit (timeoutMillis : Nat) : Nat := timeoutMillis / pollMillis + 2

def wait (g : Gate) (timeoutMillis : Nat) : Bool :=
  waitFor timeoutMillis (List.replicate (readingLimit timeoutMillis) g.inFlight)

end Gate

end MockApi
