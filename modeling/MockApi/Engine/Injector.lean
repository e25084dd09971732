import MockApi.Config
import MockApi.Random.Cipher

/-!
# Injected delays and errors

An injector does to requests what their scenario asks for: it delays them by a time from a band, and it
fails some of them with one of a list of statuses. It numbers the requests that it might fail.
-/

namespace MockApi

/-- The bands, how many requests were numbered, and a source for draws. -/
structure Injector where
  bands : Config.Bands
  numbered : Nat := 0
  source : Cipher

namespace Injector

/-- The milliseconds of a delay; the ends of the band may be given in either order. -/
def delayDraw (bands : Config.Bands) : Draw Cipher Nat :=
  Draw.natBetween (Nat.min bands.slowMin bands.slowMax) (Nat.max bands.slowMin bands.slowMax)

def sampleDelay (i : Injector) (scenario : Scenario) : Injector × Option Nat :=
  if scenario.injectsLatency then
    let (delay, source) := delayDraw i.bands i.source
    ({ i with source }, some delay)
  else (i, none)

/-- The status of an error, unless the draw says that there is none. -/
def statusDraw (bands : Config.Bands) : Draw Cipher (Option Nat) := do
  let t ← Draw.unit
  if bands.errorProbability.le t then return none
  match bands.errorStatuses with
  | [] => return some 500
  | first :: rest =>
    return some ((first :: rest).getD (← Draw.below32 (rest.length + 1)) first)

def injectedError (scenario : Scenario) (number status : Nat) : Error :=
  .injected status ("Injected " ++ toString status ++ " error by scenario '" ++ scenario.name ++
    "' (request #" ++ toString number ++ ")")

def sampleError (i : Injector) (scenario : Scenario) : Injector × Option Error :=
  if scenario.injectsErrors then
    let number := i.numbered + 1
    let (status, source) := statusDraw i.bands i.source
    ({ i with numbered := number, source }, status.map (injectedError scenario number))
  else (i, none)

end Injector

end MockApi
