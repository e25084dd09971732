import MockApi.Crowd
import MockApi.Generation.Compiler

/-!
# Calls of one compiler

Callers prepare schemas with one compiler, all at the same time. A call looks for its schema, reads it if
it is not remembered, and has it remembered. The cache is locked while it is looked into and while it is
changed, but not while a schema is read: the steps of one call may come between any two of another, each
at a time of its own.
-/

namespace MockApi

open Schema

namespace Compiler

/-- How far a call has come. -/
inductive Progress
  | asking
  /-- Its schema was not found. -/
  | reading
  | storing (prepared : Prepared)
  | returned (result : Except Error Prepared)

structure Call where
  schema : Json
  progress : Progress := .asking

abbrev Calls := Crowd Compiler Call

/-- What a compiler remembers a schema under. -/
def key (c : Compiler) (schema : Json) : StructuralKey := structuralKey schema c.options.fingerprint

/-- The next step of a call. -/
def advance (now : Instant) (c : Compiler) (call : Call) : Compiler × Call :=
  match call.progress with
  | .asking =>
    let found := c.library.consult now.millis.toNat (c.key call.schema)
    ({ c with library := found.1 }, { call with progress := match found.2 with
      | some prepared => .returned (.ok prepared)
      | none => .reading })
  | .reading =>
    let read := c.library.read call.schema
    ({ c with library := read.1 }, { call with progress := match read.2 with
      | .ok prepared => .storing prepared
      | .error e => .returned (.error e) })
  | .storing prepared =>
    ({ c with library := c.library.remember now.millis.toNat (c.key call.schema) prepared },
      { call with progress := .returned (.ok prepared) })
  | .returned _ => (c, call)

namespace Calls

/-- What may happen next: a step of a call, or some other use of the compiler, which takes a word of its
source. -/
inductive Event
  | call (i : Nat) (now : Instant)
  | draw

def start (compiler : Compiler) (schemas : List Json) : Calls :=
  ⟨compiler, schemas.map fun schema => { schema }⟩

def step (t : Calls) : Event → Calls
  | .call i now => t.move i (advance now)
  | .draw => { t with shared := t.shared.child.1 }

def run (t : Calls) (events : List Event) : Calls := events.foldl step t

end Calls

end Compiler

end MockApi
