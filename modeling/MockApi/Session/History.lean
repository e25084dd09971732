import MockApi.Session

/-!
# Histories of a session

What happens to a session, one thing after the other: it is started, stopped, restarted and given another
definition. In the meantime requests go through the stages of its engine, and its compiler prepares
schemas for others.
-/

namespace MockApi

namespace Session

inductive Command
  | start (bind : Address → Nat → Binding)
  | stop
  | restart (config : Option Config) (entropy : UInt64) (now : Instant)
      (bind : Address → Nat → Binding)
  | reload (now : Instant) (definition : Definition)
  /-- One stage of a request. -/
  | serve (now : Instant) (request : Request) (stage : Stage)
  | prepare (now : Instant) (schema : Json)

/-- The session with its compiler replaced. -/
def withCompiler (s : Session) (compiler : Compiler) : Session :=
  { s with engine := { s.engine with backend := { s.engine.backend with compiler } } }

/-- A command carried out, and the listener that it answers or the error. -/
def step (s : Session) : Command → Session × Except Error (Option Listener)
  | .start bind =>
    let next := s.start bind
    (next.1, next.2.map some)
  | .stop => (s.stop, .ok none)
  | .restart config entropy now bind =>
    let next := s.restart config entropy now bind
    (next.1, next.2.map some)
  | .reload now definition =>
    let next := s.reload now definition
    (next.1, next.2.map fun _ => none)
  | .serve now request stage =>
    ({ s with engine := (s.engine.advance now request stage).1 }, .ok none)
  | .prepare now schema =>
    let next := s.engine.backend.compiler.prepare now schema
    (s.withCompiler next.1, next.2.map fun _ => none)

def run (s : Session) (commands : List Command) : Session :=
  commands.foldl (fun s command => (s.step command).1) s

/-- The definition that is installed after a command with this answer. -/
def Command.installed (before : Definition) : Command → Except Error (Option Listener) → Definition
  | .reload _ definition, .ok _ => definition
  | _, _ => before

/-- The definition that is installed after all commands. -/
def lastInstalled (s : Session) (before : Definition) : List Command → Definition
  | [] => before
  | command :: commands =>
    let next := s.step command
    lastInstalled next.1 (command.installed before next.2) commands

/-- The schemas that a command has prepared. -/
def Command.schemas : Command → List Json
  | .reload _ definition => definition.schema.toList
  | .prepare _ schema => [schema]
  | _ => []

end Session

end MockApi
