import MockApi.Generation.Compiler

/-!
# Uses of a compiler

What may be done with a compiler, one use after the other. Every use but a preparation takes a word of
the compiler's source.
-/

namespace MockApi.Compiler

open Schema

/-- One use of a compiler. A compilation makes dates with the moment that it is given. -/
inductive Use
  | prepare (now : Instant) (schema : Json)
  | compile (now : Instant) (document : Document)
  | compileNode (now : Instant) (document : Document) (node : Node)
  | compileMany (now : Instant) (document : Document) (count : Nat)
  /-- A source is seeded for some other work. -/
  | child

def Use.takesWord : Use → Bool
  | prepare .. => false
  | _ => true

/-- The schema that a use prepares. -/
def Use.schema? : Use → Option Json
  | prepare _ schema => some schema
  | _ => none

/-- The compiler behind a use, whether the use succeeded or not. -/
def apply (c : Compiler) : Use → Compiler
  | .prepare now schema => (c.prepare now schema).1
  | .compile now document => (c.compile now document).1
  | .compileNode now document node => (c.compileNode now document node).1
  | .compileMany now document count => (c.compileMany now document count).1
  | .child => c.child.1

def after (c : Compiler) (uses : List Use) : Compiler := uses.foldl apply c

end MockApi.Compiler
