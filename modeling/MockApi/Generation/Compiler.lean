import MockApi.Config
import MockApi.Generation.Value
import MockApi.Generation.Vocabulary
import MockApi.Random.Cipher
import MockApi.Schema.Prepared

/-!
# Compilers

A compiler owns a seeded source, of which every compilation takes one word to seed a source of its own,
and remembers the schemas that it has prepared. What a compilation does with its own source is seen by no
other.
-/

namespace MockApi

namespace Generation

open Schema

def Options.ofConfig (c : Config.Generation) : Options where
  optionalProbability := c.optionalProbability.clamp Binary64.zero Binary64.one
  maxDepth := c.maxDepth
  useExamples := c.useExamples

def Fault.toError : Fault → Error
  | .danglingReference pointer => .danglingReference pointer
  | .unholdableText _ => .handler "capacity overflow"

end Generation

/-- Options, a source for seeds, and the prepared schemas. -/
structure Compiler where
  options : Generation.Options
  parent : Cipher
  library : Schema.Library

namespace Compiler

open Generation Schema

/-- A compiler for a configuration; `entropy` is its seed where the configuration has none. -/
def ofConfig (generation : Config.Generation) (cache : Config.Caching) (entropy : UInt64) :
    Compiler where
  options := .ofConfig generation
  parent := Cipher.ofSeed ((generation.seed.map UInt64.ofNat).getD entropy)
  library := .empty cache.capacity (cache.ttl.map Duration.millis)

/-- The compiler behind one word of its source, and the source that the word seeds. -/
def child (c : Compiler) : Compiler × Cipher :=
  let (seed, parent) := (Draw.word64 : Draw Cipher UInt64) c.parent
  ({ c with parent }, Cipher.ofSeed seed)

def run {α : Type} (c : Compiler) (g : Generate Cipher α) : Compiler × Except Fault α :=
  let (c, source) := c.child
  (c, (g source).1)

/-- What the compiler generates values of a document by, from a source of any kind. -/
def plan {σ : Type} [Source σ] (c : Compiler) (now : Instant) (document : Document) : Plan σ :=
  ⟨document, c.options, ⟨Samples.ofVocabulary, now⟩⟩

def compileNode (c : Compiler) (now : Instant) (document : Document) (node : Node) :
    Compiler × Except Fault Json :=
  c.run (generate (c.plan now document) node)

def compile (c : Compiler) (now : Instant) (document : Document) : Compiler × Except Fault Json :=
  c.compileNode now document document.root

def compileMany (c : Compiler) (now : Instant) (document : Document) (count : Nat) :
    Compiler × Except Fault (List Json) :=
  c.run (generateMany (c.plan now document) count)

def prepare (c : Compiler) (now : Instant) (schema : Json) : Compiler × Except Error Prepared :=
  let (library, result) := c.library.prepare now.millis.toNat c.options.fingerprint schema
  ({ c with library }, result)

def compileSchema (c : Compiler) (now : Instant) (schema : Json) : Compiler × Except Error Json :=
  match c.prepare now schema with
  | (c, .error e) => (c, .error e)
  | (c, .ok prepared) =>
    let (c, result) := c.compile now prepared.document
    (c, result.mapError Fault.toError)

end Compiler

end MockApi
