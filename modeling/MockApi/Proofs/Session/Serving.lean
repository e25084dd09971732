import MockApi.Proofs.Engine.Stages
import MockApi.Proofs.Preparation.Library
import MockApi.Session.History

/-!
# What an engine serves

The routes of a definition are read from its schema and its explicit routes (`tableOf`). A compiler that
remembers nothing wrong gives these routes (`routeTable_eq`), so that an engine serves them after it was
built, after it was given another definition, and while requests go through it (`Serves`).
-/

namespace MockApi.Session

open Schema Generation

variable {capacity : Nat} {schemas : List Json} {config : Config} {compiler : Compiler}
  {definition : Definition} {engine : Engine}

/-! ### Route tables -/

/-- The routes of a definition as they are read, with nothing remembered. -/
def tableOf (config : Config) (definition : Definition) : Except Error RouteTable :=
  let explicit (table : RouteTable) : Except Error RouteTable :=
    (RouteDefinition.toRoutes definition.routes).map table.insertAll
  match definition.schema with
  | none => explicit {}
  | some schema => match Document.ofJson schema with
    | .error e => .error e
    | .ok document => explicit <| RouteTable.insertAll {} <| Resource.derivedRoutes
        config.server.basePath config.generation.listMin config.generation.listMax document
        config.server.resourceName

theorem routeTable_eq (sound : compiler.library.Sound capacity schemas compiler.options.fingerprint)
    (apart : KeysApart schemas compiler.options.fingerprint)
    (known : definition.schema.toList ⊆ schemas) (now : Instant) :
    (routeTable config compiler now definition).2 = tableOf config definition := by
  unfold routeTable tableOf
  cases given : definition.schema with
  | none => rfl
  | some schema =>
    rw [given] at known
    have answers : Library.Answers schema (compiler.prepare now schema).2 :=
      sound.prepare_answers apart (known List.mem_cons_self) now.millis.toNat
    rcases prepares : compiler.prepare now schema with ⟨next, e | prepared⟩ <;> rw [prepares] at answers
    · simp only [prepares, Library.answers_error.mp answers]
    · simp only [prepares, Library.answers_ok.mp answers]

/-- Making a route table changes nothing of a compiler but what it remembers. -/
theorem routeTable_compiler (config : Config) (compiler : Compiler) (now : Instant)
    (definition : Definition) : ∃ library,
      (routeTable config compiler now definition).1 = { compiler with library } := by
  unfold routeTable
  split
  · exact ⟨compiler.library, rfl⟩
  · split <;> rename_i prepares <;> exact ⟨_, (congrArg Prod.fst prepares).symm⟩

theorem routeTable_sound (sound : compiler.library.Sound capacity schemas compiler.options.fingerprint)
    (known : definition.schema.toList ⊆ schemas) (now : Instant) :
    (routeTable config compiler now definition).1.library.Sound capacity schemas
      compiler.options.fingerprint := by
  unfold routeTable
  split
  · exact sound
  · rename_i schema given
    rw [given] at known
    have prepared : (compiler.prepare now schema).1.library.Sound capacity schemas
        compiler.options.fingerprint :=
      sound.prepare (known List.mem_cons_self) now.millis.toNat
    split <;> rename_i prepares <;> rwa [prepares] at prepared

/-! ### Engines -/

/-- An engine that was made for a configuration serves a definition, and what its compiler remembers was
read from some schemas. -/
structure Serves (schemas : List Json) (config : Config) (definition : Definition) (e : Engine) :
    Prop where
  configured : e.config = config
  options : e.backend.compiler.options = .ofConfig config.generation
  library : ∃ capacity,
    e.backend.compiler.library.Sound capacity schemas (Options.ofConfig config.generation).fingerprint
  known : definition.schema.toList ⊆ schemas
  table : KeysApart schemas (Options.ofConfig config.generation).fingerprint →
    tableOf config definition = .ok e.table

theorem buildEngine_eq_ok {entropy : UInt64} {now : Instant}
    (built : buildEngine config entropy now definition = .ok engine) :
    ∃ table, (routeTable config (.ofConfig config.generation config.cache entropy) now definition).2 =
        .ok table ∧
      engine = .ofTable config table (routeTable config
        (.ofConfig config.generation config.cache entropy) now definition).1 entropy := by
  unfold buildEngine at built
  cases valid : config.validate with
  | error e =>
    rw [valid] at built
    cases built
  | ok _ =>
    rw [valid] at built
    cases made : (routeTable config (.ofConfig config.generation config.cache entropy) now
      definition).2 with
    | error e =>
      simp [bind, Except.bind, made] at built
    | ok table =>
      simp [bind, Except.bind, pure, Except.pure, made] at built
      exact ⟨table, rfl, built.symm⟩

theorem sound_ofConfig (config : Config) (entropy : UInt64) (schemas : List Json) :
    let compiler := Compiler.ofConfig config.generation config.cache entropy
    compiler.library.Sound (max config.cache.capacity 1) schemas compiler.options.fingerprint :=
  Library.Sound.empty config.cache.capacity (config.cache.ttl.map Duration.millis) _ _

theorem serves_of_buildEngine {entropy : UInt64} {now : Instant}
    (built : buildEngine config entropy now definition = .ok engine)
    (known : definition.schema.toList ⊆ schemas) : Serves schemas config definition engine := by
  obtain ⟨table, made, rfl⟩ := buildEngine_eq_ok built
  have sound := sound_ofConfig config entropy schemas
  obtain ⟨library, compiler⟩ := routeTable_compiler config
    (.ofConfig config.generation config.cache entropy) now definition
  refine ⟨rfl, ?_, ⟨_, routeTable_sound sound known now⟩, known, fun apart => ?_⟩
  · show (routeTable _ _ _ _).1.options = _
    rw [compiler]
    rfl
  · exact (routeTable_eq sound apart known now).symm.trans made

namespace Serves

theorem compiler_sound (serves : Serves schemas config definition engine) :
    ∃ capacity, engine.backend.compiler.library.Sound capacity schemas
      engine.backend.compiler.options.fingerprint := by
  rw [serves.options]
  exact serves.library

/-- Preparing a schema adds to what is remembered, and leaves what is served as it is. -/
theorem withCompiler (serves : Serves schemas config definition engine) (next : Compiler)
    (options : next.options = engine.backend.compiler.options)
    (sound : ∃ capacity, next.library.Sound capacity schemas
      engine.backend.compiler.options.fingerprint) :
    Serves schemas config definition
      { engine with backend := { engine.backend with compiler := next } } where
  configured := serves.configured
  options := options.trans serves.options
  library := serves.options ▸ sound
  known := serves.known
  table := serves.table

theorem withTable {other : Definition} {table : RouteTable}
    (serves : Serves schemas config definition engine) (known : other.schema.toList ⊆ schemas)
    (made : KeysApart schemas (Options.ofConfig config.generation).fingerprint →
      tableOf config other = .ok table) : Serves schemas config other { engine with table } where
  configured := serves.configured
  options := serves.options
  library := serves.library
  known := known
  table := made

/-- A request leaves what is served as it is. -/
theorem advance (serves : Serves schemas config definition engine) (now : Instant) (request : Request)
    (stage : Stage) : Serves schemas config definition (engine.advance now request stage).1 := by
  have same := (Engine.passage_advance engine now request stage).sameSetup
  exact {
    configured := same.config.trans serves.configured
    options := same.options.trans serves.options
    library := same.library ▸ serves.library
    known := serves.known
    table := same.table ▸ serves.table }

end Serves

end MockApi.Session
