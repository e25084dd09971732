import MockApi.Proofs.Session.Serving

/-!
# Sessions stay coherent

After each command a session is stopped without a listener or running with one (`Settled`), and its
engine was made for its configuration and serves the definition that was installed last (`Coherent`).
Each command keeps both (`Coherent.step`). What is refused is refused before anything is changed.
-/

namespace MockApi.Session

open Schema Generation

variable {schemas : List Json} {s : Session}

/-! ### What commands do -/

theorem create_eq_ok {config : Config} {entropy : UInt64} {now : Instant} {definition : Definition}
    (created : create config entropy now definition = .ok s) :
    ∃ engine, buildEngine config entropy now definition = .ok engine ∧
      s = ⟨config, definition, engine, .stopped, none⟩ := by
  unfold create at created
  cases built : buildEngine config entropy now definition with
  | error e =>
    rw [built] at created
    cases created
  | ok engine =>
    rw [built] at created
    cases created
    exact ⟨engine, rfl, rfl⟩

/-- A session with a listener is left alone. Another one holds a listener and runs afterwards, or it is
stopped. -/
theorem start_cases (s : Session) (bind : Address → Nat → Binding) :
    (∃ listener, s.listener = some listener ∧ s.start bind = (s, .ok listener)) ∨
      (s.listener = none ∧
        ((∃ listener, s.start bind =
            ({ s with phase := .running, listener := some listener }, .ok listener)) ∨
          ∃ e, s.start bind = ({ s with phase := .stopped }, .error e))) := by
  cases held : s.listener with
  | some listener =>
    refine .inl ⟨listener, rfl, ?_⟩
    rw [start, held]
  | none =>
    refine .inr ⟨rfl, ?_⟩
    unfold start
    rw [held]
    dsimp only
    split
    · exact .inr ⟨_, rfl⟩
    · split
      · exact .inl ⟨_, rfl⟩
      · exact .inr ⟨_, rfl⟩
      · exact .inr ⟨_, rfl⟩

theorem stopped_of_start {bind : Address → Nat → Binding} {e : Error}
    (fails : (s.start bind).2 = .error e) : (s.start bind).1.phase = .stopped := by
  rcases s.start_cases bind with ⟨listener, -, starts⟩ | ⟨-, ⟨listener, starts⟩ | ⟨e, starts⟩⟩ <;>
    rw [starts] at fails ⊢
  · cases fails
  · cases fails

theorem stop_cases (s : Session) :
    (s.listener = none ∧ s.stop = s) ∨ s.stop = { s with phase := .stopped, listener := none } := by
  unfold stop
  split
  · exact .inl ⟨‹_›, rfl⟩
  · exact .inr rfl

theorem restart_of_refused {config : Config} {entropy : UInt64} {now : Instant} {e : Error}
    (refused : buildEngine config entropy now s.definition = .error e)
    (bind : Address → Nat → Binding) : s.restart (some config) entropy now bind = (s, .error e) := by
  simp only [restart, refused]

theorem restart_of_built {config : Config} {entropy : UInt64} {now : Instant} {engine : Engine}
    (built : buildEngine config entropy now s.definition = .ok engine)
    (bind : Address → Nat → Binding) : s.restart (some config) entropy now bind =
      { s.stop with config, engine }.start bind := by
  simp only [restart, built]

/-- A restart that fails was refused, or the session is stopped. -/
theorem restart_fails {config : Option Config} {entropy : UInt64} {now : Instant}
    {bind : Address → Nat → Binding} {e : Error}
    (fails : (s.restart config entropy now bind).2 = .error e) :
    (s.restart config entropy now bind).1 = s ∨
      (s.restart config entropy now bind).1.phase = .stopped := by
  cases config with
  | none => exact .inr (stopped_of_start fails)
  | some config =>
    cases built : buildEngine config entropy now s.definition with
    | error e =>
      rw [restart_of_refused built]
      exact .inl rfl
    | ok engine =>
      rw [restart_of_built built] at fails ⊢
      exact .inr (stopped_of_start fails)

/-- A reload that is refused changes nothing but what the compiler remembers. -/
theorem reload_of_refused {now : Instant} {definition : Definition} {e : Error}
    (refused : (routeTable s.config s.engine.backend.compiler now definition).2 = .error e) :
    s.reload now definition =
      (s.withCompiler (routeTable s.config s.engine.backend.compiler now definition).1, .error e) := by
  simp only [reload, refused, withCompiler]

theorem reload_of_made {now : Instant} {definition : Definition} {table : RouteTable}
    (made : (routeTable s.config s.engine.backend.compiler now definition).2 = .ok table) :
    s.reload now definition =
      ({ s with definition, engine := { s.engine with
        backend := { s.engine.backend with
          compiler := (routeTable s.config s.engine.backend.compiler now definition).1 }, table } },
        .ok ()) := by
  simp only [reload, made]

theorem start_frame (s : Session) (bind : Address → Nat → Binding) :
    (s.start bind).1.config = s.config ∧ (s.start bind).1.definition = s.definition ∧
      (s.start bind).1.engine = s.engine := by
  rcases s.start_cases bind with ⟨listener, -, starts⟩ | ⟨-, ⟨listener, starts⟩ | ⟨e, starts⟩⟩ <;>
    rw [starts] <;> exact ⟨rfl, rfl, rfl⟩

theorem stop_frame (s : Session) :
    s.stop.config = s.config ∧ s.stop.definition = s.definition ∧ s.stop.engine = s.engine := by
  rcases s.stop_cases with ⟨-, same⟩ | stops
  · rw [same]
    exact ⟨rfl, rfl, rfl⟩
  · rw [stops]
    exact ⟨rfl, rfl, rfl⟩

/-! ### Life -/

/-- The session is running with a listener, or stopped without. -/
def Settled (s : Session) : Prop :=
  (s.phase = .running ∧ ∃ listener, s.listener = some listener) ∨
    (s.phase = .stopped ∧ s.listener = none)

theorem Settled.isSome_iff (settled : s.Settled) : s.listener.isSome ↔ s.phase = .running := by
  rcases settled with ⟨running, listener, held⟩ | ⟨stopped, free⟩
  · simp [running, held]
  · simp [stopped, free]

theorem Settled.stop (settled : s.Settled) : s.stop.phase = .stopped ∧ s.stop.listener = none := by
  rcases s.stop_cases with ⟨free, same⟩ | stops
  · rw [same]
    rcases settled with ⟨-, listener, held⟩ | stopped
    · cases free.symm.trans held
    · exact stopped
  · rw [stops]
    exact ⟨rfl, rfl⟩

theorem Settled.start (settled : s.Settled) (bind : Address → Nat → Binding) :
    (s.start bind).1.Settled := by
  rcases s.start_cases bind with ⟨listener, -, starts⟩ | ⟨free, ⟨listener, starts⟩ | ⟨e, starts⟩⟩
  · rw [starts]
    exact settled
  · rw [starts]
    exact .inl ⟨rfl, listener, rfl⟩
  · rw [starts]
    exact .inr ⟨rfl, free⟩

/-! ### Coherence -/

/-- The session is settled, and its engine serves its definition with its configuration. -/
structure Coherent (schemas : List Json) (s : Session) : Prop where
  settled : s.Settled
  serves : Serves schemas s.config s.definition s.engine

namespace Coherent

theorem start (coherent : s.Coherent schemas) (bind : Address → Nat → Binding) :
    (s.start bind).1.Coherent schemas := by
  obtain ⟨config, definition, engine⟩ := s.start_frame bind
  refine ⟨coherent.settled.start bind, ?_⟩
  rw [config, definition, engine]
  exact coherent.serves

theorem stop (coherent : s.Coherent schemas) : s.stop.Coherent schemas := by
  obtain ⟨config, definition, engine⟩ := s.stop_frame
  refine ⟨.inr coherent.settled.stop, ?_⟩
  rw [config, definition, engine]
  exact coherent.serves

theorem restart (coherent : s.Coherent schemas) (config : Option Config) (entropy : UInt64)
    (now : Instant) (bind : Address → Nat → Binding) :
    (s.restart config entropy now bind).1.Coherent schemas := by
  cases config with
  | none => exact coherent.stop.start bind
  | some config =>
    cases built : buildEngine config entropy now s.definition with
    | error e =>
      rw [restart_of_refused built]
      exact coherent
    | ok engine =>
      rw [restart_of_built built]
      have serves := serves_of_buildEngine built coherent.serves.known
      have stopped : { s.stop with config, engine }.Coherent schemas :=
        ⟨.inr coherent.settled.stop, s.stop_frame.2.1 ▸ serves⟩
      exact stopped.start bind

theorem reload (coherent : s.Coherent schemas) (now : Instant) {definition : Definition}
    (known : definition.schema.toList ⊆ schemas) : (s.reload now definition).1.Coherent schemas := by
  obtain ⟨capacity, sound⟩ := coherent.serves.compiler_sound
  obtain ⟨library, compiler⟩ :=
    routeTable_compiler s.config s.engine.backend.compiler now definition
  have remembered := coherent.serves.withCompiler
    (routeTable s.config s.engine.backend.compiler now definition).1
    (congrArg (·.options) compiler) ⟨capacity, routeTable_sound sound known now⟩
  cases made : (routeTable s.config s.engine.backend.compiler now definition).2 with
  | error e =>
    -- the schema may have been prepared before the explicit routes were refused
    rw [reload_of_refused made]
    exact ⟨coherent.settled, remembered⟩
  | ok table =>
    rw [reload_of_made made]
    refine ⟨coherent.settled, remembered.withTable known fun apart => ?_⟩
    rw [← coherent.serves.options] at apart
    exact (routeTable_eq sound apart known now).symm.trans made

theorem step (coherent : s.Coherent schemas) {command : Command}
    (known : command.schemas ⊆ schemas) : (s.step command).1.Coherent schemas := by
  cases command with
  | start bind => exact coherent.start bind
  | stop => exact coherent.stop
  | restart config entropy now bind => exact coherent.restart config entropy now bind
  | reload now definition => exact coherent.reload now known
  | serve now request stage =>
    exact ⟨coherent.settled, coherent.serves.advance now request stage⟩
  | prepare now schema =>
    obtain ⟨capacity, sound⟩ := coherent.serves.compiler_sound
    have prepared := sound.prepare (known List.mem_cons_self) now.millis.toNat
    exact ⟨coherent.settled, coherent.serves.withCompiler _ rfl ⟨capacity, prepared⟩⟩

theorem run (coherent : s.Coherent schemas) {commands : List Command}
    (known : commands.flatMap Command.schemas ⊆ schemas) : (s.run commands).Coherent schemas := by
  induction commands generalizing s with
  | nil => exact coherent
  | cons command commands ih =>
    rw [List.flatMap_cons, List.append_subset] at known
    exact ih (coherent.step known.1) known.2

theorem of_create {config : Config} {entropy : UInt64} {now : Instant} {definition : Definition}
    (created : create config entropy now definition = .ok s)
    (known : definition.schema.toList ⊆ schemas) : s.Coherent schemas := by
  obtain ⟨engine, built, rfl⟩ := create_eq_ok created
  exact ⟨.inr ⟨rfl, rfl⟩, serves_of_buildEngine built known⟩

end Coherent

/-! ### What was installed -/

theorem restart_definition (s : Session) (config : Option Config) (entropy : UInt64) (now : Instant)
    (bind : Address → Nat → Binding) :
    (s.restart config entropy now bind).1.definition = s.definition := by
  cases config with
  | none => exact (s.stop.start_frame bind).2.1.trans s.stop_frame.2.1
  | some config =>
    cases built : buildEngine config entropy now s.definition with
    | error e => rw [restart_of_refused built]
    | ok engine =>
      rw [restart_of_built built]
      exact (start_frame _ bind).2.1.trans s.stop_frame.2.1

theorem step_definition (s : Session) (command : Command) :
    (s.step command).1.definition = command.installed s.definition (s.step command).2 := by
  cases command with
  | start bind => exact (s.start_frame bind).2.1
  | stop => exact s.stop_frame.2.1
  | restart config entropy now bind => exact s.restart_definition config entropy now bind
  | reload now definition =>
    simp only [step]
    cases made : (routeTable s.config s.engine.backend.compiler now definition).2 with
    | error e =>
      rw [reload_of_refused made]
      rfl
    | ok table =>
      rw [reload_of_made made]
      rfl
  | serve now request stage => rfl
  | prepare now schema => rfl

theorem run_definition (s : Session) (commands : List Command) :
    (s.run commands).definition = s.lastInstalled s.definition commands := by
  induction commands generalizing s with
  | nil => rfl
  | cons command commands ih =>
    rw [lastInstalled, ← step_definition]
    exact ih (s.step command).1

/-! ### Every history -/

/-- Whatever a session goes through, and whether its ports can be bound or not: it is stopped without a
listener or running with one; a running session that is started answers its listener, and one that
cannot be started is stopped; a configuration that is refused changes nothing, and a definition that is
refused changes nothing but what the compiler remembers; the engine has the configuration of the
session; and the definition is the one that was installed last, whose routes are those served, if the
schemas used have different keys. -/
theorem run_coherent {config : Config} {entropy : UInt64} {now : Instant} {definition : Definition}
    {s₀ : Session} (created : create config entropy now definition = .ok s₀)
    (commands : List Command) :
    let s := s₀.run commands
    let compiler := s.engine.backend.compiler
    (s.phase = .stopped ∨ s.phase = .running) ∧
      (s.listener.isSome ↔ s.phase = .running) ∧
      (∀ bind, s.phase = .running →
        ∃ listener, s.listener = some listener ∧ s.start bind = (s, .ok listener)) ∧
      (∀ bind e, (s.start bind).2 = .error e → (s.start bind).1.phase = .stopped) ∧
      (∀ config entropy now bind e, buildEngine config entropy now s.definition = .error e →
        s.restart (some config) entropy now bind = (s, .error e)) ∧
      (∀ config entropy now bind e, (s.restart config entropy now bind).2 = .error e →
        (s.restart config entropy now bind).1 = s ∨
          (s.restart config entropy now bind).1.phase = .stopped) ∧
      (∀ now definition e, (routeTable s.config compiler now definition).2 = .error e →
        ∃ library, s.reload now definition = (s.withCompiler { compiler with library }, .error e)) ∧
      s.engine.config = s.config ∧
      s.definition = s₀.lastInstalled definition commands ∧
      (KeysApart (definition.schema.toList ++ commands.flatMap Command.schemas)
          compiler.options.fingerprint →
        ∀ now entropy,
          (routeTable s.config compiler now s.definition).2 = .ok s.engine.table ∧
          (routeTable s.config (.ofConfig s.config.generation s.config.cache entropy) now
            s.definition).2 = .ok s.engine.table) := by
  intro s compiler
  have start : s₀.Coherent (definition.schema.toList ++ commands.flatMap Command.schemas) :=
    .of_create created (List.subset_append_left _ _)
  have coherent : s.Coherent _ := start.run (List.subset_append_right _ _)
  obtain ⟨settled, serves⟩ := coherent
  refine ⟨settled.elim (fun running => .inr running.1) (fun stopped => .inl stopped.1),
    settled.isSome_iff, fun bind running => ?_, fun bind e => stopped_of_start,
    fun config entropy now bind e refused => restart_of_refused refused bind,
    fun config entropy now bind e fails => restart_fails fails, fun now other e refused => ?_,
    serves.configured, ?_, fun apart now entropy => ⟨?_, ?_⟩⟩
  · rcases settled with ⟨-, listener, held⟩ | ⟨stopped, -⟩
    · exact ⟨listener, held, by rw [Session.start, held]⟩
    · cases running.symm.trans stopped
  · obtain ⟨library, made⟩ := routeTable_compiler s.config compiler now other
    exact ⟨library, made ▸ reload_of_refused refused⟩
  · obtain ⟨engine, -, rfl⟩ := create_eq_ok created
    exact run_definition _ commands
  · obtain ⟨capacity, sound⟩ := serves.compiler_sound
    exact (routeTable_eq sound apart serves.known now).trans (serves.table (serves.options ▸ apart))
  · have sound := sound_ofConfig s.config entropy
      (definition.schema.toList ++ commands.flatMap Command.schemas)
    have apart : KeysApart _ (Options.ofConfig s.config.generation).fingerprint :=
      serves.options ▸ apart
    exact (routeTable_eq sound apart serves.known now).trans (serves.table apart)

def titled (title : String) : Definition where
  schema := some (.ofMembers [("type", .string "object"), ("title", .string title)])

/-- A port is bound, another one is in use, and then another definition is installed. -/
def rebound : List Command :=
  [.start fun address port => .bound ⟨address, port⟩,
    .restart (some (.forTesting 3001)) 1 ⟨1⟩ fun _ _ => .inUse, .reload ⟨2⟩ (titled "Pet")]

theorem run_coherent_rebound : ∃ s₀, create (.forTesting 3000) 0 ⟨0⟩ (titled "User") = .ok s₀ ∧
    let s := s₀.run rebound
    (s.listener.isSome ↔ s.phase = .running) ∧ s.engine.config = s.config ∧
      (routeTable s.config s.engine.backend.compiler ⟨3⟩ s.definition).2 = .ok s.engine.table := by
  cases created : create (.forTesting 3000) 0 ⟨0⟩ (titled "User") with
  | error e =>
    have accepted : (create (.forTesting 3000) 0 ⟨0⟩ (titled "User")).isOk = true := by
      decide +kernel
    rw [created] at accepted
    cases accepted
  | ok s₀ =>
    have apart : ((titled "User").schema.toList ++ rebound.flatMap Command.schemas).map
        Json.compact |>.Nodup := by
      decide +kernel
    obtain ⟨-, held, -, -, -, -, -, configured, -, served⟩ := run_coherent created rebound
    exact ⟨s₀, rfl, held, configured, (served (keysApart_of_nodup apart _) ⟨3⟩ 0).1⟩

end MockApi.Session
