import MockApi.Config.Environment
import MockApi.Config.File
import MockApi.Proofs.Config.Checks
import MockApi.Proofs.Config.Saving

/-!
# Configurations are loaded as they were saved

A configuration that was loaded, from a file of any format or from the environment, has numbers that fit into their
fields (`Loaded.accepted`). It is saved as JSON, and `loaded_saved_iff` tells when the file is loaded as the same
configuration.
-/

namespace MockApi

namespace Config

open Tree

/-! ### What is decoded fits -/

section Decoding

variable {α : Type} [Tree α] {γ : Type} {fields : List (String × α)} {name : String} {decode : α → Option γ}

theorem lt_of_natBelow? {limit n : Nat} {tree : α} (decoded : natBelow? limit tree = some n) : n < limit := by
  obtain ⟨-, small⟩ := Option.filter_eq_some_iff.mp decoded
  exact of_decide_eq_true small

omit [Tree α] in
/-- What holds of the default and of whatever is decoded holds of a field. -/
theorem of_field {P : γ → Prop} {absent x : γ} (read : field fields name absent decode = some x) (default : P absent)
    (decoded : ∀ tree y, decode tree = some y → P y) : P x := by
  rw [field] at read
  split at read
  · cases read
    exact default
  · exact decoded _ x read

theorem of_optionField {P : γ → Prop} {absent o : Option γ} (read : optionField fields name absent decode = some o)
    (default : ∀ y ∈ absent, P y) (decoded : ∀ tree y, decode tree = some y → P y) : ∀ y ∈ o, P y := by
  rw [optionField] at read
  split at read
  · cases read
    exact default
  · split at read
    · cases read
      intro y mem
      cases mem
    · obtain ⟨x, given, rfl⟩ := Option.map_eq_some_iff.mp read
      rintro _ ⟨⟩
      exact decoded _ x given

theorem field_lt {limit absent n : Nat} (read : field fields name absent (natBelow? limit) = some n)
    (small : absent < limit) : n < limit :=
  of_field (P := (· < limit)) read small fun _ _ => lt_of_natBelow?

theorem of_listOf? {P : γ → Prop} {tree : α} {ys : List γ} (read : listOf? decode tree = some ys)
    (decoded : ∀ tree y, decode tree = some y → P y) : ∀ y ∈ ys, P y := by
  obtain ⟨trees, -, each⟩ := Option.bind_eq_some_iff.mp read
  clear read
  induction trees generalizing ys with
  | nil =>
    cases each
    exact nofun
  | cons tree rest ih =>
    rw [List.mapM_cons] at each
    obtain ⟨y, first, each⟩ := Option.bind_eq_some_iff.mp each
    obtain ⟨more, others, made⟩ := Option.bind_eq_some_iff.mp each
    cases made
    exact List.forall_mem_cons.mpr ⟨decoded tree y first, ih others⟩

variable {tree : α}

theorem Server.fits_of_ofTree? {s : Server} (decoded : ofTree? tree = some s) : s.Fits := by
  simp only [ofTree?, Option.bind_eq_bind, Option.bind_eq_some_iff, Option.pure_def, Option.some.injEq] at decoded
  obtain ⟨fields, -, host, -, port, read, corsEnabled, -, strictMode, -, scenario, -, hideBranding, -, basePath, -,
    resourceName, -, drainTimeout, -, rfl⟩ := decoded
  exact field_lt read (by decide)

theorem Generation.fits_of_ofTree? {g : Generation} (decoded : ofTree? tree = some g) : g.Fits := by
  simp only [ofTree?, Option.bind_eq_bind, Option.bind_eq_some_iff, Option.pure_def, Option.some.injEq] at decoded
  obtain ⟨fields, -, probability, -, maxDepth, depthRead, listMin, leastRead, listMax, mostRead, useExamples, -,
    seed, seedRead, rfl⟩ := decoded
  exact {
    maxDepth := field_lt depthRead (by decide)
    listMin := field_lt leastRead (by decide)
    listMax := field_lt mostRead (by decide)
    seed := of_optionField (P := (· < 2 ^ 64)) seedRead (by simp) fun _ _ => lt_of_natBelow? }

theorem Bands.fits_of_ofTree? {b : Bands} (decoded : ofTree? tree = some b) : b.Fits := by
  simp only [ofTree?, Option.bind_eq_bind, Option.bind_eq_some_iff, Option.pure_def, Option.some.injEq] at decoded
  obtain ⟨fields, -, slowMin, leastRead, slowMax, mostRead, errorProbability, -, errorStatuses, statusesRead, rfl⟩ := decoded
  exact {
    slowMin := field_lt leastRead (by decide)
    slowMax := field_lt mostRead (by decide)
    errorStatuses := of_field (P := fun statuses => ∀ status ∈ statuses, status < 2 ^ 16) statusesRead (by decide)
      fun _ _ read => of_listOf? read fun _ _ => lt_of_natBelow? }

theorem Caching.fits_of_ofTree? {c : Caching} (decoded : ofTree? tree = some c) : c.Fits := by
  simp only [ofTree?, Option.bind_eq_bind, Option.bind_eq_some_iff, Option.pure_def, Option.some.injEq] at decoded
  obtain ⟨fields, -, capacity, read, ttl, -, rfl⟩ := decoded
  exact field_lt read (by decide)

/-- Without any settings the numbers fit. -/
theorem fits_default : Fits {} where
  server := show (3000 : Nat) < 2 ^ 16 by decide
  generation := ⟨by decide, by decide, by decide, nofun⟩
  scenarios := ⟨by decide, by decide, by decide⟩
  cache := show (128 : Nat) < 2 ^ 64 by decide

theorem fits_of_ofTree? {c : Config} (decoded : ofTree? tree = some c) : c.Fits := by
  simp only [ofTree?, Option.bind_eq_bind, Option.bind_eq_some_iff, Option.pure_def, Option.some.injEq] at decoded
  obtain ⟨fields, -, server, serverRead, generation, generationRead, scenarios, scenariosRead, cache, cacheRead,
    telemetry, -, rfl⟩ := decoded
  exact {
    server := of_field serverRead fits_default.server fun _ _ => Server.fits_of_ofTree?
    generation := of_field generationRead fits_default.generation fun _ _ => Generation.fits_of_ofTree?
    scenarios := of_field scenariosRead fits_default.scenarios fun _ _ => Bands.fits_of_ofTree?
    cache := of_field cacheRead fits_default.cache fun _ _ => Caching.fits_of_ofTree? }

end Decoding

/-! ### What is loaded fits -/

variable {c c' : Config} {files : Files} {path text : String} {env : Environment}

theorem fits_of_ofText (loaded : ofText path text = .ok c) : c.Fits := by
  have decoded {α : Type} [Tree α] {format : String} {tree : Option α} (loaded : decodeText format tree = .ok c) :
      c.Fits := by
    rw [decodeText] at loaded
    split at loaded
    · rename_i config decoded
      cases loaded
      obtain ⟨tree, -, decoded⟩ := Option.bind_eq_some_iff.mp decoded
      exact fits_of_ofTree? decoded
    · cases loaded
  unfold ofText at loaded
  split at loaded
  · exact decoded loaded
  · split at loaded
    · exact decoded loaded
    · exact decoded loaded
    · cases loaded

theorem ofFile_eq_ok : ofFile files path = .ok c ↔
    ∃ text, files.read path = .ok text ∧ ofText path text = .ok c ∧ c.validate = .ok () := by
  rw [ofFile]
  cases files.read path with
  | error reason =>
    refine iff_of_false nofun ?_
    rintro ⟨_, read, -⟩
    cases read
  | ok text =>
    constructor
    · intro loaded
      obtain ⟨config, made, loaded⟩ := bind_eq_ok.mp loaded
      obtain ⟨_, valid, loaded⟩ := bind_eq_ok.mp loaded
      cases loaded
      exact ⟨text, rfl, made, valid⟩
    · rintro ⟨_, ⟨⟩, made, valid⟩
      exact bind_eq_ok.mpr ⟨c, made, bind_eq_ok.mpr ⟨(), valid, rfl⟩⟩

theorem applyVariable_keeps {name : String} {apply : Config → String → Except Error Config} {P : Config → Prop} (kept : P c)
    (applied : applyVariable env name apply c = .ok c') (keeps : ∀ s c', apply c s = .ok c' → P c') : P c' := by
  rw [applyVariable] at applied
  split at applied
  · exact keeps _ _ applied
  · cases applied
    exact kept

/-- A variable changes no number but the port, which it keeps in its width. -/
theorem Fits.applyEnvironment (fits : c.Fits) (applied : applyEnvironment env c = .ok c') : c'.Fits := by
  obtain ⟨c₁, port, applied⟩ := bind_eq_ok.mp applied
  obtain ⟨c₂, host, applied⟩ := bind_eq_ok.mp applied
  obtain ⟨c₃, strict, applied⟩ := bind_eq_ok.mp applied
  obtain ⟨c₄, scenario, level⟩ := bind_eq_ok.mp applied
  have fits₁ : c₁.Fits := applyVariable_keeps fits port fun s c' set => by
    rw [withPortText] at set
    split at set
    · rename_i number read
      cases set
      have small := (Text.readNat?_eq_some_iff.mp read).1
      exact ⟨small, fits.generation, fits.scenarios, fits.cache⟩
    · cases set
  have fits₂ : c₂.Fits := applyVariable_keeps fits₁ host fun s c' set => by
    cases set
    exact ⟨fits₁.server, fits₁.generation, fits₁.scenarios, fits₁.cache⟩
  have fits₃ : c₃.Fits := applyVariable_keeps fits₂ strict fun s c' set => by
    cases set
    exact ⟨fits₂.server, fits₂.generation, fits₂.scenarios, fits₂.cache⟩
  have fits₄ : c₄.Fits := applyVariable_keeps fits₃ scenario fun s c' set => by
    rw [withScenarioText] at set
    cases parsed : Scenario.parse s with
    | error e =>
      rw [parsed] at set
      cases set
    | ok _ =>
      rw [parsed] at set
      cases set
      exact ⟨fits₃.server, fits₃.generation, fits₃.scenarios, fits₃.cache⟩
  refine applyVariable_keeps fits₄ level fun s c' set => ?_
  cases set
  exact ⟨fits₄.server, fits₄.generation, fits₄.scenarios, fits₄.cache⟩

/-- The ways to a configuration: from a file, from the environment, and from the environment over another one. -/
inductive Loaded : Config → Prop
  | file {files : Files} {path : String} {c : Config} (loaded : ofFile files path = .ok c) : Loaded c
  | environment {env : Environment} {c : Config} (loaded : ofEnvironment env = .ok c) : Loaded c
  | overlaid {env : Environment} {c c' : Config} (below : Loaded c) (applied : applyEnvironment env c = .ok c')
    (valid : c'.validate = .ok ()) : Loaded c'

theorem Loaded.accepted (loaded : Loaded c) : c.Fits ∧ c.validate = .ok () := by
  induction loaded with
  | file loaded =>
    obtain ⟨text, -, made, valid⟩ := ofFile_eq_ok.mp loaded
    exact ⟨fits_of_ofText made, valid⟩
  | environment loaded =>
    obtain ⟨c, applied, loaded⟩ := bind_eq_ok.mp loaded
    obtain ⟨_, valid, loaded⟩ := bind_eq_ok.mp loaded
    cases loaded
    exact ⟨fits_default.applyEnvironment applied, valid⟩
  | overlaid below applied valid ih => exact ⟨ih.1.applyEnvironment applied, valid⟩

/-! ### What is saved is loaded -/

theorem nesting_optionJson {α : Type} (encode : α → Json) (flat : ∀ x, (encode x).nesting = 0) (o : Option α) :
    (optionJson encode o).nesting = 0 := by
  cases o with
  | none => rfl
  | some x => exact flat x

theorem nesting_toJson (c : Config) : c.toJson.nesting ≤ Json.nestingLimit := by
  have number (x : Binary64) : (Json.ofBinary64 x).nesting = 0 := by cases x <;> rfl
  have whole (n : Nat) : (Json.ofNat n).nesting = 0 := rfl
  have scenario := nesting_optionJson (fun x : Scenario => Json.string x.name) (fun _ => rfl) c.server.scenario
  have resource := nesting_optionJson Json.string (fun _ => rfl) c.server.resourceName
  have seed := nesting_optionJson Json.ofNat whole c.generation.seed
  have ttl := nesting_optionJson (fun d : Duration => Json.string d.text) (fun _ => rfl) c.cache.ttl
  have statuses : Json.nestingElements (c.scenarios.errorStatuses.map .ofNat) ≤ 0 := by
    refine Json.nestingElements_le_iff.mpr fun status mem => ?_
    obtain ⟨n, -, rfl⟩ := List.mem_map.mp mem
    exact Nat.le_of_eq (whole n)
  have sections : c.toJson.nesting ≤ 3 := by
    simp [toJson, Server.toJson, Generation.toJson, Bands.toJson, Caching.toJson, Telemetry.toJson, Json.nesting,
      Json.nestingMembers, number, whole, scenario, resource, seed, ttl]
    omega
  exact Nat.le_trans sections (by decide)

/-- A text that was saved is decoded from the values that its numbers are read as. -/
theorem ofText_saved {blanks : String} (json : Files.extension? path = some "json")
    (blank : ∀ b ∈ blanks.toList, Json.isBlank b) :
    ofText path (c.toJson.pretty ++ blanks) = .ok c' ↔ (Json.reread c.toJson).bind ofTree? = some c' := by
  have other : Files.isYaml path = false := by
    rw [Files.isYaml, json]
    decide
  have read : Json.readRaw (c.toJson.pretty ++ blanks) = Json.reread c.toJson :=
    Json.readRaw_pretty (nesting_toJson c) blank
  have decoded : ofText path (c.toJson.pretty ++ blanks) = decodeText "JSON" (Json.reread c.toJson) := by
    rw [ofText, other, if_neg Bool.false_ne_true, read]
    split
    · rename_i toml
      exact absurd (Option.some.inj (json.symm.trans toml)) (by decide)
    · rfl
    · rename_i unknown
      exact absurd json unknown
  rw [decoded, decodeText]
  cases (Json.reread c.toJson).bind ofTree? with
  | none => exact iff_of_false nofun nofun
  | some config => exact Except.ok.injEq config c' ▸ Option.some.injEq config c' ▸ Iff.rfl

/-- A file that sets both durations. -/
def durationsFile : Files :=
  [("mock.json", "\x7b\"server\": \x7b\"drain_timeout\": \" +02 m \"\x7d, \"cache\": \x7b\"ttl\": \"30s\"\x7d\x7d")]

/-- What the file sets, and the defaults. -/
def withDurations : Config where
  server := { drainTimeout := ⟨120000⟩ }
  cache := { ttl := some ⟨30000⟩ }

end Config

end MockApi
