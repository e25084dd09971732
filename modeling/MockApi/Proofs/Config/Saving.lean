import MockApi.Config.Encode
import MockApi.Config.Decode
import MockApi.Proofs.Config.Durations
import MockApi.Proofs.Json.RoundTrip

/-!
# Configurations are read back

What a saved configuration is decoded as, section by section. The sections with a probability go through a text of it,
and what is read there is the double that the text stands for (`rereadDouble`). The configuration is the same again exactly
if both probabilities are and no duration is too long (`ofTree?_reread_eq_some_iff`).
-/

namespace MockApi

namespace Config

open Tree Json

/-! ### Fields that are read back -/

theorem spelled_name {members : List (String × Json)} (distinct : (Table.names members).Nodup) {entry : String × Json}
    (mem : entry ∈ members) : spelled [entry.1] members = [entry.2] := by
  induction members with
  | nil => cases mem
  | cons first rest ih =>
    obtain ⟨alone, distinct⟩ := List.nodup_cons.mp distinct
    rw [spelled]
    rcases List.mem_cons.mp mem with rfl | mem
    · have others : rest.filter (fun member => [entry.1].contains member.1) = [] := by
        rw [List.filter_eq_nil_iff]
        intro other mem same
        have name : other.1 = entry.1 := by simpa using same
        exact alone (List.mem_map.mpr ⟨other, mem, name⟩)
      rw [List.filter_cons_of_pos (by simp), others]
      rfl
    · have other : first.1 ≠ entry.1 := fun same => alone (List.mem_map.mpr ⟨entry, mem, same.symm⟩)
      rw [List.filter_cons_of_neg (by simpa using other)]
      exact ih distinct mem

theorem mapM_names {members : List (String × Json)} {find : Spellings → Option (List (String × Json))}
    (found : ∀ entry ∈ members, find [entry.1] = some [entry]) :
    ((Table.names members).map ([·])).mapM find = some (members.map ([·])) := by
  induction members with
  | nil => rfl
  | cons entry rest ih =>
    obtain ⟨first, found⟩ := List.forall_mem_cons.mp found
    rw [Table.names, List.map_cons, List.map_cons, List.mapM_cons, first]
    exact congrArg (Option.bind · _) (ih found)

/-- An object with exactly the fields of a record has each of them once. -/
theorem record?_object {spellings : List Spellings} {members : List (String × Json)}
    (named : (Table.names members).map ([·]) = spellings) (distinct : (Table.names members).Nodup) :
    record? spellings (Json.object members) = some members := by
  have opened : members? (Json.object members) = some members := rfl
  subst named
  rw [record?, opened]
  dsimp only
  rw [mapM_names fun entry mem => ?_]
  · exact congrArg some (List.flatMap_singleton' members)
  · rw [spelled_name distinct mem]
    rfl

theorem field_eq {γ : Type} (fields : List (String × Json)) (name : String) (absent : γ) (decode : Json → Option γ) :
    field fields name absent decode = (Table.get? fields name).elim (some absent) decode := by
  rw [field]
  cases Table.get? fields name <;> rfl

theorem optionField_eq {γ : Type} (fields : List (String × Json)) (name : String) (absent : Option γ)
    (decode : Json → Option γ) : optionField fields name absent decode =
      (Table.get? fields name).elim (some absent) fun tree =>
        if Tree.isNull tree then some none else (decode tree).map some := by
  rw [optionField]
  cases Table.get? fields name <;> rfl

theorem text?_string (x : String) : text? (Json.string x) = some x := rfl

theorem bool?_bool (b : Bool) : bool? (Json.bool b) = some b := rfl

theorem real?_number (n : Number) : real? (Json.number n) = (asDouble? (.number n)).map .finite := rfl

variable {n limit : Nat}

theorem natBelow?_ofNat (small : n < limit) : natBelow? limit (Json.ofNat n) = some n := by
  have value : (nat? (Json.ofNat n)) = some n := rfl
  rw [natBelow?, value]
  simp [small]

theorem long?_ofNat (small : n < 2 ^ 64) : long? (Json.ofNat n) = some n := natBelow?_ofNat small

theorem listOf?_short? {statuses : List Nat} (small : ∀ status ∈ statuses, status < 2 ^ 16) :
    listOf? short? (Json.array (statuses.map .ofNat)) = some statuses := by
  have each : (statuses.map Json.ofNat).mapM (short? (α := Json)) = some statuses := by
    induction statuses with
    | nil => rfl
    | cons status rest ih =>
      obtain ⟨first, small⟩ := List.forall_mem_cons.mp small
      have decoded : short? (Json.ofNat status) = some status := natBelow?_ofNat first
      rw [List.map_cons, List.mapM_cons, decoded, ih small]
      rfl
  exact each

theorem scenario?_name (x : Scenario) : scenario? (Json.string x.name) = some x := by
  cases x <;> decide

/-- The duration as it is read back, if it is. -/
theorem duration?_text (d : Duration) :
    duration? (Json.string d.text) = if d.millis < Duration.numberLimit then some d else none :=
  Duration.ofString?_text d

/-- What may be absent is read back if it is read back where it is given. -/
theorem optional_optionJson {α : Type} {encode : α → Json} {decode : Json → Option α} {o : Option α}
    (present : ∀ x, (encode x).isNull = false) (decoded : ∀ x ∈ o, decode (encode x) = some x) :
    (if Tree.isNull (optionJson encode o) = true then some none else (decode (optionJson encode o)).map some) = some o := by
  cases o with
  | none => rfl
  | some x =>
    have given : (decode (optionJson encode (some x))).map some = some (some x) := congrArg _ (decoded x rfl)
    rw [given]
    exact if_neg (ne_true_of_eq_false (present x))

/-! ### Sections that are read back -/

/-- The double that is read from the text of a double. -/
def rereadDouble (p : Binary64.Finite) : Option Binary64.Finite :=
  (readNumber (p.text Binary64.jsonLayout).toList).bind fun n => asDouble? (.number n)

/-- The number is read back from its text as it is. -/
def ReadBack : Binary64 → Prop
  | .finite p => rereadDouble p = some p
  | _ => False

instance : DecidablePred ReadBack
  | .finite p => inferInstanceAs (Decidable (rereadDouble p = some p))
  | .infinite _ => inferInstanceAs (Decidable False)
  | .nan => inferInstanceAs (Decidable False)

/-- The numbers have the widths of their fields. -/
def Server.Fits (s : Server) : Prop := s.port < 2 ^ 16

structure Generation.Fits (g : Generation) : Prop where
  maxDepth : g.maxDepth < 2 ^ 64
  listMin : g.listMin < 2 ^ 64
  listMax : g.listMax < 2 ^ 64
  seed : ∀ seed ∈ g.seed, seed < 2 ^ 64

structure Bands.Fits (b : Bands) : Prop where
  slowMin : b.slowMin < 2 ^ 64
  slowMax : b.slowMax < 2 ^ 64
  errorStatuses : ∀ status ∈ b.errorStatuses, status < 2 ^ 16

def Caching.Fits (c : Caching) : Prop := c.capacity < 2 ^ 64

structure Fits (c : Config) : Prop where
  server : c.server.Fits
  generation : c.generation.Fits
  scenarios : c.scenarios.Fits
  cache : c.cache.Fits

theorem reread_finite (p : Binary64.Finite) :
    reread (.ofBinary64 (.finite p)) = (readNumber (p.text Binary64.jsonLayout).toList).map .number := rfl

theorem reread_optionJson {α : Type} (encode : α → Json) (o : Option α)
    (kept : ∀ x ∈ o, reread (encode x) = some (encode x)) :
    reread (optionJson encode o) = some (optionJson encode o) := by
  cases o with
  | none => rfl
  | some x => exact kept x rfl

theorem reread_statuses {statuses : List Nat} (small : ∀ status ∈ statuses, status < 2 ^ 16) :
    reread (.array (statuses.map .ofNat)) = some (.array (statuses.map .ofNat)) := by
  have each : rereadElements (statuses.map .ofNat) = some (statuses.map .ofNat) := by
    induction statuses with
    | nil => rfl
    | cons status rest ih =>
      obtain ⟨first, small⟩ := List.forall_mem_cons.mp small
      rw [List.map_cons, rereadElements, reread_ofNat (Nat.lt_trans first (by decide)), ih small]
      rfl
  rw [reread, each]
  rfl

theorem Server.reread_toJson {s : Server} (fits : s.Fits) : reread s.toJson = some s.toJson := by
  have port := reread_ofNat (Nat.lt_trans fits (by decide))
  have scenario := reread_optionJson (fun x : Scenario => Json.string x.name) s.scenario fun _ _ => rfl
  have resource := reread_optionJson Json.string s.resourceName fun _ _ => rfl
  simp [toJson, reread, rereadMembers, port, scenario, resource]

theorem Server.ofTree?_toJson {s : Server} (fits : s.Fits) :
    Server.ofTree? s.toJson = if s.drainTimeout.millis < Duration.numberLimit then some s else none := by
  have port : short? (Json.ofNat s.port) = some s.port := natBelow?_ofNat fits
  have scenario := optional_optionJson (o := s.scenario) (fun _ => rfl) fun x _ => scenario?_name x
  have resource := optional_optionJson (o := s.resourceName) (fun _ => rfl) fun x _ => text?_string x
  rw [Server.ofTree?, Server.toJson, record?_object]
  · simp [field_eq, optionField_eq, Table.get?, text?_string, bool?_bool, port, scenario, resource, duration?_text]
    split <;> rfl
  · rfl
  · simp [Table.names]

theorem Generation.ofTree?_reread {g : Generation} (fits : g.Fits) {p : Binary64.Finite}
    (number : g.optionalProbability = .finite p) : (reread g.toJson).bind Generation.ofTree? =
      (rereadDouble p).map fun x => { g with optionalProbability := .finite x } := by
  have seed := optional_optionJson (o := g.seed) (fun _ => rfl) fun n given => long?_ofNat (fits.seed n given)
  have kept := reread_optionJson Json.ofNat g.seed fun n given => reread_ofNat (fits.seed n given)
  simp only [toJson, reread, rereadMembers, number, reread_finite, reread_ofNat fits.maxDepth, reread_ofNat fits.listMin,
    reread_ofNat fits.listMax, kept, rereadDouble, Option.bind_some, Option.map_some]
  cases readNumber (p.text Binary64.jsonLayout).toList with
  | none => rfl
  | some n =>
    simp only [Option.map_some, Option.bind_some]
    rw [Generation.ofTree?, record?_object]
    · simp [field_eq, optionField_eq, Table.get?, bool?_bool, real?_number, long?_ofNat fits.maxDepth,
        long?_ofNat fits.listMin, long?_ofNat fits.listMax, seed]
      cases asDouble? (.number n) <;> rfl
    · rfl
    · simp [Table.names]

theorem Bands.ofTree?_reread {b : Bands} (fits : b.Fits) {p : Binary64.Finite}
    (number : b.errorProbability = .finite p) : (reread b.toJson).bind Bands.ofTree? =
      (rereadDouble p).map fun x => { b with errorProbability := .finite x } := by
  have statuses := reread_statuses fits.errorStatuses
  rw [reread] at statuses
  simp only [toJson, reread, rereadMembers, number, reread_finite, reread_ofNat fits.slowMin, reread_ofNat fits.slowMax,
    statuses, rereadDouble, Option.bind_some, Option.map_some]
  cases readNumber (p.text Binary64.jsonLayout).toList with
  | none => rfl
  | some n =>
    simp only [Option.map_some, Option.bind_some]
    rw [Bands.ofTree?, record?_object]
    · simp [field_eq, Table.get?, real?_number, long?_ofNat fits.slowMin, long?_ofNat fits.slowMax,
        listOf?_short? fits.errorStatuses]
      cases asDouble? (.number n) <;> rfl
    · rfl
    · simp [Table.names]

theorem Caching.reread_toJson {c : Caching} (fits : c.Fits) : reread c.toJson = some c.toJson := by
  have capacity : reread (.ofNat c.capacity) = some (.ofNat c.capacity) := reread_ofNat fits
  have ttl := reread_optionJson (fun d : Duration => Json.string d.text) c.ttl fun _ _ => rfl
  simp [toJson, reread, rereadMembers, capacity, ttl]

theorem Caching.ofTree?_toJson {c : Caching} (fits : c.Fits) :
    Caching.ofTree? c.toJson = if ∀ ttl ∈ c.ttl, ttl.millis < Duration.numberLimit then some c else none := by
  obtain ⟨size, ttl⟩ := c
  have capacity : long? (Json.ofNat size) = some size := long?_ofNat fits
  rw [Caching.ofTree?, Caching.toJson, record?_object]
  · cases ttl with
    | none =>
      have absent : Tree.isNull Json.null = true := rfl
      simp [field_eq, optionField_eq, Table.get?, capacity, optionJson, absent]
    | some ttl =>
      have given : Tree.isNull (Json.string ttl.text) = false := rfl
      simp [field_eq, optionField_eq, Table.get?, capacity, optionJson, given, duration?_text]
      split <;> rfl
  · rfl
  · simp [Table.names]

theorem Telemetry.ofTree?_toJson (t : Telemetry) : Telemetry.ofTree? t.toJson = some t := by
  rw [Telemetry.ofTree?, Telemetry.toJson, record?_object]
  · simp [field_eq, Table.get?, text?_string, bool?_bool]
  · rfl
  · simp [Table.names]

/-! ### Configurations that are read back -/

variable {c : Config}

theorem ofTree?_reread (fits : c.Fits) : (reread c.toJson).bind ofTree? =
    (Server.ofTree? c.server.toJson).bind fun server =>
      ((reread c.generation.toJson).bind Generation.ofTree?).bind fun generation =>
        ((reread c.scenarios.toJson).bind Bands.ofTree?).bind fun scenarios =>
          (Caching.ofTree? c.cache.toJson).bind fun cache => some ⟨server, generation, scenarios, cache, c.telemetry⟩ := by
  have telemetry : reread c.telemetry.toJson = some c.telemetry.toJson := by
    simp [Telemetry.toJson, reread, rereadMembers]
  simp only [toJson, reread, rereadMembers, Server.reread_toJson fits.server, Caching.reread_toJson fits.cache, telemetry,
    Option.bind_some, Option.map_some]
  cases reread c.generation.toJson with
  | none => simp
  | some generation =>
    cases reread c.scenarios.toJson with
    | none => simp
    | some scenarios =>
      simp only [Option.bind_some, Option.map_some]
      rw [ofTree?, record?_object]
      · simp [field_eq, Table.get?, Telemetry.ofTree?_toJson]
      · rfl
      · simp [Table.names]

/-- A configuration is read back as it is exactly if its durations have 64 bits of milliseconds and its probabilities are
read back as they are. -/
theorem ofTree?_reread_eq_some_iff (fits : c.Fits) {p q : Binary64.Finite}
    (optional : c.generation.optionalProbability = .finite p) (error : c.scenarios.errorProbability = .finite q) :
    (reread c.toJson).bind ofTree? = some c ↔
      c.server.drainTimeout.millis < Duration.numberLimit ∧ (∀ ttl ∈ c.cache.ttl, ttl.millis < Duration.numberLimit) ∧
        ReadBack c.generation.optionalProbability ∧ ReadBack c.scenarios.errorProbability := by
  have readBack {x : Binary64} {r : Binary64.Finite} (number : x = .finite r) : ReadBack x ↔ rereadDouble r = some r := by
    rw [number]
    exact Iff.rfl
  rw [readBack optional, readBack error, ofTree?_reread fits, Server.ofTree?_toJson fits.server,
    Generation.ofTree?_reread fits.generation optional, Bands.ofTree?_reread fits.scenarios error,
    Caching.ofTree?_toJson fits.cache]
  constructor
  · intro loaded
    obtain ⟨server, drained, loaded⟩ := Option.bind_eq_some_iff.mp loaded
    obtain ⟨generation, generated, loaded⟩ := Option.bind_eq_some_iff.mp loaded
    obtain ⟨scenarios, banded, loaded⟩ := Option.bind_eq_some_iff.mp loaded
    obtain ⟨cache, cached, loaded⟩ := Option.bind_eq_some_iff.mp loaded
    obtain ⟨x, first, rfl⟩ := Option.map_eq_some_iff.mp generated
    obtain ⟨y, second, rfl⟩ := Option.map_eq_some_iff.mp banded
    have whole := Option.some.inj loaded
    have kept : Binary64.finite x = c.generation.optionalProbability := congrArg (·.generation.optionalProbability) whole
    have kept' : Binary64.finite y = c.scenarios.errorProbability := congrArg (·.scenarios.errorProbability) whole
    rw [optional] at kept
    rw [error] at kept'
    cases kept
    cases kept'
    refine ⟨?_, ?_, first, second⟩
    · by_contra large
      rw [if_neg large] at drained
      cases drained
    · by_contra large
      rw [if_neg large] at cached
      cases cached
  · rintro ⟨drain, ttl, first, second⟩
    rw [if_pos drain, if_pos ttl, first, second]
    simp only [Option.map_some, Option.bind_some, ← optional, ← error]

end Config

end MockApi
