import MockApi.Proofs.Config.Checks
import MockApi.Proofs.Generation.Keeping.Walks
import MockApi.Proofs.Generation.Soundness
import MockApi.Proofs.Route.Derived
import MockApi.Proofs.Route.Table
import MockApi.Random.Script
import MockApi.Session

/-!
# Whatever is generated relies on what is met

With a configuration that was accepted, every demand is met that a generation makes on its way: for each
document and node, for each pattern, and for each route of a table (`generation_meets_demands`). The chance
of an optional member is a probability, the sizes of lists are in order, and what else is relied on holds
for every schema.
-/

namespace MockApi

open Schema Generation

/-! ### Accepted configurations -/

/-- What is kept between nought and one is a probability, if it is a number. -/
theorem Binary64.clamp_met {p : Binary64} (number : p ≠ .nan) :
    (Demand.probability (p.clamp zero one)).Met := by
  have zero_number : zero ≠ .nan := finite_ne_nan _
  have one_number : one ≠ .nan := by decide +kernel
  unfold clamp
  split
  · exact show (Demand.probability zero).Met by decide +kernel
  · rename_i least
    split
    · exact show (Demand.probability one).Met by decide +kernel
    · rename_i most
      exact ⟨(lt_eq_false_iff number zero_number).mp (Bool.eq_false_iff.mpr least),
        (lt_eq_false_iff one_number number).mp (Bool.eq_false_iff.mpr most)⟩

theorem options_met {config : Config} (valid : config.validate = .ok ()) :
    (Demand.probability (Options.ofConfig config.generation).optionalProbability).Met :=
  Binary64.clamp_met (Config.Generation.number_of_validate (Config.generation_of_validate valid))

/-! ### Routes of a table -/

/-- The document that a response is generated from. -/
def ResponseSource.document? : ResponseSource → Option Document
  | .literal _ => none
  | .generated document => some document
  | .computed _ resource => some resource.document

/-- A list that the route computes has sizes in order. -/
def Route.Sized (route : Route) : Prop :=
  ∀ action resource, route.source = .computed action resource → resource.listMin ≤ resource.listMax

theorem sized_of_mem_derivedRoutes {basePath : String} {listMin listMax : Nat} {document : Document}
    {name : Option String} {route : Route}
    (mem : route ∈ Resource.derivedRoutes basePath listMin listMax document name) : route.Sized := by
  intro action resource computed
  have sizes : Nat.min listMin listMax ≤ Nat.max listMin listMax :=
    Nat.le_trans (Nat.min_le_left _ _) (Nat.le_max_left _ _)
  simp only [Resource.derivedRoutes, Resource.routes, List.mem_cons, List.not_mem_nil, or_false] at mem
  rcases mem with rfl | rfl | rfl | rfl | rfl <;> cases computed <;> exact sizes

/-- A route that a user defines computes nothing. -/
theorem RouteDefinition.sized_of_toRoute {d : RouteDefinition} {route : Route}
    (made : d.toRoute = .ok route) : route.Sized := by
  intro action resource computed
  rcases source_cases (source_of_toRoute made) with ⟨value, literal⟩ | ⟨document, generated⟩
  · cases literal.symm.trans computed
  · cases generated.symm.trans computed

theorem sized_of_explicit {written : List Route} {start table : RouteTable}
    {definitions : List RouteDefinition} (represents : RouteTable.Represents written start)
    (sized : ∀ route ∈ written, route.Sized)
    (made : (RouteDefinition.toRoutes definitions).map start.insertAll = .ok table) :
    ∀ route ∈ table.routes, route.Sized := by
  intro route mem
  rcases RouteDefinition.toRoutes_cases definitions with
    ⟨routes, accepted, each⟩ | ⟨_, _, _, e, _, _, _, refused⟩
  · rw [accepted] at made
    obtain rfl := Except.ok.inj made
    rcases List.mem_append.mp ((represents.insertAll routes).mem mem) with mem | mem
    · exact sized route mem
    · obtain ⟨d, -, toRoute⟩ := RouteDefinition.exists_definition each mem
      exact RouteDefinition.sized_of_toRoute toRoute
  · rw [refused] at made
    cases made

theorem Session.sized_of_routeTable {config : Config} {compiler : Compiler} {now : Instant}
    {definition : Definition} {table : RouteTable}
    (made : (routeTable config compiler now definition).2 = .ok table) :
    ∀ route ∈ table.routes, route.Sized := by
  unfold routeTable at made
  split at made
  · exact sized_of_explicit .empty (List.forall_mem_nil _) made
  · split at made
    · cases made
    · exact sized_of_explicit (RouteTable.Represents.empty.insertAll _)
        (fun route => sized_of_mem_derivedRoutes) made

/-! ### Runs on watched sources -/

/-- Whatever words the source gives, every demand that it is told of is met, and no text is asked for that
cannot be held. -/
def Generation.Safe {σ α : Type} [Source σ] (g : Generate (Watched σ) α) : Prop :=
  ∀ source : σ, (∀ demand ∈ (g ⟨source, []⟩).2.relied, demand.Met) ∧
    ∀ length, (g ⟨source, []⟩).1 ≠ .error (.unholdableText length)

/-- What is generated for a response is safe. -/
def ResponseSource.Safe {σ : Type} [Source σ] (plan : Document → Plan (Watched σ)) : ResponseSource → Prop
  | .literal _ => True
  | .generated document => Generation.Safe (generate (plan document) document.root)
  | .computed .list resource => Generation.Safe (Backend.listDraw (plan resource.document) resource)
  | .computed _ resource => Generation.Safe (generate (plan resource.document) resource.document.root)

namespace Session

variable {σ α : Type} [Source σ]

/-- The fault is that of a reference. -/
def OfReference (fault : Fault) : Prop := ∃ pointer, fault = .danglingReference pointer

theorem safe_of_keeps {g : Generate (Watched σ) α} (keeps : Keeps Invariant.relied.Holds OfReference g) :
    Safe g := by
  intro source
  obtain ⟨ends, met⟩ := keeps ⟨source, []⟩ (List.forall_mem_nil _)
  refine ⟨met, fun length unholdable => ?_⟩
  rw [unholdable] at ends
  obtain ⟨pointer, same⟩ : OfReference (.unholdableText length) := ends
  cases same

theorem walkable_of_short {document : Document} {node : Node}
    (short : ∀ n, Reaches document node n → Short n.toKeywords) : Walkable OfReference document node :=
  ⟨short, fun _ pointer _ _ _ => ⟨pointer, rfl⟩⟩

/-- With a configuration that was accepted, whatever is generated relies on what is met: for every node of
every document and for every number of documents, if no text on the way is asked to be too long to be held;
for every pattern and every length; and for every route that is served, whatever its compiler was used for
before. -/
theorem generation_meets_demands {config : Config} (valid : config.validate = .ok ()) (compiler : Compiler)
    (configured : compiler.options = .ofConfig config.generation) (now : Instant) :
    (∀ document node, (∀ n, Reaches document node n → Short n.toKeywords) →
      Safe (generate (compiler.plan now document : Plan (Watched σ)) node)) ∧
    (∀ document count, (∀ n, Reaches document document.root n → Short n.toKeywords) →
      Safe (generateMany (compiler.plan now document : Plan (Watched σ)) count)) ∧
    (∀ pattern min max, Safe (drawn (Pattern.generate pattern min max) : Generate (Watched σ) String)) ∧
    ∀ definition table, (routeTable config compiler now definition).2 = .ok table →
      ∀ route ∈ table.routes,
        (∀ document ∈ route.source.document?, ∀ n, Reaches document document.root n →
          Short n.toKeywords) →
        route.source.Safe fun document => (compiler.plan now document : Plan (Watched σ)) := by
  have probable : (Demand.probability compiler.options.optionalProbability).Met :=
    configured ▸ options_met valid
  have one {document : Document} {node : Node}
      (short : ∀ n, Reaches document node n → Short n.toKeywords) :
      Keeps Invariant.relied.Holds OfReference
        (generate (compiler.plan now document : Plan (Watched σ)) node) :=
    generate_keeps samples_ofVocabulary_keeps probable (walkable_of_short short)
  refine ⟨fun document node short => safe_of_keeps (one short), fun document count short => ?_,
    fun pattern min max => safe_of_keeps (keeps_drawn (Pattern.generate_keeps pattern min max)), ?_⟩
  · exact safe_of_keeps (Keeps.mapM fun _ _ => one short)
  · intro definition table made route mem short
    cases source : route.source with
    | literal value => trivial
    | generated document => exact safe_of_keeps (one (short document (by rw [source]; rfl)))
    | computed action resource =>
      have item : Keeps Invariant.relied.Holds OfReference (generate
          (compiler.plan now resource.document : Plan (Watched σ)) resource.document.root) :=
        one (short resource.document (by rw [source]; rfl))
      have sizes := sized_of_routeTable made route mem action resource source
      cases action with
      | list =>
        have list := (keeps_drawn (Draw.natBetween_keeps sizes)).bind fun count _ =>
          Keeps.mapM fun _ (_ : _ ∈ List.replicate count ()) => item
        exact safe_of_keeps list
      | get => exact safe_of_keeps item
      | create => exact safe_of_keeps item
      | replace => exact safe_of_keeps item
      | delete => exact safe_of_keeps item

/-- A text that has to be longer than it may be, with a pattern that breaks off. -/
def contradictory : Node where
  type := some (.single .string)
  minLength := some 7
  maxLength := some 2
  pattern := some "(a|[b-"

theorem generation_meets_demands_contradictory :
    let config := Config.forTesting 3000
    let compiler := Compiler.ofConfig config.generation config.cache 0
    config.validate = .ok () ∧ compiler.options = .ofConfig config.generation ∧
      Safe (generate (compiler.plan ⟨0⟩ (.ofNode contradictory) : Plan (Watched Script)) contradictory) := by
  intro config compiler
  have valid : config.validate = .ok () := by
    have accepted : config.validate.isOk = true := by
      decide +kernel
    cases result : config.validate with
    | ok _ => rfl
    | error e =>
      rw [result] at accepted
      cases accepted
  have alone : ∀ n, Reaches (.ofNode contradictory) contradictory n → Short n.toKeywords := by
    intro n reaches
    rcases reaches.cases_head with rfl | ⟨next, step, -⟩
    · intro min stated
      cases stated
      decide
    · cases step with
      | child child => exact (child.part : Part _ contradictory next (.typed .string)).elim
      | oneOf driver mem => cases driver
  exact ⟨valid, rfl, (generation_meets_demands valid compiler rfl ⟨0⟩).1 _ _ alone⟩

end Session

end MockApi
