import MockApi.Proofs.Generation.Draws
import MockApi.Proofs.Generation.Objects

/-!
# Values of a kind

What is generated for a kind meets what the node asks of that kind, if the values of its parts satisfy
theirs.
-/

namespace MockApi.Generation

open Schema Validation

variable {σ : Type} {doc : Document} {node : Node} {following : List String}

/-! ### Lengths -/

/-- The range of lengths keeps to the stated bounds, and to lengths that can be held. -/
theorem lengthBounds_fit {k : Keywords} {length : Nat}
    (ordered : ∀ min max, k.minLength = some min → k.maxLength = some max → min ≤ max)
    (short : ∀ min, k.minLength = some min → min < unholdableLength)
    (least : (lengthBounds k).1 ≤ length) (most : length ≤ (lengthBounds k).2) :
    (∀ min, k.minLength = some min → min ≤ length) ∧
      (∀ max, k.maxLength = some max → length ≤ max) ∧ length < unholdableLength := by
  have limit : textLimit < unholdableLength := by decide
  unfold lengthBounds at least most
  cases min : k.minLength with
  | none =>
    cases max : k.maxLength with
    | none => simp_all; omega
    | some max => simp_all; omega
  | some min =>
    cases max : k.maxLength with
    | none => simp_all; omega
    | some max => simp_all; omega

theorem lengthBounds_ordered (k : Keywords) : (lengthBounds k).1 ≤ (lengthBounds k).2 :=
  Nat.le_max_right _ _

/-- The range of element counts keeps to the stated bounds. -/
theorem itemBounds_fit {k : Keywords} {count : Nat}
    (ordered : ∀ min max, k.minItems = some min → k.maxItems = some max → min ≤ max)
    (short : ∀ min, k.minItems = some min → min ≤ itemLimit)
    (least : (itemBounds k).1 ≤ count) (most : count ≤ (itemBounds k).2) : LengthFits k count := by
  unfold itemBounds defaultMinItems defaultMaxItems itemLimit at *
  constructor
  · intro min stated
    simp_all
  · intro max stated
    cases min : k.minItems with
    | none => simp_all
    | some min => simp_all

/-- So does the least count, which stands where nothing is said of the elements. -/
theorem leastItems_fit {k : Keywords}
    (ordered : ∀ min max, k.minItems = some min → k.maxItems = some max → min ≤ max)
    (short : ∀ min, k.minItems = some min → min ≤ itemLimit) :
    LengthFits k (Nat.min (k.minItems.getD 0) itemLimit) := by
  constructor
  · intro min stated
    rw [stated]
    exact Nat.le_min_of_le_of_le (Nat.le_refl _) (short min stated)
  · intro max stated
    refine Nat.le_trans (Nat.min_le_left _ _) ?_
    cases min : k.minItems with
    | none => exact Nat.zero_le _
    | some min' => exact ordered min' max min stated

theorem itemBounds_ordered (k : Keywords) : (itemBounds k).1 ≤ (itemBounds k).2 :=
  Nat.le_min_of_le_of_le (Nat.le_max_right _ _) (Nat.le_max_right _ _)

/-! ### Scalars -/

theorem stringDraw_gives [Source σ] {setting : Setting σ} (supported : KindSupported node .string) :
    Generate.Gives (stringDraw setting node.toKeywords) (StringFits node.toKeywords) := by
  cases supported with
  | string pattern format ordered short =>
    unfold stringDraw formatDraw
    simp only [pattern, format, pure_bind]
    refine (Generate.gives_drawn (Draw.natBetween_gives (lengthBounds_ordered _))).bind ?_
    rintro length ⟨least, most⟩
    obtain ⟨minLength, maxLength, holdable⟩ := lengthBounds_fit ordered short least most
    unfold holdLength holdBelow
    rw [if_neg (by omega)]
    refine (Generate.gives_pure (P := fun _ => True) trivial).bind fun _ _ => ?_
    refine Generate.gives_drawn ((fillerText_gives length).mono fun text same => ?_)
    exact ⟨same.symm ▸ minLength, same.symm ▸ maxLength, by simp [pattern], by simp [format]⟩

/-- No keyword speaks of the integers of a supported node. -/
theorem numberFits_of_supported (supported : KindSupported node .integer) (n : Binary64) :
    NumberFits node.toKeywords n := by
  cases supported with
  | integer minimum maximum exclusiveMinimum exclusiveMaximum multipleOf =>
    constructor <;> simp [*]

/-- A value without parts meets its kind. -/
theorem leafDraw_gives [Source σ] {setting : Setting σ} {kind : Kind}
    {R : Move → Node → Json → Prop} (supported : KindSupported node kind) (object : kind ≠ .object)
    (array : kind ≠ .array) :
    Generate.Gives (leafDraw setting kind node.toKeywords) (KindMeets R node kind) := by
  cases kind with
  | string =>
    exact (stringDraw_gives supported).bind fun text fits => Generate.gives_pure (.string fits)
  | integer =>
    refine Generate.gives_drawn ((integerDraw_gives _).mono ?_)
    rintro value ⟨n, rfl⟩
    exact .integer rfl (numberFits_of_supported supported _)
  | boolean =>
    exact (Generate.gives_drawn (Draw.gives_any _)).bind fun b _ => Generate.gives_pure .boolean
  | null => exact Generate.gives_pure .null
  | number => cases supported
  | object => exact absurd rfl object
  | array => exact absurd rfl array

/-! ### Arrays -/

theorem forall₂_getElem? {α β : Type} {R : α → β → Prop} {xs : List α} {ys : List β} {i : Nat} {x : α}
    {y : β} (each : List.Forall₂ R xs ys) (left : xs[i]? = some x) (right : ys[i]? = some y) :
    R x y := by
  obtain ⟨inside, rfl⟩ := List.getElem?_eq_some_iff.mp left
  obtain ⟨inside', rfl⟩ := List.getElem?_eq_some_iff.mp right
  exact each.get inside inside'

/-- Elements that satisfy their nodes make an array that meets the node, for every number of them that
can be drawn. -/
theorem elementValues_yields [Source σ] {next : Node → Walking σ Json}
    (supported : KindSupported node .array)
    (single : ∀ item, node.items = some (.single item) →
      (next item).Yields following (Satisfies doc item))
    (tuple : ∀ positions, node.items = some (.tuple positions) → ∀ item ∈ positions,
      (next item).Yields following (Satisfies doc item)) :
    (elementValues next node).Yields following fun elements =>
      KindMeets (fun _ => Satisfies doc) node .array (.array elements) := by
  unfold elementValues
  cases supported with
  | tuple items enough room =>
    rw [items]
    refine (Walking.yields_mapM (tuple _ items)).mono fun elements each => ?_
    have same := each.length_eq
    refine .array ⟨same ▸ enough, same ▸ room⟩ ?_
    rw [items]
    exact fun i item element position found => forall₂_getElem? each position found
  | array noTuple ordered short =>
    cases items : node.items with
    | none =>
      have count : ((List.replicate (Nat.min (node.minItems.getD 0) itemLimit) ()).mapM fun _ => do
          return Json.string (← Walking.draw (fillerText elementLength)) : Walking σ _).Yields
          following (List.Forall₂ (fun _ _ => True) _) :=
        Walking.yields_mapM fun _ _ =>
          (Walking.yields_draw (Draw.gives_any _)).bind fun _ _ => Walking.yields_pure trivial
      refine count.mono fun elements each => ?_
      have same := each.length_eq
      rw [List.length_replicate] at same
      refine .array (same ▸ leastItems_fit ordered short) ?_
      rw [items]
      trivial
    | some items' =>
      cases items' with
      | tuple positions => exact absurd items (noTuple positions)
      | single item =>
        dsimp only
        refine (Walking.yields_draw (Draw.gives_any _)).bind fun _ _ => ?_
        refine (Walking.yields_draw (Draw.natBetween_gives (itemBounds_ordered _))).bind ?_
        rintro count ⟨least, most⟩
        have each : ((List.replicate count item).mapM next).Yields following
            (List.Forall₂ (Satisfies doc) (List.replicate count item)) :=
          Walking.yields_mapM fun item' mem => List.eq_of_mem_replicate mem ▸ single item items
        refine each.mono fun elements each => ?_
        have same := each.length_eq
        rw [List.length_replicate] at same
        refine .array (same ▸ itemBounds_fit ordered short least most) ?_
        rw [items]
        intro i element found
        have inside : i < count := by
          rw [same]
          exact (List.getElem?_eq_some_iff.mp found).1
        exact forall₂_getElem? each (by simp [inside]) found

/-! ### Objects -/

theorem includesMember_yields [Source σ] (plan : Plan σ) (node : Node) (name : String) :
    (includesMember plan node name).Yields following fun included =>
      name ∈ node.required → included = true := by
  unfold includesMember
  split
  · exact Walking.yields_pure fun _ => rfl
  · rename_i optional
    refine (Walking.yields_draw (Draw.gives_any _)).mono fun _ _ required => ?_
    exact absurd (by simpa [Node.isRequired] using required) optional

theorem Members.skip {asked : List String} {properties : List (String × Node)}
    {members : List (String × Json)} {name : String} {property : Node}
    (rest : Members doc asked properties members) (fresh : name ∉ Table.names properties)
    (optional : name ∉ asked) : Members doc asked ((name, property) :: properties) members where
  distinct := rest.distinct
  declared other mem := List.mem_cons_of_mem _ (rest.declared other mem)
  required other mem listed := by
    rcases List.mem_cons.mp listed with rfl | later
    · exact absurd mem optional
    · exact rest.required other mem later
  fits other property' mem member found := by
    rcases List.mem_cons.mp mem with same | later
    · cases same
      exact absurd (rest.declared name (Table.mem_names_of_get? found)) fresh
    · exact rest.fits other property' later member found

theorem Members.add {asked : List String} {properties : List (String × Node)}
    {members : List (String × Json)} {name : String} {property : Node} {value : Json}
    (rest : Members doc asked properties members) (fresh : name ∉ Table.names properties)
    (satisfies : Satisfies doc property value) :
    Members doc asked ((name, property) :: properties) ((name, value) :: members) where
  distinct := List.nodup_cons.mpr ⟨fun mem => fresh (rest.declared name mem), rest.distinct⟩
  declared other mem := by
    rcases List.mem_cons.mp mem with rfl | later
    · exact List.mem_cons_self
    · exact List.mem_cons_of_mem _ (rest.declared other later)
  required other mem listed := by
    by_cases same : other = name
    · subst same
      rw [Table.has, Table.get?_cons_self]
      rfl
    · rw [Table.has, Table.get?_cons_of_ne value members same]
      exact rest.required other mem ((List.mem_cons.mp listed).resolve_left same)
  fits other property' mem member found := by
    rcases List.mem_cons.mp mem with same | later
    · cases same
      rw [Table.get?_cons_self] at found
      cases found
      exact satisfies
    · have other_ne : other ≠ name := by
        rintro rfl
        exact fresh (List.mem_map_of_mem later)
      rw [Table.get?_cons_of_ne value members other_ne] at found
      exact rest.fits other property' later member found

theorem memberValues_yields [Source σ] {plan : Plan σ} {next : Node → Walking σ Json}
    {properties : List (String × Node)} (distinct : (Table.names properties).Nodup)
    (each : ∀ name property, (name, property) ∈ properties →
      (next property).Yields following (Satisfies doc property)) :
    (memberValues plan next node properties).Yields following
      (Members doc node.required properties) := by
  induction properties with
  | nil => exact Walking.yields_pure ⟨.nil, nofun, nofun, nofun⟩
  | cons entry properties ih =>
    obtain ⟨name, property⟩ := entry
    obtain ⟨fresh, distinct⟩ := List.nodup_cons.mp distinct
    have rest := ih distinct fun name property mem => each name property (List.mem_cons_of_mem _ mem)
    unfold memberValues
    refine (includesMember_yields plan node name).bind fun included always => ?_
    cases included with
    | true =>
      refine (each name property List.mem_cons_self).bind fun value satisfies => ?_
      refine rest.bind fun members holds => ?_
      exact Walking.yields_pure (holds.add fresh satisfies)
    | false =>
      refine rest.mono fun members holds => holds.skip fresh fun required => ?_
      cases always required

/-- A value of a kind meets the kind, and the members of an object fill its node. -/
theorem kindValue_yields [Source σ] {plan : Plan σ} {next : Node → Walking σ Json} {kind : Kind}
    (supported : KindSupported node kind) (takes : Takes node kind)
    (each : ∀ child, Child doc node child → (next child).Yields following (Satisfies doc child)) :
    (kindValue plan next node kind).Yields following fun value =>
      KindMeets (fun _ => Satisfies doc) node kind value ∧
        (kind = .object → ∃ members, value = .object members ∧ Fills doc node members) := by
  by_cases object : kind = .object
  · subst object
    cases supported with
    | object distinct declared =>
      refine (memberValues_yields distinct fun name property mem =>
        each property (.property takes mem)).bind fun members holds => Walking.yields_pure ?_
      have fills : Fills doc node members := ⟨holds, declared⟩
      exact ⟨fills.meets, fun _ => ⟨members, rfl, fills⟩⟩
  · by_cases array : kind = .array
    · subst array
      refine (elementValues_yields supported (fun item items => each item (.single takes items))
        fun positions items item mem => each item (.tuple takes items mem)).bind fun elements meets =>
          Walking.yields_pure ⟨meets, nofun⟩
    · have leaf : kindValue plan next node kind = .lift (leafDraw plan.setting kind node.toKeywords) := by
        cases kind <;> first | rfl | contradiction
      have gives : Generate.Gives (leafDraw plan.setting kind node.toKeywords)
          (KindMeets (fun _ => Satisfies doc) node kind) := leafDraw_gives supported object array
      rw [leaf]
      exact (Walking.yields_lift gives).mono fun value meets =>
        ⟨meets, fun same => absurd same object⟩

end MockApi.Generation
