import MockApi.Proofs.Engine.Clients

/-!
# What a request does to the store

The store counts what succeeds and nothing else (`Engine.Passage.stores`). A request changes it where it
issues an identifier, where it counts a creation, and where it replaces or deletes; from there on it can
only be served (`Engine.Passage.commits`), and it shows the identifier that was issued for it
(`Engine.Passage.bears`).
-/

namespace MockApi

namespace Store

/-! ### Counters -/

inductive Counter
  | issued
  | created
  | updated
  | deleted
deriving DecidableEq

/-- The action that is counted. -/
def Counter.action : Counter → Action
  | issued | created => .create
  | updated => .replace
  | deleted => .delete

def count (s : Store) : Counter → Nat
  | .issued => s.issued
  | .created => s.created
  | .updated => s.updated
  | .deleted => s.deleted

/-! ### Identifiers -/

end Store

/-- The identifier of this kind that is issued as the `n`th. -/
def IdKind.Shows (n : Nat) (id : Json) : IdKind → Prop
  | uuid => ∃ text, id = .string text
  | integer => id = .ofNat n
  | text => id = .string ("id-" ++ toString n)

/-- Only an identifier that is drawn is not given by its number. -/
theorem IdKind.Shows.same {kind : IdKind} {n : Nat} {id id' : Json} (shows : kind.Shows n id)
    (shows' : kind.Shows n id') : id = id' ∨ kind = .uuid := by
  cases kind with
  | uuid => exact .inr rfl
  | integer => exact .inl (shows.trans shows'.symm)
  | text => exact .inl (shows.trans shows'.symm)

theorem Store.nextId_cases (s : Store) (kind : IdKind) (source : Cipher) :
    (s.nextId kind source).1 = { s with issued := s.issued + 1 } ∧
      kind.Shows (s.issued + 1) (s.nextId kind source).2.1 := by
  cases kind with
  | uuid =>
    -- the text of the identifier is not looked at
    unfold nextId
    generalize Generation.uuidText source = drawn
    exact ⟨rfl, _, rfl⟩
  | integer => exact ⟨rfl, rfl⟩
  | text => exact ⟨rfl, rfl⟩

/-! ### Bodies -/

def ResponseSource.action? : ResponseSource → Option Action
  | computed action _ => some action
  | _ => none

namespace Making

/-- The resource that is being created. -/
def resource? : Making → Option Resource
  | minting r _ | counting r _ => some r
  | made _ => none

/-- Whether a body that has come so far has been counted here. -/
def stores (source : ResponseSource) (counter : Store.Counter) : Making → Bool
  | minting .. => false
  | counting .. => counter = .issued
  | made (.ok _) => source.action? = some counter.action
  | made (.error _) => false

theorem exists_resource {making : Making} (waits : making.isMade = false) :
    ∃ r, making.resource? = some r := by
  cases making with
  | minting r members => exact ⟨r, rfl⟩
  | counting r members => exact ⟨r, rfl⟩
  | made result => cases waits

end Making

namespace Backend

variable {b b' : Backend} {now : Instant} {source : ResponseSource} {params : Table String}
  {body : Option Json} {making next : Making} {r : Resource}

/-- How a body can begin. Only a creation takes further steps, and only a replacement or a deletion
changes the store; everything that can fail comes before. -/
inductive Begins (b : Backend) (source : ResponseSource) : Backend → Making → Prop
  | minting {r : Resource} {members : Table Json} {b' : Backend}
    (creates : source = .computed .create r) (same : b'.store = b.store) :
    Begins b source b' (.minting r members)
  | failed {e : Error} {b' : Backend} (same : b'.store = b.store) :
    Begins b source b' (.made (.error e))
  | answered {value : Json} {b' : Backend} (same : b'.store = b.store)
    (reads : ∀ counter : Store.Counter, source.action? ≠ some counter.action) :
    Begins b source b' (.made (.ok value))
  | replaced {r : Resource} {value : Json} {b' : Backend} (replaces : source = .computed .replace r)
    (changed : b'.store = b.store.recordUpdate) : Begins b source b' (.made (.ok value))
  | deleted {r : Resource} {value : Json} {b' : Backend} (deletes : source = .computed .delete r)
    (changed : b'.store = b.store.recordDelete) : Begins b source b' (.made (.ok value))

theorem newMembers_store (b : Backend) (now : Instant) (r : Resource) (body : Option Json) :
    (b.newMembers now r body).1.store = b.store := by
  cases body <;> rfl

theorem begins_begin (b : Backend) (now : Instant) (source : ResponseSource) (params : Table String)
    (body : Option Json) :
    Begins b source (b.begin now source params body).1 (b.begin now source params body).2 := by
  have read {source : ResponseSource} {b' : Backend} {result : Except Error Json}
      (same : b'.store = b.store)
      (reads : ∀ counter : Store.Counter, source.action? ≠ some counter.action) :
      Begins b source b' (.made result) := by
    cases result with
    | ok value => exact .answered same reads
    | error e => exact .failed same
  cases source with
  | literal value => exact read rfl nofun
  | generated document => exact read rfl nofun
  | computed action r =>
    cases action with
    | list => exact read rfl fun counter => by cases counter <;> nofun
    | get => exact read rfl fun counter => by cases counter <;> nofun
    | delete => exact .deleted rfl rfl
    | create =>
      have same := b.newMembers_store now r body
      simp only [begin]
      split <;> rename_i found <;> rw [found] at same
      · exact .minting rfl same
      · exact .failed same
    | replace =>
      simp only [begin]
      cases (body.map bodyMembers).getD (.ok []) with
      | error e => exact .failed rfl
      | ok members => exact .replaced rfl rfl

theorem begins_of_eq (begins : b.begin now source params body = (b', making)) :
    Begins b source b' making := by
  have how := b.begins_begin now source params body
  rwa [begins] at how

theorem Begins.resource? (begins : Begins b source b' making) (waits : making.resource? = some r) :
    source = .computed .create r := by
  cases begins with
  | minting creates =>
    cases waits
    exact creates
  | _ => cases waits

theorem Begins.stores (begins : Begins b source b' making) (counter : Store.Counter) :
    b'.store.count counter = b.store.count counter + (making.stores source counter).toNat := by
  cases begins with
  | minting _ same => exact congrArg (·.count counter) same
  | failed same => exact congrArg (·.count counter) same
  | answered same reads =>
    rw [same, Making.stores, decide_eq_false (reads counter)]
    rfl
  | replaced replaces changed =>
    rw [changed, replaces]
    cases counter <;> rfl
  | deleted deletes changed =>
    rw [changed, deletes]
    cases counter <;> rfl

theorem Begins.stores_issued (begins : Begins b source b' making) :
    making.stores source .issued = false := by
  cases begins with
  | minting | failed => rfl
  | answered same reads => exact decide_eq_false (reads .issued)
  | replaced replaces => rw [replaces]; rfl
  | deleted deletes => rw [deletes]; rfl

/-- Only a creation waits for an identifier or to be counted. -/
theorem Makes.creates (makes : Makes source params body making) (waits : making.resource? = some r) :
    source = .computed .create r := by
  induction makes with
  | begun b now => exact (b.begins_begin now source params body).resource? waits
  | @advanced making before b now ih =>
    cases making with
    | minting r members => exact ih waits
    | counting r members => cases waits
    | made result => cases waits

theorem advance_minting (b : Backend) (now : Instant) (r : Resource) (members : Table Json) :
    ∃ entropy id, b.advance now (.minting r members) =
        ({ b with store := { b.store with issued := b.store.issued + 1 }, entropy },
          .counting r (createdMembers id now members)) ∧
      r.idKind.Shows (b.store.issued + 1) id := by
  obtain ⟨issued, shows⟩ := b.store.nextId_cases r.idKind b.entropy
  rcases issues : b.store.nextId r.idKind b.entropy with ⟨store, id, entropy⟩
  rw [issues] at issued shows
  refine ⟨entropy, id, ?_, shows⟩
  simp only [advance, issues, issued]

/-- What the server sets later leaves the identifier. -/
theorem get?_createdMembers (id : Json) (now : Instant) (members : Table Json) :
    Table.get? (createdMembers id now members) "id" = some id := by
  rw [createdMembers, Table.get?_insert_of_ne _ _ (by decide),
    Table.get?_insert_of_ne _ _ (by decide), Table.get?_insert_self]

theorem advance_stores (b : Backend) (now : Instant) (creates : source = .computed .create r)
    (waits : making.isMade = false) (counter : Store.Counter) :
    (b.advance now making).1.store.count counter + (making.stores source counter).toNat =
      b.store.count counter + ((b.advance now making).2.stores source counter).toNat := by
  subst creates
  cases making with
  | minting r members =>
    obtain ⟨entropy, id, advances, -⟩ := b.advance_minting now r members
    rw [advances]
    cases counter <;> rfl
  | counting r members => cases counter <;> rfl
  | made result => cases waits

theorem data?_success (message : String) (value : Json) :
    (success message [("data", value)]).member? "data" = some value :=
  Table.get?_insert_self _ _ _

end Backend

/-- The identifier in the data of a response. -/
def Response.dataId? (r : Response) : Option Json := (r.body.member? "data").bind (·.member? "id")

/-! ### Clients -/

namespace Client

/-- What the route that served the client did for it. -/
def did? (c : Client) : Option Action :=
  match c.outcome with
  | some (.served _) => c.matched.bind (·.route.source.action?)
  | _ => none

/-- Whether an identifier was issued to the client that it has not been counted with. -/
def isCounting (c : Client) : Bool :=
  match c.stage with
  | .making _ (.counting ..) _ => true
  | _ => false

def stores (counter : Store.Counter) (c : Client) : Bool :=
  (c.isCounting && counter = .issued) || c.did? = some counter.action

/-- The store may have been changed for the client. -/
def isCommitted (c : Client) : Bool :=
  c.isCounting || c.outcome.any (·.failing?.isNone)

variable {c : Client} {m : RouteMatch} {making : Making} {delay : Nat}

theorem stores_making (counter : Store.Counter) (at' : c.stage = .making m making delay)
    (unknown : c.outcome = none) (waits : making.isMade = false) :
    c.stores counter = making.stores m.route.source counter := by
  cases making with
  | minting r members => simp [stores, isCounting, did?, at', unknown, Making.stores]
  | counting r members => simp [stores, isCounting, did?, at', unknown, Making.stores]
  | made result => cases waits

theorem stores_afterMaking (counter : Store.Counter) (matched : c.matched = some m)
    (unknown : c.outcome = none) :
    (c.goTo (Engine.afterMaking m delay making)).stores counter =
      making.stores m.route.source counter := by
  cases making with
  | minting r members => exact stores_making counter rfl unknown rfl
  | counting r members => exact stores_making counter rfl unknown rfl
  | made result =>
    cases result with
    | ok body =>
      simp [stores, isCounting, did?, goTo, Engine.afterMaking, Engine.outcomeOf, Stage.match?,
        Stage.outcome?, Making.stores, matched]
    | error e => rfl

/-- The identifier that was issued to the client. -/
def id? (c : Client) : Option Json :=
  match c.stage, c.outcome with
  | .making _ (.counting _ members) _, _ => Table.get? members "id"
  | _, some outcome => outcome.response.dataId?
  | _, none => none

/-- The client creates a resource, and it has the identifier that was issued as the `n`th. -/
def Bears (n : Nat) (c : Client) : Prop :=
  ∃ m r id, c.matched = some m ∧ m.route.source = .computed .create r ∧ c.id? = some id ∧
    r.idKind.Shows n id

/-- The client was answered with a new resource. -/
structure Created (c : Client) (r : Resource) (response : Response) : Prop where
  response : c.response? = some response
  did : c.did? = some .create
  matched : ∃ m, c.matched = some m ∧ m.route.source = .computed .create r

/-- It shows the identifier that was issued for it. -/
theorem Sound.dataId?_of_created {s : Setting} {r : Resource} {response : Response} {n : Nat}
    (sound : c.Sound s) (created : c.Created r response) (bears : c.Bears n) :
    ∃ id, response.dataId? = some id ∧ r.idKind.Shows n id := by
  obtain ⟨m, r', id, held, creates, has, shows⟩ := bears
  obtain ⟨m', held', creates'⟩ := created.matched
  cases held.symm.trans held'
  cases creates.symm.trans creates'
  have answered := created.response
  obtain ⟨request, stage, matched, outcome⟩ := c
  cases stage with
  | finished known delay =>
    obtain ⟨outcome, rfl, rfl, -⟩ := sound
    cases answered
    exact ⟨id, has, shows⟩
  | _ => cases answered

/-- A request that fails is not committed. -/
theorem Sound.isCommitted_eq_false {s : Setting} {outcome : Outcome} (sound : c.Sound s)
    (known : c.outcome = some outcome) (fails : outcome.failing?.isSome) : c.isCommitted = false := by
  have waits : c.isCounting = false := by
    cases counting : c.isCounting with
    | false => rfl
    | true =>
      obtain ⟨request, stage, matched, noted⟩ := c
      cases stage with
      | making m making delay =>
        obtain ⟨-, unknown, -⟩ := sound
        cases unknown.symm.trans known
      | _ => cases counting
  simpa [Client.isCommitted, waits, known] using fails

theorem stores_of_not_counting (counter : Store.Counter) (waits : c.isCounting = false) :
    c.stores counter = decide (c.did? = some counter.action) := by
  rw [stores, waits, Bool.false_and, Bool.false_or]

theorem stores_of_ne_issued {counter : Store.Counter} (other : counter ≠ .issued) (c : Client) :
    c.stores counter = decide (c.did? = some counter.action) := by
  rw [stores, decide_eq_false other, Bool.and_false, Bool.false_or]

theorem stores_issued_of_did (did : c.did? = some .create) : c.stores .issued := by
  rw [stores, Bool.or_eq_true]
  exact .inr (decide_eq_true did)

theorem isCounting_of_rests (rests : c.isInProgress = false) : c.isCounting = false := by
  obtain ⟨request, stage, matched, outcome⟩ := c
  cases stage with
  | making => cases rests
  | _ => rfl

end Client

namespace Engine.Passage

variable {s : Setting} {e e' : Engine} {now : Instant} {c : Client} {stage : Stage}

/-- A step counts in the store what it makes of the client. -/
theorem stores (sound : c.Sound s) (passage : Passage e now c.request c.stage e' stage)
    (counter : Store.Counter) :
    e'.backend.store.count counter + (c.stores counter).toNat =
      e.backend.store.count counter + ((c.goTo stage).stores counter).toNat := by
  obtain ⟨request, before, matched, outcome⟩ := c
  dsimp only at passage
  cases passage with
  | arrived => rfl
  | unmatched =>
    obtain ⟨rfl, rfl⟩ := sound
    rfl
  | matched | hasty | undelayed | delayed | safe | spared | accepted | injected | rejected =>
    obtain ⟨rfl, rfl, -⟩ := sound
    rfl
  | begun begins =>
    obtain ⟨rfl, rfl, -⟩ := sound
    rw [Client.stores_afterMaking counter rfl rfl]
    exact (Backend.begins_of_eq begins).stores counter
  | advanced advances =>
    obtain ⟨rfl, rfl, -, waits, makes⟩ := sound
    obtain ⟨r, resource⟩ := Making.exists_resource waits
    have advanced := e.backend.advance_stores now (makes.creates resource) waits counter
    rw [advances] at advanced
    rw [Client.stores_making counter rfl rfl waits, Client.stores_afterMaking counter rfl rfl]
    exact advanced
  | counted | timed | rested => rfl

/-- A step leaves the store, or the client can only be served from there on. -/
theorem commits (sound : c.Sound s) (passage : Passage e now c.request c.stage e' stage) :
    (c.isCommitted → (c.goTo stage).isCommitted) ∧
      (e'.backend.store = e.backend.store ∨ (c.goTo stage).isCommitted) := by
  obtain ⟨request, before, matched, outcome⟩ := c
  dsimp only at passage
  cases passage with
  | begun begins =>
    obtain ⟨rfl, rfl, -⟩ := sound
    refine ⟨nofun, ?_⟩
    cases Backend.begins_of_eq begins with
    | minting _ same => exact .inl same
    | failed same => exact .inl same
    | answered same => exact .inl same
    | replaced => exact .inr rfl
    | deleted => exact .inr rfl
  | @advanced m delay backend making next advances =>
    obtain ⟨rfl, rfl, -, waits, -⟩ := sound
    cases making with
    | minting r members =>
      obtain ⟨entropy, id, issues, -⟩ := e.backend.advance_minting now r members
      cases issues.symm.trans advances
      exact ⟨nofun, .inr rfl⟩
    | counting r members =>
      cases advances
      exact ⟨fun _ => rfl, .inr rfl⟩
    | made => cases waits
  | unmatched | injected | rejected =>
    obtain ⟨rfl, rfl, -⟩ := sound
    exact ⟨nofun, .inl rfl⟩
  | _ => exact ⟨id, .inl rfl⟩

/-- Where an identifier is issued the client bears it, and from there on it keeps it. -/
theorem bears (sound : c.Sound s) (passage : Passage e now c.request c.stage e' stage) :
    ((c.goTo stage).stores .issued = c.stores .issued ∧
        (c.stores .issued → ∀ n, c.Bears n → (c.goTo stage).Bears n)) ∨
      (c.stores .issued = false ∧ (c.goTo stage).stores .issued ∧
        (c.goTo stage).Bears (e.backend.store.issued + 1)) := by
  obtain ⟨request, before, matched, outcome⟩ := c
  dsimp only at passage
  cases passage with
  | begun begins =>
    obtain ⟨rfl, rfl, -⟩ := sound
    rw [Client.stores_afterMaking .issued rfl rfl, (Backend.begins_of_eq begins).stores_issued]
    exact .inl ⟨rfl, nofun⟩
  | @advanced m delay backend making next advances =>
    obtain ⟨rfl, rfl, -, waits, makes⟩ := sound
    cases making with
    | minting r members =>
      obtain ⟨entropy, id, issues, shows⟩ := e.backend.advance_minting now r members
      cases issues.symm.trans advances
      exact .inr ⟨rfl, rfl, m, r, id, rfl, makes.creates rfl, Backend.get?_createdMembers .., shows⟩
    | counting r members =>
      cases advances
      have creates : m.route.source.action? = some .create := by rw [makes.creates rfl]; rfl
      refine .inl ⟨decide_eq_true creates, fun _ n => ?_⟩
      rintro ⟨m', r', id, held, creates, bears, shows⟩
      refine ⟨m', r', id, held, creates, ?_, shows⟩
      show ((Backend.success ("Created " ++ r.label) [("data", .object members)]).member?
        "data").bind (·.member? "id") = some id
      rw [Backend.data?_success]
      exact bears
    | made => cases waits
  | counted =>
    obtain ⟨rfl, -⟩ := sound
    exact .inl ⟨rfl, fun _ n => id⟩
  | timed | rested =>
    obtain ⟨outcome, rfl, -⟩ := sound
    exact .inl ⟨rfl, fun _ n => id⟩
  | _ =>
    obtain ⟨rfl, rfl, -⟩ := sound
    exact .inl ⟨rfl, nofun⟩

end Engine.Passage

end MockApi
