import Mathlib.Logic.Function.Basic
import MockApi.Proofs.Engine.Storage
import MockApi.Proofs.Session.Coherence
import MockApi.Session.Service

/-!
# The store of a session

Whatever the clients of a session do and in whatever order, and whatever definitions it is given in the
meantime, its store counts what succeeded, and each identifier is issued to one client
(`Service.Accounted`).
-/

namespace MockApi

open Session

/-! ### Sessions -/

theorem Session.reload_frame (s : Session) (now : Instant) (definition : Definition) :
    (s.reload now definition).1.engine.config = s.engine.config ∧
      (s.reload now definition).1.engine.backend.store = s.engine.backend.store := by
  cases made : (routeTable s.config s.engine.backend.compiler now definition).2 with
  | error e =>
    rw [reload_of_refused made]
    exact ⟨rfl, rfl⟩
  | ok table =>
    rw [reload_of_made made]
    exact ⟨rfl, rfl⟩

theorem IdKind.Shows.apart {kind kind' : IdKind} {n n' : Nat} {id : Json} (shows : kind.Shows n id)
    (shows' : kind'.Shows n' id) (counts : kind ≠ .uuid) (counts' : kind' ≠ .uuid) : n = n' := by
  cases kind with
  | uuid => exact absurd rfl counts
  | integer =>
    cases kind' with
    | uuid => exact absurd rfl counts'
    | integer =>
      cases shows
      cases shows'
      rfl
    | text =>
      cases shows
      cases shows'
  | text =>
    cases kind' with
    | uuid => exact absurd rfl counts'
    | integer =>
      cases shows
      cases shows'
    | text =>
      cases shows
      have same : ("id-" ++ toString n : String) = "id-" ++ toString n' := Json.string.inj shows'
      have texts : toString n = toString n' := (String.append_right_inj _).mp same
      rw [Nat.toString_eq_ofList_toDigits, Nat.toString_eq_ofList_toDigits] at texts
      have digits : Nat.toDigits 10 n = Nat.toDigits 10 n' := String.ofList_injective texts
      calc n = Nat.ofDigitChars 10 (Nat.toDigits 10 n) 0 := Nat.ofDigitChars_ten_toDigits.symm
        _ = Nat.ofDigitChars 10 (Nat.toDigits 10 n') 0 := by rw [digits]
        _ = n' := Nat.ofDigitChars_ten_toDigits

namespace Service

/-! ### What every run keeps -/

/-- Each client that was issued an identifier has the one with its own number. -/
def Numbered (number : Nat → Nat) (t : Service) : Prop :=
  ∀ (i : Nat) (c : Client), t.parties[i]? = some c → c.stores .issued →
    c.Bears (number i) ∧ 1 ≤ number i ∧ number i ≤ t.store.issued ∧
      ∀ (j : Nat) (c' : Client), t.parties[j]? = some c' → c'.stores .issued →
        number i = number j → i = j

structure Accounted (e : Engine) (t : Service) : Prop where
  config : t.shared.engine.config = e.config
  sound : ∀ (i : Nat) (c : Client), t.parties[i]? = some c → c.Sound (.anyRoutes e)
  counts : ∀ counter, t.store.count counter = t.parties.countP (·.stores counter)
  numbers : ∃ number, Numbered number t

variable {e : Engine} {t : Service} {number : Nat → Nat} {i : Nat} {c : Client}

theorem Accounted.allows (accounted : Accounted e t) : (Setting.anyRoutes e).Allows t.shared.engine :=
  ⟨accounted.config, trivial⟩

theorem accounted_start {s : Session} (fresh : s.engine.backend.store = {}) (requests : List Request) :
    Accounted s.engine (start s requests) where
  config := rfl
  sound i c present := by
    obtain ⟨request, rfl⟩ := Client.eq_start present
    exact Client.sound_start _ request
  counts counter := by
    rw [store, start, fresh]
    cases counter <;>
      simp [List.countP_map, Function.comp_def, Client.stores, Client.isCounting, Client.did?,
        Store.count]
  numbers := by
    refine ⟨id, fun i c present stored => ?_⟩
    obtain ⟨request, rfl⟩ := Client.eq_start present
    cases stored

theorem store_move (present : t.parties[i]? = some c) (now : Instant) :
    store (t.move i (Session.serve now)) = (t.shared.engine.serve now c).1.backend.store := by
  rw [Crowd.move_of_some present]
  rfl

/-- The numbers stay where no identifier is issued. -/
theorem Numbered.keep {t' : Service} (numbered : Numbered number t)
    (issued : t'.store.issued = t.store.issued)
    (before : ∀ (j : Nat) (c' : Client), t'.parties[j]? = some c' → c'.stores .issued →
      ∃ c₀, t.parties[j]? = some c₀ ∧ c₀.stores .issued ∧ ∀ n, c₀.Bears n → c'.Bears n) :
    Numbered number t' := by
  intro j c' present stored
  obtain ⟨c₀, present₀, stored₀, keeps⟩ := before j c' present stored
  obtain ⟨bears, positive, within, apart⟩ := numbered j c₀ present₀ stored₀
  refine ⟨keeps _ bears, positive, issued ▸ within, fun k c'' present' stored' => ?_⟩
  obtain ⟨c₁, present₁, stored₁, -⟩ := before k c'' present' stored'
  exact apart k c₁ present₁ stored₁

/-- The client that the next identifier is issued to has the next number, which no other has. -/
theorem Numbered.issue {t' : Service} {c' : Client} (numbered : Numbered number t)
    (issued : t'.store.issued = t.store.issued + 1) (new : t'.parties[i]? = some c')
    (bears : c'.Bears (t.store.issued + 1)) (others : ∀ j, i ≠ j → t'.parties[j]? = t.parties[j]?) :
    Numbered (Function.update number i (t.store.issued + 1)) t' := by
  have older (k : Nat) (apart : i ≠ k) (c'' : Client) (present : t'.parties[k]? = some c'')
      (stored : c''.stores .issued) := numbered k c'' (others k apart ▸ present) stored
  intro j c₀ present stored
  by_cases own : i = j
  · subst own
    cases new.symm.trans present
    rw [Function.update_self]
    refine ⟨bears, Nat.le_add_left 1 _, issued.ge, fun k c'' present' stored' same => ?_⟩
    by_contra apart
    obtain ⟨-, -, within, -⟩ := older k apart c'' present' stored'
    rw [Function.update_of_ne (Ne.symm apart)] at same
    omega
  · obtain ⟨bears₀, positive, within, apart⟩ := older j own c₀ present stored
    rw [Function.update_of_ne (Ne.symm own)]
    refine ⟨bears₀, positive, by omega, fun k c'' present' stored' same => ?_⟩
    by_cases own' : i = k
    · subst own'
      rw [Function.update_self] at same
      omega
    · rw [Function.update_of_ne (Ne.symm own')] at same
      exact apart k c'' (others k own' ▸ present') stored' same

theorem Numbered.serve (numbered : Numbered number t) (accounted : Accounted e t) (i : Nat)
    (now : Instant) : ∃ number, Numbered number (t.move i (Session.serve now)) := by
  cases present : t.parties[i]? with
  | none =>
    rw [Crowd.move_of_none present]
    exact ⟨number, numbered⟩
  | some c =>
    have passage := Engine.passage_advance t.shared.engine now c.request c.stage
    have sound := accounted.sound i c present
    have moved := Crowd.getElem?_move_self (Session.serve now) present
    have counted := passage.stores sound .issued
    rcases passage.bears sound with ⟨same, keeps⟩ | ⟨unissued, issued, bears⟩
    · rw [same] at counted
      refine ⟨number, numbered.keep ?_ fun j c' present' stored => ?_⟩
      · rw [store_move present]
        exact Nat.add_right_cancel counted
      · by_cases own : i = j
        · subst own
          cases moved.symm.trans present'
          exact ⟨c, present, same ▸ stored, keeps (same ▸ stored)⟩
        · rw [Crowd.getElem?_move_of_ne t _ own] at present'
          exact ⟨c', present', stored, fun _ => id⟩
    · rw [unissued, issued] at counted
      refine ⟨_, numbered.issue ?_ moved bears fun j own => Crowd.getElem?_move_of_ne t _ own⟩
      rw [store_move present]
      exact counted

theorem Accounted.serve (accounted : Accounted e t) (i : Nat) (now : Instant) :
    Accounted e (t.move i (Session.serve now)) where
  config := by
    refine Crowd.shared_move (P := fun s : Session => s.engine.config = e.config)
      accounted.config fun c _ => ?_
    have passage := Engine.passage_advance t.shared.engine now c.request c.stage
    exact passage.sameSetup.config.trans accounted.config
  sound := Crowd.forall_getElem?_move accounted.sound fun c _ sound =>
    sound.serve accounted.allows now
  counts counter := by
    refine Crowd.count_move (fun s : Session => s.engine.backend.store.count counter) _
      (accounted.counts counter) fun c present => ?_
    have passage := Engine.passage_advance t.shared.engine now c.request c.stage
    exact passage.stores (accounted.sound i c present) counter
  numbers := by
    obtain ⟨number, numbered⟩ := accounted.numbers
    exact numbered.serve accounted i now

theorem Accounted.reload (accounted : Accounted e t) (now : Instant) (definition : Definition) :
    Accounted e { t with shared := (t.shared.reload now definition).1 } := by
  obtain ⟨config, store⟩ := t.shared.reload_frame now definition
  obtain ⟨number, numbered⟩ := accounted.numbers
  refine ⟨config.trans accounted.config, accounted.sound, fun counter => ?_, number, ?_⟩
  · rw [Service.store, store]
    exact accounted.counts counter
  · rw [Numbered, Service.store, store]
    exact numbered

theorem Accounted.step (accounted : Accounted e t) (event : Event) : Accounted e (t.step event) := by
  cases event with
  | serve i now => exact accounted.serve i now
  | reload now definition => exact accounted.reload now definition

theorem Accounted.run (accounted : Accounted e t) (events : List Event) :
    Accounted e (t.run events) := by
  induction events generalizing t with
  | nil => exact accounted
  | cons event events ih => exact ih (accounted.step event)

theorem run_append (t : Service) (before after : List Event) :
    t.run (before ++ after) = run (t.run before) after := List.foldl_append

/-! ### Requests that fail -/

theorem step_committed (accounted : Accounted e t) (event : Event)
    (committed : ∀ c, t.parties[i]? = some c → c.isCommitted) :
    ∀ c, (t.step event).parties[i]? = some c → c.isCommitted := by
  cases event with
  | reload now definition => exact committed
  | serve j now =>
    intro c present
    have moved : (t.move j (Session.serve now)).parties[i]? = some c := present
    refine Crowd.forall_getElem?_move (P := fun k c => k = i → c.isCommitted) ?_ ?_ i c moved rfl
    · rintro k other was rfl
      exact committed other was
    · intro c present kept own
      have passage := Engine.passage_advance t.shared.engine now c.request c.stage
      exact (passage.commits (accounted.sound j c present)).1 (kept own)

theorem run_committed (accounted : Accounted e t) (events : List Event)
    (committed : ∀ c, t.parties[i]? = some c → c.isCommitted) :
    ∀ c, (t.run events).parties[i]? = some c → c.isCommitted := by
  induction events generalizing t with
  | nil => exact committed
  | cons event events ih =>
    exact ih (accounted.step event) (step_committed accounted event committed)

/-- No step of a client whose request fails in the end has changed the store. -/
theorem store_of_failing (accounted : Accounted e t) (now : Instant) (after : List Event)
    {outcome : Outcome} (present : (run t (.serve i now :: after)).parties[i]? = some c)
    (known : c.outcome = some outcome) (fails : outcome.failing?.isSome) :
    (t.step (.serve i now)).store = t.store := by
  have accounted' := accounted.step (.serve i now)
  have uncommitted : c.isCommitted = false :=
    ((accounted'.run after).sound i c present).isCommitted_eq_false known fails
  cases present₀ : t.parties[i]? with
  | none => rw [step, Crowd.move_of_none present₀]
  | some c₀ =>
    have passage := Engine.passage_advance t.shared.engine now c₀.request c₀.stage
    rcases (passage.commits (accounted.sound i c₀ present₀)).2 with same | committed
    · exact (store_move present₀ now).trans same
    · have stays : c.isCommitted := by
        refine run_committed accounted' after (fun c' present' => ?_) c present
        cases (Crowd.getElem?_move_self (Session.serve now) present₀).symm.trans present'
        exact committed
      cases uncommitted.symm.trans stays

/-! ### Every run -/

/-- Whatever the clients of a session do and in whatever order, and whatever definitions it is given in the
meantime: no more creations are counted than identifiers were issued, and as many when no request is on
its way; creations, replacements and deletions are counted once for each request that was served so; no
step of a request that fails changes the store; and each new resource shows an identifier of its own, of
which those that are not drawn are all different. -/
theorem run_storage {config : Config} {entropy : UInt64} {now : Instant} {definition : Definition}
    {s : Session} (created : Session.create config entropy now definition = .ok s)
    (requests : List Request) (events : List Event) :
    let t := (start s requests).run events
    t.store.created ≤ t.store.issued ∧
      ((∀ c ∈ t.parties, c.isInProgress = false) → t.store.issued = t.store.created) ∧
      t.store.created = t.parties.countP (·.did? = some .create) ∧
      t.store.updated = t.parties.countP (·.did? = some .replace) ∧
      t.store.deleted = t.parties.countP (·.did? = some .delete) ∧
      (∀ before i now after, events = before ++ .serve i now :: after →
        ∀ (c : Client) outcome, t.parties[i]? = some c → c.outcome = some outcome →
          outcome.failing?.isSome →
          ((start s requests).run (before ++ [.serve i now])).store =
            ((start s requests).run before).store) ∧
      (∀ (i : Nat) (c : Client) r response, t.parties[i]? = some c → c.Created r response →
        ∃ n id, 1 ≤ n ∧ n ≤ t.store.issued ∧ response.dataId? = some id ∧ r.idKind.Shows n id) ∧
      ∀ (i j : Nat) (c c' : Client) r r' response response', i ≠ j → t.parties[i]? = some c →
        t.parties[j]? = some c' → c.Created r response → c'.Created r' response' →
        r.idKind ≠ .uuid → r'.idKind ≠ .uuid → response.dataId? ≠ response'.dataId? := by
  intro t
  have fresh : Accounted s.engine (start s requests) := by
    obtain ⟨engine, built, rfl⟩ := create_eq_ok created
    obtain ⟨table, -, rfl⟩ := buildEngine_eq_ok built
    exact accounted_start rfl requests
  have accounted : Accounted s.engine t := fresh.run events
  obtain ⟨number, numbered⟩ := accounted.numbers
  have issued : t.store.issued = t.parties.countP (·.stores .issued) := accounted.counts .issued
  have counted (counter : Store.Counter) (other : counter ≠ .issued) :
      t.store.count counter = t.parties.countP (·.did? = some counter.action) := by
    simpa only [Client.stores_of_ne_issued other] using accounted.counts counter
  have creations : t.store.created = t.parties.countP (·.did? = some .create) :=
    counted .created nofun
  have numbers {i : Nat} {c : Client} {r : Resource} {response : Response}
      (present : t.parties[i]? = some c) (new : c.Created r response) :
      c.stores .issued ∧ ∃ id, response.dataId? = some id ∧ r.idKind.Shows (number i) id := by
    have stored := Client.stores_issued_of_did new.did
    exact ⟨stored, (accounted.sound i c present).dataId?_of_created new
      (numbered i c present stored).1⟩
  refine ⟨?_, fun rests => ?_, creations, counted .updated nofun,
    counted .deleted nofun, ?_, fun i c r response present new => ?_, ?_⟩
  · rw [issued, creations]
    exact List.countP_mono_left fun c _ did => Client.stores_issued_of_did (of_decide_eq_true did)
  · rw [issued, creations]
    refine List.countP_congr fun c mem => ?_
    rw [Client.stores_of_not_counting .issued (Client.isCounting_of_rests (rests c mem))]
    rfl
  · rintro before i now after rfl c outcome present known fails
    have sooner : Accounted s.engine ((start s requests).run before) := fresh.run before
    have present' : (run ((start s requests).run before) (.serve i now :: after)).parties[i]? =
        some c := run_append .. ▸ present
    rw [run_append]
    exact store_of_failing sooner now after present' known fails
  · obtain ⟨stored, id, shown, shows⟩ := numbers present new
    obtain ⟨-, positive, within, -⟩ := numbered i c present stored
    exact ⟨number i, id, positive, within, shown, shows⟩
  · intro i j c c' r r' response response' apart present present' new new' counts counts' same
    obtain ⟨stored, id, shown, shows⟩ := numbers present new
    obtain ⟨stored', id', shown', shows'⟩ := numbers present' new'
    obtain ⟨-, -, -, distinct⟩ := numbered i c present stored
    cases shown.symm.trans (same.trans shown')
    exact apart (distinct j c' present' stored' (shows.apart shows' counts counts'))

/-- Two resources are created at once, and another definition is installed in the meantime. -/
def hurried : List Event :=
  [0, 1, 0, 1, 0, 1, 0, 1, 0, 1].map (.serve · ⟨1⟩) ++ [.reload ⟨2⟩ (titled "Pet")] ++
    [1, 0, 0, 1, 0, 1, 0, 1].map (.serve · ⟨3⟩)

theorem run_storage_hurried :
    ∃ s, Session.create (.forTesting 3000) 0 ⟨0⟩ (titled "User") = .ok s ∧
      let request : Request := { method := .post, path := "/api/users", body := some (.object []) }
      let t := (start s [request, request]).run hurried
      t.store.created ≤ t.store.issued ∧
        ((∀ c ∈ t.parties, c.isInProgress = false) → t.store.issued = t.store.created) ∧
        t.store.created = t.parties.countP (·.did? = some .create) := by
  cases created : Session.create (.forTesting 3000) 0 ⟨0⟩ (titled "User") with
  | error e =>
    have accepted : (Session.create (.forTesting 3000) 0 ⟨0⟩ (titled "User")).isOk = true := by
      decide +kernel
    rw [created] at accepted
    cases accepted
  | ok s =>
    obtain ⟨within, rests, counted, -⟩ := run_storage created
      [{ method := .post, path := "/api/users", body := some (.object []) },
        { method := .post, path := "/api/users", body := some (.object []) }] hurried
    exact ⟨s, rfl, within, rests, counted⟩

end Service

end MockApi
