import Envisilab.Basic

/-!
# The endpoint's entity map

`Endpoint` (`core/http.go`) keeps the entities of the sessions it serves in a map keyed by the
string of their token. `CreateEntity` mints a token, stores it in the token store for
`tokenTimeoutSec` seconds (`Publisher.SetToken`, a Redis `SETEX`), reads the client id back
(`GetClientID`, a `GET`) and adds a new entity under the token; `GetEntity` looks a token up, and the handlers reject a token it does not find; `Cleanup`
deletes the entities whose `expired()` holds. The token store is a map from keys to a value and
an expiry time, read against a clock; `Publisher.TokenExpired` asks it whether a token is gone.

`Entity.expired` reports `false` for every entity, so `Cleanup` deletes nothing
(`cleanup_entities`). Over every run, whatever the clock and the TTL do, `GetEntity` accepts
exactly the tokens some successful `CreateEntity` of the run minted, its `SETEX` and its read-back
both succeeding (`getEntity_run`): an expired token is accepted as long as the process lives. The ticker loop of `Cleaner`, which
does not call `Cleanup` at all, is left out.
-/

namespace Envisilab

/-- `Entity.expired`: no entity reports that it has expired. -/
def Entity.expired (_ : Entity) : Bool := false

/-! ## The token store -/

/-- The token store: for each key, the value `SETEX` stored and the time it expires at. -/
structure TokenStore where
  entries : String → Option (String × Nat)

namespace TokenStore

/-- `SETEX key ttl value` at time `now`. -/
def setex (key : String) (ttl : Nat) (value : String) (now : Nat) (ts : TokenStore) :
    TokenStore :=
  ⟨Function.update ts.entries key (some (value, now + ttl))⟩

/-- `GET key` at time `now`: the value, unless the key is absent or its time has run out. -/
def get (key : String) (now : Nat) (ts : TokenStore) : Option String :=
  match ts.entries key with
  | some (v, expiry) => if now < expiry then some v else none
  | none => none

/-- `Publisher.TokenExpired`: `GET` returns nil. -/
def tokenExpired (key : String) (now : Nat) (ts : TokenStore) : Bool := (ts.get key now).isNone

end TokenStore

/-! ## The endpoint -/

/-- An `Endpoint`: its map from token strings to entities, with the token store its context
writes through and the clock. The context and the lock are left out. -/
structure Endpoint where
  entities : String → Option Entity
  tokens : TokenStore
  now : Nat

/-- `MakeEndpoint`: an empty map, over any token store at any time. -/
def makeEndpoint (tokens : TokenStore) (now : Nat) : Endpoint := ⟨fun _ => none, tokens, now⟩

namespace Endpoint

/-- `Endpoint.CreateEntity` for `clientId` through a `DataStoreContext`, the context the
aggregator builds, with the token `uuid.NewRandom` draws, the outcome `stored` of
`CreateToken`'s `SETEX`, and the outcome `fetched` of the `GET` by which
`DataStoreContext.CreateEntity` reads the client id back (`GetClientID`). A refused `SETEX`
changes nothing. A token stored but not read back stays in the token store, and no entity is
added. Otherwise a new entity, with no groups, is added under the token. Past `GetClientID`,
`DataStoreContext.CreateEntity` cannot fail, as its store is never connected. -/
def createEntity (tokenTimeoutSec : Nat) (clientId token : String) (stored fetched : Bool)
    (ep : Endpoint) : Endpoint × Option Entity :=
  if stored then
    let ep' := { ep with tokens := ep.tokens.setex token tokenTimeoutSec clientId ep.now }
    if fetched then
      ({ ep' with entities := Function.update ep.entities token (some makeEntity) },
        some makeEntity)
    else (ep', none)
  else (ep, none)

/-- `Endpoint.GetEntity`: the entity under the token, or the error for a token not found. -/
def getEntity (token : String) (ep : Endpoint) : Option Entity := ep.entities token

/-- `Endpoint.Cleanup`: delete every entity that reports `expired()`. -/
def cleanup (ep : Endpoint) : Endpoint :=
  { ep with entities := fun s => (ep.entities s).filter fun e => !e.expired }

/-- The passage of `seconds` seconds. -/
def tick (seconds : Nat) (ep : Endpoint) : Endpoint := { ep with now := ep.now + seconds }

end Endpoint

/-- A step of a run: a call of one of the endpoint's methods, or the passage of time. -/
inductive EndpointCall
  | createEntity (clientId token : String) (stored fetched : Bool)
  | getEntity (token : String)
  | cleanup
  | tick (seconds : Nat)
deriving DecidableEq, Repr

namespace Endpoint

/-- Run one step. -/
def exec (tokenTimeoutSec : Nat) : EndpointCall → Endpoint → Endpoint
  | .createEntity clientId token stored fetched, ep =>
    (ep.createEntity tokenTimeoutSec clientId token stored fetched).1
  | .getEntity _, ep => ep
  | .cleanup, ep => ep.cleanup
  | .tick seconds, ep => ep.tick seconds

/-- Run the steps in order. -/
def run (tokenTimeoutSec : Nat) (calls : List EndpointCall) (ep : Endpoint) : Endpoint :=
  calls.foldl (fun ep c => ep.exec tokenTimeoutSec c) ep

/-- `Cleanup` deletes nothing. -/
@[simp] theorem cleanup_entities (ep : Endpoint) : ep.cleanup.entities = ep.entities := by
  funext s
  simp only [cleanup]
  cases ep.entities s <;> rfl

/-- One step adds an entity under the token a successful `CreateEntity` mints, and removes
none. -/
lemma getEntity_exec (tokenTimeoutSec : Nat) (c : EndpointCall) (ep : Endpoint) (token : String) :
    ((ep.exec tokenTimeoutSec c).getEntity token).isSome ↔
      (ep.getEntity token).isSome ∨ ∃ clientId, c = .createEntity clientId token true true := by
  cases c with
  | createEntity clientId token' stored fetched =>
    by_cases ht : token' = token
    · subst ht
      cases stored <;> cases fetched <;> simp [exec, createEntity, getEntity]
    · cases stored <;> cases fetched <;>
        simp [exec, createEntity, getEntity, ht, Function.update_noteq (Ne.symm ht)]
  | getEntity _ => simp [exec]
  | cleanup => simp [exec, getEntity]
  | tick _ => simp [exec, tick, getEntity]

/-- Over every run from `MakeEndpoint`, whatever the token store, the clock and the TTL,
`GetEntity` accepts exactly the tokens that a successful `CreateEntity` of the run minted:
`Cleanup` removes none of them, expired or not. -/
theorem getEntity_run (tokenTimeoutSec : Nat) (calls : List EndpointCall) (tokens : TokenStore)
    (now : Nat) (token : String) :
    (((makeEndpoint tokens now).run tokenTimeoutSec calls).getEntity token).isSome ↔
      ∃ clientId, EndpointCall.createEntity clientId token true true ∈ calls := by
  suffices ∀ ep : Endpoint, ((ep.run tokenTimeoutSec calls).getEntity token).isSome ↔
      (ep.getEntity token).isSome ∨ ∃ clientId, .createEntity clientId token true true ∈ calls by
    simpa [makeEndpoint, getEntity] using this (makeEndpoint tokens now)
  induction calls with
  | nil => simp [run]
  | cons c calls ih =>
    intro ep
    rw [run, List.foldl_cons, ← run, ih, getEntity_exec]
    simp only [List.mem_cons, exists_or, or_assoc, @eq_comm _ c]

/-- A session created at time 0 with a 30-second token, then 31 seconds and a `Cleanup`: the
token store no longer holds the token, and `GetEntity` still accepts it. -/
example :
    let ep := (makeEndpoint ⟨fun _ => none⟩ 0).run 30
      [.createEntity "client" "token" true true, .tick 31, .cleanup]
    ep.tokens.tokenExpired "token" ep.now = true ∧ ep.getEntity "token" = some makeEntity := by
  decide

end Endpoint

end Envisilab
