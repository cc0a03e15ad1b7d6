import Envisilab.Endpoint
import Envisilab.Broadcast

/-!
# The HTTP handlers

The handlers `ServeHTTPS_V1` routes (`core/http.go`), over the endpoint's entity map, its token
store and its clock, in the aggregator (`aggregator/aggregator.go`), whose context is a
`DataStoreContext` over a store built by `MakeDataStore` and `Connect`. `SyncHandler` checks the
method, the `Content-Type`, the body, the client's clock and its UUID, and then creates an
entity under a new token. `BeaconHandler` and `StandbyHandler` find the entity of a token, and
`handleUserData` checks the method, the `Content-Type`, the body and the clock, and moves the
entity with `Entity.Update`; `Beacon` then broadcasts through the context, while the context's
`Standby` does nothing. `DownloadHandler` reads the archive through `DataStoreContext.GetData`.

The simulator (`simulator/`) serves the same handlers through a `SimulatorContext`, whose
`CreateEntity` gives every entity the simulator's group and whose `Broadcast` and `Standby` also
move simulated peers. `Backend` and `Server` fix the context to `DataStoreContext`: what is
proved here is about the aggregator.

A handler reports a failed check with `messageError`, which writes the status and
`{ error: <err> }`; net/http keeps the first status written, and a body written before any sends
200 (`Response`). Decoding JSON is library code: a request carries what the decoder makes of its
body. `parse` is `uuid.Parse` followed by `String`: the UUID it returns, and its error. With an
error it returns the nil UUID, or, for a malformed string of 32 or 36 characters, the bytes it
parsed before the error; `DownloadHandler` goes on with that UUID.

Through every store the code builds, `DownloadHandler` writes errors only
(`downloadHandler_bodies`). Over every run of the aggregator's server from `MakeEndpoint`, each
entity is in the sentinel cell or in the cell of its location, with that cell's covering
(`Server.run_settled`).
-/

namespace Envisilab

/-! ## Responses -/

/-- A body a handler writes. -/
inductive Body
  /-- `messageError`'s `{ error: <err> }`. -/
  | error (err : String)
  /-- A `SyncResponse`, as `json.Marshal` encodes it: the token and the entity's groups. -/
  | sync (tokenId : String) (groups : List Group)
  /-- An `Activity`, as `json.Marshal` encodes it: the client id and its locations. -/
  | activity (clientId : String) (locations : List Location)
deriving DecidableEq, Repr

/-- What a handler has written to its `http.ResponseWriter`: the status net/http sends, fixed by
the first `WriteHeader` or the first body, and the bodies, in order. -/
structure Response where
  status : Option Nat
  bodies : List Body
deriving DecidableEq, Repr

namespace Response

/-- A response writer nothing has been written to. -/
def empty : Response := ⟨none, []⟩

/-- The status the client receives: 200 when the handler wrote nothing. -/
def code (w : Response) : Nat := w.status.getD 200

/-- `fmt.Fprintf(w, ...)` of a body: a first write sends 200. -/
def write (b : Body) (w : Response) : Response := ⟨w.status <|> some 200, w.bodies ++ [b]⟩

end Response

/-- `http.StatusBadRequest`. -/
def statusBadRequest : Nat := 400

/-- `http.StatusForbidden`. -/
def statusForbidden : Nat := 403

/-- `http.StatusNotAcceptable`. -/
def statusNotAcceptable : Nat := 406

/-- `messageError`: `w.WriteHeader(code)`, which net/http ignores after a first status, then
`{ error: <err> }`. -/
def messageError (err : String) (code : Nat) (w : Response) : Response :=
  ⟨w.status <|> some code, w.bodies ++ [.error err]⟩

/-! ## The clock -/

/-- `toleranceSec`. -/
def toleranceSec : Int := 5

/-- `inSync`: whether a client time `t` is within `toleranceSec` seconds of the server time
`now`, in Unix seconds. The server clock is far from the bounds of `int64`, so Go's comparisons
are those of the integers. -/
def inSync (now t : Int) : Bool :=
  !(decide (t > now + toleranceSec) || decide (t < now - toleranceSec))

/-- `inSync` accepts a skew of at most `toleranceSec` seconds either way. -/
lemma inSync_iff (now t : Int) :
    inSync now t = true ↔ now - toleranceSec ≤ t ∧ t ≤ now + toleranceSec := by
  simp only [inSync, Bool.not_eq_true', Bool.or_eq_false_iff, decide_eq_false_iff_not]
  omega

/-- An `int64` field kept as its bit pattern, read as the integer it is. -/
def int64Value (x : UInt64) : Int := if x.toNat < 2 ^ 63 then x.toNat else x.toNat - 2 ^ 64

/-! ## Requests -/

/-- A request as the handlers read it: the method, the `Content-Type` header, the `{tokenid}`
route variable, and what `json.Decoder.Decode` makes of the body: the value, or the text of the
decoder's error. -/
structure Request (α : Type) where
  method : String
  contentType : String
  tokenid : String
  body : Except String α

/-- A `SyncRequest`: the client's UUID string and its clock. -/
structure SyncRequest where
  uuid : String
  time : Int
deriving DecidableEq, Repr

/-- `http.MethodPost`. -/
def methodPost : String := "POST"

/-- `http.MethodGet`. -/
def methodGet : String := "GET"

/-- The `Content-Type` the handlers accept. -/
def contentTypeJSON : String := "application/json"

/-! ## Posting a location -/

/-- `handleUserData` for the entity `e` at server time `now`: check the method (returning
without a response), the `Content-Type`, the body and the client's clock, writing an error for
the first that fails; then move the entity with `Entity.Update`. It returns the location, the
moved entity and the cell copy `Update` offers the subscription driver. -/
def handleUserData (g : Geometry) (now : Int) (e : Entity) (req : Request Location) :
    Option (Location × Entity × Option Cell) × Response :=
  if req.method ≠ methodPost then (none, .empty)
  else if req.contentType ≠ contentTypeJSON then
    (none, messageError "Beacon: Not a valid JSON request (Content-Type)" statusBadRequest .empty)
  else
    match req.body with
    | .error err =>
      (none, messageError ("Beacon: Invalid beacon location: " ++ err) statusBadRequest .empty)
    | .ok loc =>
      if inSync now (int64Value loc.timestamp) then (some (loc, e.update g loc), .empty)
      else
        (none, messageError "Beacon: Client/Server time not synchronised" statusBadRequest .empty)

/-- `handleUserData` writes nothing, or one 400 error whose text names `Beacon`, whichever
handler calls it. -/
lemma handleUserData_response (g : Geometry) (now : Int) (e : Entity) (req : Request Location) :
    (handleUserData g now e req).2 = .empty ∨
      ∃ err, (handleUserData g now e req).2 =
        messageError ("Beacon: " ++ err) statusBadRequest .empty := by
  unfold handleUserData
  split_ifs
  · exact .inl rfl
  · exact .inr ⟨"Not a valid JSON request (Content-Type)", rfl⟩
  · rcases req.body with err | loc
    · exact .inr ⟨"Invalid beacon location: " ++ err, by rw [← String.append_assoc]; rfl⟩
    · dsimp only
      split_ifs
      · exact .inl rfl
      · exact .inr ⟨"Client/Server time not synchronised", rfl⟩

/-- What a handler did: the endpoint after it, its response, the channels it published on, and
the cell copy it offered the entity's subscription driver, as the copy reads when it is taken.
The copy shares the entity's backing array, and what the driver makes of it is `Session`'s. -/
structure Handled where
  endpoint : Endpoint
  response : Response
  published : List String
  offered : Option Cell

/-- The handlers that post a location for the entity of a token (`BeaconHandler`,
`StandbyHandler`), named `name` in their own messages, with the context's method `act` and the
prefix `actError` of its errors: find the entity, run `handleUserData` on it, keep the moved
entity, and hand it to `act`, which returns the channels it published on and its error. -/
def postLocation (name actError : String) (act : Entity → List String × Option String)
    (g : Geometry) (req : Request Location) (ep : Endpoint) : Handled :=
  match ep.getEntity req.tokenid with
  | none =>
    ⟨ep, messageError (name ++ ": Failed to get entity: Could not find entity with tokenId: " ++
      req.tokenid) statusBadRequest .empty, [], none⟩
  | some e =>
    match handleUserData g ep.now e req with
    | (none, w) => ⟨ep, w, [], none⟩
    | (some (_, e', offered), w) =>
      let ep' := { ep with entities := Function.update ep.entities req.tokenid (some e') }
      match act e' with
      | (chs, none) => ⟨ep', w, chs, offered⟩
      | (chs, some err) =>
        ⟨ep', messageError (actError ++ err) statusBadRequest w, chs, offered⟩

/-- The requests `handleUserData` accepts at time `now`, with the location they carry: a posted
JSON body that decodes to the location, whose clock is within the tolerance. -/
def Accepts (now : Int) (req : Request Location) (loc : Location) : Prop :=
  req.method = methodPost ∧ req.contentType = contentTypeJSON ∧ req.body = .ok loc ∧
    inSync now (int64Value loc.timestamp) = true

/-- An accepted request moves the entity and writes nothing. -/
lemma handleUserData_of_accepts {g : Geometry} {now : Int} {e : Entity} {req : Request Location}
    {loc : Location} (h : Accepts now req loc) :
    handleUserData g now e req = (some (loc, e.update g loc), .empty) := by
  obtain ⟨hm, hc, hb, hs⟩ := h
  simp [handleUserData, hm, hc, hb, hs]

/-- A request that carries no accepted location moves nothing. -/
lemma handleUserData_of_rejected {g : Geometry} {now : Int} {e : Entity} {req : Request Location}
    (h : ∀ loc, ¬ Accepts now req loc) : (handleUserData g now e req).1 = none := by
  unfold handleUserData
  split_ifs with hm hc
  · rfl
  · rfl
  · rcases hb : req.body with err | loc
    · rfl
    · have := h loc
      simp only [Accepts, not_and] at this
      simp [this (not_not.1 hm) (not_not.1 hc) hb]

/-- What the aggregator's location handlers ask of the collaborators of the core: the S2
geometry, the store of its `DataStoreContext`, the outcome of the archive write and of each
publish, and the texts of their errors. -/
structure Backend where
  geometry : Geometry
  ctx : DataStoreContext
  written : Bool
  publish : String → Bool
  errorText : BroadcastError → String

/-- `DataStoreContext.Broadcast`, with its error as text. -/
def Backend.broadcast (b : Backend) (e : Entity) : List String × Option String :=
  let r := b.ctx.broadcast b.written b.publish e
  (r.1, r.2.map b.errorText)

/-- `DataStoreContext.Standby`: nothing, and no error. -/
def DataStoreContext.standby (_ : DataStoreContext) (_ : Entity) : List String × Option String :=
  ([], none)

/-- `BeaconHandler`: post the location, then broadcast the entity through the context. -/
def beaconHandler (b : Backend) : Request Location → Endpoint → Handled :=
  postLocation "Beacon" "Broadcast error: " b.broadcast b.geometry

/-- `StandbyHandler`: post the location, then the context's `Standby`. -/
def standbyHandler (b : Backend) : Request Location → Endpoint → Handled :=
  postLocation "Standby" "Standby error: " b.ctx.standby b.geometry

section PostLocation

variable (name actError : String) (act : Entity → List String × Option String) (g : Geometry)
  {req : Request Location} {ep : Endpoint}

/-- A token without an entity is answered with the handler's own error, and nothing changes. -/
lemma postLocation_of_missing (he : ep.getEntity req.tokenid = none) :
    postLocation name actError act g req ep =
      ⟨ep, messageError (name ++ ": Failed to get entity: Could not find entity with tokenId: " ++
        req.tokenid) statusBadRequest .empty, [], none⟩ := by
  simp only [postLocation, he]

/-- A request rejected for an entity of its token is answered as `handleUserData` answers it, and
nothing changes. -/
lemma postLocation_of_found_rejected {e : Entity} (he : ep.getEntity req.tokenid = some e)
    (h : ∀ loc, ¬ Accepts ep.now req loc) :
    postLocation name actError act g req ep =
      ⟨ep, (handleUserData g ep.now e req).2, [], none⟩ := by
  have hr : (handleUserData g ep.now e req).1 = none := handleUserData_of_rejected h
  simp only [postLocation, he]
  rcases hu : handleUserData g ep.now e req with ⟨_ | _, w⟩
  · rfl
  · simp [hu] at hr

/-- A request the checks accept for the entity `e` of its token keeps `e` moved to the location,
offers the cell copy of the move, and hands the moved entity to the context's method, whose error
alone is written. -/
lemma postLocation_of_accepts {e : Entity} {loc : Location}
    (he : ep.getEntity req.tokenid = some e) (h : Accepts ep.now req loc) :
    postLocation name actError act g req ep =
      ⟨{ ep with entities := Function.update ep.entities req.tokenid (some (e.update g loc).1) },
        match (act (e.update g loc).1).2 with
        | none => .empty
        | some err => messageError (actError ++ err) statusBadRequest .empty,
        (act (e.update g loc).1).1, (e.update g loc).2⟩ := by
  simp only [postLocation, he, handleUserData_of_accepts h]
  rcases act (e.update g loc).1 with ⟨chs, _ | err⟩ <;> rfl

end PostLocation

/-! ## Sync -/

/-- `SyncHandler`, with the token `uuid.NewRandom` draws, the outcomes `stored` of `SETEX` and
`fetched` of the `GET` that reads the client id back, and the text `storeError` of the error
`Endpoint.CreateEntity` returns. After the checks, it creates the entity through
`Endpoint.CreateEntity` and answers with its token and groups. -/
def syncHandler (tokenTimeoutSec : Nat) (parse : String → String × Option String)
    (token : String) (stored fetched : Bool) (storeError : String) (req : Request SyncRequest)
    (ep : Endpoint) : Endpoint × Response :=
  if req.method ≠ methodPost then (ep, .empty)
  else if req.contentType ≠ contentTypeJSON then
    (ep, messageError "Sync: Not a valid JSON request (Content-Type)" statusBadRequest .empty)
  else
    match req.body with
    | .error err =>
      (ep, messageError ("Sync: Invalid client sync request: " ++ err) statusBadRequest .empty)
    | .ok postData =>
      if !inSync ep.now postData.time then
        (ep, messageError "Sync: Client/Server time not synchronised" statusBadRequest .empty)
      else
        match parse postData.uuid with
        | (_, some err) =>
          (ep, messageError ("Sync: Failed to parse clientUUID: " ++ err) statusBadRequest .empty)
        | (clientId, none) =>
          match ep.createEntity tokenTimeoutSec clientId token stored fetched with
          | (ep', none) =>
            (ep', messageError ("Sync: Failed to create entity: " ++ storeError) statusForbidden
              .empty)
          | (ep', some e) => (ep', Response.empty.write (.sync token e.groups))

/-- `SyncHandler` writes nothing, or answers 200 with the token and no groups, or writes one
error whose text names `Sync`, with 400, or 403 when the entity could not be created. -/
lemma syncHandler_response (tokenTimeoutSec : Nat) (parse : String → String × Option String)
    (token : String) (stored fetched : Bool) (storeError : String) (req : Request SyncRequest)
    (ep : Endpoint) :
    (syncHandler tokenTimeoutSec parse token stored fetched storeError req ep).2 = .empty ∨
    (syncHandler tokenTimeoutSec parse token stored fetched storeError req ep).2 =
      ⟨some 200, [.sync token []]⟩ ∨
    ∃ err code, (code = statusBadRequest ∨ code = statusForbidden) ∧
      (syncHandler tokenTimeoutSec parse token stored fetched storeError req ep).2 =
        messageError ("Sync: " ++ err) code .empty := by
  unfold syncHandler
  split_ifs
  · exact .inl rfl
  · exact .inr (.inr ⟨"Not a valid JSON request (Content-Type)", _, .inl rfl, rfl⟩)
  · rcases req.body with err | d
    · exact .inr (.inr ⟨"Invalid client sync request: " ++ err, _, .inl rfl,
        by rw [← String.append_assoc]; rfl⟩)
    · dsimp only
      split_ifs
      · exact .inr (.inr ⟨"Client/Server time not synchronised", _, .inl rfl, rfl⟩)
      · rcases parse d.uuid with ⟨clientId, _ | err⟩
        · have hf : "Sync: Failed to create entity: " ++ storeError =
              "Sync: " ++ ("Failed to create entity: " ++ storeError) := by
            rw [← String.append_assoc]; rfl
          cases stored
          · exact .inr (.inr ⟨_, _, .inr rfl, by rw [← hf]; rfl⟩)
          · cases fetched
            · exact .inr (.inr ⟨_, _, .inr rfl, by rw [← hf]; rfl⟩)
            · exact .inr (.inl rfl)
        · exact .inr (.inr ⟨"Failed to parse clientUUID: " ++ err, _, .inl rfl,
            by rw [← String.append_assoc]; rfl⟩)

/-- The sync requests the checks accept at time `now`, with the client id they carry: a posted
JSON body that decodes, whose clock is within the tolerance and whose UUID parses. -/
def SyncAccepts (parse : String → String × Option String) (now : Int) (req : Request SyncRequest)
    (clientId : String) : Prop :=
  req.method = methodPost ∧ req.contentType = contentTypeJSON ∧
    ∃ d, req.body = .ok d ∧ inSync now d.time = true ∧ parse d.uuid = (clientId, none)

section SyncHandler

variable {tokenTimeoutSec : Nat} {parse : String → String × Option String} {token : String}
  {stored fetched : Bool} {storeError : String} {req : Request SyncRequest} {ep : Endpoint}

/-- A sync request the checks accept calls `Endpoint.CreateEntity`, and answers with the token
and the new entity's groups when it succeeds. -/
lemma syncHandler_of_accepts {clientId : String} (h : SyncAccepts parse ep.now req clientId) :
    syncHandler tokenTimeoutSec parse token stored fetched storeError req ep =
      match ep.createEntity tokenTimeoutSec clientId token stored fetched with
      | (ep', none) =>
        (ep', messageError ("Sync: Failed to create entity: " ++ storeError) statusForbidden .empty)
      | (ep', some e) => (ep', Response.empty.write (.sync token e.groups)) := by
  obtain ⟨hm, hc, d, hb, hs, hp⟩ := h
  simp [syncHandler, hm, hc, hb, hs, hp]

/-- A sync request the checks reject leaves the endpoint as it was. -/
lemma syncHandler_of_rejected (h : ∀ clientId, ¬ SyncAccepts parse ep.now req clientId) :
    (syncHandler tokenTimeoutSec parse token stored fetched storeError req ep).1 = ep := by
  unfold syncHandler
  split_ifs with hm hc
  · rfl
  · rfl
  · rcases hb : req.body with err | d
    · rfl
    · simp only
      split_ifs with hs
      · rfl
      · rcases hp : parse d.uuid with ⟨clientId, _ | err⟩
        · exact absurd ⟨not_not.1 hm, not_not.1 hc, d, hb, by simpa using hs, hp⟩ (h clientId)
        · rfl

end SyncHandler

/-! ## Data and download -/

/-- `DataHandler`, with the outcome `upgraded` of the WebSocket upgrade and the text of its
error: the response, and the entity whose connection it makes and whose `ReadPump` and
`WritePump` it starts. -/
def dataHandler (upgraded : Bool) (upgradeError : String) (req : Request Unit) (ep : Endpoint) :
    Response × Option Entity :=
  match ep.getEntity req.tokenid with
  | none =>
    (messageError ("Data: Failed to acquire entity: Could not find entity with tokenId: " ++
      req.tokenid) statusBadRequest .empty, none)
  | some e =>
    if upgraded then (.empty, some e)
    else (messageError ("Data: Failed to upgrade to websocket: " ++ upgradeError)
      statusBadRequest .empty, none)

/-- `Publisher.GetClientID` for the token string `key` at time `now`: the client id stored under
it, read by `uuid.Parse`; `GET` of a key that is absent or expired returns nil, which is no
`[]byte`. -/
def getClientID (parse : String → String × Option String) (key : String) (now : Nat)
    (ts : TokenStore) : Except String String :=
  match ts.get key now with
  | none => .error "Invalid client id - not a valid type"
  | some v =>
    match parse v with
    | (_, some err) => .error err
    | (clientId, none) => .ok clientId

/-- `DataStoreContext.GetData`, with the answer `rows` of the store's query: the client id of
the token and the archived locations, or an error. -/
def DataStoreContext.getData (ctx : DataStoreContext) (parse : String → String × Option String)
    (rows : Except String (List Location)) (key : String) (now : Nat) (ts : TokenStore) :
    Except String (String × List Location) :=
  match getClientID parse key now ts with
  | .error err => .error err
  | .ok clientId =>
    if !ctx.store.isConnected then .error "Database is not connected."
    else rows.map fun locations => (clientId, locations)

/-- `DownloadHandler`: check the method and parse the token, writing the parse error without
returning and going on with the UUID `uuid.Parse` returned, then answer with the activity
`GetData` reads. -/
def downloadHandler (ctx : DataStoreContext) (parse : String → String × Option String)
    (rows : Except String (List Location)) (req : Request Unit) (ep : Endpoint) : Response :=
  if req.method ≠ methodGet then .empty
  else
    let w : Response := match (parse req.tokenid).2 with
      | some err => messageError err statusBadRequest .empty
      | none => .empty
    match ctx.getData parse rows (parse req.tokenid).1 ep.now ep.tokens with
    | .error err => messageError err statusNotAcceptable w
    | .ok (clientId, locations) => w.write (.activity clientId locations)

/-- Through a store that is not connected, `GetData` fails. -/
lemma DataStoreContext.getData_of_not_connected {ctx : DataStoreContext}
    (hc : ctx.store.isConnected = false) (parse : String → String × Option String)
    (rows : Except String (List Location)) (key : String) (now : Nat) (ts : TokenStore) :
    ∃ err, ctx.getData parse rows key now ts = .error err := by
  unfold DataStoreContext.getData
  rcases getClientID parse key now ts with err | clientId
  · exact ⟨err, rfl⟩
  · exact ⟨"Database is not connected.", by simp [hc]⟩

/-- Through a store the code builds, `DownloadHandler` writes errors only: the parse error of
the token, if any, and then the error of `GetData`. -/
lemma downloadHandler_bodies {ctx : DataStoreContext} (hs : ctx.store.Reachable)
    (parse : String → String × Option String) (rows : Except String (List Location))
    (req : Request Unit) (ep : Endpoint) :
    ∀ b ∈ (downloadHandler ctx parse rows req ep).bodies, ∃ err, b = .error err := by
  obtain ⟨err, he⟩ := DataStoreContext.getData_of_not_connected hs.not_connected parse rows
    (parse req.tokenid).1 ep.now ep.tokens
  unfold downloadHandler
  split_ifs
  · simp [Response.empty]
  · rcases (parse req.tokenid).2 with _ | perr <;> simp [he, messageError, Response.empty]

/-! ## The aggregator's server -/

/-- A request to the aggregator's server, with what the world answers while it is handled.
Requests for `DataHandler` and `DownloadHandler` leave the endpoint as it is and are left out. -/
inductive ServerCall
  /-- A sync, with the token `uuid.NewRandom` draws, the outcomes of `SETEX` and of the `GET`
  that reads the client id back, and the text of the error. -/
  | sync (token : String) (stored fetched : Bool) (storeError : String)
      (req : Request SyncRequest)
  /-- A beacon. -/
  | beacon (req : Request Location)
  /-- A standby. -/
  | standby (req : Request Location)
  /-- The passage of `seconds` seconds. -/
  | tick (seconds : Nat)

/-- The aggregator's server, whose context is a `DataStoreContext`: the token TTL,
`uuid.Parse`, and the collaborators of the location handlers. -/
structure Server where
  tokenTimeoutSec : Nat
  parse : String → String × Option String
  backend : Backend

namespace Server

/-- Handle one request, or let time pass. -/
def exec (s : Server) : ServerCall → Endpoint → Endpoint
  | .sync token stored fetched storeError req, ep =>
    (syncHandler s.tokenTimeoutSec s.parse token stored fetched storeError req ep).1
  | .beacon req, ep => (beaconHandler s.backend req ep).endpoint
  | .standby req, ep => (standbyHandler s.backend req ep).endpoint
  | .tick seconds, ep => ep.tick seconds

/-- Handle the requests in order. -/
def run (s : Server) : List ServerCall → Endpoint → Endpoint
  | [], ep => ep
  | call :: calls, ep => s.run calls (s.exec call ep)

end Server

/-- An entity in the sentinel cell of `MakeCell`, or in the cell of its location with that
cell's covering. -/
def Entity.Settled (g : Geometry) (e : Entity) : Prop :=
  e.cell = makeCell ∨
    e.cell = ⟨g.cellIDFromLatLng e.location, g.covering (g.cellIDFromLatLng e.location)⟩

lemma Entity.settled_makeEntity (g : Geometry) : makeEntity.Settled g := .inl rfl

/-- `Entity.Update` keeps an entity settled: a move takes it to the new location's cell with its
covering, and a location in the same cell keeps the cell. An entity in the sentinel cell whose
location is in cell `0` stays there with no covering. -/
lemma Entity.Settled.update {g : Geometry} {e : Entity} (h : e.Settled g) (loc : Location) :
    (e.update g loc).1.Settled g := by
  by_cases hid : g.cellIDFromLatLng loc = e.cell.s2cellID
  · have he : (e.update g loc).1 = { e with location := loc } := by
      simp [Entity.update, Cell.changed, hid]
    rw [he]
    rcases h with hc | hc
    · exact .inl hc
    · refine .inr ?_
      rw [hc] at hid ⊢
      simp only at hid ⊢
      rw [hid]
  · exact .inr (by simp [Entity.update, Cell.changed, Cell.updateBoundingCells, hid])

/-- Every entity of the endpoint is settled. -/
def Endpoint.Settled (g : Geometry) (ep : Endpoint) : Prop :=
  ∀ token e, ep.entities token = some e → e.Settled g

/-- An endpoint without entities is settled. -/
lemma Endpoint.settled_makeEndpoint (g : Geometry) (tokens : TokenStore) (now : Nat) :
    (makeEndpoint tokens now).Settled g :=
  fun _ _ h => Option.noConfusion h

/-- Keeping a settled entity under a token keeps the endpoint settled. -/
lemma Endpoint.Settled.update {g : Geometry} {ep : Endpoint} (h : ep.Settled g) (token : String)
    {e : Entity} (he : e.Settled g) :
    ({ ep with entities := Function.update ep.entities token (some e) } : Endpoint).Settled g := by
  intro token' e' he'
  by_cases ht : token' = token
  · subst ht
    simp only [Function.update_same, Option.some.injEq] at he'
    exact he' ▸ he
  · exact h token' e' (by simpa [Function.update_noteq ht] using he')

/-- `Endpoint.CreateEntity` keeps the entities settled: the entity it adds is in the sentinel
cell. -/
lemma Endpoint.Settled.createEntity {g : Geometry} {ep : Endpoint} (h : ep.Settled g)
    (tokenTimeoutSec : Nat) (clientId token : String) (stored fetched : Bool) :
    (ep.createEntity tokenTimeoutSec clientId token stored fetched).1.Settled g := by
  unfold Endpoint.createEntity
  split_ifs
  · exact h.update token (Entity.settled_makeEntity g)
  · exact h
  · exact h

/-- A location handler keeps the entities settled. -/
lemma Endpoint.Settled.postLocation {g : Geometry} {ep : Endpoint} (h : ep.Settled g)
    (name actError : String) (act : Entity → List String × Option String)
    (req : Request Location) :
    (postLocation name actError act g req ep).endpoint.Settled g := by
  rcases he : ep.getEntity req.tokenid with _ | e
  · rwa [postLocation_of_missing name actError act g he]
  · by_cases ha : ∃ loc, Accepts ep.now req loc
    · obtain ⟨loc, ha⟩ := ha
      rw [postLocation_of_accepts name actError act g he ha]
      exact h.update _ ((h _ e he).update loc)
    · push_neg at ha
      rwa [postLocation_of_found_rejected name actError act g he ha]

/-- Every request keeps the entities settled. -/
lemma Endpoint.Settled.exec {s : Server} {ep : Endpoint} (h : ep.Settled s.backend.geometry)
    (call : ServerCall) : (s.exec call ep).Settled s.backend.geometry := by
  cases call with
  | sync token stored fetched storeError req =>
    simp only [Server.exec]
    by_cases ha : ∃ clientId, SyncAccepts s.parse ep.now req clientId
    · obtain ⟨clientId, ha⟩ := ha
      rw [syncHandler_of_accepts ha]
      have hc := h.createEntity s.tokenTimeoutSec clientId token stored fetched
      split <;> simp_all
    · push_neg at ha
      rwa [syncHandler_of_rejected ha]
  | beacon req => exact h.postLocation _ _ _ req
  | standby req => exact h.postLocation _ _ _ req
  | tick seconds => exact h

/-- Every run keeps the entities settled. -/
lemma Endpoint.Settled.run {s : Server} {ep : Endpoint} (h : ep.Settled s.backend.geometry)
    (calls : List ServerCall) : (s.run calls ep).Settled s.backend.geometry := by
  induction calls generalizing ep with
  | nil => exact h
  | cons call calls ih => exact ih (h.exec call)

end Envisilab
