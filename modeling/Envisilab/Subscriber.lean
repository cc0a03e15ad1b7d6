import Envisilab.Basic
import Mathlib.Data.Finset.Sort
import Mathlib.Data.String.Basic

/-!
# Subscription planes

`Subscriber` (`core/subscriber.go`) is one plane of the fan-out engine. It keeps two Go maps
side by side, `connections` (the channels of each connection) and `channels` (the
connections of each channel), and one broker connection, on which it subscribes a channel
when its first connection joins and unsubscribes it when its last one leaves.

Each public method runs under the plane's write lock, so it is one step here. Inside a
method, two things are up to the environment and are collected in a `Runtime`: whether the
broker accepts each command, and the order in which `range` visits a connection's channel
map (Go fixes no order). The broker connection is represented by the commands the broker
has accepted on it, latest first.

The loops of the source return at their first error; `forEach` is that loop, written once.
The abstract view of a plane is the function `channelsOf` from connections to their
channels; `exec_channelsOf` shows each method acts on it as `PlaneCall.target` says, whatever
the rest of the state is.
-/

namespace Envisilab

/-- A command a plane sends on its `redis.PubSubConn`. -/
inductive BrokerCall
  | subscribe (channel : String)
  | unsubscribe (channel : String)
deriving DecidableEq, Repr

/-- What the environment decides while a plane method runs. -/
structure Runtime where
  /-- Whether the broker accepts a command (`err == nil`). -/
  broker : BrokerCall → Bool
  /-- The order in which `range` visits the keys of a channel map. -/
  order : Finset String → List String

namespace Runtime

/-- The broker accepts every command. -/
def Succeeds (rt : Runtime) : Prop := ∀ c, rt.broker c = true

/-- `range` visits each key exactly once, as the Go specification requires. -/
def Enumerates (rt : Runtime) : Prop := ∀ S, (rt.order S).Nodup ∧ ∀ x, x ∈ rt.order S ↔ x ∈ S

/-- A broker that accepts every command, with a `range` that visits keys in increasing order. -/
def accepting : Runtime := ⟨fun _ => true, fun S => S.sort (· ≤ ·)⟩

lemma accepting_succeeds : accepting.Succeeds := fun _ => rfl

lemma accepting_enumerates : accepting.Enumerates :=
  fun S => ⟨Finset.sort_nodup _ S, fun _ => Finset.mem_sort _⟩

end Runtime

/-! ## Returning at the first error -/

/-- `if err != nil { return err }` after a step, followed by the rest `k` of the function. -/
def andThen {σ ε : Type} (r : σ × Option ε) (k : σ → σ × Option ε) : σ × Option ε :=
  if r.2.isSome then r else k r.1

/-- `for _, x := range xs { if err := f(x); err != nil { return err } }`, over a state. -/
def forEach {α σ ε : Type} (f : α → σ → σ × Option ε) : List α → σ → σ × Option ε
  | [], s => (s, none)
  | x :: xs, s => andThen (f x s) (forEach f xs)

section andThen

variable {α σ ε : Type} {r : σ × Option ε} {k : σ → σ × Option ε} {f : α → σ → σ × Option ε}

@[simp] lemma andThen_of_ok (h : r.2 = none) : andThen r k = k r.1 := by simp [andThen, h]

/-- What a step and the rest of the function preserve, the whole function preserves. -/
lemma andThen_preserves (P : σ → Prop) (hr : P r.1) (hk : ∀ s, P s → P (k s).1) :
    P (andThen r k).1 := by
  unfold andThen; split_ifs
  · exact hr
  · exact hk _ hr

/-- A loop whose body never fails runs to the end: it is a fold. -/
theorem forEach_eq_foldl (hf : ∀ x s, (f x s).2 = none) (xs : List α) (s : σ) :
    forEach f xs s = (xs.foldl (fun s x => (f x s).1) s, none) := by
  induction xs generalizing s with
  | nil => rfl
  | cons x xs ih => rw [forEach, andThen_of_ok (hf x s), ih, List.foldl_cons]

/-- What every pass of a loop preserves holds when the loop returns, at an error or not. -/
theorem forEach_preserves (P : σ → Prop) (hf : ∀ x s, P s → P (f x s).1) (xs : List α) {s : σ}
    (hs : P s) : P (forEach f xs s).1 := by
  induction xs generalizing s with
  | nil => exact hs
  | cons x xs ih => exact andThen_preserves P (hf x s hs) fun _ h => ih h

end andThen

/-! ## The plane -/

/-- A `Subscriber`: the two maps of one plane, and its `PubSubConn` as the list of commands
the broker accepted on it, latest first. The `redisUrl` and the lock are left out. -/
structure Subscriber (Conn : Type) where
  connections : Conn → Option (Finset String)
  channels : String → Option (Finset Conn)
  subconn : List BrokerCall

/-- A call of one public `Subscriber` method for a connection. -/
inductive PlaneCall
  | subscribeToCell (cell : Cell)
  | subscribe (channel : String) (unsubscribe : Bool)
  | unsubscribe
deriving DecidableEq, Repr

variable {Conn : Type}

/-- `MakeSubscriber`: both maps empty, nothing sent to the broker. -/
def makeSubscriber : Subscriber Conn := ⟨fun _ => none, fun _ => none, []⟩

namespace Subscriber

/-- `self.connections[conn]` as a set: a missing key reads as the empty map. -/
def channelsOf (s : Subscriber Conn) (conn : Conn) : Finset String := (s.connections conn).getD ∅

/-- `self.channels[channel]` as a set. -/
def connectionsOf (s : Subscriber Conn) (channel : String) : Finset Conn :=
  (s.channels channel).getD ∅

/-- Send a command on the `PubSubConn`: an accepted command is recorded, a refused one is
returned as the error and changes nothing. -/
def send (rt : Runtime) (c : BrokerCall) (s : Subscriber Conn) :
    Subscriber Conn × Option BrokerCall :=
  if rt.broker c then ({ s with subconn := c :: s.subconn }, none) else (s, some c)

@[simp] lemma send_connections {rt : Runtime} {s : Subscriber Conn} (c : BrokerCall) :
    (send rt c s).1.connections = s.connections := by
  unfold send; split_ifs <;> rfl

@[simp] lemma send_snd {rt : Runtime} {s : Subscriber Conn} (h : rt.Succeeds) (c : BrokerCall) :
    (send rt c s).2 = none := by
  simp [send, h c]

variable [DecidableEq Conn]

/-- `self.connections[conn][channel] = true`. -/
def addChannel (conn : Conn) (channel : String) (s : Subscriber Conn) : Subscriber Conn :=
  { s with
    connections := Function.update s.connections conn (some (insert channel (s.channelsOf conn))) }

/-- `self.channels[channel][conn] = true`. -/
def addConnection (channel : String) (conn : Conn) (s : Subscriber Conn) : Subscriber Conn :=
  { s with
    channels := Function.update s.channels channel (some (insert conn (s.connectionsOf channel))) }

@[simp] lemma addChannel_channels (conn : Conn) (channel : String) (s : Subscriber Conn) :
    (s.addChannel conn channel).channels = s.channels := rfl

@[simp] lemma addChannel_subconn (conn : Conn) (channel : String) (s : Subscriber Conn) :
    (s.addChannel conn channel).subconn = s.subconn := rfl

@[simp] lemma addConnection_connections (channel : String) (conn : Conn) (s : Subscriber Conn) :
    (s.addConnection channel conn).connections = s.connections := rfl

/-- `subscribeNoLock`: record the channel for the connection; for a new channel create its entry
and subscribe at the broker, returning on failure; then record the connection for the channel. -/
def subscribeNoLock (rt : Runtime) (conn : Conn) (channel : String) (s : Subscriber Conn) :
    Subscriber Conn × Option BrokerCall :=
  let s := s.addChannel conn channel
  if (s.channels channel).isSome then (s.addConnection channel conn, none)
  else
    andThen (send rt (.subscribe channel)
        { s with channels := Function.update s.channels channel (some ∅) })
      fun s => (s.addConnection channel conn, none)

/-- One pass of the loop of `unsubscribeNoLock`: take the connection off channel `c`; when no
connection is left, delete the channel's entry and unsubscribe at the broker. -/
def releaseChannel (rt : Runtime) (conn : Conn) (c : String) (s : Subscriber Conn) :
    Subscriber Conn × Option BrokerCall :=
  let s := { s with channels := Function.update s.channels c ((s.channels c).map (·.erase conn)) }
  if (s.connectionsOf c).card = 0 then
    send rt (.unsubscribe c) { s with channels := Function.update s.channels c none }
  else (s, none)

/-- `unsubscribeNoLock`: release the connection's channels in the order `range` visits them,
returning at the first error; after the loop, delete the connection's entry. -/
def unsubscribeNoLock (rt : Runtime) (conn : Conn) (s : Subscriber Conn) :
    Subscriber Conn × Option BrokerCall :=
  andThen (forEach (releaseChannel rt conn) (rt.order (s.channelsOf conn)) s)
    fun s => ({ s with connections := Function.update s.connections conn none }, none)

/-- `Subscriber.SubscribeToCell`: leave every channel, then join the channel of each cell of the
cell group in order, returning at the first error. -/
def subscribeToCell (rt : Runtime) (conn : Conn) (cell : Cell) (s : Subscriber Conn) :
    Subscriber Conn × Option BrokerCall :=
  andThen (unsubscribeNoLock rt conn s)
    (forEach (subscribeNoLock rt conn) (cell.cellGroup.map formatUint))

/-- `Subscriber.Subscribe`: with `unsubscribe` set, first leave every channel, ignoring the
error; then join `channel`. -/
def subscribe (rt : Runtime) (conn : Conn) (channel : String) (unsubscribe : Bool)
    (s : Subscriber Conn) : Subscriber Conn × Option BrokerCall :=
  subscribeNoLock rt conn channel (if unsubscribe then (unsubscribeNoLock rt conn s).1 else s)

/-- `Subscriber.Unsubscribe`. -/
def unsubscribe (rt : Runtime) (conn : Conn) (s : Subscriber Conn) :
    Subscriber Conn × Option BrokerCall :=
  unsubscribeNoLock rt conn s

/-- Run one public method for `conn`. -/
def exec (rt : Runtime) (conn : Conn) :
    PlaneCall → Subscriber Conn → Subscriber Conn × Option BrokerCall
  | .subscribeToCell cell => subscribeToCell rt conn cell
  | .subscribe channel u => subscribe rt conn channel u
  | .unsubscribe => unsubscribe rt conn

end Subscriber

/-! ## The effect on the connection's channels -/

/-- The channels a method leaves its connection on, from the ones it had, when the broker
accepts every command. -/
def PlaneCall.target : PlaneCall → Finset String → Finset String
  | .subscribeToCell cell, _ => channelNames cell.cellGroup
  | .subscribe channel u, old => insert channel (if u then ∅ else old)
  | .unsubscribe, _ => ∅

/-- The entry of a set in a map of the plane: the code deletes a key rather than keep it empty. -/
def mapEntry {α : Type} [DecidableEq α] (S : Finset α) : Option (Finset α) :=
  if S = ∅ then none else some S

@[simp] lemma mapEntry_getD {α : Type} [DecidableEq α] (S : Finset α) :
    (mapEntry S).getD ∅ = S := by
  by_cases h : S = ∅ <;> simp [mapEntry, h]

@[simp] lemma mapEntry_ne_some_empty {α : Type} [DecidableEq α] (S : Finset α) :
    mapEntry S ≠ some ∅ := by
  by_cases h : S = ∅ <;> simp [mapEntry, h]

@[simp] lemma mapEntry_isSome {α : Type} [DecidableEq α] (S : Finset α) :
    (mapEntry S).isSome ↔ S ≠ ∅ := by
  by_cases h : S = ∅ <;> simp [mapEntry, h]


namespace Subscriber

variable [DecidableEq Conn] {rt : Runtime} {conn : Conn} {s : Subscriber Conn}

/-- `subscribeNoLock` records the channel for the connection first, so it does so even when
the broker refuses the channel. -/
lemma subscribeNoLock_connections (channel : String) :
    (subscribeNoLock rt conn channel s).1.connections =
      (s.addChannel conn channel).connections := by
  simp only [subscribeNoLock]
  split_ifs
  · rfl
  · exact andThen_preserves
      (fun s' : Subscriber Conn => s'.connections = (s.addChannel conn channel).connections)
      (send_connections _) fun _ h => h

/-- `subscribeNoLock` under an accepting broker, in one piece. -/
lemma subscribeNoLock_eq (h : rt.Succeeds) (channel : String) :
    subscribeNoLock rt conn channel s =
      ({ connections :=
           Function.update s.connections conn (some (insert channel (s.channelsOf conn)))
         channels :=
           Function.update s.channels channel (some (insert conn (s.connectionsOf channel)))
         subconn := if (s.channels channel).isSome then s.subconn
           else .subscribe channel :: s.subconn }, none) := by
  simp only [subscribeNoLock, addChannel_channels]
  split_ifs with hs
  · simp [addChannel, addConnection, connectionsOf]
  · simp_all [andThen, addChannel, addConnection, connectionsOf, send, h _]

/-- Under an accepting broker `subscribeNoLock` returns no error. -/
lemma subscribeNoLock_snd (h : rt.Succeeds) (channel : String) :
    (subscribeNoLock rt conn channel s).2 = none := by
  simp only [subscribeNoLock]
  split_ifs
  · rfl
  · rw [andThen_of_ok (send_snd h _)]

@[simp] lemma releaseChannel_connections (c : String) :
    (releaseChannel rt conn c s).1.connections = s.connections := by
  simp only [releaseChannel]; split_ifs <;> simp

/-- Under an accepting broker a pass of the loop of `unsubscribeNoLock` returns no error. -/
lemma releaseChannel_snd (h : rt.Succeeds) (c : String) :
    (releaseChannel rt conn c s).2 = none := by
  simp only [releaseChannel]; split_ifs <;> simp [h]

/-- One pass of the loop of `unsubscribeNoLock` under an accepting broker, in one piece. -/
lemma releaseChannel_eq (h : rt.Succeeds) (c : String) :
    releaseChannel rt conn c s =
      ({ s with
         channels := Function.update s.channels c (mapEntry ((s.connectionsOf c).erase conn))
         subconn := if (s.connectionsOf c).erase conn = ∅ then .unsubscribe c :: s.subconn
           else s.subconn }, none) := by
  rcases Option.eq_none_or_eq_some (s.channels c) with hc | ⟨S, hc⟩ <;>
    simp only [releaseChannel, connectionsOf, hc, Function.update_same, Option.map_some',
      Option.map_none', Option.getD_some, Option.getD_none, Finset.card_eq_zero] <;>
    split_ifs <;> simp_all [send, h _, mapEntry]

/-- Under an accepting broker the loop of `unsubscribeNoLock` runs to its end. -/
lemma unsubscribeNoLock_ok (h : rt.Succeeds) :
    (forEach (releaseChannel rt conn) (rt.order (s.channelsOf conn)) s).2 = none := by
  rw [forEach_eq_foldl fun x _ => releaseChannel_snd h x]

/-- Under an accepting broker `unsubscribeNoLock` deletes the connection's key. -/
lemma unsubscribeNoLock_connections (h : rt.Succeeds) :
    (unsubscribeNoLock rt conn s).1.connections = Function.update s.connections conn none := by
  have hc : (forEach (releaseChannel rt conn) (rt.order (s.channelsOf conn)) s).1.connections =
      s.connections :=
    forEach_preserves (fun s' : Subscriber Conn => s'.connections = s.connections)
      (fun _ _ h' => (releaseChannel_connections _).trans h') _ rfl
  rw [unsubscribeNoLock, andThen_of_ok (unsubscribeNoLock_ok h)]
  exact congrArg (Function.update · conn none) hc

/-- Under an accepting broker `unsubscribeNoLock` returns no error. -/
lemma unsubscribeNoLock_snd (h : rt.Succeeds) : (unsubscribeNoLock rt conn s).2 = none := by
  rw [unsubscribeNoLock, andThen_of_ok (unsubscribeNoLock_ok h)]

/-- Joining a list of channels one after another adds them all to the connection's entry. -/
lemma foldl_subscribeNoLock_connections (l : List String) (s : Subscriber Conn) :
    (l.foldl (fun s ch => (subscribeNoLock rt conn ch s).1) s).connections =
      if l = [] then s.connections
      else Function.update s.connections conn (some (s.channelsOf conn ∪ l.toFinset)) := by
  induction l generalizing s with
  | nil => rfl
  | cons ch l ih =>
    have h1 : (subscribeNoLock rt conn ch s).1.connections = (s.addChannel conn ch).connections :=
      subscribeNoLock_connections ch
    have h2 : (subscribeNoLock rt conn ch s).1.channelsOf conn = insert ch (s.channelsOf conn) := by
      simp [channelsOf, h1, addChannel]
    rw [List.foldl_cons, ih, if_neg (List.cons_ne_nil ch l), h2, h1]
    split_ifs with hl
    · simp [hl, addChannel, Finset.insert_eq, Finset.union_comm]
    · simp [addChannel, Finset.insert_union, Finset.union_insert]

/-- Under an accepting broker each method sets the entry of its connection to the target of
the call, and leaves every other entry as it was. -/
theorem exec_connections (h : rt.Succeeds) (pc : PlaneCall) :
    (s.exec rt conn pc).1.connections =
      Function.update s.connections conn (mapEntry (pc.target (s.channelsOf conn))) := by
  cases pc with
  | subscribeToCell cell =>
    simp only [exec, subscribeToCell, andThen_of_ok (unsubscribeNoLock_snd h),
      forEach_eq_foldl fun x _ => subscribeNoLock_snd h x, foldl_subscribeNoLock_connections,
      unsubscribeNoLock_connections h, PlaneCall.target, channelNames, mapEntry]
    by_cases hl : cell.cellGroup = [] <;> simp [hl, channelsOf, unsubscribeNoLock_connections h]
  | subscribe channel u =>
    cases u <;> simp [exec, subscribe, subscribeNoLock_connections, addChannel,
      unsubscribeNoLock_connections h, PlaneCall.target, mapEntry, channelsOf]
  | unsubscribe =>
    simp [exec, unsubscribe, unsubscribeNoLock_connections h, PlaneCall.target, mapEntry]

/-- The abstract view: each method replaces its connection's channels by the target. -/
theorem exec_channelsOf (h : rt.Succeeds) (pc : PlaneCall) :
    (s.exec rt conn pc).1.channelsOf =
      Function.update s.channelsOf conn (pc.target (s.channelsOf conn)) := by
  funext c
  by_cases hc : c = conn
  · subst hc; simp [channelsOf, exec_connections h]
  · simp [channelsOf, exec_connections h, hc]

/-! ## The channel side -/

/-- Under an accepting broker `subscribeNoLock` adds the connection to its channel and changes
no other channel's connections. -/
lemma subscribeNoLock_connectionsOf (h : rt.Succeeds) (channel ch : String) :
    (subscribeNoLock rt conn channel s).1.connectionsOf ch =
      if ch = channel then insert conn (s.connectionsOf channel) else s.connectionsOf ch := by
  rw [subscribeNoLock_eq h]
  by_cases hc : ch = channel
  · subst hc; simp [connectionsOf]
  · simp [connectionsOf, hc]

/-- Under an accepting broker a pass of the loop of `unsubscribeNoLock` takes the connection off
channel `c` and changes no other channel's connections. -/
lemma releaseChannel_connectionsOf (h : rt.Succeeds) (c ch : String) :
    (releaseChannel rt conn c s).1.connectionsOf ch =
      if ch = c then (s.connectionsOf c).erase conn else s.connectionsOf ch := by
  rw [releaseChannel_eq h]
  by_cases hc : ch = c
  · subst hc; simp [connectionsOf]
  · simp [connectionsOf, hc]

/-- The loop of `unsubscribeNoLock` over the list `l` takes the connection off each channel of
`l`, and off no other. -/
lemma foldl_releaseChannel_connectionsOf (h : rt.Succeeds) (l : List String)
    (s : Subscriber Conn) (ch : String) :
    (l.foldl (fun s c => (releaseChannel rt conn c s).1) s).connectionsOf ch =
      if ch ∈ l then (s.connectionsOf ch).erase conn else s.connectionsOf ch := by
  induction l generalizing s with
  | nil => simp
  | cons c l ih =>
    rw [List.foldl_cons, ih, releaseChannel_connectionsOf h]
    by_cases hc : ch = c
    · subst hc; simp
    · simp [hc]

/-- Under an accepting broker, and with a `range` that visits every channel of the connection,
`unsubscribeNoLock` takes the connection off every channel it was on. -/
lemma unsubscribeNoLock_connectionsOf (h : rt.Succeeds) (ho : rt.Enumerates) (ch : String) :
    (unsubscribeNoLock rt conn s).1.connectionsOf ch =
      if ch ∈ s.channelsOf conn then (s.connectionsOf ch).erase conn else s.connectionsOf ch := by
  rw [unsubscribeNoLock, andThen_of_ok (unsubscribeNoLock_ok h),
    forEach_eq_foldl fun x _ => releaseChannel_snd h x]
  have hl : ((rt.order (s.channelsOf conn)).foldl (fun s c => (releaseChannel rt conn c s).1)
      s).connectionsOf ch = _ := foldl_releaseChannel_connectionsOf h _ s ch
  simp only [(ho _).2 ch] at hl
  exact hl

/-- The frame on the channel side: under an accepting broker every method leaves each channel's
connections other than its own as they were. -/
lemma exec_connectionsOf_erase (h : rt.Succeeds) (pc : PlaneCall) (ch : String) :
    ((s.exec rt conn pc).1.connectionsOf ch).erase conn = (s.connectionsOf ch).erase conn := by
  let P : Subscriber Conn → Prop := fun s' =>
    ∀ ch, (s'.connectionsOf ch).erase conn = (s.connectionsOf ch).erase conn
  have hsub : ∀ x s', P s' → P (subscribeNoLock rt conn x s').1 := fun x s' hs ch => by
    rw [subscribeNoLock_connectionsOf h, ← hs ch]
    split_ifs with hc <;> simp [hc]
  have hrel : ∀ x s', P s' → P (releaseChannel rt conn x s').1 := fun x s' hs ch => by
    rw [releaseChannel_connectionsOf h, ← hs ch]
    split_ifs with hc <;> simp [hc]
  have hun : ∀ s', P s' → P (unsubscribeNoLock rt conn s').1 := fun s' hs =>
    andThen_preserves P (forEach_preserves P hrel _ hs) fun _ h' => h'
  have hs : P s := fun _ => rfl
  revert ch
  cases pc with
  | subscribeToCell cell =>
    exact andThen_preserves P (hun s hs) fun _ h' => forEach_preserves P hsub _ h'
  | subscribe channel u =>
    cases u
    · exact hsub _ _ hs
    · exact hsub _ _ (hun s hs)
  | unsubscribe => exact hun s hs

end Subscriber

end Envisilab
