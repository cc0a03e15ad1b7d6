import Envisilab.Subscriber.WellFormed

/-!
# The topology

`Topology` (`core/topology.go`) composes two planes, `cellSubscriber` and
`groupSubscriber`. Its subscription methods are not atomic: each is a short sequence of
plane calls, and each plane call takes and releases that plane's lock on its own.
`TopologyCall.steps` lists the plane calls of each method; `TopologyCall.exec` runs them
one after another, as the goroutine that calls the method does, keeping the method's
result as the source returns it (`_ =` discards the error of a clearing call).

Under an accepting broker, `Subscriber.exec_connections` says what each plane call leaves of
its connection, and that no other connection's key moves. `broker_errors_break_planes` runs
the same methods with a refusing broker. The configuration and the publisher are not part of
this state: the publisher keeps none, and `Broadcast` is modelled with the fan-out.
-/

namespace Envisilab

/-- The two planes of a topology. -/
inductive Plane
  | cell
  | group
deriving DecidableEq, Repr

/-- The other plane. -/
def Plane.other : Plane → Plane
  | .cell => .group
  | .group => .cell

/-- A `Topology`: its cell plane and its group plane. -/
structure Topology (Conn : Type) where
  cellSubscriber : Subscriber Conn
  groupSubscriber : Subscriber Conn

/-- A subscription method of `Topology`, with its arguments other than the connection. -/
inductive TopologyCall
  | subscribeToCell (cell : Cell)
  | subscribeToGroup (groupId : String) (unsubscribe : Bool)
  | unsubscribeFromGroups
  | unsubscribe
deriving DecidableEq, Repr

/-- The plane calls of each method, in the order the method makes them. -/
def TopologyCall.steps : TopologyCall → List (Plane × PlaneCall)
  | .subscribeToCell cell => [(.group, .unsubscribe), (.cell, .subscribeToCell cell)]
  | .subscribeToGroup groupId u => [(.cell, .unsubscribe), (.group, .subscribe groupId u)]
  | .unsubscribeFromGroups => [(.group, .unsubscribe)]
  | .unsubscribe => [(.cell, .unsubscribe), (.group, .unsubscribe)]

variable {Conn : Type}

/-- `MakeTopology`: two empty planes. -/
def makeTopology : Topology Conn := ⟨makeSubscriber, makeSubscriber⟩

namespace Topology

/-- A plane of the topology. -/
def plane (t : Topology Conn) : Plane → Subscriber Conn
  | .cell => t.cellSubscriber
  | .group => t.groupSubscriber

/-- Plane exclusivity: no connection is a key of both planes. -/
def Exclusive (t : Topology Conn) : Prop :=
  ∀ conn, t.cellSubscriber.connections conn = none ∨ t.groupSubscriber.connections conn = none

/-- A connection off one plane is exclusive. -/
lemma exclusive_of_plane {t : Topology Conn} {conn : Conn} (p : Plane)
    (h : (t.plane p).connections conn = none) :
    t.cellSubscriber.connections conn = none ∨ t.groupSubscriber.connections conn = none := by
  cases p
  · exact .inl h
  · exact .inr h

/-- Two topologies that agree on a connection's keys in both planes. -/
def AgreeOn (conn : Conn) (t t' : Topology Conn) : Prop :=
  ∀ q, (t.plane q).connections conn = (t'.plane q).connections conn

end Topology

variable [DecidableEq Conn]

namespace Topology

/-- One plane call for `conn`, atomic under that plane's lock. -/
def step (rt : Runtime) (conn : Conn) (t : Topology Conn) :
    Plane × PlaneCall → Topology Conn × Option BrokerCall
  | (.cell, pc) =>
    let r := t.cellSubscriber.exec rt conn pc
    ({ t with cellSubscriber := r.1 }, r.2)
  | (.group, pc) =>
    let r := t.groupSubscriber.exec rt conn pc
    ({ t with groupSubscriber := r.1 }, r.2)

/-- `Topology.SubscribeToCell`: leave the group plane, then subscribe on the cell plane. -/
def subscribeToCell (rt : Runtime) (conn : Conn) (cell : Cell) (t : Topology Conn) :
    Topology Conn × Option BrokerCall :=
  (t.step rt conn (.group, .unsubscribe)).1.step rt conn (.cell, .subscribeToCell cell)

/-- `Topology.SubscribeToGroup`: leave the cell plane, then subscribe on the group plane. -/
def subscribeToGroup (rt : Runtime) (conn : Conn) (groupId : String) (unsubscribe : Bool)
    (t : Topology Conn) : Topology Conn × Option BrokerCall :=
  (t.step rt conn (.cell, .unsubscribe)).1.step rt conn (.group, .subscribe groupId unsubscribe)

/-- `Topology.UnsubscribeFromGroups`. -/
def unsubscribeFromGroups (rt : Runtime) (conn : Conn) (t : Topology Conn) :
    Topology Conn × Option BrokerCall :=
  t.step rt conn (.group, .unsubscribe)

/-- `Topology.Unsubscribe`: leave both planes; the errors are swallowed. -/
def unsubscribe (rt : Runtime) (conn : Conn) (t : Topology Conn) :
    Topology Conn × Option BrokerCall :=
  (((t.step rt conn (.cell, .unsubscribe)).1.step rt conn (.group, .unsubscribe)).1, none)

end Topology

/-- Run a method for `conn` as one goroutine does. -/
def TopologyCall.exec (rt : Runtime) (conn : Conn) :
    TopologyCall → Topology Conn → Topology Conn × Option BrokerCall
  | .subscribeToCell cell => Topology.subscribeToCell rt conn cell
  | .subscribeToGroup groupId u => Topology.subscribeToGroup rt conn groupId u
  | .unsubscribeFromGroups => Topology.unsubscribeFromGroups rt conn
  | .unsubscribe => Topology.unsubscribe rt conn

/-- A method run by one goroutine makes exactly its plane calls, in order. -/
lemma TopologyCall.exec_fst (rt : Runtime) (conn : Conn) (call : TopologyCall) (t : Topology Conn) :
    (call.exec rt conn t).1 = call.steps.foldl (fun t st => (t.step rt conn st).1) t := by
  cases call <;> rfl

namespace Topology

variable {rt : Runtime} {conn conn' : Conn} {t : Topology Conn}

@[simp] lemma step_cell (pc : PlaneCall) :
    (t.step rt conn (.cell, pc)).1 =
      { t with cellSubscriber := (t.cellSubscriber.exec rt conn pc).1 } :=
  rfl

@[simp] lemma step_group (pc : PlaneCall) :
    (t.step rt conn (.group, pc)).1 =
      { t with groupSubscriber := (t.groupSubscriber.exec rt conn pc).1 } :=
  rfl

/-- A plane call changes its own plane only. -/
lemma plane_step (p q : Plane) (pc : PlaneCall) :
    (t.step rt conn (p, pc)).1.plane q =
      if q = p then ((t.plane p).exec rt conn pc).1 else t.plane q := by
  cases p <;> cases q <;> rfl

end Topology

/-! ## What a method leaves of its connection -/

namespace Subscriber

variable {rt : Runtime} {conn conn' : Conn} {s : Subscriber Conn}

/-- Under an accepting broker, a plane call for another connection leaves `conn`'s key alone. -/
@[simp] lemma exec_connections_of_ne (h : rt.Succeeds) (hne : conn' ≠ conn) (pc : PlaneCall) :
    (s.exec rt conn pc).1.connections conn' = s.connections conn' := by
  rw [exec_connections h, Function.update_noteq hne]

/-- Under an accepting broker, what a plane call leaves of its connection's key depends on that
key only. -/
lemma exec_connections_self (h : rt.Succeeds) (pc : PlaneCall) :
    (s.exec rt conn pc).1.connections conn = mapEntry (pc.target (s.channelsOf conn)) := by
  rw [exec_connections h, Function.update_same]

@[simp] lemma exec_unsubscribe_connections (h : rt.Succeeds) :
    (s.exec rt conn .unsubscribe).1.connections conn = none := by
  simp [exec_connections_self h, PlaneCall.target, mapEntry]

end Subscriber

namespace Topology

variable {rt : Runtime} {conn conn' : Conn}

/-- A plane call of another connection keeps `conn'`'s keys in both planes. -/
lemma step_connections_of_ne (h : rt.Succeeds) (t : Topology Conn) (hne : conn' ≠ conn)
    (st : Plane × PlaneCall) (q : Plane) :
    ((t.step rt conn st).1.plane q).connections conn' = (t.plane q).connections conn' := by
  obtain ⟨p, pc⟩ := st
  rw [plane_step]
  split_ifs with hq
  · subst hq; exact Subscriber.exec_connections_of_ne h hne pc
  · rfl

/-- The same, as agreement on `conn'`'s keys. -/
lemma agreeOn_step_of_ne (h : rt.Succeeds) (t : Topology Conn) (hne : conn' ≠ conn)
    (st : Plane × PlaneCall) : AgreeOn conn' (t.step rt conn st).1 t :=
  step_connections_of_ne h t hne st

/-- A plane call of `conn` keeps two topologies that agree on `conn`'s keys in agreement. -/
lemma AgreeOn.step (h : rt.Succeeds) {t t' : Topology Conn} (hA : AgreeOn conn t t')
    (st : Plane × PlaneCall) : AgreeOn conn (t.step rt conn st).1 (t'.step rt conn st).1 := by
  obtain ⟨p, pc⟩ := st
  intro q
  rw [plane_step, plane_step]
  split_ifs with hq
  · subst hq
    rw [Subscriber.exec_connections_self h, Subscriber.exec_connections_self h]
    simp only [Subscriber.channelsOf, hA q]
  · exact hA q

/-- Locality of the methods: what a method of `conn` leaves of `conn`'s keys depends on those
keys only. -/
lemma AgreeOn.exec (h : rt.Succeeds) {t t' : Topology Conn} (hA : AgreeOn conn t t')
    (call : TopologyCall) : AgreeOn conn (call.exec rt conn t).1 (call.exec rt conn t').1 := by
  rw [TopologyCall.exec_fst, TopologyCall.exec_fst]
  generalize call.steps = l
  induction l generalizing t t' with
  | nil => exact hA
  | cons st l ih => exact ih (hA.step h st)

/-- A method of another connection keeps `conn'`'s keys in both planes. -/
lemma agreeOn_exec_of_ne (h : rt.Succeeds) (t : Topology Conn) (hne : conn' ≠ conn)
    (call : TopologyCall) : AgreeOn conn' (call.exec rt conn t).1 t := by
  rw [TopologyCall.exec_fst]
  generalize call.steps = l
  induction l generalizing t with
  | nil => exact fun _ => rfl
  | cons st l ih => exact fun q => (ih _ q).trans (agreeOn_step_of_ne h t hne st q)

/-- Every method keeps both planes well formed. -/
lemma wellFormed_exec (h : rt.Succeeds) (ho : rt.Enumerates) (call : TopologyCall)
    {t : Topology Conn} (hc : t.cellSubscriber.WellFormed) (hg : t.groupSubscriber.WellFormed) :
    (call.exec rt conn t).1.cellSubscriber.WellFormed ∧
      (call.exec rt conn t).1.groupSubscriber.WellFormed := by
  rw [TopologyCall.exec_fst]
  generalize call.steps = l
  induction l generalizing t with
  | nil => exact ⟨hc, hg⟩
  | cons st l ih =>
    obtain ⟨p, pc⟩ := st
    cases p
    · exact ih (hc.exec h ho pc) hg
    · exact ih hc (hg.exec h ho pc)

/-- `SubscribeToCell` leaves its connection on the cells' channels only. -/
lemma subscribeToCell_connections (h : rt.Succeeds) (conn : Conn) (t : Topology Conn)
    (cell : Cell) :
    (t.subscribeToCell rt conn cell).1.cellSubscriber.connections conn =
        mapEntry (channelNames cell.cellGroup) ∧
      (t.subscribeToCell rt conn cell).1.groupSubscriber.connections conn = none := by
  simp [subscribeToCell, Subscriber.exec_connections h, PlaneCall.target, mapEntry]

/-- `SubscribeToGroup` with `unsubscribe` set leaves its connection on the group's channel only. -/
lemma subscribeToGroup_connections (h : rt.Succeeds) (conn : Conn) (t : Topology Conn)
    (groupId : String) :
    (t.subscribeToGroup rt conn groupId true).1.cellSubscriber.connections conn = none ∧
      (t.subscribeToGroup rt conn groupId true).1.groupSubscriber.connections conn =
        some {groupId} := by
  simp [subscribeToGroup, Subscriber.exec_connections h, PlaneCall.target, mapEntry]

/-- `UnsubscribeFromGroups` takes its connection off the group plane and leaves the cell plane
as it was. -/
lemma unsubscribeFromGroups_connections (h : rt.Succeeds) (conn : Conn) (t : Topology Conn) :
    (t.unsubscribeFromGroups rt conn).1.cellSubscriber = t.cellSubscriber ∧
      (t.unsubscribeFromGroups rt conn).1.groupSubscriber.connections conn = none :=
  ⟨rfl, Subscriber.exec_unsubscribe_connections h⟩

/-- `Unsubscribe` takes its connection off both planes. -/
lemma unsubscribe_connections (h : rt.Succeeds) (conn : Conn) (t : Topology Conn) :
    (t.unsubscribe rt conn).1.cellSubscriber.connections conn = none ∧
      (t.unsubscribe rt conn).1.groupSubscriber.connections conn = none := by
  simp [unsubscribe, Subscriber.exec_unsubscribe_connections h]

end Topology

/-! ## Broker errors

Every method of a plane returns at the first broker error, after it has edited the maps and
before it has finished editing them. Three runtimes show what that leaves, on planes whose
channel maps only ever hold the channels "a", "g" and "5"; `channelOrder` visits such a map
in the one order a `range` can take over one key. -/

/-- The order in which `range` visits a channel map whose keys are among "a", "g" and "5". -/
def channelOrder (S : Finset String) : List String := ["a", "g", "5"].filter (· ∈ S)

/-- A broker that accepts every command. -/
def acceptAll : Runtime := ⟨fun _ => true, channelOrder⟩

/-- A broker that refuses every command. -/
def refuseAll : Runtime := ⟨fun _ => false, channelOrder⟩

/-- A broker that refuses only the `unsubscribe` of channel "g". -/
def refuseUnsubscribeG : Runtime := ⟨fun c => c ≠ .unsubscribe "g", channelOrder⟩

/-- Broker errors leave the planes inconsistent. A `Subscribe` whose broker subscribe fails has
already put the channel in the connection's map and created the channel's entry empty: the two
maps disagree, and a second subscriber of the channel joins it with no broker subscription ever
made. An `Unsubscribe` whose broker unsubscribe fails returns before it deletes the
connection's entry: the maps disagree again, and `Topology.SubscribeToCell`, which ignores that
error, leaves the connection in both planes. -/
theorem broker_errors_break_planes :
    (let s₁ := makeSubscriber.subscribe refuseAll 1 "a" false
    let s₂ := s₁.1.subscribe acceptAll 2 "a" false
    let t₁ := (makeTopology.subscribeToGroup acceptAll 1 "g" true).1
    let u := t₁.groupSubscriber.unsubscribe refuseUnsubscribeG 1
    let t₂ := (t₁.subscribeToCell refuseUnsubscribeG 1 ⟨5, [5]⟩).1
    (s₁.2 = some (.subscribe "a") ∧ "a" ∈ s₁.1.channelsOf 1 ∧ 1 ∉ s₁.1.connectionsOf "a" ∧
      s₁.1.channels "a" = some ∅) ∧
    (s₂.2 = none ∧ 2 ∈ s₂.1.connectionsOf "a" ∧ s₂.1.subconn = []) ∧
    (u.2 = some (.unsubscribe "g") ∧ "g" ∈ u.1.channelsOf 1 ∧ 1 ∉ u.1.connectionsOf "g") ∧
    (t₂.cellSubscriber.connections 1 ≠ none ∧ t₂.groupSubscriber.connections 1 ≠ none)) := by
  decide

end Envisilab
