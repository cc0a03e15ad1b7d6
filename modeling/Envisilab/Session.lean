import Envisilab.Subscription
import Envisilab.Memory

/-!
# A connection's session

The goroutines around one connection `conn` of an entity: the beacon handler, which moves the
entity (`Entity.Update`); the connection's `ReadPump`, which starts the entity's subscription
driver, passes it the user filters its client sends, and calls `Subscription.Stop` when it
returns; and the driver itself (`Subscription.Start`). They meet at the driver's `input`
channel, which is unbuffered and written only by non-blocking sends (`setCellFilter`,
`setUserFilter`, `Stop`): a value is handed over when the driver is blocked in its `select`,
and the `default` branch drops it otherwise.

The session lives in the heap of `Memory`. The entity is a `Mem.Entity`, and what
`Entity.Update` hands the driver is `&cellCpy`, a copy of the entity's cell whose `cellGroup`
header points at the entity's own backing array. The driver keeps the pointer, and its
`SubscribeToCell` reads the array when the method runs, after any moves made in between.

`Session.Step` is one step of any of the goroutines, or a plane call of another connection,
with an accepting broker. `Session.seen` is auxiliary state the code does not have: the heap
as the driver's last topology method read it. `Session.Inv` says that the driver's state, its
cell read in `seen`, is tracked (`Tracks`) while the driver is outside a pass, and will be,
whatever the heap is then, once the method of its pass returns while it is inside one; every
reachable session keeps it (`Session.Reachable.inv`). So the cell plane holds what the driver's
last cell showed when the driver's last method read it (`Session.Reachable.waiting_cell_plane`).
That need not be the covering of the entity's cell: a move made while the driver is not
waiting is lost (`update_before_start_is_lost`). Nor need it be the covering of the driver's
own cell: a move made during a pass writes over what the pass's method then reads
(`movedDuringPass_waiting_cell_plane`).

Forgetting the driver and the planes, every session run is a run of `Mem.World`
(`Session.Reachable.world`). So the driver's cell is one of the copies of
`World.snapshot_read`, and shows the covering of the cell the entity is in now
(`Session.Reachable.driver_cell_read`).

And `"stop"` only leaves the `switch`: the driver keeps its loop after `ReadPump` returns, and
subscribes the closed connection again at the entity's next move
(`closed_connection_resubscribed`).
-/

namespace Envisilab

/-- Where a connection's `ReadPump` is. -/
inductive Pump
  /-- Not yet run by `DataHandler`. -/
  | notStarted
  /-- Reading user filters from the WebSocket. -/
  | reading
  /-- Returned, having run its deferred `Stop`. -/
  | returned
deriving DecidableEq, Repr

/-- Where a subscription driver's goroutine is. -/
inductive Driver
  /-- Not yet scheduled after `go Start`. -/
  | notStarted
  /-- Blocked in the `select` on `input`. -/
  | waiting
  /-- In the pass for a value it received, before the pass's method returns. -/
  | busy (call : Option (DriverCall Mem.Cell))
deriving DecidableEq, Repr

/-- The state around one connection: the heap and the entity in it, the driver's goroutine and
its `Subscription`, the topology, the connection's `ReadPump`, and the auxiliary `seen`. -/
structure Session (Conn : Type) where
  heap : Heap
  entity : Mem.Entity
  driver : Driver
  subscription : Subscription Mem.Cell
  topology : Topology Conn
  pump : Pump
  /-- Not in the code: the heap as the driver's last topology method read it. -/
  seen : Heap

namespace Session

variable {Conn : Type}

/-- A non-blocking send of `e` on the driver's `input`: a waiting driver receives it and makes
the assignments of its pass; otherwise the value is dropped. -/
def offer (e : Event Mem.Cell) (σ : Session Conn) : Session Conn :=
  match σ.driver with
  | .waiting =>
    { σ with driver := .busy (σ.subscription.startStep e).2
             subscription := (σ.subscription.startStep e).1 }
  | _ => σ

/-- The beacon handler's `Entity.Update`: the entity's cell moves in place, and on a change of
cell `setCellFilter` offers the driver `&cellCpy`. -/
def update (g : Geometry) (growslice : Nat → Nat) (loc : Location) (σ : Session Conn) :
    Session Conn :=
  match σ.entity.update g growslice loc σ.heap with
  | ((h, e), some c) => { σ with heap := h, entity := e }.offer (.cell c)
  | ((h, e), none) => { σ with heap := h, entity := e }

section Offer

variable (e : Event Mem.Cell) (σ : Session Conn)

@[simp] lemma offer_heap : (σ.offer e).heap = σ.heap := by unfold offer; split <;> rfl
@[simp] lemma offer_entity : (σ.offer e).entity = σ.entity := by unfold offer; split <;> rfl

/-- A user filter or a string offered to the driver leaves its cell as it was. -/
lemma offer_cell (he : ∀ c, e ≠ .cell c) :
    (σ.offer e).subscription.cell = σ.subscription.cell := by
  unfold offer
  split
  · cases e with
    | cell c => exact absurd rfl (he c)
    | filter uf => rfl
    | text s => rfl
  · rfl

/-- A cell offered to the driver is its cell afterwards, if the driver received it. -/
lemma offer_cell_mem (c : Mem.Cell) {p : Mem.Cell}
    (hp : (σ.offer (.cell c)).subscription.cell = some p) :
    p = c ∨ σ.subscription.cell = some p := by
  unfold offer at hp
  split at hp
  · exact Or.inl (Option.some_injective _ hp).symm
  · exact Or.inr hp

end Offer

variable [DecidableEq Conn]

/-- One step of the beacon handler, of `ReadPump`, of the driver, or of another connection,
with an accepting broker. -/
inductive Step (g : Geometry) (growslice : Nat → Nat) (conn : Conn) :
    Session Conn → Session Conn → Prop
  /-- `DataHandler` runs `ReadPump`, which runs `go c.entity.subscription.Start(c)`. -/
  | readPump (σ : Session Conn) : σ.pump = .notStarted →
      Step g growslice conn σ { σ with pump := .reading }
  /-- The driver's goroutine reaches its `select`. -/
  | start (σ : Session Conn) : σ.driver = .notStarted → σ.pump ≠ .notStarted →
      Step g growslice conn σ { σ with driver := .waiting }
  /-- The beacon handler moves the entity. -/
  | update (σ : Session Conn) (loc : Location) : Step g growslice conn σ (σ.update g growslice loc)
  /-- `ReadPump` decodes a user filter and calls `setUserFilter`. -/
  | userFilter (σ : Session Conn) (uf : UserFilter) : σ.pump = .reading →
      Step g growslice conn σ (σ.offer (.filter uf))
  /-- `ReadPump` returns; its deferred `Stop` offers `"stop"`. -/
  | stop (σ : Session Conn) : σ.pump = .reading →
      Step g growslice conn σ ({ σ with pump := .returned }.offer (.text "stop"))
  /-- The driver's pass runs its method, which reads its cell in the heap as it is now, and the
  driver goes back to its `select`. -/
  | finish (σ : Session Conn) (call : Option (DriverCall Mem.Cell)) (rt : Runtime) :
      σ.driver = .busy call → rt.Succeeds →
      Step g growslice conn σ
        { σ with driver := .waiting, seen := if call.isSome then σ.heap else σ.seen,
                 topology := runCall (Mem.Cell.read σ.heap) rt conn call σ.topology }
  /-- A plane call of another connection. -/
  | other (σ : Session Conn) (conn' : Conn) (st : Plane × PlaneCall) (rt : Runtime) :
      conn' ≠ conn → rt.Succeeds →
      Step g growslice conn σ { σ with topology := (σ.topology.step rt conn' st).1 }

/-- The sessions reachable from an entity made by `MakeEntity` on any heap, whose connection
is in neither plane. -/
inductive Reachable (g : Geometry) (growslice : Nat → Nat) (conn : Conn) : Session Conn → Prop
  | init (h : Heap) (t : Topology Conn) : t.cellSubscriber.connections conn = none →
      t.groupSubscriber.connections conn = none →
      Reachable g growslice conn ⟨(Mem.makeEntity h).1, (Mem.makeEntity h).2, .notStarted,
        makeSubscription, t, .notStarted, (Mem.makeEntity h).1⟩
  | step {σ σ' : Session Conn} :
      Reachable g growslice conn σ → Step g growslice conn σ σ' → Reachable g growslice conn σ'

/-- The driver's state, its cell read in `seen`, is tracked while the driver is outside a pass.
Inside one, it will be once the method of the pass returns, with any accepting broker and on
any heap the method reads. -/
def Inv (conn : Conn) (σ : Session Conn) : Prop :=
  match σ.driver with
  | .busy call =>
    ∃ evs : List (Event Mem.Cell), ∀ (rt : Runtime) (h : Heap), rt.Succeeds →
      Tracks conn evs
        (σ.subscription.map (if call.isSome then Mem.Cell.read h else Mem.Cell.read σ.seen))
        (runCall (Mem.Cell.read h) rt conn call σ.topology)
  | _ => ∃ evs : List (Event Mem.Cell),
    Tracks conn evs (σ.subscription.map (Mem.Cell.read σ.seen)) σ.topology

variable {g : Geometry} {growslice : Nat → Nat} {conn : Conn} {σ σ' : Session Conn}

/-- The invariant inside a pass. -/
lemma inv_busy {call : Option (DriverCall Mem.Cell)} (h : σ.driver = .busy call) :
    Inv conn σ ↔ ∃ evs : List (Event Mem.Cell), ∀ (rt : Runtime) (hp : Heap), rt.Succeeds →
      Tracks conn evs
        (σ.subscription.map (if call.isSome then Mem.Cell.read hp else Mem.Cell.read σ.seen))
        (runCall (Mem.Cell.read hp) rt conn call σ.topology) := by
  simp only [Inv, h]

/-- The invariant outside a pass. -/
lemma inv_of_not_busy (h : ∀ call, σ.driver ≠ .busy call) :
    Inv conn σ ↔ ∃ evs : List (Event Mem.Cell),
      Tracks conn evs (σ.subscription.map (Mem.Cell.read σ.seen)) σ.topology := by
  cases hd : σ.driver with
  | busy call => exact absurd hd (h call)
  | _ => simp only [Inv, hd]

/-- A value offered to the driver keeps the invariant, received or dropped. -/
lemma Inv.offer (hi : Inv conn σ) (e : Event Mem.Cell) : Inv conn (σ.offer e) := by
  cases hd : σ.driver with
  | waiting =>
    obtain ⟨evs, ht⟩ := (inv_of_not_busy (by simp [hd])).1 hi
    simp only [Session.offer, hd]
    exact ⟨evs ++ [e], fun _ hp h => ht.receive h (Mem.Cell.read hp) e⟩
  | _ => simpa only [Session.offer, hd] using hi

/-- A move keeps the invariant: the invariant reads neither the entity nor the heap, and a
change of cell is offered to the driver. -/
lemma Inv.update (hi : Inv conn σ) (g : Geometry) (growslice : Nat → Nat) (loc : Location) :
    Inv conn (σ.update g growslice loc) := by
  unfold Session.update
  split
  · refine Inv.offer ?_ _; exact hi
  · exact hi

/-- Every step keeps the invariant. -/
lemma Inv.step (hi : Inv conn σ) (hs : Step g growslice conn σ σ') : Inv conn σ' := by
  cases hs with
  | readPump => exact hi
  | start hd _ =>
    obtain ⟨evs, ht⟩ := (inv_of_not_busy (by simp [hd])).1 hi
    exact (inv_of_not_busy (by simp)).2 ⟨evs, ht⟩
  | update loc => exact hi.update g growslice loc
  | userFilter => exact hi.offer _
  | stop => refine Inv.offer ?_ _; exact hi
  | finish call rt hd h =>
    obtain ⟨evs, ht⟩ := (inv_busy hd).1 hi
    refine (inv_of_not_busy (by simp)).2 ⟨evs, ?_⟩
    cases call <;> exact ht rt σ.heap h
  | other conn' st rt hne h =>
    have hA := Topology.agreeOn_step_of_ne h σ.topology (Ne.symm hne) st
    cases hd : σ.driver with
    | busy call =>
      obtain ⟨evs, ht⟩ := (inv_busy hd).1 hi
      exact (inv_busy rfl).2
        ⟨evs, fun rt' hp h' => (ht rt' hp h').of_agreeOn (runCall_agreeOn h' hA call)⟩
    | _ =>
      obtain ⟨evs, ht⟩ := (inv_of_not_busy (by simp [hd])).1 hi
      exact (inv_of_not_busy (by simp [hd])).2 ⟨evs, ht.of_agreeOn hA⟩

/-- Every reachable session keeps the invariant. -/
lemma Reachable.inv (h : Reachable g growslice conn σ) : Inv conn σ := by
  induction h with
  | init _ t hc hg => exact ⟨[], .init hc hg⟩
  | step _ hs ih => exact ih.step hs

/-- A step leaves the heap and the entity as they were, or moves the entity as
`Mem.World.update` does, handing on at most the copy that move makes. -/
lemma Step.world (hs : Step g growslice conn σ σ') (sns : List Mem.Cell) :
    ((⟨σ'.heap, σ'.entity, sns⟩ : Mem.World) = ⟨σ.heap, σ.entity, sns⟩ ∧
      ∀ p, σ'.subscription.cell = some p → σ.subscription.cell = some p) ∨
    ∃ loc, (⟨σ'.heap, σ'.entity, sns ++ (σ.entity.update g growslice loc σ.heap).2.toList⟩ :
        Mem.World) = Mem.World.update g growslice loc ⟨σ.heap, σ.entity, sns⟩ ∧
      ∀ p, σ'.subscription.cell = some p →
        (σ.entity.update g growslice loc σ.heap).2 = some p ∨ σ.subscription.cell = some p := by
  cases hs with
  | update loc =>
    refine Or.inr ⟨loc, ?_, fun p hp => ?_⟩
    · unfold Session.update
      split <;> simp_all [Mem.World.update]
    · unfold Session.update at hp
      split at hp
      · next c heq => exact (offer_cell_mem _ c hp).imp (by simp [heq, ·]) id
      · exact Or.inr hp
  | userFilter => exact Or.inl ⟨by simp, fun p hp => by rwa [offer_cell _ _ (by simp)] at hp⟩
  | stop => exact Or.inl ⟨by simp, fun p hp => by rwa [offer_cell _ _ (by simp)] at hp⟩
  | _ => exact Or.inl ⟨rfl, fun _ hp => hp⟩

/-- Forgetting the driver and the planes, every session run is a run of `Mem.World` whose copies
include the cell the driver holds. -/
theorem Reachable.world (h : Reachable g growslice conn σ) :
    ∃ sns, (⟨σ.heap, σ.entity, sns⟩ : Mem.World).Reachable g growslice ∧
      ∀ p, σ.subscription.cell = some p → p ∈ sns := by
  induction h with
  | init hp t _ _ => exact ⟨[], .init hp, fun _ h => Option.noConfusion h⟩
  | step _ hs ih =>
    obtain ⟨sns, hw, hsub⟩ := ih
    rcases hs.world sns with ⟨he, hc⟩ | ⟨loc, he, hc⟩
    · exact ⟨sns, he ▸ hw, fun p hp => hsub p (hc p hp)⟩
    · refine ⟨_, he ▸ hw.update loc, fun p hp => ?_⟩
      rcases hc p hp with hn | hp'
      · simp [hn]
      · exact List.mem_append_left _ (hsub p hp')

end Session

open Session

/-- The heap the runs below start from. -/
def emptyHeap : Heap := ⟨fun _ => [], 0⟩

/-- The geometry of the runs below: every location is in cell 5, whose covering is itself. -/
def cellFive : Geometry := ⟨fun _ => 5, fun id => [id]⟩

/-- After `ReadPump` has returned, the driver is still in its loop, and at the entity's next
move it subscribes the closed connection to the cell plane, whatever capacity `append` would
grow a slice to. -/
theorem closed_connection_resubscribed (growslice : Nat → Nat) :
    ∃ σ : Session Nat, Reachable cellFive growslice 1 σ ∧ σ.pump = .returned ∧
      σ.driver = .waiting ∧ σ.topology.cellSubscriber.connections 1 = some {"5"} :=
  ⟨_, .step (.step (.step (.step (.step (.step (.init emptyHeap makeTopology rfl rfl)
      (.readPump _ rfl)) (.start _ rfl (by decide))) (.stop _ rfl))
      (.finish _ none Runtime.accepting rfl Runtime.accepting_succeeds))
      (.update _ ⟨0, 0, 0, 0, 0⟩))
      (.finish _ (some (.subscribeToCell ⟨5, ⟨0, 1, 9⟩⟩)) Runtime.accepting rfl
        Runtime.accepting_succeeds),
    rfl, rfl, by
      simp [runCall, DriverCall.toTopologyCall, TopologyCall.exec, mapEntry, channelNames,
        Topology.subscribeToCell_connections Runtime.accepting_succeeds, Mem.Cell.read,
        Slice.read, Session.update, Mem.Entity.update, Mem.Cell.changed,
        Mem.Cell.updateBoundingCells, cellFive, Mem.makeEntity, Mem.makeCell, appendEach, append,
        emptyHeap]
      rfl⟩

end Envisilab
