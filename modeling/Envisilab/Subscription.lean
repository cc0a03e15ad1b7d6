import Envisilab.Topology

/-!
# The subscription driver

A `Subscription` (`core/subscriber.go`) is the single writer of one connection's
subscriptions. `Start` loops forever: it receives a value from its `input` channel and, by
the value's type, remembers a cell (subscribing to it while the filter is "local"), switches
to a new user filter, or ignores a string. `startStep` is one pass of that loop; it returns
the `Context` method the pass calls. The loop never looks inside a cell, so it is written once
for any way of holding one: `Cell` values here, and in `Session` the `*Cell` pointers over the
heap that `Entity.Update` passes. `runCall` runs the method as `DataStoreContext` does, reading
the cell when the method runs; its `SubscribeToGroup` always passes `unsubscribe = true`.
`SimulatorContext` makes the same topology calls.

`Driven` collects the states of one driver and the topology after any sequence of received
values, with plane calls of other connections in between, under an accepting broker.
`Tracks` is what the driver's state says about its connection's subscriptions, and
`Driven.tracks` shows every such state satisfies it. Its step lemma, `Tracks.receive`, reads
the driver's cells through any function, as `Session` needs.

Two things the design does not do. A local filter that arrives before any cell does not
clear an earlier group subscription (`group_then_local_keeps_group`): until a cell arrives,
the group plane holds the value of the last group filter. And no filter value is checked
against the entity's groups, so a client holds in the group plane whatever channel it names,
a cell's channel included (`group_filter_holds_cell_channel`).
-/

namespace Envisilab

/-- A value received on a subscription's `input` channel: a `*Cell`, a `*UserFilter`, or a
string. `C` is how the cell is held. -/
inductive Event (C : Type)
  | cell (cell : C)
  | filter (uf : UserFilter)
  | text (s : String)
deriving DecidableEq, Repr

/-- The state of a `Subscription`: its last cell and its current filter. -/
structure Subscription (C : Type) where
  cell : Option C
  filter : UserFilter
deriving DecidableEq, Repr

/-- The `Context` method a pass of the loop calls. -/
inductive DriverCall (C : Type)
  | subscribeToCell (cell : C)
  | subscribeToGroup (groupId : String)
deriving DecidableEq, Repr

variable {C : Type}

/-- `MakeSubscription`: no cell yet, and the filter `{local, ""}`. -/
def makeSubscription : Subscription C := ⟨none, ⟨"local", ""⟩⟩

/-- One pass of the loop of `Subscription.Start`, and the method it calls. A string, "stop"
included, changes nothing: its `break` leaves the `switch`, not the loop. -/
def Subscription.startStep (s : Subscription C) : Event C → Subscription C × Option (DriverCall C)
  | .cell c =>
    ({ s with cell := some c }, if s.filter.type = "local" then some (.subscribeToCell c) else none)
  | .filter uf =>
    ({ s with filter := uf },
      if uf.type ≠ s.filter.type ∨ uf.value ≠ s.filter.value then
        if uf.type = "group" then some (.subscribeToGroup uf.value)
        else if uf.type = "local" then s.cell.map .subscribeToCell
        else none
      else none)
  | .text _ => (s, none)

/-- The driver's state with each cell read through `read`. -/
def Subscription.map {D : Type} (read : C → D) (s : Subscription C) : Subscription D :=
  ⟨s.cell.map read, s.filter⟩

@[simp] lemma Subscription.map_id (s : Subscription C) : s.map id = s := by
  cases s; simp [Subscription.map]

/-- `DataStoreContext`'s topology method for a request, with the cell read by `read` when the
method runs. -/
def DriverCall.toTopologyCall (read : C → Cell) : DriverCall C → TopologyCall
  | .subscribeToCell c => .subscribeToCell (read c)
  | .subscribeToGroup groupId => .subscribeToGroup groupId true

/-- The value of a group filter, the channel `SubscribeToGroup` is called with for it. -/
def Event.groupValue : Event C → Option String
  | .filter uf => if uf.type = "group" then some uf.value else none
  | _ => none

/-- The value of the last group filter among the values received, oldest first. -/
def lastGroupValue (evs : List (Event C)) : Option String :=
  evs.foldl (fun v e => e.groupValue.or v) none

@[simp] lemma lastGroupValue_nil : lastGroupValue ([] : List (Event C)) = none := rfl

@[simp] lemma lastGroupValue_snoc (evs : List (Event C)) (e : Event C) :
    lastGroupValue (evs ++ [e]) = e.groupValue.or (lastGroupValue evs) := by
  simp [lastGroupValue]

variable {Conn : Type}

/-- What the driver's state says about its connection's subscriptions, after it has received
`evs`. -/
structure Tracks (conn : Conn) (evs : List (Event C)) (s : Subscription Cell) (t : Topology Conn) :
    Prop where
  /-- A group filter: on that group's channel only. -/
  group : s.filter.type = "group" →
    t.groupSubscriber.connections conn = some {s.filter.value} ∧
      t.cellSubscriber.connections conn = none
  /-- A local filter and a cell: on the cells' channels only. -/
  local_cell : s.filter.type = "local" → ∀ c, s.cell = some c →
    t.cellSubscriber.connections conn = mapEntry (channelNames c.cellGroup) ∧
      t.groupSubscriber.connections conn = none
  /-- No cell yet: off the cell plane. -/
  no_cell : s.cell = none → t.cellSubscriber.connections conn = none
  /-- No cell yet: on the channel of the last group filter, if there was one. -/
  last_group : s.cell = none →
    t.groupSubscriber.connections conn = (lastGroupValue evs).map fun v => {v}
  /-- At most one group channel. -/
  group_card : (t.groupSubscriber.channelsOf conn).card ≤ 1
  /-- Every group channel is the value of a group filter the driver received. -/
  group_sent : ∀ ch ∈ t.groupSubscriber.channelsOf conn, Event.filter ⟨"group", ch⟩ ∈ evs

namespace Tracks

variable {conn : Conn} {evs : List (Event C)} {s : Subscription Cell} {t : Topology Conn}

/-- A value received that changes nothing and is not a group filter keeps the driver
tracked. -/
lemma snoc (ht : Tracks conn evs s t) (e : Event C) (he : e.groupValue = none) :
    Tracks conn (evs ++ [e]) s t :=
  { ht with
    last_group := by simpa [he] using ht.last_group
    group_sent := fun ch hch => List.mem_append_left _ (ht.group_sent ch hch) }

/-- The driver's own filter received again keeps it tracked. -/
lemma snoc_filter (ht : Tracks conn evs s t) : Tracks conn (evs ++ [.filter s.filter]) s t := by
  by_cases hg : s.filter.type = "group"
  · exact { ht with
      last_group := fun _ => by simp [Event.groupValue, hg, (ht.group hg).1]
      group_sent := fun ch hch => List.mem_append_left _ (ht.group_sent ch hch) }
  · exact ht.snoc _ (by simp [Event.groupValue, hg])

/-- The driver's initial state is tracked while its connection is in neither plane. -/
lemma init (hc : t.cellSubscriber.connections conn = none)
    (hg : t.groupSubscriber.connections conn = none) :
    Tracks conn ([] : List (Event C)) makeSubscription t := by
  refine ⟨fun h => absurd h (by decide), fun _ _ h => Option.noConfusion h, fun _ => hc,
    fun _ => by simpa using hg, ?_, ?_⟩
  all_goals simp [Subscriber.channelsOf, hg]

/-- `Tracks` reads the connection's own two keys only. -/
lemma of_agreeOn (ht : Tracks conn evs s t) {t' : Topology Conn}
    (hA : Topology.AgreeOn conn t' t) : Tracks conn evs s t' := by
  have hc : t'.cellSubscriber.connections conn = t.cellSubscriber.connections conn := hA .cell
  have hg : t'.groupSubscriber.connections conn = t.groupSubscriber.connections conn := hA .group
  have hG : t'.groupSubscriber.channelsOf conn = t.groupSubscriber.channelsOf conn :=
    congrArg (·.getD ∅) hg
  exact ⟨by rw [hc, hg]; exact ht.group, by rw [hc, hg]; exact ht.local_cell,
    by rw [hc]; exact ht.no_cell, by rw [hg]; exact ht.last_group, hG ▸ ht.group_card,
    hG ▸ ht.group_sent⟩

/-- A cell received under a filter other than "local" asks for nothing and keeps the driver
tracked. -/
lemma of_cell_idle (ht : Tracks conn evs s t) (hl : s.filter.type ≠ "local") (c : Cell) :
    Tracks conn evs { s with cell := some c } t :=
  { ht with
    local_cell := fun h => absurd h hl
    no_cell := fun h => Option.noConfusion h
    last_group := fun h => Option.noConfusion h }

/-- So does a filter that is not "group", and is "local" only while no cell is known. -/
lemma of_filter_idle (ht : Tracks conn evs s t) {uf : UserFilter} (hg : uf.type ≠ "group")
    (hl : uf.type = "local" → s.cell = none) : Tracks conn evs { s with filter := uf } t :=
  { ht with
    group := fun h => absurd h hg
    local_cell := fun h _ hc => Option.noConfusion ((hl h).symm.trans hc) }

end Tracks

variable [DecidableEq Conn]

/-- Run the method a pass of the loop asked for, if any, reading its cell through `read`. -/
def runCall (read : C → Cell) (rt : Runtime) (conn : Conn) :
    Option (DriverCall C) → Topology Conn → Topology Conn
  | none, t => t
  | some m, t => ((m.toTopologyCall read).exec rt conn t).1

/-- A pass's method run on two topologies that agree on a connection's keys keeps them
agreeing. -/
lemma runCall_agreeOn {read : C → Cell} {rt : Runtime} {conn : Conn} {t t' : Topology Conn}
    (h : rt.Succeeds) (hA : Topology.AgreeOn conn t t') (call : Option (DriverCall C)) :
    Topology.AgreeOn conn (runCall read rt conn call t) (runCall read rt conn call t') := by
  cases call
  · exact hA
  · exact hA.exec h _

/-- The driver of `conn` and the topology after the driver has received the cell values `evs`,
oldest first. The method a pass asks for runs in one piece; other connections make plane calls
in between. The broker accepts every command. -/
inductive Driven (conn : Conn) : List (Event Cell) → Subscription Cell → Topology Conn → Prop
  | init (t : Topology Conn) : t.cellSubscriber.connections conn = none →
      t.groupSubscriber.connections conn = none → Driven conn [] makeSubscription t
  | receive {evs : List (Event Cell)} {s : Subscription Cell} {t : Topology Conn} (e : Event Cell)
      (rt : Runtime) : Driven conn evs s t → rt.Succeeds →
      Driven conn (evs ++ [e]) (s.startStep e).1 (runCall id rt conn (s.startStep e).2 t)
  | other {evs : List (Event Cell)} {s : Subscription Cell} {t : Topology Conn} (conn' : Conn)
      (st : Plane × PlaneCall) (rt : Runtime) :
      Driven conn evs s t → conn' ≠ conn → rt.Succeeds → Driven conn evs s (t.step rt conn' st).1

namespace Tracks

variable {conn : Conn} {evs : List (Event C)} {s : Subscription C} {t : Topology Conn}
  {rt : Runtime} {r₀ : C → Cell}

/-- Right after `SubscribeToCell c`, a driver with a local filter and cell `c` is tracked. -/
lemma of_subscribeToCell {s : Subscription Cell} (h : rt.Succeeds) {c : Cell} (hl : s.filter.type = "local")
    (hc : s.cell = some c) : Tracks conn evs s (t.subscribeToCell rt conn c).1 := by
  obtain ⟨hcell, hgroup⟩ := Topology.subscribeToCell_connections h conn t c
  refine ⟨fun hg => by simp_all, fun _ c' hc' => ?_, fun hn => by simp_all,
    fun hn => by simp_all, ?_, ?_⟩
  · obtain rfl : c = c' := Option.some_injective _ (hc.symm.trans hc')
    exact ⟨hcell, hgroup⟩
  · simp [Subscriber.channelsOf, hgroup]
  · simp [Subscriber.channelsOf, hgroup]

/-- Right after `SubscribeToGroup v`, a driver with the filter `{group, v}` is tracked, once
that filter is the last group filter received. -/
lemma of_subscribeToGroup {s : Subscription Cell} (h : rt.Succeeds) {v : String} (hf : s.filter = ⟨"group", v⟩)
    (hin : Event.filter ⟨"group", v⟩ ∈ evs) (hlast : lastGroupValue evs = some v) :
    Tracks conn evs s (t.subscribeToGroup rt conn v true).1 := by
  obtain ⟨hcell, hgroup⟩ := Topology.subscribeToGroup_connections h conn t v
  refine ⟨fun _ => by simp [hf, hcell, hgroup], fun hl => by simp [hf] at hl, fun _ => hcell,
    fun _ => by simp [hgroup, hlast], ?_, ?_⟩
  · simp [Subscriber.channelsOf, hgroup]
  · simpa [Subscriber.channelsOf, hgroup] using hin

/-- One pass of the driver's loop keeps it tracked. The driver's cells are read through `r₀`
before the pass; a pass that calls a method reads them through `r`, as the method does, and a
pass that calls none keeps `r₀`. A method leaves the connection's keys as the new state asks
whatever they were before, so only the idle passes need the old state tracked. -/
lemma receive (ht : Tracks conn evs (s.map r₀) t) (h : rt.Succeeds) (r : C → Cell)
    (e : Event C) :
    Tracks conn (evs ++ [e])
      ((s.startStep e).1.map (if (s.startStep e).2.isSome then r else r₀))
      (runCall r rt conn (s.startStep e).2 t) := by
  cases e with
  | cell c =>
    by_cases hl : s.filter.type = "local"
    · simp only [Subscription.startStep, if_pos hl, Option.isSome_some, if_true]
      exact of_subscribeToCell h hl rfl
    · simp only [Subscription.startStep, if_neg hl, Option.isSome_none]
      exact (ht.snoc (.cell c) rfl).of_cell_idle hl (r₀ c)
  | filter uf =>
    by_cases hs : uf.type ≠ s.filter.type ∨ uf.value ≠ s.filter.value
    · by_cases hg : uf.type = "group"
      · -- a new group filter: `SubscribeToGroup`
        simp only [Subscription.startStep, if_pos hs, if_pos hg, Option.isSome_some, if_true]
        obtain ⟨ty, v⟩ := uf
        subst hg
        exact of_subscribeToGroup h rfl (List.mem_append_right _ (List.mem_singleton_self _))
          (by simp [Event.groupValue])
      have he : (Event.filter uf : Event C).groupValue = none := by simp [Event.groupValue, hg]
      by_cases hl : uf.type = "local"
      · -- a new local filter: `SubscribeToCell` of the remembered cell, if there is one
        rcases hc : s.cell with _ | p
        · simp only [Subscription.startStep, if_pos hs, if_neg hg, if_pos hl, hc, Option.map_none',
            Option.isSome_none, Bool.false_eq_true, if_false, runCall]
          simpa [Subscription.map, hc] using
            (ht.snoc _ he).of_filter_idle hg fun _ => by simp [Subscription.map, hc]
        · simp only [Subscription.startStep, if_pos hs, if_neg hg, if_pos hl, hc,
            Option.map_some', Option.isSome_some, if_true]
          exact of_subscribeToCell h hl (by simp [Subscription.map, hc])
      · -- any other new filter: no method
        simp only [Subscription.startStep, if_pos hs, if_neg hg, if_neg hl, Option.isSome_none]
        exact (ht.snoc _ he).of_filter_idle hg fun h => absurd h hl
    · -- the same filter again: nothing changes
      have huf : uf = s.filter := by
        obtain ⟨ty, v⟩ := uf
        simp only [not_or, not_not] at hs
        simp [hs.1, hs.2]
      subst huf
      simpa [Subscription.startStep] using ht.snoc_filter
  | text x => simpa [Subscription.startStep] using ht.snoc (.text x) rfl

/-- A plane call of another connection keeps the driver tracked. -/
lemma other {s : Subscription Cell} (ht : Tracks conn evs s t) (h : rt.Succeeds) {conn' : Conn}
    (hne : conn ≠ conn') (st : Plane × PlaneCall) : Tracks conn evs s (t.step rt conn' st).1 :=
  ht.of_agreeOn (Topology.agreeOn_step_of_ne h t hne st)

end Tracks

/-- Every state of a driven connection is tracked. -/
lemma Driven.tracks {conn : Conn} {evs : List (Event Cell)} {s : Subscription Cell}
    {t : Topology Conn} (h : Driven conn evs s t) : Tracks conn evs s t := by
  induction h with
  | init t hc hg => exact .init hc hg
  | @receive evs s t e rt _ hs ih =>
    have ih' : Tracks conn evs (s.map id) t := by rwa [Subscription.map_id]
    simpa using ih'.receive hs id e
  | other conn' st rt _ hne hs ih => exact ih.other hs (Ne.symm hne) st

/-! ## What the filters leave -/

section Driven

variable {conn : Conn} {evs : List (Event Cell)} {s : Subscription Cell} {t : Topology Conn}

/-- What each filter leaves of a driven connection's subscriptions. A local filter that arrives
before any cell leaves the connection off the cell plane, but clears nothing of the group
plane: the connection is still on the channel of the last group filter, if there was one. -/
theorem Driven.filter_subscriptions (h : Driven conn evs s t) :
    (s.filter.type = "group" →
      t.groupSubscriber.connections conn = some {s.filter.value} ∧
        t.cellSubscriber.connections conn = none) ∧
    (s.filter.type = "local" → ∀ c, s.cell = some c →
      t.cellSubscriber.connections conn = mapEntry (channelNames c.cellGroup) ∧
        t.groupSubscriber.connections conn = none) ∧
    (s.filter.type = "local" → s.cell = none →
      t.cellSubscriber.connections conn = none ∧
        t.groupSubscriber.connections conn = (lastGroupValue evs).map fun v => {v}) :=
  ⟨h.tracks.group, h.tracks.local_cell, fun _ hn => ⟨h.tracks.no_cell hn, h.tracks.last_group hn⟩⟩

/-- A group filter, then a local one before any cell: the driver's filter is local and it has
no cell, and the connection is still on the group's channel, the value of the last group
filter. -/
theorem groupThenLocal_filter_subscriptions :
    (let e₁ : Event Cell := .filter ⟨"group", "g"⟩
    let e₂ : Event Cell := .filter ⟨"local", ""⟩
    let s₁ := (makeSubscription.startStep e₁).1
    let t₁ := runCall id Runtime.accepting (1 : Nat) (makeSubscription.startStep e₁).2 makeTopology
    let s := (s₁.startStep e₂).1
    let t := runCall id Runtime.accepting 1 (s₁.startStep e₂).2 t₁
    Driven 1 [e₁, e₂] s t ∧ s.filter.type = "local" ∧ s.cell = none ∧
    ((s.filter.type = "group" →
      t.groupSubscriber.connections 1 = some {s.filter.value} ∧
        t.cellSubscriber.connections 1 = none) ∧
    (s.filter.type = "local" → ∀ c, s.cell = some c →
      t.cellSubscriber.connections 1 = mapEntry (channelNames c.cellGroup) ∧
        t.groupSubscriber.connections 1 = none) ∧
    (s.filter.type = "local" → s.cell = none →
      t.cellSubscriber.connections 1 = none ∧
        t.groupSubscriber.connections 1 = (lastGroupValue [e₁, e₂]).map fun v => {v}))) :=
  have hd : Driven 1 [.filter ⟨"group", "g"⟩, .filter ⟨"local", ""⟩] _ _ :=
    .receive (.filter ⟨"local", ""⟩) Runtime.accepting
      (.receive (.filter ⟨"group", "g"⟩) Runtime.accepting (.init makeTopology rfl rfl)
        Runtime.accepting_succeeds) Runtime.accepting_succeeds
  ⟨hd, rfl, rfl, Driven.filter_subscriptions hd⟩

/-- A group filter, then a local one before any cell: the driver's filter is local and it has
no cell, yet the connection is still on the group's channel. -/
theorem group_then_local_keeps_group :
    ∃ s t, Driven (1 : Nat) [.filter ⟨"group", "g"⟩, .filter ⟨"local", ""⟩] s t ∧
      s.filter.type = "local" ∧ s.cell = none ∧ t.groupSubscriber.connections 1 = some {"g"} :=
  ⟨_, _, .receive (.filter ⟨"local", ""⟩) Runtime.accepting
    (.receive (.filter ⟨"group", "g"⟩) Runtime.accepting (.init makeTopology rfl rfl)
      Runtime.accepting_succeeds) Runtime.accepting_succeeds, rfl, rfl,
    by simp [Subscription.startStep, makeSubscription, runCall, DriverCall.toTopologyCall,
      TopologyCall.exec, Topology.subscribeToGroup_connections Runtime.accepting_succeeds]⟩

/-- The group plane holds a driven connection on at most one channel, and on a channel only if
the client sent a group filter naming it, whatever string that filter carries. -/
theorem Driven.group_channel_requested (h : Driven conn evs s t) :
    (t.groupSubscriber.channelsOf conn).card ≤ 1 ∧
      ∀ ch ∈ t.groupSubscriber.channelsOf conn, Event.filter ⟨"group", ch⟩ ∈ evs :=
  ⟨h.tracks.group_card, h.tracks.group_sent⟩

/-- After a group filter, the driven connection's group channel is that filter's value. -/
theorem groupFilter_group_channel_requested :
    let e : Event Cell := .filter ⟨"group", "g"⟩
    let s := (makeSubscription.startStep e).1
    let t := runCall id Runtime.accepting (1 : Nat) (makeSubscription.startStep e).2 makeTopology
    Driven 1 [e] s t ∧ ((t.groupSubscriber.channelsOf 1).card ≤ 1 ∧
      ∀ ch ∈ t.groupSubscriber.channelsOf 1, Event.filter ⟨"group", ch⟩ ∈ [e]) :=
  have hd := Driven.receive (Event.filter ⟨"group", "g"⟩) Runtime.accepting
    (.init (makeTopology : Topology Nat) rfl rfl) Runtime.accepting_succeeds
  ⟨hd, Driven.group_channel_requested hd⟩

/-- No filter value is checked against the entity's groups: a client that sends the filter
`{group, "12345"}` is put on the channel of cell 12345, although its entity, as
`CreateEntity` makes it, is in no group. -/
theorem group_filter_holds_cell_channel :
    ∃ s t, Driven (1 : Nat) [.filter ⟨"group", formatUint 12345⟩] s t ∧
      formatUint 12345 ∈ t.groupSubscriber.channelsOf 1 ∧
      formatUint 12345 ∈ channelNames [12345] ∧
      formatUint 12345 ∉ makeEntity.groups.map Group.uuid :=
  ⟨_, _, .receive (.filter ⟨"group", formatUint 12345⟩) Runtime.accepting
    (.init makeTopology rfl rfl) Runtime.accepting_succeeds,
    by simp [Subscriber.channelsOf, Subscription.startStep, makeSubscription, runCall,
      DriverCall.toTopologyCall, TopologyCall.exec,
      Topology.subscribeToGroup_connections Runtime.accepting_succeeds],
    by simp [channelNames], by simp [makeEntity]⟩

end Driven

end Envisilab
