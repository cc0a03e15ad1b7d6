import Envisilab.Topology

/-!
# Broadcast and delivery

`Topology.Broadcast` publishes a message on the channel of the entity's cell and, unless that
publish fails, on the channel of each of its groups. The broker hands a message published on a
channel to every `PubSubConn` subscribed to it, and the receive loop of each plane
(`Subscriber.Run`) writes it to every connection of the channel.

The broker's side of a plane's connection is read off the log of the commands it accepted by
`subscribed`, the way Redis keeps a subscription set (the latest command for a channel
decides); `subscribed_iff_balance` ties it to the `balance` that `WellFormed` speaks of.

The topologies that `DataStoreContext`'s methods reach keep `ContextInv`: both planes well
formed, no connection in both planes, at most one group channel per connection, and only cell
channels in the cell plane. A broadcast then writes to each connection at most once, and
exactly when the connection holds one of the published channels, provided no group's `Uuid`
reads as a cell channel (`ContextReachable.broadcast_writes`). Distinct `Uuid`s that differ
from the entity's own cell channel are not enough: a group named like another cell of a
connection's covering has its message written twice (`group_named_like_covering_cell`).

`DataStoreContext.Broadcast` first writes the location to the archive when its store is
connected, and returns the write's error without publishing (`archive_write_decides_broadcast`).
No store the code builds is connected, as `Connect` never keeps its handle
(`DataStore.Reachable.not_connected`). So through every store the code builds the broadcast is
`Topology.Broadcast`'s, whatever the archive write would give
(`DataStore.Reachable.broadcast_ignores_archive`).
-/

namespace Envisilab

/-! ## Cell channels are decimal -/

/-- `Nat.digitChar` writes a decimal digit as a digit character. -/
lemma isDigit_digitChar {d : Nat} (h : d < 10) : (Nat.digitChar d).isDigit := by
  have key : ∀ d : Fin 10, (Nat.digitChar d).isDigit := by decide
  exact key ⟨d, h⟩

/-- `Nat.toDigitsCore` in base 10 prepends digit characters only. -/
lemma isDigit_of_mem_toDigitsCore (fuel n : Nat) {ds : List Char} (hds : ∀ x ∈ ds, x.isDigit) :
    ∀ x ∈ Nat.toDigitsCore 10 fuel n ds, x.isDigit := by
  induction fuel generalizing n ds with
  | zero => exact hds
  | succ fuel ih =>
    have hd : ∀ x ∈ Nat.digitChar (n % 10) :: ds, x.isDigit :=
      List.forall_mem_cons.2 ⟨isDigit_digitChar (Nat.mod_lt n (by decide)), hds⟩
    show ∀ x ∈ (if n / 10 = 0 then Nat.digitChar (n % 10) :: ds
      else Nat.toDigitsCore 10 fuel (n / 10) (Nat.digitChar (n % 10) :: ds)), x.isDigit
    split_ifs
    · exact hd
    · exact ih _ hd

/-- A cell channel is a string of decimal digits. -/
lemma isDigit_of_mem_formatUint (id : CellID) : ∀ x ∈ (formatUint id).toList, x.isDigit :=
  isDigit_of_mem_toDigitsCore _ _ fun _ h => absurd h (List.not_mem_nil _)

/-- So a string with a character other than a decimal digit, as every UUID string has, is no
cell channel. -/
lemma ne_formatUint {s : String} (h : ∃ x ∈ s.toList, x.isDigit = false) (id : CellID) :
    s ≠ formatUint id := by
  rintro rfl
  obtain ⟨x, hx, hn⟩ := h
  simp [isDigit_of_mem_formatUint id x hx] at hn

/-! ## The broker's subscription set -/

/-- Whether the broker holds `ch` among a connection's subscriptions, read off the log of the
commands it accepted, latest first: the latest command for `ch` decides. -/
def subscribed : List BrokerCall → String → Bool
  | [], _ => false
  | .subscribe c :: l, ch => if c = ch then true else subscribed l ch
  | .unsubscribe c :: l, ch => if c = ch then false else subscribed l ch

/-- On a well-issued log the balance of a channel is 0 or 1, and it is 1 exactly when the
broker holds the channel. -/
theorem subscribed_iff_balance {l : List BrokerCall} (h : WellIssued l) (ch : String) :
    (balance l ch = 0 ∨ balance l ch = 1) ∧ (subscribed l ch = true ↔ balance l ch = 1) := by
  induction l with
  | nil => simp [balance, subscribed]
  | cons b l ih =>
    cases b with
    | subscribe c =>
      obtain ⟨hl, hc⟩ := h
      by_cases hch : c = ch
      · subst hch; simp [balance, subscribed, hc]
      · simpa [balance, subscribed, hch] using ih hl
    | unsubscribe c =>
      obtain ⟨hl, hc⟩ := h
      by_cases hch : c = ch
      · subst hch; simp [balance, subscribed, hc]
      · simpa [balance, subscribed, hch] using ih hl

/-! ## The topologies the context reaches -/

/-- A subscription method of `DataStoreContext`; its `SubscribeToGroup` passes
`unsubscribe = true`. -/
inductive ContextCall
  | subscribeToCell (cell : Cell)
  | subscribeToGroup (groupId : String)
  | unsubscribeFromGroups
  | unsubscribe
deriving DecidableEq, Repr

/-- The topology method a context method runs. -/
def ContextCall.toTopologyCall : ContextCall → TopologyCall
  | .subscribeToCell cell => .subscribeToCell cell
  | .subscribeToGroup groupId => .subscribeToGroup groupId true
  | .unsubscribeFromGroups => .unsubscribeFromGroups
  | .unsubscribe => .unsubscribe

/-- `Topology.Broadcast` with the outcome `publish` of each publish: the channels it publishes
on, in order, and its error, the cell channel whose publish failed. The group publishes'
errors are discarded. -/
def broadcast (publish : String → Bool) (e : Entity) : List String × Option String :=
  let cellIdStr := formatUint e.cell.s2cellID
  if publish cellIdStr then (cellIdStr :: e.groups.map Group.uuid, none)
  else ([cellIdStr], some cellIdStr)

/-- When every publish succeeds, a broadcast publishes on the cell's channel and then on each
group's. -/
@[simp] lemma broadcast_accepted (e : Entity) :
    (broadcast (fun _ => true) e).1 = formatUint e.cell.s2cellID :: e.groups.map Group.uuid :=
  rfl

/-- On a list without repeats, at most as many entries as `S` has lie in `S`. -/
lemma countP_mem_le_card {l : List String} (hl : l.Nodup) (S : Finset String) :
    l.countP (· ∈ S) ≤ S.card := by
  rw [List.countP_eq_length_filter, ← List.toFinset_card_of_nodup (hl.filter _)]
  exact Finset.card_le_card fun x hx => by
    simpa using (List.mem_filter.1 (List.mem_toFinset.1 hx)).2

/-- The channels of a broadcast whose publishes all succeed have no repeats, when the group
`Uuid`s have none and none of them reads as a cell channel. -/
lemma broadcast_nodup {e : Entity} (hnd : (e.groups.map Group.uuid).Nodup)
    (hu : ∀ g ∈ e.groups, ∃ x ∈ g.uuid.toList, x.isDigit = false) :
    (broadcast (fun _ => true) e).1.Nodup := by
  refine List.nodup_cons.2 ⟨fun hm => ?_, hnd⟩
  obtain ⟨g, hg, hgu⟩ := List.mem_map.1 hm
  exact ne_formatUint (hu g hg) _ hgu

variable {Conn : Type}

/-- What the context's methods keep of a connection's entries. -/
structure ConnInv (t : Topology Conn) (c : Conn) : Prop where
  /-- In at most one plane. -/
  exclusive : t.cellSubscriber.connections c = none ∨ t.groupSubscriber.connections c = none
  /-- At most one group channel. -/
  group_card : (t.groupSubscriber.channelsOf c).card ≤ 1
  /-- Only cell channels in the cell plane. -/
  cell_decimal : ∀ ch ∈ t.cellSubscriber.channelsOf c, ∃ id, ch = formatUint id

/-- The invariant of the topologies the context reaches. -/
structure ContextInv (t : Topology Conn) : Prop where
  cell_wellFormed : t.cellSubscriber.WellFormed
  group_wellFormed : t.groupSubscriber.WellFormed
  conn : ∀ c, ConnInv t c

/-- A connection absent from a plane holds none of its channels. -/
lemma countP_channelsOf_eq_zero {s : Subscriber Conn} {c : Conn} (h : s.connections c = none)
    (chs : List String) : chs.countP (· ∈ s.channelsOf c) = 0 := by
  simp [Subscriber.channelsOf, h]

namespace ConnInv

variable {t t' : Topology Conn} {c : Conn}

/-- `ConnInv` reads the connection's own two keys only. -/
lemma of_agreeOn (hi : ConnInv t c) (hA : Topology.AgreeOn c t' t) : ConnInv t' c := by
  have hc : t'.cellSubscriber.connections c = t.cellSubscriber.connections c := hA .cell
  have hg : t'.groupSubscriber.connections c = t.groupSubscriber.connections c := hA .group
  have hC : t'.cellSubscriber.channelsOf c = t.cellSubscriber.channelsOf c := congrArg (·.getD ∅) hc
  have hG : t'.groupSubscriber.channelsOf c = t.groupSubscriber.channelsOf c :=
    congrArg (·.getD ∅) hg
  exact ⟨by rw [hc, hg]; exact hi.exclusive, hG ▸ hi.group_card, hC ▸ hi.cell_decimal⟩

/-- A connection holds at most one group channel, and a broadcast publishes each channel once. -/
lemma countP_group_le_one {e : Entity} (hi : ConnInv t c) (hnd : (e.groups.map Group.uuid).Nodup)
    (hu : ∀ g ∈ e.groups, ∃ x ∈ g.uuid.toList, x.isDigit = false) :
    (broadcast (fun _ => true) e).1.countP (· ∈ t.groupSubscriber.channelsOf c) ≤ 1 :=
  (countP_mem_le_card (broadcast_nodup hnd hu) _).trans hi.group_card

/-- A connection holds only cell channels in the cell plane, and of the channels a broadcast
publishes only the first is one. -/
lemma countP_cell_le_one {e : Entity} (hi : ConnInv t c)
    (hu : ∀ g ∈ e.groups, ∃ x ∈ g.uuid.toList, x.isDigit = false) :
    (broadcast (fun _ => true) e).1.countP (· ∈ t.cellSubscriber.channelsOf c) ≤ 1 := by
  have hgr : (e.groups.map Group.uuid).countP (· ∈ t.cellSubscriber.channelsOf c) = 0 := by
    refine List.countP_eq_zero.2 fun ch hm hc => ?_
    obtain ⟨g, hg, rfl⟩ := List.mem_map.1 hm
    obtain ⟨id, hid⟩ := hi.cell_decimal _ (by simpa using hc)
    exact ne_formatUint (hu g hg) id hid
  rw [broadcast_accepted, List.countP_cons, hgr]
  split_ifs <;> simp

end ConnInv

variable [DecidableEq Conn]

/-- The topologies reached from `MakeTopology` by context methods of any connections, each run
in one piece, with an accepting broker. -/
inductive ContextReachable : Topology Conn → Prop
  | init : ContextReachable makeTopology
  | step {t : Topology Conn} {rt : Runtime} (conn : Conn) (call : ContextCall) :
      ContextReachable t → rt.Succeeds → rt.Enumerates →
      ContextReachable (call.toTopologyCall.exec rt conn t).1

namespace ConnInv

variable {t : Topology Conn} {c : Conn} {rt : Runtime}

/-- Each context method leaves its own connection's entries as `ConnInv` says. -/
lemma exec (hi : ConnInv t c) (h : rt.Succeeds) (call : ContextCall) :
    ConnInv (call.toTopologyCall.exec rt c t).1 c := by
  cases call <;> simp only [ContextCall.toTopologyCall, TopologyCall.exec]
  case subscribeToCell cell =>
    obtain ⟨hcell, hgroup⟩ := Topology.subscribeToCell_connections h c t cell
    refine ⟨.inr hgroup, by simp [Subscriber.channelsOf, hgroup], fun ch hch => ?_⟩
    simp only [Subscriber.channelsOf, hcell, mapEntry_getD, channelNames, List.mem_toFinset,
      List.mem_map] at hch
    obtain ⟨id, -, rfl⟩ := hch
    exact ⟨id, rfl⟩
  case subscribeToGroup groupId =>
    obtain ⟨hcell, hgroup⟩ := Topology.subscribeToGroup_connections h c t groupId
    exact ⟨.inl hcell, by simp [Subscriber.channelsOf, hgroup],
      by simp [Subscriber.channelsOf, hcell]⟩
  case unsubscribeFromGroups =>
    obtain ⟨hcell, hgroup⟩ := Topology.unsubscribeFromGroups_connections h c t
    refine ⟨.inr hgroup, by simp [Subscriber.channelsOf, hgroup], ?_⟩
    simpa only [hcell] using hi.cell_decimal
  case unsubscribe =>
    obtain ⟨hcell, hgroup⟩ := Topology.unsubscribe_connections h c t
    exact ⟨.inl hcell, by simp [Subscriber.channelsOf, hgroup],
      by simp [Subscriber.channelsOf, hcell]⟩

end ConnInv

/-- Every context method keeps the invariant. -/
lemma ContextInv.step {t : Topology Conn} {rt : Runtime} (hi : ContextInv t) (h : rt.Succeeds)
    (ho : rt.Enumerates) (conn : Conn) (call : ContextCall) :
    ContextInv (call.toTopologyCall.exec rt conn t).1 := by
  obtain ⟨hc, hg⟩ := Topology.wellFormed_exec h ho call.toTopologyCall hi.cell_wellFormed
    hi.group_wellFormed
  refine ⟨hc, hg, fun c => ?_⟩
  by_cases hne : c = conn
  · subst hne; exact (hi.conn c).exec h call
  · exact (hi.conn c).of_agreeOn (Topology.agreeOn_exec_of_ne h t hne _)

/-- Every topology the context reaches keeps the invariant. -/
lemma ContextReachable.inv {t : Topology Conn} (h : ContextReachable t) : ContextInv t := by
  induction h with
  | init =>
    exact ⟨Subscriber.wellFormed_makeSubscriber, Subscriber.wellFormed_makeSubscriber,
      fun _ => ⟨.inl rfl, by simp [makeTopology, makeSubscriber, Subscriber.channelsOf],
        by simp [makeTopology, makeSubscriber, Subscriber.channelsOf]⟩⟩
  | step conn call _ hs ho ih => exact ih.step hs ho conn call

/-! ## Delivery -/

/-- In a well-formed plane the broker holds exactly the keys of `channels`, so a message on `ch`
reaches the plane's connection `c` exactly when `c` holds `ch`. -/
lemma Subscriber.WellFormed.delivers {s : Subscriber Conn} (hw : s.WellFormed) (ch : String)
    (c : Conn) :
    (subscribed s.subconn ch && decide (c ∈ s.connectionsOf ch)) =
      decide (ch ∈ s.channelsOf c) := by
  have hsub : subscribed s.subconn ch = (s.channels ch).isSome := by
    have := (subscribed_iff_balance hw.wellIssued ch).2
    rw [hw.balance_eq ch] at this
    cases hs : (s.channels ch).isSome <;> simp_all
  by_cases hc : c ∈ s.connectionsOf ch
  · simp [hsub, hc, Subscriber.isSome_of_mem_connectionsOf hc, (hw.dual c ch).2 hc]
  · simp [hc, mt (hw.dual c ch).1 hc]

/-- How many times the receive loops of the two planes write a message to `c` when it is
published on each channel of `chs`: the broker hands it to each plane subscribed to the
channel, and the plane writes it to every connection of the channel. -/
def writesTo (t : Topology Conn) : List String → Conn → Nat
  | [], _ => 0
  | ch :: chs, c =>
    ([Plane.cell, Plane.group].countP fun p =>
      subscribed (t.plane p).subconn ch && decide (c ∈ (t.plane p).connectionsOf ch)) +
    writesTo t chs c

/-- With both planes well formed, a connection receives one write per published channel it
holds, in each plane. -/
lemma writesTo_eq {t : Topology Conn} (hc : t.cellSubscriber.WellFormed)
    (hg : t.groupSubscriber.WellFormed) (chs : List String) (c : Conn) :
    writesTo t chs c =
      chs.countP (· ∈ t.cellSubscriber.channelsOf c) +
        chs.countP (· ∈ t.groupSubscriber.channelsOf c) := by
  induction chs with
  | nil => rfl
  | cons ch chs ih =>
    rw [writesTo, ih]
    simp only [List.countP_cons, List.countP_nil, Topology.plane, hc.delivers, hg.delivers,
      decide_eq_true_eq]
    split_ifs <;> omega

/-- With both planes well formed, a connection receives a write exactly when it holds one of
the channels, in either plane. -/
lemma writesTo_pos_iff {t : Topology Conn} (hc : t.cellSubscriber.WellFormed)
    (hg : t.groupSubscriber.WellFormed) (chs : List String) (c : Conn) :
    0 < writesTo t chs c ↔
      ∃ ch ∈ chs, ch ∈ t.cellSubscriber.channelsOf c ∨ ch ∈ t.groupSubscriber.channelsOf c := by
  rw [writesTo_eq hc hg, Nat.add_pos_iff_pos_or_pos, List.countP_pos_iff, List.countP_pos_iff]
  simp only [decide_eq_true_eq, ← exists_or, ← and_or_left]

/-- Broadcast by an entity whose group `Uuid`s are distinct and each hold a character other
than a decimal digit, over any topology the context reaches: the two receive loops write the
message to each connection at most once, and they write it to `c` exactly when `c` holds, in
either plane, the entity's cell channel or one of its group channels. -/
theorem ContextReachable.broadcast_writes {t : Topology Conn} (h : ContextReachable t)
    {e : Entity} (hnd : (e.groups.map Group.uuid).Nodup)
    (hu : ∀ g ∈ e.groups, ∃ x ∈ g.uuid.toList, x.isDigit = false) (c : Conn) :
    writesTo t (broadcast (fun _ => true) e).1 c ≤ 1 ∧
      (writesTo t (broadcast (fun _ => true) e).1 c = 1 ↔
        ∃ ch ∈ (broadcast (fun _ => true) e).1,
          ch ∈ t.cellSubscriber.channelsOf c ∨ ch ∈ t.groupSubscriber.channelsOf c) := by
  have hi := h.inv
  have hle : writesTo t (broadcast (fun _ => true) e).1 c ≤ 1 := by
    have hC := (hi.conn c).countP_cell_le_one hu
    have hG := (hi.conn c).countP_group_le_one hnd hu
    rw [writesTo_eq hi.cell_wellFormed hi.group_wellFormed]
    -- the connection is in one plane only
    rcases (hi.conn c).exclusive with hnone | hnone <;>
      rw [countP_channelsOf_eq_zero hnone] <;> omega
  rw [← writesTo_pos_iff hi.cell_wellFormed hi.group_wellFormed]
  omega

/-- Connection 1 on the covering of cell 5, and an entity in cell 5 with one group: the message
is written to connection 1 once. -/
theorem cellFive_broadcast_writes :
    let e : Entity := ⟨⟨5, [5, 6]⟩, ⟨0, 0, 0, 0, 0⟩, [⟨"6f1d-02", "team"⟩]⟩
    ∃ t : Topology Nat, ContextReachable t ∧ (e.groups.map Group.uuid).Nodup ∧
      (∀ g ∈ e.groups, ∃ x ∈ g.uuid.toList, x.isDigit = false) ∧
      (writesTo t (broadcast (fun _ => true) e).1 1 ≤ 1 ∧
        (writesTo t (broadcast (fun _ => true) e).1 1 = 1 ↔
          ∃ ch ∈ (broadcast (fun _ => true) e).1,
            ch ∈ t.cellSubscriber.channelsOf 1 ∨ ch ∈ t.groupSubscriber.channelsOf 1)) :=
  have hr : ContextReachable ((ContextCall.subscribeToCell ⟨5, [5, 6]⟩).toTopologyCall.exec
      Runtime.accepting 1 (makeTopology : Topology Nat)).1 :=
    .step 1 _ .init Runtime.accepting_succeeds Runtime.accepting_enumerates
  have hnd : ([⟨"6f1d-02", "team"⟩] : List Group).map Group.uuid |>.Nodup := by decide
  have hu : ∀ g ∈ ([⟨"6f1d-02", "team"⟩] : List Group), ∃ x ∈ g.uuid.toList, x.isDigit = false := by
    decide
  ⟨_, hr, hnd, hu, ContextReachable.broadcast_writes hr hnd hu 1⟩

/-- Connection 1 on the covering [5, 6] of cell 5, and an entity in cell 5 whose one group has
the `Uuid` "6", distinct and other than "5": the group's publish reaches connection 1 through
the cell plane, and the message is written to it twice. -/
theorem group_named_like_covering_cell :
    let e : Entity := ⟨⟨5, [5, 6]⟩, ⟨0, 0, 0, 0, 0⟩, [⟨formatUint 6, "six"⟩]⟩
    ∃ t : Topology Nat, ContextReachable t ∧ (e.groups.map Group.uuid).Nodup ∧
      (∀ g ∈ e.groups, g.uuid ≠ formatUint e.cell.s2cellID) ∧
      writesTo t (broadcast (fun _ => true) e).1 1 = 2 :=
  have hr : ContextReachable ((ContextCall.subscribeToCell ⟨5, [5, 6]⟩).toTopologyCall.exec
      Runtime.accepting 1 (makeTopology : Topology Nat)).1 :=
    .step 1 _ .init Runtime.accepting_succeeds Runtime.accepting_enumerates
  ⟨_, hr, by decide, by decide, by
    rw [writesTo_eq hr.inv.cell_wellFormed hr.inv.group_wellFormed]
    simp [ContextCall.toTopologyCall, TopologyCall.exec, Subscriber.channelsOf, channelNames,
      Topology.subscribeToCell_connections Runtime.accepting_succeeds, mapEntry]⟩

/-! ## The archive write -/

/-- A `DataStore`: whether it holds a `sql.DB` handle. Its connection settings are left out. -/
structure DataStore where
  db : Bool
deriving DecidableEq, Repr

/-- `MakeDataStore`: no handle yet. -/
def makeDataStore : DataStore := ⟨false⟩

/-- `DataStore.IsConnected`: `ds.db != nil`. -/
def DataStore.isConnected (ds : DataStore) : Bool := ds.db

/-- `DataStore.Connect` with the outcome `opened` of `sql.Open` and `Ping`: it returns their
error, and it never stores the handle it opened. -/
def DataStore.connect (opened : Bool) (ds : DataStore) : DataStore × Bool := (ds, opened)

/-- The stores that `MakeDataStore` and any calls of `Connect` build. -/
inductive DataStore.Reachable : DataStore → Prop
  | init : DataStore.Reachable makeDataStore
  | connect {ds : DataStore} (opened : Bool) :
      DataStore.Reachable ds → DataStore.Reachable (ds.connect opened).1

/-- No store the code builds is connected. -/
lemma DataStore.Reachable.not_connected {ds : DataStore} (h : ds.Reachable) :
    ds.isConnected = false := by
  induction h with
  | init => rfl
  | connect _ _ ih => exact ih

/-- An error of `DataStoreContext.Broadcast`: the archive write's, or the cell publish's. -/
inductive BroadcastError
  | archive
  | publish (channel : String)
deriving DecidableEq, Repr

/-- A `DataStoreContext`, with its store. Of its topology only the publisher is used here, and
its answers are the argument `publish`. -/
structure DataStoreContext where
  store : DataStore

/-- `DataStoreContext.Broadcast`, with the outcome `written` of the archive write
(`DataStore.LocationData`) and `publish` of each publish: the channels it publishes on, in order,
and its error. A connected store writes the location first and returns the write's error. -/
def DataStoreContext.broadcast (ctx : DataStoreContext) (written : Bool) (publish : String → Bool)
    (e : Entity) : List String × Option BroadcastError :=
  let r := Envisilab.broadcast publish e
  let topology := (r.1, r.2.map .publish)
  if ctx.store.isConnected then
    if written then topology else ([], some .archive)
  else topology

/-- Through a store that is not connected, as every store the code builds is, `Broadcast` does
what `Topology.Broadcast` does, whatever the archive write would give: it publishes first on the
cell's channel and, only if that succeeds, on each group's `Uuid` in order, and it returns an
error exactly when the cell publish fails. -/
lemma DataStoreContext.broadcast_of_not_connected {ctx : DataStoreContext}
    (hc : ctx.store.isConnected = false) (written : Bool) (publish : String → Bool) (e : Entity) :
    ctx.broadcast written publish e =
      (if publish (formatUint e.cell.s2cellID)
        then formatUint e.cell.s2cellID :: e.groups.map Group.uuid
        else [formatUint e.cell.s2cellID],
      if publish (formatUint e.cell.s2cellID) then none
        else some (.publish (formatUint e.cell.s2cellID))) := by
  by_cases hp : publish (formatUint e.cell.s2cellID) <;>
    simp [DataStoreContext.broadcast, hc, Envisilab.broadcast, hp]

/-- Through every store the code builds, `DataStoreContext.Broadcast` publishes first on the
cell's channel and, only if that publish succeeds, on each group's `Uuid` in order; it returns
an error exactly when the cell publish fails; and what it publishes and returns is the same
whatever the archive write gives. -/
theorem DataStore.Reachable.broadcast_ignores_archive {ds : DataStore} (h : ds.Reachable)
    (publish : String → Bool) (e : Entity) (written : Bool) :
    (DataStoreContext.broadcast ⟨ds⟩ written publish e).1 =
      (if publish (formatUint e.cell.s2cellID)
        then formatUint e.cell.s2cellID :: e.groups.map Group.uuid
        else [formatUint e.cell.s2cellID]) ∧
    ((DataStoreContext.broadcast ⟨ds⟩ written publish e).2.isSome =
      !publish (formatUint e.cell.s2cellID)) ∧
    DataStoreContext.broadcast ⟨ds⟩ written publish e =
      DataStoreContext.broadcast ⟨ds⟩ (!written) publish e := by
  rw [DataStoreContext.broadcast_of_not_connected h.not_connected,
    DataStoreContext.broadcast_of_not_connected h.not_connected]
  by_cases hp : publish (formatUint e.cell.s2cellID) <;> simp [hp]

/-- A store on which `Connect` was called twice, and an entity in two groups, under a broker
that accepts every publish. -/
theorem twoGroups_broadcast_ignores_archive :
    (let ds := ((makeDataStore.connect true).1.connect false).1
    let e : Entity := ⟨⟨5, [5]⟩, ⟨0, 0, 0, 0, 0⟩, [⟨"g1", "a"⟩, ⟨"g2", "b"⟩]⟩
    ds.Reachable ∧
    ((DataStoreContext.broadcast ⟨ds⟩ false (fun _ => true) e).1 =
      (if (fun _ => true : String → Bool) (formatUint e.cell.s2cellID)
        then formatUint e.cell.s2cellID :: e.groups.map Group.uuid
        else [formatUint e.cell.s2cellID]) ∧
    ((DataStoreContext.broadcast ⟨ds⟩ false (fun _ => true) e).2.isSome =
      !(fun _ => true : String → Bool) (formatUint e.cell.s2cellID)) ∧
    DataStoreContext.broadcast ⟨ds⟩ false (fun _ => true) e =
      DataStoreContext.broadcast ⟨ds⟩ (!false) (fun _ => true) e)) :=
  have h : ((makeDataStore.connect true).1.connect false).1.Reachable :=
    .connect false (.connect true .init)
  ⟨h, DataStore.Reachable.broadcast_ignores_archive h _ _ _⟩

/-- Through a connected store, which the code never builds, the archive write would decide the
broadcast: a failed write publishes nothing and returns its error, and a successful one
publishes first on the cell's channel and returns an error exactly when that publish fails. -/
lemma archive_write_decides_broadcast (publish : String → Bool) (e : Entity) :
    (let ctx : DataStoreContext := ⟨⟨true⟩⟩
    ctx.broadcast false publish e = ([], some .archive) ∧
      (ctx.broadcast true publish e).1.head? = some (formatUint e.cell.s2cellID) ∧
      ((ctx.broadcast true publish e).2 = none ↔ publish (formatUint e.cell.s2cellID) = true)) := by
  by_cases hp : publish (formatUint e.cell.s2cellID) <;>
    simp [DataStoreContext.broadcast, DataStore.isConnected, broadcast, hp]

end Envisilab
