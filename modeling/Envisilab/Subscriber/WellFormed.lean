import Envisilab.Subscriber

/-!
# Well-formed planes

The design of a plane keeps three conditions: (i) its two maps are transposes of each
other, (ii) no key maps to an empty set, and (iii) its broker connection holds exactly the
channels that are keys of `channels`, having been sent a `subscribe` only for a channel it
did not hold and an `unsubscribe` only for one it held. `WellFormed` states them, reading
the broker side off the log of accepted commands through `balance` and `WellIssued`.

With a broker that accepts every command, each public method keeps a plane well formed
(`WellFormed.exec`), so every plane reachable from `makeSubscriber` is
(`reachable_wellFormed`). Inside `unsubscribeNoLock` the two maps disagree for a while: its
loop keeps the weaker `Releasing`, which says which entries it has already cleared.

From any plane whose maps are transposes, each method leaves its connection's entry as
`PlaneCall.target` says and every other connection's as it was (`exec_postconditions`).
-/

namespace Envisilab

/-! ## The broker connection -/

/-- How many more `subscribe` than `unsubscribe` commands for `ch` a log holds. -/
def balance : List BrokerCall → String → Int
  | [], _ => 0
  | .subscribe c :: l, ch => balance l ch + if c = ch then 1 else 0
  | .unsubscribe c :: l, ch => balance l ch - if c = ch then 1 else 0

/-- Every `subscribe` of the log was sent for a channel the connection did not hold, and
every `unsubscribe` for one it held. -/
def WellIssued : List BrokerCall → Prop
  | [] => True
  | .subscribe c :: l => WellIssued l ∧ balance l c = 0
  | .unsubscribe c :: l => WellIssued l ∧ balance l c = 1

namespace Subscriber

variable {Conn : Type}

/-- Conditions (ii) and (iii): no key maps to an empty set, and the broker holds exactly the
keys of `channels`, each command having been sent when it should. -/
structure Tidy (s : Subscriber Conn) : Prop where
  connections_ne : ∀ conn, s.connections conn ≠ some ∅
  channels_ne : ∀ ch, s.channels ch ≠ some ∅
  balance_eq : ∀ ch, balance s.subconn ch = if (s.channels ch).isSome then 1 else 0
  wellIssued : WellIssued s.subconn

/-- A well-formed plane: tidy, and (i) its two maps are transposes of each other. -/
structure WellFormed (s : Subscriber Conn) extends Tidy s : Prop where
  dual : ∀ conn ch, ch ∈ s.channelsOf conn ↔ conn ∈ s.connectionsOf ch

/-- The loop of `unsubscribeNoLock conn` after it has released the channels `done`: tidy, and
the maps are transposes except that `conn` has already left the channels of `done`. -/
structure Releasing (conn : Conn) (done : Finset String) (s : Subscriber Conn) extends Tidy s :
    Prop where
  dual : ∀ c ch, c ∈ s.connectionsOf ch ↔ ch ∈ s.channelsOf c ∧ (c = conn → ch ∉ done)

variable {rt : Runtime} {conn : Conn} {done : Finset String} {s : Subscriber Conn} {c : String}

/-- A channel with a connection is a key of `channels`. -/
lemma isSome_of_mem_connectionsOf {c' : Conn} (h : c' ∈ s.connectionsOf c) :
    (s.channels c).isSome := by
  cases hc : s.channels c <;> simp_all [connectionsOf]

/-- `MakeSubscriber` builds a well-formed plane. -/
lemma wellFormed_makeSubscriber : WellFormed (makeSubscriber : Subscriber Conn) :=
  ⟨⟨fun _ => by simp [makeSubscriber], fun _ => by simp [makeSubscriber],
    fun _ => by simp [makeSubscriber, balance], trivial⟩,
    fun _ _ => by simp [makeSubscriber, channelsOf, connectionsOf]⟩

variable [DecidableEq Conn]

/-! ## Leaving every channel -/

/-- One pass of the loop: releasing a channel the connection is still on keeps `Releasing`. -/
lemma Releasing.release (hr : Releasing conn done s) (h : rt.Succeeds)
    (hc : c ∈ s.channelsOf conn) (hd : c ∉ done) :
    Releasing conn (insert c done) (releaseChannel rt conn c s).1 := by
  have hmem : conn ∈ s.connectionsOf c := (hr.dual conn c).2 ⟨hc, fun _ => hd⟩
  have hbal : balance s.subconn c = 1 := by
    simpa [isSome_of_mem_connectionsOf hmem] using hr.balance_eq c
  rw [releaseChannel_eq h]
  dsimp only
  refine ⟨⟨hr.connections_ne, fun ch => ?_, fun ch => ?_, ?_⟩, fun c' ch => ?_⟩
  · by_cases hch : ch = c
    · subst hch; simp
    · simpa [hch] using hr.channels_ne ch
  · by_cases hch : ch = c
    · subst hch
      by_cases he : (s.connectionsOf ch).erase conn = ∅ <;> simp [he, balance, hbal, mapEntry]
    · have := hr.balance_eq ch
      split_ifs <;> simp_all [balance, Ne.symm hch]
  · split_ifs <;> simp [WellIssued, hr.wellIssued, hbal]
  · have hd' := hr.dual c' ch
    by_cases hch : ch = c
    · subst hch
      by_cases hc' : c' = conn <;> simp_all [connectionsOf, channelsOf]
    · simpa [connectionsOf, channelsOf, hch] using hd'

/-- The loop of `unsubscribeNoLock` leaves `connections` alone. -/
lemma foldl_releaseChannel_connections (l : List String) (s : Subscriber Conn) :
    (l.foldl (fun s c => (releaseChannel rt conn c s).1) s).connections = s.connections := by
  induction l generalizing s with
  | nil => rfl
  | cons c l ih => rw [List.foldl_cons, ih, releaseChannel_connections]

/-- The whole loop, over channels the connection is on and that it has not released yet. -/
lemma Releasing.release_all (h : rt.Succeeds) (l : List String) (hl : l.Nodup) :
    ∀ {done : Finset String} {s : Subscriber Conn}, Releasing conn done s →
      (∀ c ∈ l, c ∈ s.channelsOf conn ∧ c ∉ done) →
      Releasing conn (done ∪ l.toFinset)
        (l.foldl (fun s c => (releaseChannel rt conn c s).1) s) := by
  induction l with
  | nil => intro done s hr _; simpa using hr
  | cons c l ih =>
    intro done s hr hin
    obtain ⟨hcl, hnd⟩ := List.nodup_cons.mp hl
    have hr' := hr.release h (hin c (by simp)).1 (hin c (by simp)).2
    have hin' :
        ∀ c' ∈ l, c' ∈ (releaseChannel rt conn c s).1.channelsOf conn ∧ c' ∉ insert c done :=
      fun c' hc' => ⟨by simpa [channelsOf] using (hin c' (by simp [hc'])).1,
        by simpa [show c' ≠ c by rintro rfl; exact hcl hc'] using (hin c' (by simp [hc'])).2⟩
    have hu : insert c done ∪ l.toFinset = done ∪ (c :: l).toFinset := by
      ext; simp [or_left_comm]
    rw [List.foldl_cons, ← hu]
    exact ih hnd hr' hin'

/-- Once the loop has released every channel of the connection, deleting its key makes the
plane well formed again. -/
lemma Releasing.wellFormed (hr : Releasing conn done s) (hd : s.channelsOf conn ⊆ done) :
    WellFormed { s with connections := Function.update s.connections conn none } := by
  refine ⟨⟨fun c' => ?_, hr.channels_ne, hr.balance_eq, hr.wellIssued⟩, fun c' ch => ?_⟩
  · by_cases hc : c' = conn
    · subst hc; simp
    · simpa [hc] using hr.connections_ne c'
  · have hdual := hr.dual c' ch
    by_cases hc : c' = conn
    · subst hc
      simp only [channelsOf, Function.update_same, Option.getD_none, Finset.not_mem_empty,
        false_iff]
      exact fun hm => (hdual.1 hm).2 rfl (hd (hdual.1 hm).1)
    · simpa [channelsOf, hc] using hdual.symm

/-- Leaving every channel and deleting the key keeps a plane well formed. -/
lemma WellFormed.unsubscribeNoLock (hw : WellFormed s) (h : rt.Succeeds) (ho : rt.Enumerates) :
    WellFormed (unsubscribeNoLock rt conn s).1 := by
  obtain ⟨hnd, hmem⟩ := ho (s.channelsOf conn)
  have hr := Releasing.release_all h _ hnd ⟨hw.toTidy, fun c ch => by simp [hw.dual c ch]⟩
    fun c hc => ⟨(hmem c).1 hc, Finset.not_mem_empty c⟩
  rw [Subscriber.unsubscribeNoLock, forEach_eq_foldl fun x _ => releaseChannel_snd h x]
  exact hr.wellFormed fun x hx => by
    have hx' : x ∈ s.channelsOf conn := by
      simpa [channelsOf, foldl_releaseChannel_connections] using hx
    simpa using (hmem x).2 hx'

/-! ## Joining a channel -/

/-- Joining a channel keeps a plane well formed: both maps gain the pair, and the broker
hears `SUBSCRIBE` exactly when the channel is new. -/
lemma WellFormed.subscribeNoLock (hw : WellFormed s) (h : rt.Succeeds) (ch : String) :
    WellFormed (subscribeNoLock rt conn ch s).1 := by
  rw [subscribeNoLock_eq h]
  dsimp only
  refine ⟨⟨fun c' => ?_, fun c' => ?_, fun c' => ?_, ?_⟩, fun c' ch' => ?_⟩
  · by_cases hc : c' = conn
    · subst hc; simp
    · simpa [hc] using hw.connections_ne c'
  · by_cases hc : c' = ch
    · subst hc; simp
    · simpa [hc] using hw.channels_ne c'
  · have := hw.balance_eq c'
    by_cases hc : c' = ch
    · subst hc; split_ifs <;> simp_all [balance]
    · split_ifs <;> simp_all [balance, Ne.symm hc]
  · have := hw.balance_eq ch
    split_ifs with hk
    · exact hw.wellIssued
    · simp_all [WellIssued, hw.wellIssued]
  · have hd := hw.dual c' ch'
    by_cases hc : c' = conn
    · subst hc
      by_cases hc' : ch' = ch
      · subst hc'; simp [channelsOf, connectionsOf]
      · simpa [channelsOf, connectionsOf, hc'] using hd
    · by_cases hc' : ch' = ch
      · subst hc'; simpa [channelsOf, connectionsOf, hc] using hd
      · simpa [channelsOf, connectionsOf, hc, hc'] using hd

/-- Every public method keeps a plane well formed, under an accepting broker and a `range` that
visits each key once. -/
theorem WellFormed.exec (hw : WellFormed s) (h : rt.Succeeds) (ho : rt.Enumerates)
    (pc : PlaneCall) : WellFormed (s.exec rt conn pc).1 := by
  cases pc with
  | subscribeToCell cell =>
    simp only [Subscriber.exec, subscribeToCell, andThen_of_ok (unsubscribeNoLock_snd h)]
    exact forEach_preserves WellFormed (fun ch _ hs => hs.subscribeNoLock h ch) _
      (hw.unsubscribeNoLock h ho)
  | subscribe ch u =>
    cases u
    · exact hw.subscribeNoLock h ch
    · exact (hw.unsubscribeNoLock h ho).subscribeNoLock h ch
  | unsubscribe => exact hw.unsubscribeNoLock h ho

/-! ## Reachable planes -/

/-- The planes reachable from `MakeSubscriber` by public methods of any connections, with a
broker that accepts every command. -/
inductive Reachable : Subscriber Conn → Prop
  | init : Reachable makeSubscriber
  | step {s : Subscriber Conn} {rt : Runtime} (conn : Conn) (pc : PlaneCall) :
      Reachable s → rt.Succeeds → rt.Enumerates → Reachable (s.exec rt conn pc).1

/-- Every reachable plane satisfies the three conditions of its design. -/
theorem reachable_wellFormed {s : Subscriber Conn} (h : Reachable s) : s.WellFormed := by
  induction h with
  | init => exact wellFormed_makeSubscriber
  | step conn pc _ hs ho ih => exact ih.exec hs ho pc

/-- Two connections whose coverings share the channel of cell 6 subscribe, and the first one
leaves: the plane is reachable, and so well formed, and the second keeps the shared channel. -/
theorem sharedChannel_reachable_wellFormed :
    (let rt := Runtime.accepting
    let s₂ : Subscriber Nat := ((makeSubscriber.exec rt 1 (.subscribeToCell ⟨5, [5, 6]⟩)).1.exec
      rt 2 (.subscribeToCell ⟨6, [6, 7]⟩)).1
    let s₃ := (s₂.exec rt 1 .unsubscribe).1
    formatUint 6 ∈ s₂.channelsOf 1 ∧ formatUint 6 ∈ s₂.channelsOf 2 ∧
      s₃.channelsOf 2 = {formatUint 6, formatUint 7} ∧ Reachable s₃ ∧ s₃.WellFormed) :=
  have hr : Reachable (((makeSubscriber.exec Runtime.accepting 1
      (.subscribeToCell ⟨5, [5, 6]⟩)).1.exec Runtime.accepting 2
      (.subscribeToCell ⟨6, [6, 7]⟩)).1.exec Runtime.accepting (1 : Nat) .unsubscribe).1 :=
    .step _ _ (.step _ _ (.step _ _ .init Runtime.accepting_succeeds Runtime.accepting_enumerates)
      Runtime.accepting_succeeds Runtime.accepting_enumerates)
      Runtime.accepting_succeeds Runtime.accepting_enumerates
  by
    refine ⟨?_, ?_, ?_, hr, reachable_wellFormed hr⟩ <;>
      simp [channelsOf, exec_connections Runtime.accepting_succeeds, PlaneCall.target, mapEntry,
        channelNames]

/-! ## Postconditions -/

/-- The postconditions of the public methods, from any plane whose two maps are transposes of
each other, under an accepting broker and a `range` that visits every key. `SubscribeToCell`
leaves the connection on exactly the channels of the cell group, its key deleted for an empty
group; `Subscribe` on `{channel}`, or on its old channels and `channel`; `Unsubscribe` deletes
its key and takes it off every channel. Every other connection keeps its entry and its
membership of every channel. -/
theorem exec_postconditions (hd : ∀ c ch, ch ∈ s.channelsOf c ↔ c ∈ s.connectionsOf ch)
    (h : rt.Succeeds) (ho : rt.Enumerates) :
    (∀ cell : Cell, (s.subscribeToCell rt conn cell).1.connections conn =
      if cell.cellGroup = [] then none else some (cell.cellGroup.map formatUint).toFinset) ∧
    (∀ channel, (s.subscribe rt conn channel true).1.connections conn = some {channel}) ∧
    (∀ channel, (s.subscribe rt conn channel false).1.connections conn =
      some (s.channelsOf conn ∪ {channel})) ∧
    ((s.unsubscribe rt conn).1.connections conn = none ∧
      ∀ ch, conn ∉ (s.unsubscribe rt conn).1.connectionsOf ch) ∧
    ∀ pc c', c' ≠ conn → (s.exec rt conn pc).1.connections c' = s.connections c' ∧
      ∀ ch, (c' ∈ (s.exec rt conn pc).1.connectionsOf ch ↔ c' ∈ s.connectionsOf ch) := by
  refine ⟨fun cell => ?_, fun channel => ?_, fun channel => ?_, ⟨?_, fun ch => ?_⟩,
    fun pc c' hc => ⟨?_, fun ch => ?_⟩⟩
  · change (s.exec rt conn (.subscribeToCell cell)).1.connections conn = _
    simp [exec_connections h, PlaneCall.target, mapEntry, channelNames]
  · change (s.exec rt conn (.subscribe channel true)).1.connections conn = _
    simp [exec_connections h, PlaneCall.target, mapEntry]
  · change (s.exec rt conn (.subscribe channel false)).1.connections conn = _
    rw [Finset.union_comm, ← Finset.insert_eq]
    simp [exec_connections h, PlaneCall.target, mapEntry]
  · change (s.exec rt conn .unsubscribe).1.connections conn = _
    simp [exec_connections h, PlaneCall.target, mapEntry]
  · change conn ∉ (unsubscribeNoLock rt conn s).1.connectionsOf ch
    rw [unsubscribeNoLock_connectionsOf h ho]
    split_ifs with hc
    · simp
    · exact fun hm => hc ((hd conn ch).2 hm)
  · rw [exec_connections h, Function.update_noteq hc]
  · have hE : ((s.exec rt conn pc).1.connectionsOf ch).erase conn =
        (s.connectionsOf ch).erase conn := exec_connectionsOf_erase h pc ch
    simpa [Finset.mem_erase, hc] using Finset.ext_iff.1 hE c'

/-- The postconditions for connection 1 on a plane where connections 1 and 2 share the channel
of cell 6, reached from `MakeSubscriber` by their two `SubscribeToCell` calls. -/
theorem sharedChannel_exec_postconditions :
    (let rt := Runtime.accepting
    let s : Subscriber Nat := ((makeSubscriber.exec rt 1 (.subscribeToCell ⟨5, [5, 6]⟩)).1.exec
      rt 2 (.subscribeToCell ⟨6, [6, 7]⟩)).1
    (∀ c ch, ch ∈ s.channelsOf c ↔ c ∈ s.connectionsOf ch) ∧
    ((∀ cell : Cell, (s.subscribeToCell rt 1 cell).1.connections 1 =
      if cell.cellGroup = [] then none else some (cell.cellGroup.map formatUint).toFinset) ∧
    (∀ channel, (s.subscribe rt 1 channel true).1.connections 1 = some {channel}) ∧
    (∀ channel, (s.subscribe rt 1 channel false).1.connections 1 =
      some (s.channelsOf 1 ∪ {channel})) ∧
    ((s.unsubscribe rt 1).1.connections 1 = none ∧
      ∀ ch, 1 ∉ (s.unsubscribe rt 1).1.connectionsOf ch) ∧
    ∀ pc c', c' ≠ 1 → (s.exec rt 1 pc).1.connections c' = s.connections c' ∧
      ∀ ch, (c' ∈ (s.exec rt 1 pc).1.connectionsOf ch ↔ c' ∈ s.connectionsOf ch))) :=
  have hw : WellFormed ((makeSubscriber.exec Runtime.accepting 1
      (.subscribeToCell ⟨5, [5, 6]⟩)).1.exec Runtime.accepting (2 : Nat)
      (.subscribeToCell ⟨6, [6, 7]⟩)).1 :=
    (wellFormed_makeSubscriber.exec Runtime.accepting_succeeds Runtime.accepting_enumerates _).exec
      Runtime.accepting_succeeds Runtime.accepting_enumerates _
  ⟨hw.dual, exec_postconditions hw.dual Runtime.accepting_succeeds Runtime.accepting_enumerates⟩

end Subscriber

end Envisilab
