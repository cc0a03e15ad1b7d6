import Envisilab.Topology

/-!
# Plane exclusivity under interleaving

The subscription methods of `Topology` clear the other plane first and then subscribe, but
they hold one plane lock at a time. Between the two plane calls of one method, any other
goroutine can run plane calls of its own. An `Interleaving` has one goroutine per
connection, each running its methods one at a time (as the connection's single subscription
driver does) and partway through its current one; a step either starts a method or makes
the next plane call of one.

Exclusivity is not inductive on its own: a connection between the two calls of
`SubscribeToCell` must already be off the group plane. `Interleaving.Inv` adds that, through
`HeadSafe` (the next call of a goroutine is safe to make) and `Guarded` (every adding call of a
method follows a call that clears the other plane), and `reachable_exclusive` follows.
-/

namespace Envisilab

/-- Whether a plane call may add its connection to its plane. -/
def PlaneCall.adds : PlaneCall → Bool
  | .unsubscribe => false
  | _ => true

/-- Every plane call that may add the connection to a plane comes right after a call that
clears the connection from the other plane. -/
def Guarded : List (Plane × PlaneCall) → Prop
  | (q, pc) :: (p, pc') :: rest =>
    (pc'.adds → pc = .unsubscribe ∧ q = p.other) ∧ Guarded ((p, pc') :: rest)
  | _ => True

/-- The rest of a guarded method is guarded. -/
lemma Guarded.tail {st : Plane × PlaneCall} {l : List (Plane × PlaneCall)} (h : Guarded (st :: l)) :
    Guarded l := by
  match l, h with
  | [], _ => trivial
  | _ :: _, h => exact h.2

/-- Every method of `Topology` clears the other plane before it adds. -/
lemma TopologyCall.steps_guarded (c : TopologyCall) : Guarded c.steps := by
  cases c <;> simp [TopologyCall.steps, Guarded, PlaneCall.adds, Plane.other]

variable {Conn : Type}

/-- Before a plane call that may add `conn` to plane `p`, `conn` is off the other plane. -/
def HeadSafe (t : Topology Conn) (conn : Conn) : List (Plane × PlaneCall) → Prop
  | (p, pc) :: _ => pc.adds → (t.plane p.other).connections conn = none
  | [] => True

/-- The first plane call of every method of `Topology` adds nothing. -/
lemma TopologyCall.steps_headSafe (c : TopologyCall) (t : Topology Conn) (conn : Conn) :
    HeadSafe t conn c.steps := by
  cases c <;> simp [TopologyCall.steps, HeadSafe, PlaneCall.adds]

/-- The topology with one goroutine per connection: `pending conn` are the plane calls of the
method that `conn`'s goroutine is running, still to be made. -/
structure Interleaving (Conn : Type) where
  topology : Topology Conn
  pending : Conn → List (Plane × PlaneCall)

namespace Interleaving

variable [DecidableEq Conn]

/-- One step of one goroutine: an idle goroutine starts a method, or a running one makes its
next plane call, atomically under that plane's lock, with an accepting broker. -/
inductive Step : Interleaving Conn → Interleaving Conn → Prop
  | call (σ : Interleaving Conn) (conn : Conn) (c : TopologyCall) :
      σ.pending conn = [] → Step σ ⟨σ.topology, Function.update σ.pending conn c.steps⟩
  | plane (σ : Interleaving Conn) (conn : Conn) (st : Plane × PlaneCall)
      (rest : List (Plane × PlaneCall)) (rt : Runtime) :
      σ.pending conn = st :: rest → rt.Succeeds → rt.Enumerates →
      Step σ ⟨(σ.topology.step rt conn st).1, Function.update σ.pending conn rest⟩

/-- The states reachable from `MakeTopology` with every goroutine idle. -/
inductive Reachable : Interleaving Conn → Prop
  | init : Reachable ⟨makeTopology, fun _ => []⟩
  | step {σ σ' : Interleaving Conn} : Reachable σ → Step σ σ' → Reachable σ'

/-- The invariant behind exclusivity. -/
structure Inv (σ : Interleaving Conn) : Prop where
  exclusive : σ.topology.Exclusive
  headSafe : ∀ conn, HeadSafe σ.topology conn (σ.pending conn)
  guarded : ∀ conn, Guarded (σ.pending conn)

variable {σ σ' : Interleaving Conn}

namespace Inv

variable {conn : Conn} {p : Plane} {pc : PlaneCall} {rest : List (Plane × PlaneCall)}
  {rt : Runtime}

/-- A plane call keeps exclusivity: a clearing call takes its connection off its plane, and an
adding one is made with the connection already off the other plane. -/
lemma exclusive_plane (hi : Inv σ) (hpend : σ.pending conn = (p, pc) :: rest)
    (h : rt.Succeeds) : (σ.topology.step rt conn (p, pc)).1.Exclusive := by
  intro c'
  by_cases hc : c' = conn
  · subst hc
    cases hadd : pc.adds
    · have hpc : pc = .unsubscribe := by cases pc <;> simp_all [PlaneCall.adds]
      subst hpc
      apply Topology.exclusive_of_plane p
      simp [Topology.plane_step, Subscriber.exec_connections h, PlaneCall.target, mapEntry]
    · have hsafe := hi.headSafe c'
      rw [hpend] at hsafe
      apply Topology.exclusive_of_plane p.other
      rw [Topology.plane_step, if_neg (by cases p <;> simp [Plane.other])]
      exact hsafe hadd
  · have h₁ := Topology.step_connections_of_ne h σ.topology hc (p, pc) .cell
    have h₂ := Topology.step_connections_of_ne h σ.topology hc (p, pc) .group
    simp only [Topology.plane] at h₁ h₂
    rw [h₁, h₂]
    exact hi.exclusive c'

/-- After a plane call, the next call of its goroutine is safe, as the guard of the method
placed a clearing call before it; the other goroutines' next calls stay safe, as the call
touched its own connection only. -/
lemma headSafe_plane (hi : Inv σ) (hpend : σ.pending conn = (p, pc) :: rest)
    (h : rt.Succeeds) (c' : Conn) :
    HeadSafe (σ.topology.step rt conn (p, pc)).1 c' (Function.update σ.pending conn rest c') := by
  by_cases hc : c' = conn
  · subst hc
    have hg := hi.guarded c'
    rw [hpend] at hg
    simp only [Function.update_same]
    match rest, hg with
    | [], _ => trivial
    | (p', pc') :: _, hg =>
      intro hadd
      obtain ⟨rfl, rfl⟩ := hg.1 hadd
      simp [Topology.plane_step, Subscriber.exec_connections h, PlaneCall.target, mapEntry]
  · have hs := hi.headSafe c'
    simp only [Function.update_noteq hc]
    match σ.pending c', hs with
    | [], _ => trivial
    | (_, _) :: _, hs =>
      exact fun hadd => (Topology.step_connections_of_ne h _ hc _ _).trans (hs hadd)

/-- A plane call leaves its goroutine the rest of its method, guarded as the whole was. -/
lemma guarded_plane (hi : Inv σ) (hpend : σ.pending conn = (p, pc) :: rest) (c' : Conn) :
    Guarded (Function.update σ.pending conn rest c') := by
  by_cases hc : c' = conn
  · subst hc
    have hg := hi.guarded c'
    rw [hpend] at hg
    simpa using hg.tail
  · simpa [hc] using hi.guarded c'

/-- Every step of every goroutine keeps the invariant. -/
lemma step (hi : Inv σ) (hs : Step σ σ') : Inv σ' := by
  cases hs with
  | call conn c hidle =>
    refine ⟨hi.exclusive, fun c' => ?_, fun c' => ?_⟩ <;> by_cases hc : c' = conn
    · subst hc; simpa using c.steps_headSafe σ.topology c'
    · simpa [hc] using hi.headSafe c'
    · subst hc; simpa using c.steps_guarded
    · simpa [hc] using hi.guarded c'
  | plane conn st rest rt hpend h _ =>
    exact ⟨hi.exclusive_plane hpend h, hi.headSafe_plane hpend h, hi.guarded_plane hpend⟩

end Inv

/-- Plane exclusivity holds in every state reachable under any interleaving of the plane
calls of any number of connections. -/
theorem reachable_exclusive (h : Reachable σ) : σ.topology.Exclusive := by
  suffices Inv σ from this.exclusive
  induction h with
  | init => exact ⟨fun _ => .inl rfl, fun _ => trivial, fun _ => trivial⟩
  | step _ hs ih => exact ih.step hs

/-- Connection 1 starts `SubscribeToGroup "g"` and makes its first plane call; connection 2 then
runs the whole of `SubscribeToCell` for cell 6. Connection 1 is cut between its two plane
calls, connection 2 is on the cell plane, and the state is reachable, and so exclusive. -/
theorem cutMethod_reachable_exclusive :
    ∃ σ : Interleaving Nat, Reachable σ ∧ σ.pending 1 = [(.group, .subscribe "g" true)] ∧
      σ.topology.cellSubscriber.connections 2 = some {formatUint 6} ∧ σ.topology.Exclusive :=
  have h := Runtime.accepting_succeeds
  have ho := Runtime.accepting_enumerates
  have hr : Reachable (_ : Interleaving Nat) := .step (.step (.step (.step (.step .init
    (.call _ 1 (.subscribeToGroup "g" true) rfl))
    (.plane _ 1 (.cell, .unsubscribe) [(.group, .subscribe "g" true)] _ rfl h ho))
    (.call _ 2 (.subscribeToCell ⟨6, [6]⟩) rfl))
    (.plane _ 2 (.group, .unsubscribe) [(.cell, .subscribeToCell ⟨6, [6]⟩)] _ rfl h ho))
    (.plane _ 2 (.cell, .subscribeToCell ⟨6, [6]⟩) [] _ rfl h ho)
  ⟨_, hr, rfl, by simp [Subscriber.exec_connections h, PlaneCall.target, mapEntry, channelNames],
    reachable_exclusive hr⟩

end Interleaving

end Envisilab
