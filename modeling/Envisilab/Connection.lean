import Envisilab.Wire

/-!
# A connection's outbound queue

`WebSocketConnection.Write` (`core/http.go`) is a non-blocking send on the connection's `send`
channel, which `MakeWebSocketConnection` buffers to 100 messages: when the buffer is full, the
`default` branch drops the message. The receive loops of both planes call it, under their read
locks, for every connection of a channel a message arrives on (`Subscriber.Run`). `WritePump` is
the channel's only reader. It takes a message in its `select`, opens a WebSocket text message
with `[` and the message, reads how many messages are waiting (`n := len(c.send)`), writes `,`
and each of those `n` messages, and closes the text message with `]`. Writers run between any
two of these steps. A failed `NextWriter`, `Close` or ping makes the pump return.

Over every run from `MakeWebSocketConnection`:
* the buffer never holds more than 100 messages, and the inner loop's receives never block: the
  pump counts only messages already waiting, and no one else takes them (`Inv`);
* each text message carries between 1 and 101 messages (`Inv`), bracketed and comma separated
  (`text_eq_intercalate`);
* while the pump has not returned, the messages written, then those of the text message being
  built, then the buffer, are exactly the messages `Write` accepted, in order; in every run the
  messages written are a prefix of those accepted (`run_written_prefix`): nothing is duplicated
  or reordered, and a message is lost only by the drop in `Write` or by a failure of the pump;
* while the pump has not returned, the pump alone, with no failure, can bring the connection
  back to its `select` with an empty buffer, having written every message accepted
  (`run_flushes`): the inner loop drains what it counted, and a pass takes what came after.
-/

namespace Envisilab

/-- The capacity of a connection's `send` channel: `make(chan []byte, 100)`. -/
def sendCapacity : Nat := 100

/-- The bytes of a WebSocket text message `WritePump` writes for the messages of one pass: `[`
and the message it received, `,` and each message of its inner loop, and `]`. -/
def text : List Bytes → Bytes
  | [] => []
  | m :: ms => [91] ++ m ++ (ms.map fun x => [44] ++ x).flatten ++ [93]

/-- The messages after the first, each after a `,`, are the tail of the comma-joined messages. -/
lemma append_commas_eq_intercalate (m : Bytes) (ms : List Bytes) :
    m ++ (ms.map fun x => [44] ++ x).flatten = List.intercalate [44] (m :: ms) := by
  induction ms generalizing m with
  | nil => simp [List.intercalate]
  | cons x ms ih =>
    rw [List.intercalate, List.intersperse_cons_cons, List.flatten_cons, List.flatten_cons,
      ← List.intercalate, ← ih x]
    simp

/-- A text message is the JSON array syntax around its messages. -/
lemma text_eq_intercalate (m : Bytes) (ms : List Bytes) :
    text (m :: ms) = [91] ++ List.intercalate [44] (m :: ms) ++ [93] := by
  rw [text, ← append_commas_eq_intercalate, List.append_assoc [91]]

/-- Where `WritePump` is in its loop. -/
inductive WritePump
  /-- In its `select`, waiting for a message or a tick. -/
  | waiting
  /-- A text message opened with the message it received; before `n := len(c.send)`. -/
  | opened (message : Bytes)
  /-- In the inner loop, having written the messages `taken`, with `left` receives to go. -/
  | draining (taken : List Bytes) (left : Nat)
  /-- Returned after a failed write; its deferred `Close` closed the WebSocket. -/
  | returned
deriving DecidableEq, Repr

/-- The messages of the text message the pump is building. -/
def WritePump.taken : WritePump → List Bytes
  | .opened message => [message]
  | .draining taken _ => taken
  | _ => []

/-- What the pump's place in its loop asks of a buffer of `n` messages: in the inner loop, the
text message holds at least one message, at most `n` receives are to go, and the text message
will carry at most 101 messages. -/
def WritePump.Fits (n : Nat) : WritePump → Prop
  | .draining taken left => taken ≠ [] ∧ left ≤ n ∧ taken.length + left ≤ sendCapacity + 1
  | _ => True

/-- A `WebSocketConnection`: the buffer of its `send` channel, oldest first, its `WritePump`, and
the text messages written to the WebSocket, oldest first, each as the messages it carries. The
entity and the endpoint are left out. -/
structure WebSocketConnection where
  send : List Bytes
  pump : WritePump
  written : List (List Bytes)
deriving DecidableEq, Repr

/-- `MakeWebSocketConnection`: an empty buffer, before `WritePump` has written anything. -/
def makeWebSocketConnection : WebSocketConnection := ⟨[], .waiting, []⟩

/-- A step of one of the goroutines around the buffer. -/
inductive ConnectionCall
  /-- A plane receive loop calls `Write`. -/
  | write (message : Bytes)
  /-- The pump's `select` takes the oldest message, and `NextWriter` succeeds or fails. -/
  | receive (ok : Bool)
  /-- The pump reads `len(c.send)`. -/
  | count
  /-- One `<-c.send` of the inner loop. -/
  | drain
  /-- `w.Close()` succeeds or fails. -/
  | close (ok : Bool)
  /-- The ticker fires in the `select`, and the ping is written or fails. -/
  | ping (ok : Bool)
deriving DecidableEq, Repr

namespace WebSocketConnection

/-- `Write`: enqueue the message if the buffer has room, and drop it otherwise. -/
def write (message : Bytes) (c : WebSocketConnection) : WebSocketConnection :=
  if c.send.length < sendCapacity then { c with send := c.send ++ [message] } else c

/-- Run one step. A step whose goroutine is blocked, or elsewhere in its loop, changes nothing. -/
def exec : ConnectionCall → WebSocketConnection → WebSocketConnection
  | .write message, c => c.write message
  | .receive ok, c =>
    match c.pump, c.send with
    | .waiting, m :: rest => { c with send := rest, pump := if ok then .opened m else .returned }
    | _, _ => c
  | .count, c =>
    match c.pump with
    | .opened m => { c with pump := .draining [m] c.send.length }
    | _ => c
  | .drain, c =>
    match c.pump, c.send with
    | .draining taken (left + 1), m :: rest =>
      { c with send := rest, pump := .draining (taken ++ [m]) left }
    | _, _ => c
  | .close ok, c =>
    match c.pump with
    | .draining taken 0 =>
      if ok then { c with pump := .waiting, written := c.written ++ [taken] }
      else { c with pump := .returned }
    | _ => c
  | .ping ok, c =>
    match c.pump with
    | .waiting => if ok then c else { c with pump := .returned }
    | _ => c

/-- Run the steps in order. -/
def run : List ConnectionCall → WebSocketConnection → WebSocketConnection
  | [], c => c
  | call :: calls, c => run calls (c.exec call)

/-- The message a step's `Write` enqueues. -/
def accepts (call : ConnectionCall) (c : WebSocketConnection) : List Bytes :=
  match call with
  | .write message => if c.send.length < sendCapacity then [message] else []
  | _ => []

/-- The messages `Write` enqueues along a run, in order. -/
def accepted : List ConnectionCall → WebSocketConnection → List Bytes
  | [], _ => []
  | call :: calls, c => c.accepts call ++ accepted calls (c.exec call)

@[simp] lemma run_nil (c : WebSocketConnection) : c.run [] = c := rfl

@[simp] lemma run_cons (call : ConnectionCall) (calls : List ConnectionCall)
    (c : WebSocketConnection) : c.run (call :: calls) = (c.exec call).run calls := rfl

/-! ## The invariant -/

/-- What every reachable connection satisfies: the buffer holds at most 100 messages, the pump
fits it, and each text message written carries between 1 and 101 messages. -/
structure Inv (c : WebSocketConnection) : Prop where
  bounded : c.send.length ≤ sendCapacity
  fits : c.pump.Fits c.send.length
  written : ∀ b ∈ c.written, b ≠ [] ∧ b.length ≤ sendCapacity + 1

lemma inv_make : makeWebSocketConnection.Inv :=
  ⟨by decide, trivial, by simp [makeWebSocketConnection]⟩

/-- `Write` keeps the invariant: it adds to the buffer only below its capacity. -/
lemma Inv.write {c : WebSocketConnection} (h : c.Inv) (message : Bytes) :
    (c.write message).Inv := by
  unfold WebSocketConnection.write
  split_ifs with hl
  · refine ⟨by simp; omega, ?_, h.written⟩
    have hf := h.fits
    cases hp : c.pump <;> simp only [hp, WritePump.Fits] at hf ⊢
    exact ⟨hf.1, by simp; omega, hf.2.2⟩
  · exact h

/-- Every step keeps the invariant. -/
lemma Inv.exec {c : WebSocketConnection} (h : c.Inv) (call : ConnectionCall) :
    (c.exec call).Inv := by
  obtain ⟨hb, hf, hw⟩ := h
  rcases c with ⟨send, pump, written⟩
  cases call with
  | write m => exact Inv.write ⟨hb, hf, hw⟩ m
  | receive ok =>
    rcases pump with _ | _ | _ | _ <;> rcases send with _ | ⟨m, rest⟩ <;>
      first | exact ⟨hb, hf, hw⟩ | skip
    simp only [WebSocketConnection.exec]
    exact ⟨by simp at hb ⊢; omega, by cases ok <;> trivial, hw⟩
  | count =>
    rcases pump with _ | m | _ | _ <;> first | exact ⟨hb, hf, hw⟩ | skip
    exact ⟨hb, ⟨by simp, le_rfl, by simp at hb ⊢; omega⟩, hw⟩
  | drain =>
    rcases pump with _ | _ | ⟨taken, _ | left⟩ | _ <;> rcases send with _ | ⟨m, rest⟩ <;>
      first | exact ⟨hb, hf, hw⟩ | skip
    obtain ⟨-, hl, ht⟩ := hf
    simp only [WebSocketConnection.exec]
    refine ⟨by simp at hb ⊢; omega, ⟨by simp, ?_, ?_⟩, hw⟩ <;> simp at hl ht ⊢ <;> omega
  | close ok =>
    rcases pump with _ | _ | ⟨taken, _ | left⟩ | _ <;> first | exact ⟨hb, hf, hw⟩ | skip
    obtain ⟨hn, -, ht⟩ := hf
    cases ok
    · exact ⟨hb, trivial, hw⟩
    · refine ⟨hb, trivial, ?_⟩
      simp only [WebSocketConnection.exec, if_true, List.mem_append, List.mem_singleton]
      rintro b (hb' | rfl)
      · exact hw b hb'
      · exact ⟨hn, by simpa using ht⟩
  | ping ok => rcases pump with _ | _ | _ | _ <;> cases ok <;> exact ⟨hb, hf, hw⟩

lemma run_append (calls more : List ConnectionCall) (c : WebSocketConnection) :
    c.run (calls ++ more) = (c.run calls).run more := by
  induction calls generalizing c with
  | nil => rfl
  | cons call calls ih => exact ih _

/-- Every run keeps the invariant. -/
lemma Inv.run {c : WebSocketConnection} (h : c.Inv) (calls : List ConnectionCall) :
    (c.run calls).Inv := by
  induction calls generalizing c with
  | nil => exact h
  | cons call calls ih => exact ih (h.exec call)

/-! ## No accepted message is lost, duplicated or reordered -/

/-- What a connection holds of the messages `acc` that `Write` accepted: while the pump runs, the
messages written, then those of the text message being built, then the buffer, are `acc`; once
it has returned, the messages written are a prefix of `acc`. -/
def Conserves (acc : List Bytes) (c : WebSocketConnection) : Prop :=
  match c.pump with
  | .returned => c.written.flatten <+: acc
  | _ => c.written.flatten ++ c.pump.taken ++ c.send = acc

/-- A failed pump step keeps what was written: a prefix of the messages accepted. -/
lemma conserves_returned {acc : List Bytes} {c : WebSocketConnection}
    (h : c.written.flatten ++ c.pump.taken ++ c.send = acc) :
    Conserves acc { c with pump := .returned } := by
  rw [Conserves, ← h, List.append_assoc]
  exact List.prefix_append _ _

/-- Each step appends what its `Write` accepts. -/
lemma Conserves.exec {acc : List Bytes} {c : WebSocketConnection} (h : Conserves acc c)
    (call : ConnectionCall) : Conserves (acc ++ c.accepts call) (c.exec call) := by
  rcases c with ⟨send, pump, written⟩
  cases call with
  | write m =>
    simp only [WebSocketConnection.exec, WebSocketConnection.write, accepts]
    split_ifs
    · rcases pump with _ | _ | _ | _ <;> simp only [Conserves] at h ⊢ <;>
        first | exact h.trans (List.prefix_append _ _) | simp [← h]
    · simpa using h
  | receive ok =>
    rcases pump with _ | _ | _ | _ <;> rcases send with _ | ⟨m, rest⟩ <;>
      first | simpa [accepts] using h | skip
    simp only [WebSocketConnection.exec, accepts, List.append_nil]
    cases ok
    · exact conserves_returned h
    · simpa [Conserves, WritePump.taken] using h
  | count =>
    rcases pump with _ | m | _ | _ <;> simpa [WebSocketConnection.exec, accepts, Conserves,
      WritePump.taken] using h
  | drain =>
    rcases pump with _ | _ | ⟨taken, _ | left⟩ | _ <;> rcases send with _ | ⟨m, rest⟩ <;>
      simpa [WebSocketConnection.exec, accepts, Conserves, WritePump.taken] using h
  | close ok =>
    rcases pump with _ | _ | ⟨taken, _ | left⟩ | _ <;> first | simpa [accepts] using h | skip
    simp only [WebSocketConnection.exec, accepts, List.append_nil]
    cases ok
    · exact conserves_returned h
    · simpa [Conserves, WritePump.taken] using h
  | ping ok =>
    rcases pump with _ | _ | _ | _ <;> first | simpa [accepts] using h | skip
    simp only [WebSocketConnection.exec, accepts, List.append_nil]
    cases ok
    · exact conserves_returned h
    · exact h

/-- While the pump runs, the messages written, in the text message being built and in the buffer
are all that was accepted. -/
lemma Conserves.eq {acc : List Bytes} {c : WebSocketConnection} (h : Conserves acc c)
    (hp : c.pump ≠ .returned) : c.written.flatten ++ c.pump.taken ++ c.send = acc := by
  unfold Conserves at h
  split at h
  · contradiction
  · exact h

/-- What was written is a prefix of what was accepted. -/
lemma Conserves.written_prefix_acc {acc : List Bytes} {c : WebSocketConnection}
    (h : Conserves acc c) : c.written.flatten <+: acc := by
  unfold Conserves at h
  split at h
  · exact h
  · rw [← h, List.append_assoc]
    exact List.prefix_append _ _

/-- Every run appends what its `Write`s accept. -/
lemma Conserves.run {acc : List Bytes} {c : WebSocketConnection} (h : Conserves acc c)
    (calls : List ConnectionCall) : Conserves (acc ++ accepted calls c) (c.run calls) := by
  induction calls generalizing acc c with
  | nil => simpa [accepted] using h
  | cons call calls ih => simpa [accepted] using ih (h.exec call)

/-! ## The pump flushes the buffer -/

/-- Steps of the pump alone: none of them is a `Write`. -/
def PumpOnly (calls : List ConnectionCall) : Prop := ∀ call ∈ calls, ∀ m, call ≠ .write m

/-- Steps of the pump alone accept nothing. -/
lemma accepted_of_pumpOnly {calls : List ConnectionCall} (hp : PumpOnly calls)
    (c : WebSocketConnection) : accepted calls c = [] := by
  induction calls generalizing c with
  | nil => rfl
  | cons call calls ih =>
    have hrest : PumpOnly calls := fun x hx => hp x (List.mem_cons_of_mem _ hx)
    cases call with
    | write m => exact absurd rfl (hp _ (List.mem_cons_self _ _) m)
    | _ => simp [accepted, accepts, ih hrest]

/-- The inner loop moves the messages it counted, oldest first, into the text message, and leaves
the messages enqueued after the count in the buffer. -/
lemma run_drain {taken xs ys : List Bytes} {c : WebSocketConnection}
    (hp : c.pump = .draining taken xs.length) (hs : c.send = xs ++ ys) :
    c.run (List.replicate xs.length .drain) =
      { c with send := ys, pump := .draining (taken ++ xs) 0 } := by
  induction xs generalizing taken c with
  | nil => rcases c with ⟨send, pump, written⟩; simp_all
  | cons x xs ih =>
    rcases c with ⟨send, pump, written⟩
    simp only at hp hs
    subst hp hs
    rw [List.length_cons, List.replicate_succ, run_cons, exec, ih rfl rfl]
    simp

/-- The pump, with no failure, can bring the connection back to its `select` with an empty
buffer. -/
def Flushes (c : WebSocketConnection) : Prop :=
  ∃ calls, PumpOnly calls ∧ (c.run calls).pump = .waiting ∧ (c.run calls).send = []

/-- Pump steps towards a connection that flushes are a start of a flush. -/
lemma Flushes.of_run {c : WebSocketConnection} (calls : List ConnectionCall)
    (hp : PumpOnly calls) (hf : (c.run calls).Flushes) : c.Flushes := by
  obtain ⟨more, hm, hw, hs⟩ := hf
  refine ⟨calls ++ more, fun call hc => ?_, by rwa [run_append], by rwa [run_append]⟩
  rcases List.mem_append.1 hc with hc | hc
  · exact hp call hc
  · exact hm call hc

/-- The inner loop's receives and the `Close` that ends a pass are steps of the pump alone. -/
lemma pumpOnly_finish (n : Nat) : PumpOnly (List.replicate n .drain ++ [.close true]) :=
  fun call hc m => by
    simp only [List.mem_append, List.mem_replicate, List.mem_singleton] at hc
    rcases hc with ⟨_, rfl⟩ | rfl <;> nofun

/-- From its `select`, one pass of the pump writes the waiting messages as one text message. -/
lemma flushes_of_waiting {c : WebSocketConnection} (h : c.pump = .waiting) : c.Flushes := by
  rcases c with ⟨_ | ⟨m, rest⟩, pump, written⟩
  · exact ⟨[], fun _ hc => absurd hc (List.not_mem_nil _), h, rfl⟩
  · simp only at h
    subst h
    refine Flushes.of_run [.receive true, .count] (by simp [PumpOnly]) ?_
    refine Flushes.of_run _ (pumpOnly_finish rest.length) ?_
    rw [run_append, @run_drain [m] rest [] _ rfl (List.append_nil _).symm]
    exact ⟨[], fun _ hc => absurd hc (List.not_mem_nil _), rfl, rfl⟩

/-- In the inner loop, the pump finishes its text message with the receives it has to go and
then flushes what was enqueued after its count. -/
lemma flushes_of_draining {c : WebSocketConnection} {taken : List Bytes} {left : Nat}
    (hp : c.pump = .draining taken left) (hl : left ≤ c.send.length) : c.Flushes := by
  have hx : (c.send.take left).length = left := List.length_take_of_le hl
  refine Flushes.of_run _ (pumpOnly_finish left) (flushes_of_waiting ?_)
  rw [run_append, ← hx, run_drain (hx.symm ▸ hp) (List.take_append_drop left c.send).symm]
  rfl

/-- A pump that has opened a text message counts the buffer and flushes it. -/
lemma flushes_of_opened {c : WebSocketConnection} {m : Bytes} (hp : c.pump = .opened m) :
    c.Flushes :=
  Flushes.of_run [.count] (by simp [PumpOnly])
    (flushes_of_draining (show (c.run [.count]).pump = .draining [m] c.send.length by
      simp [exec, hp]) (by simp [exec, hp]))

/-- Every connection whose pump fits its buffer and has not returned flushes. -/
lemma Inv.flushes {c : WebSocketConnection} (h : c.Inv) (hp : c.pump ≠ .returned) :
    c.Flushes := by
  have hf := h.fits
  cases hc : c.pump with
  | waiting => exact flushes_of_waiting hc
  | opened m => exact flushes_of_opened hc
  | draining taken left => rw [hc] at hf; exact flushes_of_draining hc hf.2.1
  | returned => exact absurd hc hp

/-! ## Over every run from `MakeWebSocketConnection` -/

/-- Over every run from `MakeWebSocketConnection`, the buffer holds at most 100 messages; when
the pump's inner loop has a receive to go, a message is waiting for it, so the receive does not
block; and each text message written carries between 1 and 101 messages. -/
theorem run_bounded (calls : List ConnectionCall) :
    (makeWebSocketConnection.run calls).send.length ≤ sendCapacity ∧
    (∀ taken left, (makeWebSocketConnection.run calls).pump = .draining taken (left + 1) →
      (makeWebSocketConnection.run calls).send ≠ []) ∧
    ∀ b ∈ (makeWebSocketConnection.run calls).written,
      1 ≤ b.length ∧ b.length ≤ sendCapacity + 1 := by
  obtain ⟨hb, hf, hw⟩ := inv_make.run calls
  refine ⟨hb, fun taken left hp => ?_, fun b hb' => ?_⟩
  · rw [hp] at hf
    exact List.ne_nil_of_length_pos (by have := hf.2.1; omega)
  · exact ⟨List.length_pos.2 (hw b hb').1, (hw b hb').2⟩

/-- Over every run from `MakeWebSocketConnection`, the messages written to the WebSocket are, in
order, a prefix of the messages `Write` accepted; and while the pump has not returned, they are
followed by the messages of the text message being built and then by the buffer, and these are
all the messages accepted. -/
theorem run_written_prefix (calls : List ConnectionCall) :
    (makeWebSocketConnection.run calls).written.flatten <+:
      accepted calls makeWebSocketConnection ∧
    ((makeWebSocketConnection.run calls).pump ≠ .returned →
      (makeWebSocketConnection.run calls).written.flatten ++
        (makeWebSocketConnection.run calls).pump.taken ++
        (makeWebSocketConnection.run calls).send = accepted calls makeWebSocketConnection) := by
  have h := (show Conserves [] makeWebSocketConnection from rfl).run calls
  rw [List.nil_append] at h
  exact ⟨h.written_prefix_acc, h.eq⟩

/-- Over every run from `MakeWebSocketConnection` in which the pump has not returned, the pump
alone, with no `Write` in between and no failure, can bring the connection back to its `select`
with an empty buffer, having written every message `Write` accepted: no accepted message is held
back for good while the pump runs. -/
theorem run_flushes {calls : List ConnectionCall}
    (h : (makeWebSocketConnection.run calls).pump ≠ .returned) :
    ∃ pump : List ConnectionCall, PumpOnly pump ∧
      (makeWebSocketConnection.run (calls ++ pump)).pump = .waiting ∧
      (makeWebSocketConnection.run (calls ++ pump)).send = [] ∧
      (makeWebSocketConnection.run (calls ++ pump)).written.flatten =
        accepted calls makeWebSocketConnection := by
  obtain ⟨pump, hp, hw, hs⟩ := (inv_make.run calls).flushes h
  have hc := ((show Conserves [] makeWebSocketConnection from rfl).run calls).run pump
  rw [accepted_of_pumpOnly hp, List.append_nil, List.nil_append] at hc
  refine ⟨pump, hp, ?_, ?_, ?_⟩ <;> rw [run_append]
  · exact hw
  · exact hs
  · simpa [hw, hs, WritePump.taken] using hc.eq (by simp [hw])

/-- Two messages written, and the pump in the middle of the pass that takes the first. -/
theorem midPass_run_flushes :
    (makeWebSocketConnection.run [.write [1], .write [2], .receive true]).pump ≠ .returned ∧
    ∃ pump : List ConnectionCall, PumpOnly pump ∧
      (makeWebSocketConnection.run ([.write [1], .write [2], .receive true] ++ pump)).pump =
        .waiting ∧
      (makeWebSocketConnection.run ([.write [1], .write [2], .receive true] ++ pump)).send = [] ∧
      (makeWebSocketConnection.run ([.write [1], .write [2], .receive true] ++ pump)).written.flatten =
        accepted [.write [1], .write [2], .receive true] makeWebSocketConnection :=
  ⟨by decide, run_flushes (by decide)⟩

end WebSocketConnection

end Envisilab
