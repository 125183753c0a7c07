import SpwKit.Device.WrittenFrames
import SpwKit.Vspwd.Attached

/-!
# A device port and its daemon

One client of the daemon is a device port that has connected and attached; the other
clients do what they like. What the port writes goes over the socket to the daemon and is
handled there in the order it was written, and what the daemon writes is read in that
order. Nothing of this takes the connection away: neither end closes it for a reason that
is not in the records themselves.

`Session` is the port with its calls and the daemon with its actions. Beside them stands
what an observer of the socket notes: the records of the present request, the packets that
have got through to the other port, and how many of these there were when the last
response was read.
-/

open Vspd BigEndian Interactive
open Vspwd (Daemon ClientIndex PortId peerPort isResponse acceptedFrom)

namespace Device

/-- **What is noted of the present request.** -/
structure Dialogue where
  /-- The packet of the present call, if it sends one. -/
  packet : Packet
  /-- The records written since the last response was read. -/
  written : List Bytes
  /-- The packets that had got through by then. -/
  confirmed : List Packet
deriving DecidableEq, Repr

/-- **The other end of the connection**: the daemon, and the packets of the port that have
got through. -/
structure Peer where
  daemon : Daemon
  accepted : List Packet

/-- The packet of a call, if it sends one. -/
def Call.packet : Call → Packet
  | .send packet _ => packet
  | _ => ⟨[], .eop⟩

/-- **The answers of a socket that stays connected** until the port closes it, and what is
noted of them. A record that is read is the next one the daemon has written. -/
def Peer.accepts (i : ClientIndex) (e : Peer) (c : Context) (o : Dialogue) :
    (q : Request) → q.Answer → Option Dialogue
  | .clock, _ => some o
  | .poll _ _, r =>
    match (r : PollAnswer) with
    | .hungUp | .error => none
    | .timedOut | .ready | .other | .interrupted => some o
  | .send frame, r =>
    match (r : SendAnswer) with
    | .sent => some { o with written := o.written ++ [frame] }
    | .interrupted | .wouldBlock => some o
    | .short | .error => none
  | .recv, r =>
    match (r : ReceiveAnswer) with
    | .record bytes =>
      if (e.daemon.told i)[c.history.read.length]? = some bytes then
        if isResponse bytes then some { o with written := [], confirmed := e.accepted }
        else some o
      else none
    | .interrupted | .wouldBlock => some o
    | .ended | .error => none
  | .connect, _ => none
  | .close, _ => some o

/-- **A session**: a device port and its daemon. -/
structure Session where
  port : Endpoint Request Request.Answer Context Dialogue Call Result
  peer : Peer

/-- What may happen in a session. -/
inductive Act
  /-- The application makes a call. -/
  | call (call : Call)
  /-- The open request of the port is answered. -/
  | answer (reply : (q : Request) → q.Answer)
  /-- The daemon does something. -/
  | daemon (a : Vspwd.Action)

namespace Session

/-- The context of the port. -/
def context (s : Session) : Context := s.port.state

/-- The daemon may do this: a record of the port that it handles is the next one the port
has written, and anything else leaves the connection. -/
def offers (s : Session) (i : ClientIndex) : Vspwd.Action → Bool
  | .receive j (.record frame) =>
    if j = i then
      decide (s.context.history.sent[(s.peer.daemon.heard i).length]? = some frame)
    else keeps s i (.receive j (.record frame))
  | a => keeps s i a
where
  /-- The connection stays. -/
  keeps (s : Session) (i : ClientIndex) (a : Vspwd.Action) : Bool :=
    decide (((s.peer.daemon.step a).server.clients i).fd
      = (s.peer.daemon.server.clients i).fd)

/-- **One step**, if it can happen. -/
def step (fuel : Nat) (i : ClientIndex) (p : PortId) (s : Session) : Act → Option Session
  | .call call =>
    ({ s.port with out := { s.port.out with packet := call.packet } }.begin (Call.code fuel)
      call).map (fun port => { s with port := port })
  | .answer reply =>
    (s.port.answer (s.peer.accepts i) reply).map (fun port => { s with port := port })
  | .daemon a =>
    if s.offers i a then
      some { s with peer := ⟨s.peer.daemon.step a,
        s.peer.accepted ++ acceptedFrom i p s.peer.daemon a⟩ }
    else none

/-- Several steps, one after the other, each of which may depend on the state. -/
def play (fuel : Nat) (i : ClientIndex) (p : PortId) :
    List (Session → Act) → Session → Option Session
  | [], s => some s
  | act :: rest, s => (s.step fuel i p (act s)).bind (play fuel i p rest)

/-- **A session that has been established**: the port is connected and attached, all of
its requests were handled and their responses read, and there is nothing left of a packet. -/
structure Established (i : ClientIndex) (p : PortId) (s : Session) : Prop where
  idle : s.port.isIdle = true
  connected : s.context.connected = true
  port : s.context.portId = UInt32.ofNat p.val
  reachable : s.peer.daemon.Reachable
  opened : (s.peer.daemon.server.clients i).fd.isSome = true
  hello : (s.peer.daemon.server.clients i).helloDone = true
  owns : (s.peer.daemon.server.clients i).portId = some p
  heard : s.peer.daemon.heard i = s.context.history.sent
  told : s.context.history.read <+: s.peer.daemon.told i
  answered : ∀ frame ∈ (s.peer.daemon.told i).drop s.context.history.read.length,
    isResponse frame = false
  responded : (s.peer.daemon.server.clients i).responsePending = false
  reassembly : (s.peer.daemon.server.clients i).reassembly.active = false
  fresh : s.port.out.written = [] ∧ s.port.out.confirmed = s.peer.accepted ∧ s.port.log = []

/-- **The conditions of a step.** A call is made when no request is outstanding: nothing of
the last one was written, or its response was read. It is one the port lets through and
does not close the port. Neither counter is at 0. -/
def Careful (s : Session) : Act → Prop
  | .call call => s.port.out.written = [] ∧ call.Admitted ∧ call ≠ .destroy ∧ s.context.Counted
  | .answer _ => s.context.Counted
  | .daemon _ => True

instance : (call : Call) → Decidable call.Admitted
  | .send packet _ => inferInstanceAs (Decidable (packet.bytes.length ≤ maxLogicalPacket))
  | .sendTimeCode code _ => inferInstanceAs (Decidable (code.valid = true))
  | .destroy | .start | .stop | .reset | .getLinkState | .receive _ _ | .receiveTimeCode _
  | .wait _ _ | .getStatistics | .clearStatistics => inferInstanceAs (Decidable True)

instance (s : Session) : (act : Act) → Decidable (s.Careful act)
  | .call _ => inferInstanceAs (Decidable (_ ∧ _ ∧ _ ∧ _))
  | .answer _ => inferInstanceAs (Decidable s.context.Counted)
  | .daemon _ => inferInstanceAs (Decidable True)

/-- **The runs of an established session** in which every step meets the conditions. -/
inductive Runs (fuel : Nat) (i : ClientIndex) (p : PortId) (s₀ : Session) : Session → Prop
  | established (h : s₀.Established i p) : Runs fuel i p s₀ s₀
  | step {s s' : Session} (h : Runs fuel i p s₀ s) (act : Act) (hcareful : s.Careful act)
      (hstep : s.step fuel i p act = some s') : Runs fuel i p s₀ s'

/-- The steps meet the conditions. -/
def careful (fuel : Nat) (i : ClientIndex) (p : PortId) : List (Session → Act) → Session → Bool
  | [], _ => true
  | act :: rest, s =>
    decide (s.Careful (act s)) && (s.step fuel i p (act s)).all (careful fuel i p rest)

theorem Runs.play {fuel : Nat} {i : ClientIndex} {p : PortId} {s₀ : Session}
    {script : List (Session → Act)} :
    ∀ {s s' : Session}, Runs fuel i p s₀ s → careful fuel i p script s = true →
      Session.play fuel i p script s = some s' → Runs fuel i p s₀ s' := by
  induction script with
  | nil =>
    intro s s' h _ hplay
    rwa [← Option.some.inj hplay]
  | cons act rest ih =>
    intro s s' h hcareful hplay
    obtain ⟨middle, hstep, hrest⟩ := Option.bind_eq_some_iff.mp hplay
    rw [careful, hstep, Bool.and_eq_true, decide_eq_true_eq] at hcareful
    exact ih (h.step _ hcareful.1 hstep) hcareful.2 hrest

end Session

end Device
