import SpwKit.Vspwd.Requests

/-!
# What the daemon has heard and said

What goes over the sockets is records: the requests a client has had accepted since it
was let in, the records written to it, the fragments its port has been sent and the
packets that were acknowledged for it. `Daemon` keeps these beside the server. They are
read off the records alone: whether a request was granted is the status of the response
in the slot, and the packet that was acknowledged is what the fragments before it carry.
-/

open Vspd BigEndian

namespace Vspwd

/-- **The daemon with its histories.** -/
structure Daemon where
  server : Server
  /-- The records of the client at a place that were handled since it was let in. -/
  heard : ClientIndex → List Bytes
  /-- The records written to that client. -/
  told : ClientIndex → List Bytes
  /-- The fragments written to the owner of a port since it has attached, and since
  it has last reset the port. -/
  stream : PortId → List Bytes
  /-- The packets for the port that were acknowledged since then. -/
  relayed : PortId → List Packet

/-- The daemon at its start. -/
def Daemon.initial (s : Server) : Daemon :=
  ⟨s, fun _ => [], fun _ => [], fun _ => [], fun _ => []⟩

/-! ## Reading the records -/

/-- A record is accepted, and its header has a property. -/
def headerIs (test : Header → Bool) (frame : Bytes) : Bool :=
  match validateFrame frame with
  | .ok header => test header
  | .error _ => false

theorem headerIs_of_ok {test : Header → Bool} {frame : Bytes} {header : Header}
    (h : validateFrame frame = .ok header) : headerIs test frame = test header := by
  rw [headerIs, h]

/-- The record is a response. -/
def isResponse : Bytes → Bool := headerIs (fun header => header.has flagResponse)

/-- The record is a fragment of a packet from a client. -/
def isDataTx : Bytes → Bool :=
  headerIs (fun header => header.type == MessageType.dataTx.toByte)

/-- The record is a fragment from a client and not the last of its packet. -/
def isPart : Bytes → Bool :=
  headerIs (fun header =>
    header.type == MessageType.dataTx.toByte && !header.has flagFragmentEnd)

/-- The record is a fragment of a packet for a client. -/
def isDataRx : Bytes → Bool :=
  headerIs (fun header => header.type == MessageType.dataRx.toByte)

/-- The request a record holds, if the response that is waiting grants it. -/
def granted (s : Server) (i : ClientIndex) (frame : Bytes) : Option Header :=
  match validateFrame frame, validateFrame (s.clients i).response with
  | .ok request, .ok response =>
    if (s.clients i).responsePending && response.status == Status.ok.toWire then some request
    else none
  | _, _ => none

/-- The bytes of a packet grow with each fragment, and the first one starts anew. -/
def gatherStep (data : Bytes) (frame : Bytes) : Bytes :=
  if isDataTx frame then
    if (readHeader frame).has flagFragmentStart then payloadOf frame else data ++ payloadOf frame
  else data

/-- **The bytes of the packet that a list of records ends in.** -/
def gather (frames : List Bytes) : Bytes := frames.foldl gatherStep []

/-! ## Events -/

namespace Daemon

variable (d : Daemon)

/-- What is noted of a request that was granted. -/
def note (i : ClientIndex) (request : Header) : Daemon :=
  if request.type = MessageType.attach.toByte ∨ request.type = MessageType.reset.toByte then
    { d with
      stream := fun p => if request.portId = UInt32.ofNat p.val then [] else d.stream p
      relayed := fun p => if request.portId = UInt32.ofNat p.val then [] else d.relayed p }
  else if request.type = MessageType.dataTx.toByte then
    { d with
      relayed := fun p =>
        if request.portId = UInt32.ofNat (peerPort p).val then
          d.relayed p ++ [⟨gather (d.heard i), request.terminator⟩]
        else d.relayed p }
  else d

/-- A record has been handled. -/
def hear (i : ClientIndex) (frame : Bytes) (s' : Server) : Daemon :=
  let d' : Daemon :=
    { d with server := s', heard := Function.update d.heard i (d.heard i ++ [frame]) }
  match granted s' i frame with
  | none => d'
  | some request => d'.note i request

/-- Records have been written. -/
def tell (i : ClientIndex) (frames : List Bytes) (s' : Server) : Daemon :=
  { d with
    server := s'
    told := Function.update d.told i (d.told i ++ frames)
    stream := fun p =>
      if (d.server.clients i).portId = some p then d.stream p ++ frames.filter isDataRx
      else d.stream p }

/-- A place has a new client. -/
def welcome (i : ClientIndex) (s' : Server) : Daemon :=
  { d with
    server := s'
    heard := Function.update d.heard i []
    told := Function.update d.told i [] }

end Daemon

section Notes

variable (d : Daemon) (i : ClientIndex) (frame : Bytes) (s' : Server)

theorem hear_server : (d.hear i frame s').server = s' := by
  simp only [Daemon.hear, Daemon.note]
  split
  · rfl
  · split_ifs <;> rfl

theorem hear_heard :
    (d.hear i frame s').heard = Function.update d.heard i (d.heard i ++ [frame]) := by
  simp only [Daemon.hear, Daemon.note]
  split
  · rfl
  · split_ifs <;> rfl

theorem hear_told : (d.hear i frame s').told = d.told := by
  simp only [Daemon.hear, Daemon.note]
  split
  · rfl
  · split_ifs <;> rfl

end Notes

/-- A record of a client is handled and the client may stay. -/
def Server.handles (s : Server) (i : ClientIndex) (frame : Bytes) : Bool :=
  (s.clients i).fd.isSome && decide (frame.length ≤ frameMax) && (handleRequest s i frame).1

/-- **One action**, with what is noted of it. -/
def Daemon.step (d : Daemon) (a : Action) : Daemon :=
  match a with
  | .accept _ =>
    match freeSlot d.server with
    | none => { d with server := d.server.step a }
    | some i => d.welcome i (d.server.step a)
  | .receive i (.record frame) =>
    if d.server.handles i frame then d.hear i frame (d.server.step a)
    else { d with server := d.server.step a }
  | .flush i _ => d.tell i (d.server.writes a) (d.server.step a)
  | _ => { d with server := d.server.step a }

theorem Daemon.step_server (d : Daemon) (a : Action) : (d.step a).server = d.server.step a := by
  unfold Daemon.step
  split
  · split <;> rfl
  · split_ifs
    · exact hear_server d _ _ _
    · rfl
  · rfl
  · rfl

theorem Daemon.tell_nil (d : Daemon) (i : ClientIndex) : d.tell i [] d.server = d := by
  have hstream : (fun p => if (d.server.clients i).portId = some p then
      d.stream p ++ [].filter isDataRx else d.stream p) = d.stream := by
    funext p
    simp
  simp only [Daemon.tell, List.append_nil, Function.update_eq_self, hstream]

theorem Daemon.tell_tell (d : Daemon) (i : ClientIndex) (a b : List Bytes)
    (s' s'' : Server) (hport : (s'.clients i).portId = (d.server.clients i).portId) :
    (d.tell i a s').tell i b s'' = d.tell i (a ++ b) s'' := by
  have hstream : ((d.tell i a s').tell i b s'').stream = (d.tell i (a ++ b) s'').stream := by
    funext p
    simp only [Daemon.tell, hport, List.filter_append]
    split_ifs
    · rw [List.append_assoc]
    · rfl
  have htold : ((d.tell i a s').tell i b s'').told = (d.tell i (a ++ b) s'').told := by
    simp only [Daemon.tell, Function.update_idem, Function.update_self, List.append_assoc]
  exact congrArg₂ (fun told stream => (⟨s'', d.heard, told, stream, d.relayed⟩ : Daemon))
    htold hstream

end Vspwd
