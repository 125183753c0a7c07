import SpwKit.Vspwd.Records
import Mathlib.Logic.Relation

/-!
# The moves of the daemon

Every action of the daemon is a row of moves, each of which changes one thing and
tells whom it concerns: a client is let in or closed, a port changes hands or is
started, a packet is queued or popped, a response is put into its slot. `Move`
lists them with what the code has checked before. Handling a request is a move or
two and then the move that answers it; a property that every move keeps is kept
by every action, and holds of every state the daemon reaches (`Reachable.keeps`).
-/

open Vspd BigEndian

namespace Vspwd

/-- **What the daemon can do.** -/
inductive Move (s : Server) : Server → Prop
  | accept (i : ClientIndex) (fd : Nat) (hfree : (s.clients i).fd = none) :
      Move s (s.updateClient i (fun _ => Client.zeroed (some fd)))
  | close (i : ClientIndex) : Move s (closeClient s i)
  | hello (i : ClientIndex) (hfd : (s.clients i).fd.isSome = true)
      (hport : (s.clients i).portId = none) :
      Move s (s.updateClient i (fun client => { client with helloDone := true }))
  | attach (i : ClientIndex) (p : PortId) (hfd : (s.clients i).fd.isSome = true)
      (hhello : (s.clients i).helloDone = true) (hport : (s.clients i).portId = none)
      (hbridged : (s.ports p).bridged = false) (howner : (s.ports p).clientIndex = none) :
      Move s (attachClient s i p)
  | detach (i : ClientIndex) : Move s (detachClient s i)
  | start (i : ClientIndex) (p : PortId) (howns : (s.clients i).portId = some p) :
      Move s (startPort s p)
  | stop (i : ClientIndex) (p : PortId) (howns : (s.clients i).portId = some p) :
      Move s (stopPort s p)
  | reset (i : ClientIndex) (p : PortId) (howns : (s.clients i).portId = some p) :
      Move s (resetPort s i p)
  | clearStatistics (p : PortId) : Move s (clearPortStatistics s p)
  | subscribe (i : ClientIndex) (p : PortId) (hhello : (s.clients i).helloDone = true)
      (hport : (s.clients i).portId = none) : Move s (subscribePort s i p)
  | unsubscribe (i : ClientIndex) (p : PortId) : Move s (unsubscribePort s i p)
  | respond (i : ClientIndex) (bytes : Bytes)
      (hfree : (s.clients i).responsePending = false) (hlegal : Legal bytes) :
      Move s (s.respond i bytes)
  | reassemble (i : ClientIndex) (p : PortId) (header : Header) (payload : Bytes)
      (r : Reassembly) (terminator : Terminator) (howns : (s.clients i).portId = some p)
      (hadmits : (s.clients i).reassembly.admits header = some r) (hshape : DataShape header)
      (hlen : payload.length = header.payloadSize.toNat) :
      Move s (s.setReassembly i { r.store header payload with terminator := terminator })
  | forget (i : ClientIndex) : Move s (s.clearReassembly i)
  | drop (p : PortId) : Move s (dropPacket s p)
  | transferPacket (p : PortId) (packet : Packet)
      (hroom : (s.ports (peerPort p)).packets.count < packetQueueDepth)
      (hrun : (s.ports (peerPort p)).state = .run)
      (hlen : packet.bytes.length ≤ maxLogicalPacket) : Move s (s.transferPacket p packet hroom)
  | transferTimeCode (p : PortId) (code : TimeCode)
      (hroom : (s.ports (peerPort p)).timeCodes.count < timeCodeQueueDepth)
      (hrun : (s.ports (peerPort p)).state = .run) (hvalid : code.valid = true) :
      Move s (s.transferTimeCode p code hroom)
  | responseSent (i : ClientIndex) :
      Move s (s.updateClient i (fun client =>
        { client with responsePending := false, response := [] }))
  | stateSent (p : PortId) :
      Move s (s.updatePort p (fun port => { port with stateEventPending := false }))
  | advance (p : PortId) (slot : PacketSlot) (hfront : (s.ports p).packets.front = some slot)
      (hmore : isFinal (slot.fragmentation p).length slot.offset = false) :
      Move s (advanceSlot s p slot (chunkAt (slot.fragmentation p).length slot.offset))
  | popPacket (p : PortId) (slot : PacketSlot)
      (hfront : (s.ports p).packets.front = some slot) : Move s (Vspwd.popPacket s p slot)
  | popTimeCode (p : PortId) : Move s (Vspwd.popTimeCode s p)
  | snapshotSent (i : ClientIndex) (p : PortId) :
      Move s (s.updateClient i (fun client =>
        { client with monitorPendingMask := client.monitorPendingMask &&& ~~~portBit p }))
  | bridgeRefresh (answer : Option LinkState) : Move s (bridgeRefreshState s answer)

/-- A row of moves. -/
def Moves : Server → Server → Prop := Relation.ReflTransGen Move

namespace Moves

variable {s s' s'' : Server}

theorem refl (s : Server) : Moves s s := Relation.ReflTransGen.refl

theorem one (h : Move s s') : Moves s s' := Relation.ReflTransGen.single h

theorem trans (h : Moves s s') (h' : Moves s' s'') : Moves s s'' :=
  Relation.ReflTransGen.trans h h'

theorem move (h : Moves s s') (h' : Move s' s'') : Moves s s'' :=
  Relation.ReflTransGen.tail h h'

/-- What every move keeps, a row of moves keeps. -/
theorem keeps {P : Server → Prop} (hmove : ∀ {s s' : Server}, Move s s' → P s → P s')
    (h : Moves s s') : P s → P s' := by
  induction h with
  | refl => exact id
  | tail _ hlast ih => exact fun hp => hmove hlast (ih hp)

end Moves

end Vspwd
