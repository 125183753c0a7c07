import SpwKit.Core.Calls
import SpwKit.Ethernet.UdpBackend

/-!
# A port with a UDP backend

The functions of the UDP backend as the table a port is opened with. The backend
has no zero-copy functions. What the port has checked before it calls the backend,
the backend checks again; the two agree except on time codes, of which the port
lets through fewer.
-/

open Interactive Core

/-- What a receive writes to the caller's packet. -/
def ReceiveReturn.written : ReceiveReturn → Result × Option PacketOut
  | .packet p => (.ok, some ⟨p.bytes.length, p.terminator, some p.bytes⟩)
  | .tooSmall length terminator => (.bufferTooSmall, some ⟨length, terminator, none⟩)
  | .failed result => (result, none)

/-- What a receive of a time code writes to the caller's time code. -/
def writtenTimeCode : Except Result TimeCode → Result × Option TimeCode
  | .ok code => (.ok, some code)
  | .error result => (result, none)

variable (fuel : Nat)

/-- `UDP_OPS`. -/
def udpOps : BackendOps UdpRequest UdpRequest.Answer UdpBackend where
  start := udpStart fuel
  stop := udpStop
  reset := udpReset
  getLinkState := do
    let (result, state) ← udpGetLinkState fuel
    return (result, some state)
  send packet timeoutUs := udpSend fuel packet.toSendPacket timeoutUs
  receive buffer timeoutUs := do return (← udpReceive fuel buffer timeoutUs).written
  sendTimeCode code timeoutUs := udpSendTimeCode fuel code timeoutUs
  receiveTimeCode timeoutUs := do return writtenTimeCode (← udpReceiveTimeCode fuel timeoutUs)
  getStatistics := do
    let (result, statistics) ← udpGetStatistics
    return (result, some statistics)
  clearStatistics := udpClearStatistics

/-- The port lets no time code through that the backend refuses. -/
theorem Core.valid_of_validTimeCode {code : TimeCode} (h : validTimeCode code = true) :
    code.valid = true := by
  rw [validTimeCode, Bool.and_eq_true, decide_eq_true_eq, decide_eq_true_eq] at h
  rw [TimeCode.valid, h.2, Bool.and_eq_true, decide_eq_true_eq]
  exact ⟨h.1, rfl⟩
