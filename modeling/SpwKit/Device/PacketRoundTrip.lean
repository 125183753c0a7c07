import SpwKit.Device.DeviceBackend
import SpwKit.Vspwd.Legality

/-!
# A packet from one port to the other

A packet is cut twice on its way: by `device_send` into DATA_TX records, which the
daemon puts together, and by the daemon into DATA_RX records, which
`process_event` puts together. Both cuts are the row of a `Fragmentation`, and
both receivers go along it in the same way: between two records they hold the
bytes below the offset of the next. So each half is an instance of the rule of a
row, and the two together give back the packet.
-/

open Vspd BigEndian Interactive

namespace Device

/-! ## What `device_send` writes -/

section Sending

variable {oracle : Nat → (q : Request) → q.Answer}
  (htakes : ∀ n frame, oracle n (.send frame) = SendAnswer.sent) {fuel : Nat}

include htakes

/-- A socket that takes a record takes it at once. -/
theorem sendRecord_replay (hfuel : 0 < fuel) (frame : Bytes) (deadline : UInt64)
    (c : Context) (n : Nat) :
    (sendRecord fuel frame deadline c).replay oracle n
      = ([.send frame], some (c.noteSent frame, .ok)) := by
  obtain ⟨m, rfl⟩ := Nat.exists_eq_succ_of_ne_zero hfuel.ne'
  have hsent := htakes n frame
  simp only [sendRecord, sendRecordLoop, ask, Process.request, Process.bind_apply, Step.bind_ask,
    Step.bind_done, Step.replay, hsent]
  rfl

/-- **The loop of `device_send` writes the row and waits for the response.** -/
theorem sendFragments_replay {cut : Fragmentation} (hv : cut.Valid) (hfuel : 0 < fuel)
    (deadline : UInt64) : ∀ (n : Nat) (offset : UInt32) (c : Context) (k : Nat),
      cut.Starts offset → cut.Within n offset →
      (sendFragments fuel cut deadline n offset c).replay oracle k
        = let waiting := (awaitSent fuel cut.requestId deadline
              ((cut.rowFrom n offset).foldl Context.noteSent c)).replay oracle
            (k + (cut.rowFrom n offset).length)
          ((cut.rowFrom n offset).map Request.send ++ waiting.1, waiting.2)
  | 0, _, _, _, _, hn => absurd hn.1 (Nat.lt_irrefl 0)
  | n + 1, offset, c, k, ho, hn => by
    have hsend := sendRecord_replay htakes hfuel (cut.record offset) deadline c k
    have hframe : cut.frame offset = .ok (cut.record offset) :=
      (Fragmentation.frame_eq_ok hv ho).1
    simp only [sendFragments, hframe, Process.bind_apply, Step.replay_bind_of_some _ _ hsend,
      Fragmentation.rowFrom]
    cases hfinal : isFinal cut.length offset with
    | true => rfl
    | false =>
      have hrest := sendFragments_replay hv hfuel deadline n
        (offset + chunkAt cut.length offset) (c.noteSent (cut.record offset)) (k + 1)
        (Fragmentation.Starts.next hv.length_le ho hfinal)
        (Fragmentation.Within.next hv.length_le ho hfinal hn)
      simp only [Bool.false_eq_true, if_false, List.length_cons, List.length_nil, Nat.zero_add,
        List.map_cons, List.cons_append, List.nil_append, List.foldl_cons, hrest]
      rw [Nat.add_right_comm k 1, Nat.add_assoc k]

end Sending

/-! ## The client puts a packet together -/

/-- The buffer of a client before the record at an offset: it holds the bytes below. -/
structure Gathered (cut : Fragmentation) (offset : UInt32) (c : Context) : Prop where
  notReady : c.rxReady = false
  active_iff : c.rxActive = true ↔ offset ≠ 0
  messageId : offset ≠ 0 → c.rxMessageId = cut.messageId
  totalSize : offset ≠ 0 → c.rxTotalSize = cut.length
  nextOffset : offset ≠ 0 → c.rxNextOffset = offset
  data : offset ≠ 0 → c.rxData = cut.data.take offset.toNat

/-- The buffer of a client with the record at an offset. -/
def afterFragment (cut : Fragmentation) (offset : UInt32) (c : Context) : Context :=
  { c with
    rxActive := !isFinal cut.length offset
    rxReady := isFinal cut.length offset
    rxMessageId := cut.messageId
    rxTotalSize := cut.length
    rxNextOffset := offset + chunkAt cut.length offset
    rxTerminator := if isFinal cut.length offset then cut.terminator else c.rxTerminator
    rxData := cut.data.take (offset.toNat + (chunkAt cut.length offset).toNat) }

section Gathering

variable {cut : Fragmentation} {offset : UInt32} {c : Context} (hv : cut.Valid)
  (ho : cut.Starts offset)

omit hv ho in
theorem take_append_fragment (cut : Fragmentation) (offset : UInt32) :
    cut.data.take offset.toNat ++ cut.payload offset
      = cut.data.take (offset.toNat + (chunkAt cut.length offset).toNat) := by
  rw [Fragmentation.payload, List.take_add]

include hv ho

/-- A fragment is no longer than what is missing. -/
theorem chunkAt_le : ¬ chunkAt cut.length offset > cut.length - offset := by
  have hle : offset ≤ cut.length := by
    rw [UInt32.le_iff_toNat_le, Fragmentation.length_toNat hv.length_le]
    obtain h0 | h0 := ho <;> omega
  rw [gt_iff_lt, UInt32.lt_iff_toNat_lt, UInt32.toNat_sub_of_le _ _ hle,
    Fragmentation.length_toNat hv.length_le, Fragmentation.chunkAt_toNat hv.length_le ho]
  omega

/-- The end of the last fragment is the end of the packet. -/
theorem end_eq_length (hfinal : isFinal cut.length offset = true) :
    offset + chunkAt cut.length offset = cut.length := by
  have hend := (Fragmentation.isFinal_iff hv.length_le ho).mp hfinal
  rw [← UInt32.toNat_inj, Fragmentation.end_toNat hv.length_le ho,
    ← Fragmentation.chunkAt_toNat hv.length_le ho, hend,
    Fragmentation.length_toNat hv.length_le]

/-- The bytes of a fragment go behind those that are there. -/
theorem storeFragment_fragment {c : Context} (hnext : c.rxNextOffset = offset)
    (htotal : c.rxTotalSize = cut.length)
    (hdata : c.rxData.take offset.toNat = cut.data.take offset.toNat) :
    storeFragment c (cut.header offset) (cut.payload offset)
      = (.ok, { c with
        rxData := cut.data.take (offset.toNat + (chunkAt cut.length offset).toNat)
        rxNextOffset := offset + chunkAt cut.length offset
        rxTerminator := if isFinal cut.length offset then cut.terminator else c.rxTerminator
        rxActive := c.rxActive && !isFinal cut.length offset
        rxReady := c.rxReady || isFinal cut.length offset }) := by
  have hoffset : (cut.header offset).fragmentOffset = offset := rfl
  have hsize : (cut.header offset).payloadSize = chunkAt cut.length offset := rfl
  have hfits := chunkAt_le hv ho
  unfold storeFragment
  rw [hoffset, hsize, hnext, htotal, hdata, take_append_fragment cut offset, cut.has_end offset]
  cases hfinal : isFinal cut.length offset with
  | false => simp [hfits]
  | true =>
    have hterm := Fragmentation.terminator_header hfinal
    simp [hfits, hterm, end_eq_length hv ho hfinal]

omit ho in
/-- The first fragment finds the buffer empty. -/
theorem admitFragment_first (h : Gathered cut offset c) (hzero : offset = 0) :
    admitFragment c (cut.header offset) = some { c with
      rxActive := true
      rxMessageId := cut.messageId
      rxTotalSize := cut.length
      rxNextOffset := offset } := by
  have hactive : c.rxActive = false := by
    rw [← Bool.not_eq_true, h.active_iff]
    exact fun hne => hne hzero
  have htotal : (cut.header offset).totalSize = cut.length := rfl
  have hlong : ¬ cut.length.toNat > maxLogicalPacket := by
    rw [Fragmentation.length_toNat hv.length_le]
    exact Nat.not_lt.mpr hv.length_le
  have hoffset : (cut.header offset).fragmentOffset = 0 := hzero
  unfold admitFragment
  rw [cut.has_start offset, decide_eq_true hzero, hactive, hoffset, htotal,
    decide_eq_false hlong, hzero]
  rfl

omit hv ho in
/-- One that follows finds the packet begun. -/
theorem admitFragment_next (h : Gathered cut offset c) (hne : offset ≠ 0) :
    admitFragment c (cut.header offset) = some c := by
  have htotal : (cut.header offset).totalSize = cut.length := rfl
  have hmessage : (cut.header offset).messageId = cut.messageId := rfl
  unfold admitFragment
  rw [cut.has_start offset, decide_eq_false hne, h.active_iff.mpr hne, htotal, hmessage,
    h.messageId hne, h.totalSize hne]
  simp

/-- **The next record of a row goes to its place.** -/
theorem processEvent_fragment (htype : cut.type = .dataRx) (h : Gathered cut offset c) :
    processEvent c (cut.header offset) (cut.payload offset)
      = (.ok, afterFragment cut offset c) := by
  have hbyte : (cut.header offset).type = MessageType.dataRx.toByte := by
    show cut.type.toByte = _
    rw [htype]
  unfold processEvent
  rw [hbyte, if_neg (by decide), if_neg (by decide), if_pos rfl, h.notReady,
    if_neg Bool.false_ne_true]
  by_cases hzero : offset = 0
  · rw [admitFragment_first hv h hzero]
    show storeFragment { c with
      rxActive := true
      rxMessageId := cut.messageId
      rxTotalSize := cut.length
      rxNextOffset := offset } _ _ = _
    rw [storeFragment_fragment hv ho rfl rfl (by simp [hzero])]
    simp only [afterFragment, h.notReady, Bool.true_and, Bool.false_or]
  · rw [admitFragment_next h hzero]
    show storeFragment c _ _ = _
    rw [storeFragment_fragment hv ho (h.nextOffset hzero) (h.totalSize hzero)
      (by rw [h.data hzero, List.take_take, Nat.min_self])]
    simp only [afterFragment, h.notReady, h.active_iff.mpr hzero, h.messageId hzero,
      h.totalSize hzero, Bool.true_and, Bool.false_or]

/-- The buffer before the record that follows. -/
theorem gathered_afterFragment (hmore : isFinal cut.length offset = false) :
    Gathered cut (offset + chunkAt cut.length offset) (afterFragment cut offset c) := by
  have hne := Fragmentation.next_ne_zero hv.length_le ho hmore
  have hend : (offset + chunkAt cut.length offset).toNat
      = offset.toNat + (chunkAt cut.length offset).toNat := by
    rw [Fragmentation.end_toNat hv.length_le ho, Fragmentation.chunkAt_toNat hv.length_le ho]
  refine ⟨hmore, ?_, fun _ => rfl, fun _ => rfl, fun _ => rfl, fun _ => ?_⟩
  · simp [afterFragment, hmore, hne]
  · rw [hend]
    rfl

/-- The buffer holds the packet after the last record. -/
theorem rxPacket_afterFragment (hfinal : isFinal cut.length offset = true) :
    (afterFragment cut offset c).rxPacket = cut.packet := by
  have hend := (Fragmentation.isFinal_iff hv.length_le ho).mp hfinal
  simp only [Context.rxPacket, afterFragment, hfinal, hend, if_true]
  rw [Fragmentation.length_toNat hv.length_le, List.take_length, List.take_length]
  rfl

end Gathering

/-- One record more is fed to `process_event`. -/
def processStep (acc : List Result × Context) (frame : Bytes) : List Result × Context :=
  let (result, c) := processEvent acc.2 (readHeader frame) (payloadOf frame)
  (acc.1 ++ [result], c)

/-- Feed records to `process_event` one after another: the results, and the client
afterwards. -/
def processRow (c : Context) (frames : List Bytes) : List Result × Context :=
  frames.foldl processStep ([], c)

/-- **A row of DATA_RX records ends in the packet.** -/
theorem processRow_row {cut : Fragmentation} (hv : cut.Valid) (htype : cut.type = .dataRx)
    {c : Context} (hready : c.rxReady = false) (hactive : c.rxActive = false) :
    (∀ result ∈ (processRow c cut.row).1, result = .ok)
      ∧ (processRow c cut.row).2.rxReady = true
      ∧ (processRow c cut.row).2.rxTotalSize = cut.length
      ∧ (processRow c cut.row).2.rxPacket = cut.packet := by
  have hstep : ∀ (offset : UInt32) (acc : List Result × Context), cut.Starts offset →
      Gathered cut offset acc.2 → processStep acc (cut.record offset)
        = (acc.1 ++ [.ok], afterFragment cut offset acc.2) := fun offset acc ho h => by
    unfold processStep Fragmentation.record
    rw [readHeader_headerBytes, payloadOf_append, processEvent_fragment hv ho htype h]
  have hresults : ∀ results : List Result, (∀ result ∈ results, result = .ok) →
      ∀ result ∈ results ++ [.ok], result = Result.ok := fun results h result hmem => by
    obtain hmem | hmem := List.mem_append.mp hmem
    · exact h result hmem
    · exact List.mem_singleton.mp hmem
  refine Fragmentation.row_rule hv.length_le
    (P := fun (offset : UInt32) (acc : List Result × Context) =>
      (∀ result ∈ acc.1, result = .ok) ∧ Gathered cut offset acc.2)
    (Q := fun (acc : List Result × Context) => (∀ result ∈ acc.1, result = .ok)
      ∧ acc.2.rxReady = true ∧ acc.2.rxTotalSize = cut.length ∧ acc.2.rxPacket = cut.packet)
    (fun offset acc ho hmore h => ?_) (fun offset acc ho hlast h => ?_) ⟨by simp, ?_⟩
  · rw [hstep offset acc ho h.2]
    exact ⟨hresults _ h.1, gathered_afterFragment hv ho hmore⟩
  · rw [hstep offset acc ho h.2]
    exact ⟨hresults _ h.1, hlast, rfl, rxPacket_afterFragment hv ho hlast⟩
  · exact ⟨hready, by simp [hactive], by simp, by simp, by simp, by simp⟩

end Device

namespace Vspwd

/-! ## The daemon puts a packet together -/

/-- The reassembly of a client before the record at an offset. -/
structure Reassembly.Halfway (cut : Fragmentation) (offset : UInt32) (r : Reassembly) : Prop where
  active_iff : r.active = true ↔ offset ≠ 0
  requestId : offset ≠ 0 → r.requestId = cut.requestId
  messageId : offset ≠ 0 → r.messageId = cut.messageId
  totalSize : offset ≠ 0 → r.totalSize = cut.length
  nextOffset : offset ≠ 0 → r.nextOffset = offset
  data : offset ≠ 0 → r.data = cut.data.take offset.toNat

/-- The reassembly of a client with the record at an offset. -/
def Reassembly.afterFragment (cut : Fragmentation) (offset : UInt32) (r : Reassembly) :
    Reassembly :=
  { r with
    active := true
    requestId := cut.requestId
    messageId := cut.messageId
    totalSize := cut.length
    nextOffset := offset + chunkAt cut.length offset
    data := cut.data.take (offset.toNat + (chunkAt cut.length offset).toNat) }

namespace Reassembly.Halfway

variable {cut : Fragmentation} {offset : UInt32} {r : Reassembly}

/-- **The next record of a row is admitted**, and its bytes go behind those that
are there. -/
theorem store (h : r.Halfway cut offset) :
    ∃ r', r.admits (cut.header offset) = some r'
      ∧ r'.store (cut.header offset) (cut.payload offset) = r.afterFragment cut offset := by
  have hoffset : (cut.header offset).fragmentOffset = offset := rfl
  have hsize : (cut.header offset).payloadSize = chunkAt cut.length offset := rfl
  have htotal : (cut.header offset).totalSize = cut.length := rfl
  have hmessage : (cut.header offset).messageId = cut.messageId := rfl
  have hrequest : (cut.header offset).requestId = cut.requestId := rfl
  have hbytes := Device.take_append_fragment cut offset
  unfold Reassembly.admits Reassembly.store Reassembly.afterFragment
  simp only [cut.has_start offset, hoffset, hsize, htotal, hmessage, hrequest]
  by_cases hzero : offset = 0
  · have hactive : r.active = false := by
      rw [← Bool.not_eq_true, h.active_iff]
      exact fun hne => hne hzero
    refine ⟨{ r with
      active := true
      requestId := cut.requestId
      messageId := cut.messageId
      totalSize := cut.length
      nextOffset := 0 }, by simp [hactive, hzero], ?_⟩
    have htake : ∀ data : Bytes, data.take offset.toNat = cut.data.take offset.toNat := by
      intro data
      simp [hzero]
    simp only [htake, hbytes]
  · have hactive := h.active_iff.mpr hzero
    refine ⟨r, by simp [hactive, hzero, h.requestId hzero, h.messageId hzero, h.totalSize hzero,
      h.nextOffset hzero], ?_⟩
    have htake : r.data.take offset.toNat = cut.data.take offset.toNat := by
      rw [h.data hzero, List.take_take, Nat.min_self]
    rw [htake, hbytes]
    simp only [hactive, h.requestId hzero, h.messageId hzero, h.totalSize hzero]

/-- The reassembly before the record that follows. -/
theorem next (hlen : cut.data.length ≤ maxLogicalPacket) (ho : cut.Starts offset)
    (hmore : isFinal cut.length offset = false) :
    (r.afterFragment cut offset).Halfway cut (offset + chunkAt cut.length offset) := by
  have hne := Fragmentation.next_ne_zero hlen ho hmore
  refine ⟨by simp [Reassembly.afterFragment, hne], fun _ => rfl, fun _ => rfl, fun _ => rfl,
    fun _ => rfl, fun _ => ?_⟩
  rw [Fragmentation.end_toNat hlen ho, ← Fragmentation.chunkAt_toNat hlen ho]
  rfl

end Reassembly.Halfway

/-- One record more is fed to `vspwd_accept_data_fragment`. -/
def acceptStep (i : ClientIndex) (p : PortId) (acc : List Status × Server) (frame : Bytes) :
    List Status × Server :=
  let (status, s) := acceptDataFragment acc.2 i p (readHeader frame) (payloadOf frame)
  (acc.1 ++ [status], s)

/-- Feed records to `vspwd_accept_data_fragment` one after another: the statuses,
and the server afterwards. -/
def acceptRow (i : ClientIndex) (p : PortId) (s : Server) (frames : List Bytes) :
    List Status × Server := frames.foldl (acceptStep i p) ([], s)

variable {cut : Fragmentation} {s : Server}

/-- Every record has a status. -/
theorem acceptRow_length (i : ClientIndex) (p : PortId) (frames : List Bytes) :
    ∀ acc : List Status × Server,
      (frames.foldl (acceptStep i p) acc).1.length = acc.1.length + frames.length := by
  induction frames with
  | nil => exact fun acc => rfl
  | cons frame frames ih =>
    intro acc
    rw [List.foldl_cons, ih, List.length_cons]
    simp only [acceptStep, List.length_append, List.length_singleton]
    omega

theorem setReassembly_setReassembly (s : Server) (i : ClientIndex) (r r' : Reassembly) :
    (s.setReassembly i r).setReassembly i r' = s.setReassembly i r' := by
  simp only [Server.setReassembly, Server.updateClient, Function.update_self,
    Function.update_idem]

/-- A row of DATA_TX records ends in the packet, which is delivered. -/
theorem acceptRow_delivers (hv : cut.Valid) (i : ClientIndex) (p : PortId)
    (hactive : (s.clients i).reassembly.active = false) :
    ∃ (r : Reassembly) (n : Nat), r.totalSize = cut.length ∧ r.data = cut.data
      ∧ r.terminator = cut.terminator
      ∧ acceptRow i p s cut.row
        = (List.replicate n .ok ++ [(deliverPacket (s.setReassembly i r) p cut.packet).1],
          (deliverPacket (s.setReassembly i r) p cut.packet).2) := by
  have hset : ∀ (t : Server) (r : Reassembly),
      ((t.setReassembly i r).clients i).reassembly = r := fun t r => by
    simp [Server.setReassembly]
  refine Fragmentation.row_rule hv.length_le
    (P := fun (offset : UInt32) (acc : List Status × Server) => ∃ (r : Reassembly) (n : Nat),
      acc = (List.replicate n .ok, s.setReassembly i r) ∧ r.Halfway cut offset)
    (Q := fun (acc : List Status × Server) => ∃ (r : Reassembly) (n : Nat),
      r.totalSize = cut.length ∧ r.data = cut.data ∧ r.terminator = cut.terminator
        ∧ acc = (List.replicate n .ok ++ [(deliverPacket (s.setReassembly i r) p cut.packet).1],
          (deliverPacket (s.setReassembly i r) p cut.packet).2))
    (fun offset acc ho hmore h => ?_) (fun offset acc ho hlast h => ?_)
    ⟨(s.clients i).reassembly, 0, by rw [s.setReassembly_self i, List.replicate_zero], ?_⟩
  · obtain ⟨r, n, rfl, hr⟩ := h
    obtain ⟨r', hadmits, hstore⟩ := hr.store
    refine ⟨r.afterFragment cut offset, n + 1, ?_, .next hv.length_le ho hmore⟩
    simp only [acceptStep, Fragmentation.record, readHeader_headerBytes, payloadOf_append,
      acceptDataFragment, hset, hadmits, hstore, cut.has_end offset, hmore,
      setReassembly_setReassembly, Bool.not_false, if_true, List.replicate_succ']
  · obtain ⟨r, n, rfl, hr⟩ := h
    obtain ⟨r', hadmits, hstore⟩ := hr.store
    have hend := Device.end_eq_length hv ho hlast
    have hbytes := (Fragmentation.isFinal_iff hv.length_le ho).mp hlast
    have hterm := Fragmentation.terminator_header hlast
    have hdata : (r.afterFragment cut offset).data = cut.data := by
      simp only [Reassembly.afterFragment, hbytes, List.take_length]
    have hpacket : { r.afterFragment cut offset with terminator := cut.terminator }.packet
        = cut.packet := by
      simp only [Reassembly.packet, hdata]
      show (⟨cut.data.take cut.length.toNat, cut.terminator⟩ : Packet) = _
      rw [Fragmentation.length_toNat hv.length_le, List.take_length]
      rfl
    refine ⟨{ r.afterFragment cut offset with terminator := cut.terminator }, n, rfl, hdata, rfl,
      ?_⟩
    have hcomplete : ((r.afterFragment cut offset).nextOffset
        != (r.afterFragment cut offset).totalSize) = false := by
      simpa [Reassembly.afterFragment] using hend
    simp only [acceptStep, Fragmentation.record, readHeader_headerBytes, payloadOf_append,
      acceptDataFragment, hset, hadmits, hstore, cut.has_end offset, hlast, hcomplete, hterm,
      setReassembly_setReassembly, hpacket, Bool.not_true, Bool.false_eq_true, if_false]
  · exact ⟨by simp [hactive], by simp, by simp, by simp, by simp, by simp⟩

/-- **A row of DATA_TX records ends in the packet**: all but the last are taken, and
the last one delivers it. -/
theorem acceptRow_row (hv : cut.Valid) (i : ClientIndex) (p : PortId)
    (hactive : (s.clients i).reassembly.active = false) :
    ∃ r : Reassembly, r.totalSize = cut.length ∧ r.data = cut.data
      ∧ r.terminator = cut.terminator
      ∧ acceptRow i p s cut.row
        = (List.replicate (cut.row.length - 1) .ok
            ++ [(deliverPacket (s.setReassembly i r) p cut.packet).1],
          (deliverPacket (s.setReassembly i r) p cut.packet).2) := by
  obtain ⟨r, n, htotal, hdata, hterm, hrow⟩ := acceptRow_delivers hv i p hactive
  have hlength := acceptRow_length i p cut.row ([], s)
  have hn : n = cut.row.length - 1 := by
    rw [acceptRow] at hrow
    rw [hrow] at hlength
    simp only [List.length_append, List.length_replicate, List.length_singleton,
      List.length_nil] at hlength
    omega
  exact ⟨r, htotal, hdata, hterm, by rw [hrow, hn]⟩

/-! ## What the daemon writes -/

/-- Call `vspwd_flush_packet_event` again and again, the socket taking every record:
the records, and the server afterwards. -/
def flushPackets (i : ClientIndex) : Nat → Server → List Bytes × Server
  | 0, s => ([], s)
  | n + 1, s =>
    let flush := flushPacketEvent s i (fun _ => .sent)
    (flush.written ++ (flushPackets i n flush.server).1, (flushPackets i n flush.server).2)

/-- **The head of a queue is written as its row**, from its offset on, and leaves the
queue. -/
theorem flushPackets_rowFrom {i : ClientIndex} {p : PortId} : ∀ (n : Nat) (s : Server)
    (slot : PacketSlot), (s.clients i).portId = some p →
      (s.ports p).packets.front = some slot → slot.Sound →
      (slot.fragmentation p).Within n slot.offset →
      (flushPackets i ((slot.fragmentation p).rowFrom n slot.offset).length s).1
          = (slot.fragmentation p).rowFrom n slot.offset
        ∧ ((flushPackets i ((slot.fragmentation p).rowFrom n slot.offset).length s).2.ports
            p).packets.toList = (s.ports p).packets.toList.tail
  | 0, _, _, _, _, _, hn => absurd hn.1 (Nat.lt_irrefl 0)
  | n + 1, s, slot, howns, hfront, hsound, hn => by
    have hframe := (hsound.frame_eq_ok p).1
    have hcount : (s.ports p).packets.count ≠ 0 := fun h0 => by
      simp [RingQueue.front, h0] at hfront
    have htail : (s.ports p).packets.toList.tail
        = ((s.ports p).packets.dropFront hcount).toList := by
      rw [RingQueue.toList_of_count_ne _ hcount, List.tail_cons]
    cases hfinal : isFinal (slot.fragmentation p).length slot.offset with
    | true =>
      have hflush : flushPacketEvent s i (fun _ => .sent)
          = ⟨popPacket s p slot, [(slot.fragmentation p).record slot.offset], .sent⟩ := by
        simp only [flushPacketEvent, howns, hfront, hframe, flushRecord, hfinal, if_true]
        rfl
      simp only [Fragmentation.rowFrom, hfinal, if_true, List.length_singleton, flushPackets,
        hflush, List.append_nil, true_and]
      rw [htail]
      simp [popPacket, hcount]
    | false =>
      have hflush : flushPacketEvent s i (fun _ => .sent)
          = ⟨advanceSlot s p slot (chunkAt (slot.fragmentation p).length slot.offset),
            [(slot.fragmentation p).record slot.offset], .sent⟩ := by
        simp only [flushPacketEvent, howns, hfront, hframe, flushRecord, hfinal,
          Bool.false_eq_true, if_false]
        rfl
      have hfront' : ((advanceSlot s p slot
          (chunkAt (slot.fragmentation p).length slot.offset)).ports p).packets.front
            = some { slot with
              offset := slot.offset + chunkAt (slot.fragmentation p).length slot.offset } := by
        rw [RingQueue.front_eq_head?]
        simp [advanceSlot, RingQueue.toList_setFront _ _ hcount]
      have htail' : ((advanceSlot s p slot
          (chunkAt (slot.fragmentation p).length slot.offset)).ports p).packets.toList.tail
            = (s.ports p).packets.toList.tail := by
        rw [htail]
        simp [advanceSlot, RingQueue.toList_setFront _ _ hcount]
      have hstarts : (slot.fragmentation p).Starts slot.offset := hsound.starts
      have hwithin : (slot.fragmentation p).Within n
          (slot.offset + chunkAt (slot.fragmentation p).length slot.offset) :=
        Fragmentation.Within.next hsound.length_le hstarts hfinal hn
      obtain ⟨hrow, hrest⟩ := flushPackets_rowFrom n
        (advanceSlot s p slot (chunkAt (slot.fragmentation p).length slot.offset))
        { slot with offset := slot.offset + chunkAt (slot.fragmentation p).length slot.offset }
        howns hfront' (hsound.advance hfinal) hwithin
      simp only [Fragmentation.rowFrom, hfinal, Bool.false_eq_true, if_false, List.length_cons,
        flushPackets, hflush]
      refine ⟨?_, ?_⟩
      · rw [List.singleton_append]
        exact congrArg _ hrow
      · rw [← htail']
        exact hrest

end Vspwd

namespace Device

open Vspwd

/-! ## The whole way -/

variable {p : PortId} {s : Server}

theorem cutOf_valid {packet : Packet} (hlen : packet.bytes.length ≤ maxLogicalPacket)
    (portId : UInt32) {requestId messageId : UInt32} (hrequest : requestId ≠ 0)
    (hmessage : messageId ≠ 0) : (cutOf portId requestId messageId packet).Valid :=
  ⟨hlen, hmessage, Or.inl ⟨rfl, hrequest⟩⟩

/-- A packet that is delivered between two running ports with room is queued. -/
theorem deliverPacket_queues (packet : Packet) (hrun : (s.ports p).state = .run)
    (hpeer : (s.ports (peerPort p)).state = .run)
    (hroom : (s.ports (peerPort p)).packets.count < packetQueueDepth) :
    deliverPacket s p packet = (.ok, s.transferPacket p packet hroom) := by
  have henqueue : enqueuePacket s p packet = some (s.transferPacket p packet hroom) := by
    simp only [enqueuePacket, hrun, hpeer, ne_eq, not_true_eq_false, or_self, if_false, hroom,
      dif_pos]
    rfl
  rw [deliverPacket, hrun, if_neg (not_not.mpr rfl), if_neg (Nat.not_le.mpr hroom), henqueue]

/-- A transferred packet is at the end of the queue, none of it written yet. -/
theorem packets_transferPacket (s : Server) (p : PortId) (packet : Packet)
    (hroom : (s.ports (peerPort p)).packets.count < packetQueueDepth) :
    ((s.transferPacket p packet hroom).ports (peerPort p)).packets.toList
      = (s.ports (peerPort p)).packets.toList
        ++ [⟨packet.bytes, 0, (nextMessageId (s.ports (peerPort p))).1, packet.terminator⟩] := by
  rw [Server.transferPacket, transfer_destination]
  exact RingQueue.toList_push _ _ _

/-- `device_send` writes the row of its packet, and waits for the response. -/
theorem sendPacket_replay {oracle : Nat → (q : Request) → q.Answer}
    (htakes : ∀ n frame, oracle n (.send frame) = SendAnswer.sent) {packet : Packet} {c : Context}
    (hv : (cutOf c.portId c.nextRequestId c.nextMessageId packet).Valid) {fuel : Nat}
    (hfuel : (cutOf c.portId c.nextRequestId c.nextMessageId packet).rowBound ≤ fuel)
    (deadline : UInt64) (n : Nat) :
    ∃ c', ((sendPacket fuel packet deadline c).replay oracle n).1
      = (cutOf c.portId c.nextRequestId c.nextMessageId packet).row.map Request.send
        ++ ((awaitSent fuel c.nextRequestId deadline c').replay oracle
          (n + (cutOf c.portId c.nextRequestId c.nextMessageId packet).row.length)).1 := by
  generalize hcut : cutOf c.portId c.nextRequestId c.nextMessageId packet = cut at hv hfuel ⊢
  have hwithin : cut.Within fuel 0 :=
    ⟨lt_of_lt_of_le (Nat.succ_pos _) hfuel, cut.within_rowBound.2.trans
      (Nat.add_le_add_left (Nat.mul_le_mul_right _ hfuel) _)⟩
  have hrow : cut.rowFrom fuel 0 = cut.row :=
    Fragmentation.rowFrom_of_within hv.length_le _ _ 0 cut.starts_zero hwithin cut.within_rowBound
  have hreplay := sendFragments_replay htakes hv hwithin.1 deadline fuel 0
    { c with nextRequestId := c.nextRequestId + 1, nextMessageId := c.nextMessageId + 1 } n
    cut.starts_zero hwithin
  have hid : cut.requestId = c.nextRequestId := by
    rw [← hcut]
    rfl
  rw [hrow, hid, ← hcut] at hreplay
  rw [← hcut]
  exact ⟨_, congrArg Prod.fst hreplay⟩

/-- A row that is delivered is at the end of the other port's queue. -/
theorem acceptRow_queues {cut : Fragmentation} (hv : cut.Valid) {i : ClientIndex}
    (hactive : (s.clients i).reassembly.active = false) (hrun : (s.ports p).state = .run)
    (hpeer : (s.ports (peerPort p)).state = .run)
    (hroom : (s.ports (peerPort p)).packets.count < packetQueueDepth) :
    ∃ slot : PacketSlot, slot.Sound ∧ slot.offset = 0 ∧ slot.packet = cut.packet
      ∧ ((acceptRow i p s cut.row).2.ports (peerPort p)).packets.toList
        = (s.ports (peerPort p)).packets.toList ++ [slot] := by
  obtain ⟨r, -, -, -, hrow⟩ := acceptRow_row hv i p hactive
  have hdeliver : deliverPacket (s.setReassembly i r) p cut.packet
      = (.ok, (s.setReassembly i r).transferPacket p cut.packet hroom) :=
    deliverPacket_queues (s := s.setReassembly i r) cut.packet hrun hpeer hroom
  refine ⟨⟨cut.data, 0, (nextMessageId (s.ports (peerPort p))).1, cut.terminator⟩,
    ⟨hv.length_le, nextMessageId_ne_zero _, Or.inl rfl⟩, rfl, rfl, ?_⟩
  rw [hrow, hdeliver]
  exact packets_transferPacket (s.setReassembly i r) p cut.packet hroom

/-- The records of a queued packet give it back. -/
theorem processRow_slot (p : PortId) {slot : PacketSlot} (hslot : slot.Sound) {client : Context}
    (hready : client.rxReady = false) (hactive : client.rxActive = false) :
    (∀ result ∈ (processRow client (slot.fragmentation p).row).1, result = .ok)
      ∧ (processRow client (slot.fragmentation p).row).2.rxReady = true
      ∧ (processRow client (slot.fragmentation p).row).2.rxTotalSize.toNat = slot.data.length
      ∧ (processRow client (slot.fragmentation p).row).2.rxPacket = slot.packet := by
  obtain ⟨hresults, hdone, htotal, hpacket⟩ :=
    processRow_row (hslot.fragmentation_valid p) rfl hready hactive
  refine ⟨hresults, hdone, ?_, hpacket⟩
  rw [htotal]
  exact Fragmentation.length_toNat hslot.length_le

/-- **A packet gets to the other end as it was sent.** `device_send` writes the row of
the packet, the daemon puts it together and delivers it; what is in a queue is
written as a row again, and `process_event` puts that together. -/
theorem packet_round_trip {packet : Packet} (hlen : packet.bytes.length ≤ maxLogicalPacket)
    {c : Context} (hrequest : c.nextRequestId ≠ 0) (hmessage : c.nextMessageId ≠ 0) :
    let cut := cutOf c.portId c.nextRequestId c.nextMessageId packet
    -- what `device_send` writes
    (∀ (fuel : Nat) (deadline : UInt64) (oracle : Nat → (q : Request) → q.Answer) (n : Nat),
        (∀ n frame, oracle n (.send frame) = SendAnswer.sent) → cut.rowBound ≤ fuel →
        ∃ c', ((sendPacket fuel packet deadline c).replay oracle n).1
          = cut.row.map Request.send
            ++ ((awaitSent fuel c.nextRequestId deadline c').replay oracle
              (n + cut.row.length)).1)
      ∧ (∀ frame ∈ cut.row, ∃ header, validateFrame frame = .ok header)
      -- what the daemon makes of it
      ∧ (∀ (i : ClientIndex) (p : PortId) (s : Server),
        (s.clients i).reassembly.active = false →
        ∃ r : Reassembly, r.totalSize.toNat = packet.bytes.length ∧ r.data = packet.bytes
          ∧ r.terminator = packet.terminator
          ∧ acceptRow i p s cut.row
            = (List.replicate (cut.row.length - 1) .ok
                ++ [(deliverPacket (s.setReassembly i r) p packet).1],
              (deliverPacket (s.setReassembly i r) p packet).2))
      -- what it writes, and what the client makes of that
      ∧ (∀ (i : ClientIndex) (p : PortId) (s : Server) (slot : PacketSlot),
        (s.clients i).portId = some p → (s.ports p).packets.front = some slot →
        slot.data.length ≤ maxLogicalPacket → slot.messageId ≠ 0 → slot.offset = 0 →
        (flushPackets i (slot.fragmentation p).row.length s).1 = (slot.fragmentation p).row
          ∧ (∀ frame ∈ (slot.fragmentation p).row, ∃ header, validateFrame frame = .ok header)
          ∧ ∀ client : Context, client.rxReady = false → client.rxActive = false →
            (∀ result ∈ (processRow client (slot.fragmentation p).row).1, result = .ok)
              ∧ (processRow client (slot.fragmentation p).row).2.rxReady = true
              ∧ (processRow client (slot.fragmentation p).row).2.rxTotalSize.toNat
                = slot.data.length
              ∧ (processRow client (slot.fragmentation p).row).2.rxPacket = slot.packet)
      -- both together
      ∧ (∀ (i : ClientIndex) (p : PortId) (s : Server),
        (s.clients i).reassembly.active = false → (s.ports p).state = .run →
        (s.ports (peerPort p)).state = .run →
        (s.ports (peerPort p)).packets.count < packetQueueDepth →
        ∃ slot : PacketSlot, slot.Sound ∧ slot.offset = 0
          ∧ ((acceptRow i p s cut.row).2.ports (peerPort p)).packets.toList
            = (s.ports (peerPort p)).packets.toList ++ [slot]
          ∧ ∀ client : Context, client.rxReady = false → client.rxActive = false →
            (processRow client (slot.fragmentation (peerPort p)).row).2.rxPacket = packet) := by
  intro cut
  have hv : cut.Valid := cutOf_valid hlen c.portId hrequest hmessage
  refine ⟨fun fuel deadline oracle n htakes hfuel => sendPacket_replay htakes hv hfuel deadline n,
    fun frame hframe => Fragmentation.row_legal hv hframe, fun i p s hactive => ?_,
    fun i p s slot howns hfront hlength hid hzero => ?_,
    fun i p s hactive hrun hpeer hroom => ?_⟩
  · obtain ⟨r, htotal, hdata, hterm, hrow⟩ := acceptRow_row hv i p hactive
    exact ⟨r, by rw [htotal]; exact Fragmentation.length_toNat hlen, hdata, hterm, hrow⟩
  · have hslot : slot.Sound := ⟨hlength, hid, Or.inl (by rw [hzero]; rfl)⟩
    have hwithin : (slot.fragmentation p).Within (slot.fragmentation p).rowBound slot.offset := by
      rw [hzero]
      exact (slot.fragmentation p).within_rowBound
    obtain ⟨hflush, -⟩ := flushPackets_rowFrom _ s slot howns hfront hslot hwithin
    rw [hzero] at hflush
    exact ⟨hflush, fun frame hframe =>
      Fragmentation.row_legal (hslot.fragmentation_valid p) hframe,
      fun client => processRow_slot p hslot⟩
  · obtain ⟨slot, hslot, hzero, hpacket, hqueue⟩ := acceptRow_queues hv hactive hrun hpeer hroom
    refine ⟨slot, hslot, hzero, hqueue, fun client hready hactive' => ?_⟩
    rw [(processRow_slot (peerPort p) hslot hready hactive').2.2.2, hpacket]
    rfl

/-- Both ports are in RUN, and nobody has sent anything. -/
def roundTripSample : Server :=
  (initServer.updatePort 0 fun port => { port with state := .run }).updatePort 1
    fun port => { port with state := .run }

/-- A packet that takes two records each way. -/
def longPacket : Packet := ⟨List.replicate 40000 1, .eop⟩

theorem packet_round_trip_fragmented :
    (cutOf 0 1 1 longPacket).row.length = 2
      ∧ ∃ slot : PacketSlot, slot.Sound ∧ slot.offset = 0
        ∧ ((acceptRow 0 0 roundTripSample (cutOf 0 1 1 longPacket).row).2.ports
            (peerPort 0)).packets.toList = [slot]
        ∧ (processRow (Context.initial 1) (slot.fragmentation (peerPort 0)).row).2.rxPacket
          = longPacket := by
  have hlength : longPacket.bytes.length = 40000 := List.length_replicate
  generalize longPacket = packet at hlength ⊢
  obtain ⟨-, -, -, -, htrip⟩ := packet_round_trip
    (show packet.bytes.length ≤ maxLogicalPacket by rw [hlength]; decide)
      (c := Context.initial 0) (by decide) (by decide)
  obtain ⟨slot, hslot, hzero, hqueue, hpacket⟩ :=
    htrip 0 0 roundTripSample rfl rfl rfl (by decide)
  refine ⟨?_, slot, hslot, hzero, hqueue, hpacket (Context.initial 1) rfl rfl⟩
  have hfirst : isFinal 40000 0 = false := by decide
  simp [Fragmentation.row, Fragmentation.rowBound, Fragmentation.rowFrom, Fragmentation.length,
    cutOf, hlength, maxFramePayload, hfirst]

end Device
