import VgwDriver.Cli.FlowSpec
import VgwDriver.Netlink.Requests

/-!
# Reading a dump

The CLI's netlink connection, from the datagrams a socket yields to the flows of a dump: the messages of one
datagram, the loop that goes on until the end of a multi-part answer, the check of every message for an error,
and the check that the answer belongs to the request.

* `parseNetlinkMessage_bytes` — **the messages of a datagram are found again**, whatever is behind them;
* `receive_parts` — an answer in several parts is read to its end, and not beyond it;
* `dumpFilter_session` — **the CLI gets the flows of the conntracks a session reports**, in order and once.
-/

namespace VgwDriver

open Base

/-! ### Messages -/

/-- `netlink.Header`. -/
structure NetlinkHeader where
  length : UInt32
  type : UInt16
  flags : UInt16
  sequence : UInt32
  pid : UInt32
  deriving DecidableEq, Repr

/-- `netlink.Message`. -/
structure NetlinkMessage where
  header : NetlinkHeader
  data : Bytes
  deriving DecidableEq, Repr

/-- The errors of a connection, without their texts.  `blocked` is none of them: the socket has nothing to
read, and the call waits. -/
inductive ConnError where
  | einval
  | errShortErrorMessage
  | errno (n : ℤ)
  | errMismatchedSequence
  | errMismatchedPID
  | blocked
  | decode (err : DecodeError)
  deriving DecidableEq, Repr

def nlmsgError : UInt16 := 2
def nlmsgDone : UInt16 := 3

def acknowledgeTLVs : UInt16 := 0x200

def NetlinkHeader.bytes (e : Endian) (h : NetlinkHeader) : Bytes :=
  put32 e h.length ++ (put16 e h.type ++ (put16 e h.flags ++ (put32 e h.sequence ++ put32 e h.pid)))

/-- The bytes of a message, as `Message.MarshalBinary` lays them out. -/
def NetlinkMessage.bytes (e : Endian) (m : NetlinkMessage) : Bytes := m.header.bytes e ++ m.data

/-- `sysToHeader`, of the header at the front of `b`. -/
def sysToHeader (e : Endian) (b : Bytes) : NetlinkHeader where
  length := u32At e b 0
  type := u16At e b 4
  flags := u16At e b 6
  sequence := u32At e b 8
  pid := u32At e b 12

/-- The length field of the header at the front of `b`. -/
def messageLength (e : Endian) (b : Bytes) : ℕ := (sysToHeader e b).length.toNat

/-- `syscall.ParseNetlinkMessage`. -/
def parseNetlinkMessage (e : Endian) (b : Bytes) : Except ConnError (List NetlinkMessage) :=
  if b.length < nlmsgHeaderLen then .ok []
  else if messageLength e b < nlmsgHeaderLen ∨ b.length < align4 (messageLength e b) then .error .einval
  else do
    let rest ← parseNetlinkMessage e (b.drop (align4 (messageLength e b)))
    pure (⟨sysToHeader e b, (b.drop nlmsgHeaderLen).take (messageLength e b - nlmsgHeaderLen)⟩ :: rest)
  termination_by b.length
  decreasing_by
    rename_i hlen hok
    simp only [not_or, Nat.not_lt, nlmsgHeaderLen] at hlen hok
    have hle := le_align4 (messageLength e b)
    rw [List.length_drop]
    omega

/-- `conn.Receive`, of a datagram of `n` bytes read into a buffer that is zero behind it. -/
def connReceive (e : Endian) (datagram : Bytes) : Except ConnError (List NetlinkMessage) :=
  parseNetlinkMessage e (datagram ++ List.replicate (align4 datagram.length - datagram.length) 0)

/-- `nlenc.Int32`. -/
def nlencInt32 (e : Endian) (b : Bytes) : ℤ := (get32 e b).toInt32.toInt

/-- `checkMessage`. -/
def checkMessage (e : Endian) (m : NetlinkMessage) : Except ConnError Unit :=
  let done := m.header.type = nlmsgDone ∧ m.header.flags &&& nlmFMulti ≠ 0
  if m.header.type ≠ nlmsgError ∧ ¬ done then .ok ()
  else if m.header.type ≠ nlmsgError ∧ m.data.length = 0 then .ok ()
  else if m.data.length < 4 then .error .errShortErrorMessage
  else
    let c := nlencInt32 e (m.data.take 4)
    if c = 0 then .ok ()
    else if m.header.flags &&& acknowledgeTLVs = 0 ∨ m.header.type ≠ nlmsgError then .error (.errno (-c))
    else if m.data.length < 4 + nlmsgHeaderLen then .error .errShortErrorMessage
    else if m.data.length < 4 + messageLength e (m.data.drop 4) then .error .errShortErrorMessage
    else .error (.errno (-c))

/-! ### Answers -/

/-- The variable `multi` behind the loop over the messages of one datagram. -/
def multi (msgs : List NetlinkMessage) : Bool :=
  msgs.foldl (fun multi m =>
    if m.header.flags &&& nlmFMulti = 0 then multi else m.header.type ≠ nlmsgDone) false

/-- `Conn.receive`, on the datagrams the socket yields: the messages, and the datagrams that are left. -/
def receive (e : Endian) : List Bytes → Except ConnError (List NetlinkMessage × List Bytes)
  | [] => .error .blocked
  | datagram :: datagrams => do
    let msgs ← connReceive e datagram
    msgs.forM (checkMessage e)
    if multi msgs then
      let (res, datagrams) ← receive e datagrams
      pure (msgs ++ res, datagrams)
    else pure (msgs, datagrams)

/-- `Conn.lockedReceive`: the message that ends a multi-part answer is left out. -/
def lockedReceive (e : Endian) (datagrams : List Bytes) :
    Except ConnError (List NetlinkMessage × List Bytes) := do
  let (msgs, datagrams) ← receive e datagrams
  match msgs.getLast? with
  | none => pure (msgs, datagrams)
  | some m =>
    if m.header.flags &&& nlmFMulti ≠ 0 ∧ m.header.type = nlmsgDone then pure (msgs.dropLast, datagrams)
    else pure (msgs, datagrams)

/-- `Validate`, for a request of the sequence number and the port id that were sent. -/
def validate (sequence pid : UInt32) : List NetlinkMessage → Except ConnError Unit
  | [] => .ok ()
  | m :: msgs =>
    if m.header.sequence ≠ sequence ∧ sequence ≠ 0 then .error .errMismatchedSequence
    else if m.header.pid ≠ pid ∧ pid ≠ 0 ∧ m.header.pid ≠ 0 then .error .errMismatchedPID
    else validate sequence pid msgs

/-- `Conn.Execute` behind the sending of the request, and `Conn.Query`: the messages of the answer, and what is
left in the socket. -/
def execute (e : Endian) (sequence pid : UInt32) (datagrams : List Bytes) :
    Except ConnError (List NetlinkMessage × List Bytes) := do
  let (res, datagrams) ← lockedReceive e datagrams
  validate sequence pid res
  pure (res, datagrams)

/-- `Conn.DumpFilter` behind the sending of the request. -/
def connDumpFilter (e : Endian) (sequence pid : UInt32) (datagrams : List Bytes) :
    Except ConnError (List Flow × List Bytes) := do
  let (nlm, datagrams) ← execute e sequence pid datagrams
  match unmarshalFlows e (nlm.map (NetlinkMessage.bytes e)) with
  | .error err => .error (.decode err)
  | .ok flows => pure (flows, datagrams)

/-! ### The messages of a datagram -/

/-- The message's length field is its length, which is a whole number of words. -/
structure NetlinkMessage.Framed (m : NetlinkMessage) : Prop where
  length : m.header.length.toNat = nlmsgHeaderLen + m.data.length
  aligned : m.data.length % 4 = 0

variable {e : Endian}

@[simp] theorem NetlinkHeader.length_bytes (e : Endian) (h : NetlinkHeader) :
    (h.bytes e).length = nlmsgHeaderLen := by
  simp [NetlinkHeader.bytes, nlmsgHeaderLen]

/-- **A header is read back.** -/
theorem sysToHeader_bytes (e : Endian) (h : NetlinkHeader) (rest : Bytes) :
    sysToHeader e (h.bytes e ++ rest) = h := by
  simp [sysToHeader, NetlinkHeader.bytes, u32At, u16At]

namespace NetlinkMessage

variable {m : NetlinkMessage}

@[simp] theorem length_bytes (e : Endian) (m : NetlinkMessage) :
    (m.bytes e).length = nlmsgHeaderLen + m.data.length := by
  simp [bytes]

theorem Framed.align (h : m.Framed) : align4 m.header.length.toNat = nlmsgHeaderLen + m.data.length := by
  have haligned := h.aligned
  rw [h.length]
  simp only [align4, nlmsgHeaderLen]
  omega

/-- The first message of a datagram. -/
theorem parse_bytes (h : m.Framed) (rest : Bytes) :
    parseNetlinkMessage e (m.bytes e ++ rest)
      = parseNetlinkMessage e rest >>= fun msgs => pure (m :: msgs) := by
  have hheader : sysToHeader e (m.bytes e ++ rest) = m.header := by
    rw [bytes, List.append_assoc, sysToHeader_bytes]
  have hlength : messageLength e (m.bytes e ++ rest) = nlmsgHeaderLen + m.data.length := by
    rw [messageLength, hheader, h.length]
  have halign : align4 (nlmsgHeaderLen + m.data.length) = (m.bytes e).length := by
    rw [← h.length, h.align, length_bytes]
  have hdata : ((m.bytes e ++ rest).drop nlmsgHeaderLen).take m.data.length = m.data := by
    rw [bytes, List.append_assoc, List.drop_left' (m.header.length_bytes e), List.take_left]
  rw [parseNetlinkMessage, if_neg, if_neg]
  · rw [hlength, halign, List.drop_left, hheader, Nat.add_sub_cancel_left, hdata]
  · rw [hlength, halign, List.length_append]
    omega
  · rw [List.length_append, length_bytes]
    omega

/-- **The messages of a datagram are found again.** -/
theorem parse_flatMap {l : List NetlinkMessage} (hl : ∀ m ∈ l, m.Framed) :
    parseNetlinkMessage e (l.flatMap (bytes e)) = .ok l := by
  induction l with
  | nil => rw [List.flatMap_nil, parseNetlinkMessage, if_pos (by decide)]
  | cons m l ih =>
    rw [List.flatMap_cons, parse_bytes (hl m List.mem_cons_self),
      ih fun m hm => hl m (List.mem_cons_of_mem _ hm)]
    rfl

theorem length_flatMap {l : List NetlinkMessage} (hl : ∀ m ∈ l, m.Framed) :
    (l.flatMap (bytes e)).length % 4 = 0 := by
  induction l with
  | nil => rfl
  | cons m l ih =>
    have hm := (hl m List.mem_cons_self).aligned
    have htail := ih fun m hm => hl m (List.mem_cons_of_mem _ hm)
    rw [List.flatMap_cons, List.length_append, length_bytes]
    simp only [nlmsgHeaderLen]
    omega

/-- The buffer behind a datagram of whole messages is not looked at. -/
theorem connReceive_flatMap {l : List NetlinkMessage} (hl : ∀ m ∈ l, m.Framed) :
    connReceive e (l.flatMap (bytes e)) = .ok l := by
  have hlen := @length_flatMap e l hl
  have hpad : align4 (l.flatMap (bytes e)).length - (l.flatMap (bytes e)).length = 0 := by
    simp only [align4]
    omega
  rw [connReceive, hpad, List.replicate_zero, List.append_nil, parse_flatMap hl]

/-! ### An answer in several parts -/

/-- A message of an answer in several parts that is neither an error nor the end. -/
structure Part (m : NetlinkMessage) : Prop where
  framed : m.Framed
  multi : m.header.flags &&& nlmFMulti ≠ 0
  type : m.header.type ≠ nlmsgError ∧ m.header.type ≠ nlmsgDone

theorem Part.check (h : m.Part) : checkMessage e m = .ok () := by
  have hdone : ¬ (m.header.type = nlmsgDone ∧ m.header.flags &&& nlmFMulti ≠ 0) := fun hd => h.type.2 hd.1
  exact if_pos ⟨h.type.1, hdone⟩

/-- A message that ends an answer in several parts: `NLMSG_DONE`, with the error number 0. -/
structure Ends (e : Endian) (m : NetlinkMessage) : Prop where
  framed : m.Framed
  multi : m.header.flags &&& nlmFMulti ≠ 0
  type : m.header.type = nlmsgDone
  errno : m.data.take 4 = put32 e 0

theorem Ends.check (h : m.Ends e) : checkMessage e m = .ok () := by
  have hzero : nlencInt32 e (m.data.take 4) = 0 := by
    rw [h.errno, nlencInt32, get32_put32]
    rfl
  have hlen : 4 ≤ m.data.length := by
    have htake := congrArg List.length h.errno
    rw [List.length_take, length_put32] at htake
    omega
  unfold checkMessage
  rw [if_neg, if_neg, if_neg (Nat.not_lt.mpr hlen), if_pos hzero]
  · rintro ⟨-, hnil⟩
    omega
  · rintro ⟨-, hdone⟩
    exact hdone ⟨h.type, h.multi⟩

/-- The message of `netlink_dump`, with the flags of the answer. -/
def done (e : Endian) (sequence pid : UInt32) (flags : UInt16) : NetlinkMessage :=
  ⟨⟨20, nlmsgDone, flags ||| nlmFMulti, sequence, pid⟩, put32 e 0⟩

theorem done_ends (sequence pid : UInt32) (flags : UInt16) : (done e sequence pid flags).Ends e where
  framed := by constructor <;> simp [done, nlmsgHeaderLen]
  multi := by
    show (flags ||| nlmFMulti) &&& nlmFMulti ≠ 0
    rw [or_and_flag]
    decide
  type := rfl
  errno := List.take_of_length_le (by simp [done])

/-- Messages that are all right pass the check. -/
theorem forM_check {l : List NetlinkMessage} (hl : ∀ m ∈ l, checkMessage e m = .ok ()) :
    l.forM (checkMessage e) = .ok () := by
  induction l with
  | nil => rfl
  | cons m l ih =>
    have hm := hl m List.mem_cons_self
    have htail := ih fun m hm => hl m (List.mem_cons_of_mem _ hm)
    show (checkMessage e m >>= fun _ => l.forM (checkMessage e)) = _
    rw [hm]
    exact htail

/-- The last message decides whether the answer goes on. -/
theorem multi_concat (l : List NetlinkMessage) (hm : m.header.flags &&& nlmFMulti ≠ 0) :
    VgwDriver.multi (l ++ [m]) = decide (m.header.type ≠ nlmsgDone) := by
  unfold VgwDriver.multi
  rw [List.foldl_append]
  exact if_neg hm

theorem multi_parts {l : List NetlinkMessage} (hne : l ≠ []) (hl : ∀ m ∈ l, m.Part) :
    VgwDriver.multi l = true := by
  obtain ⟨front, m, rfl⟩ := (List.eq_nil_or_concat' l).resolve_left hne
  have hm := hl m (List.mem_append_right _ (List.mem_singleton_self m))
  rw [multi_concat front hm.multi]
  exact decide_eq_true hm.type.2

/-- **An answer in several parts is read to its end**, and what is behind it stays in the socket. -/
theorem receive_parts (hm : m.Ends e) (last : List NetlinkMessage) (after : List Bytes)
    (hlast : ∀ m ∈ last, m.Part) (parts : List (List NetlinkMessage))
    (hparts : ∀ l ∈ parts, l ≠ [] ∧ ∀ m ∈ l, m.Part) :
    receive e (parts.map (fun l => l.flatMap (bytes e)) ++ (last ++ [m]).flatMap (bytes e) :: after)
      = .ok (parts.flatten ++ (last ++ [m]), after) := by
  induction parts with
  | nil =>
    have hframed : ∀ x ∈ last ++ [m], x.Framed := by
      intro x hx
      rcases List.mem_append.mp hx with hx | hx
      · exact (hlast x hx).framed
      · rw [List.mem_singleton.mp hx]
        exact hm.framed
    have hcheck : ∀ x ∈ last ++ [m], checkMessage e x = .ok () := by
      intro x hx
      rcases List.mem_append.mp hx with hx | hx
      · exact (hlast x hx).check
      · rw [List.mem_singleton.mp hx]
        exact hm.check
    have hend : VgwDriver.multi (last ++ [m]) = false := by
      rw [multi_concat last hm.multi]
      exact decide_eq_false (not_not.mpr hm.type)
    rw [List.map_nil, List.nil_append, receive, connReceive_flatMap hframed]
    show ((last ++ [m]).forM (checkMessage e) >>= fun _ => _) = _
    rw [forM_check hcheck, ok_bind, hend]
    rfl
  | cons l parts ih =>
    obtain ⟨hne, hl⟩ := hparts l List.mem_cons_self
    have htail := ih fun l hl => hparts l (List.mem_cons_of_mem _ hl)
    rw [List.map_cons, List.cons_append, receive, connReceive_flatMap fun m hm => (hl m hm).framed]
    show (l.forM (checkMessage e) >>= fun _ => _) = _
    rw [forM_check fun m hm => (hl m hm).check, ok_bind, if_pos (multi_parts hne hl), htail]
    simp

/-- The end is not part of what is returned. -/
theorem lockedReceive_parts (hm : m.Ends e) (last : List NetlinkMessage) (after : List Bytes)
    (hlast : ∀ m ∈ last, m.Part) (parts : List (List NetlinkMessage))
    (hparts : ∀ l ∈ parts, l ≠ [] ∧ ∀ m ∈ l, m.Part) :
    lockedReceive e (parts.map (fun l => l.flatMap (bytes e)) ++ (last ++ [m]).flatMap (bytes e) :: after)
      = .ok (parts.flatten ++ last, after) := by
  unfold lockedReceive
  rw [receive_parts hm last after hlast parts hparts, ok_bind, ← List.append_assoc]
  simp only [List.getLast?_concat, List.dropLast_concat]
  exact if_pos ⟨hm.multi, hm.type⟩

theorem validate_ok {sequence pid : UInt32} {l : List NetlinkMessage}
    (hl : ∀ m ∈ l, m.header.sequence = sequence ∧ m.header.pid = pid) : validate sequence pid l = .ok () := by
  induction l with
  | nil => rfl
  | cons m l ih =>
    obtain ⟨hseq, hpid⟩ := hl m List.mem_cons_self
    rw [validate, if_neg fun h => h.1 hseq, if_neg fun h => h.1 hpid]
    exact ih fun m hm => hl m (List.mem_cons_of_mem _ hm)

end NetlinkMessage

/-! ### The messages of a session -/

/-- The message of the header `hdr` and the attributes `l`. -/
def netlinkMessage (e : Endian) (hdr : NlMsgHdr) (l : List Attr) : NetlinkMessage :=
  ⟨⟨UInt32.ofNat (nlMsgHdrLen + attrsSize l), hdr.type, hdr.flags, hdr.seq, hdr.portid⟩,
    [hdr.family, hdr.version] ++ put16 .big hdr.resId ++ attrsBytes e l⟩

theorem netlinkMessage_bytes (hdr : NlMsgHdr) (l : List Attr) :
    (netlinkMessage e hdr l).bytes e = nlMsgBytes e hdr l := by
  simp [netlinkMessage, NetlinkMessage.bytes, NetlinkHeader.bytes, nlMsgBytes, NlMsgHdr.rest]

theorem netlinkMessage_framed (hdr : NlMsgHdr) {l : List Attr} (hsize : attrsSize l < 65536) :
    (netlinkMessage e hdr l).Framed := by
  have hmod := attrsSize_mod l
  constructor
  · have hlen : (netlinkMessage e hdr l).header.length.toNat = nlMsgHdrLen + attrsSize l := by
      show (UInt32.ofNat (nlMsgHdrLen + attrsSize l)).toNat = _
      rw [UInt32.toNat_ofNat']
      exact Nat.mod_eq_of_lt (by simp only [nlMsgHdrLen]; omega)
    rw [hlen]
    simp [netlinkMessage, nlMsgHdrLen, nlmsgHeaderLen]
    omega
  · simp [netlinkMessage]
    omega

/-- A message of `ctnetlink_fill_info` to a socket is a part of an answer. -/
theorem fillInfo_part {c : FillCall} (hport : c.portid ≠ 0) {l : List Attr} (hsize : attrsSize l < 65536) :
    (netlinkMessage e c.hdr l).Part := by
  refine ⟨netlinkMessage_framed c.hdr hsize, ?_, ?_⟩
  · have hflags : c.hdr.flags = c.flags ||| nlmFMulti := if_pos hport
    show c.hdr.flags &&& nlmFMulti ≠ 0
    rw [hflags, or_and_flag]
    decide
  · show nfnlMsgType nfnlSubsysCtnetlink ipctnlMsgCtNew ≠ nlmsgError ∧
      nfnlMsgType nfnlSubsysCtnetlink ipctnlMsgCtNew ≠ nlmsgDone
    decide

/-- A loop that decodes every item of a list, one after the other. -/
theorem mapM_forall₂ {α β : Type} {f : α → Decode β} {R : α → β → Prop} {l : List α}
    (h : ∀ x ∈ l, ∃ y, f x = .ok y ∧ R x y) : ∃ ys, l.mapM f = .ok ys ∧ List.Forall₂ R l ys := by
  induction l with
  | nil => exact ⟨[], rfl, .nil⟩
  | cons x l ih =>
    obtain ⟨y, hy, hR⟩ := h x List.mem_cons_self
    obtain ⟨ys, hys, hall⟩ := ih fun x hx => h x (List.mem_cons_of_mem _ hx)
    refine ⟨y :: ys, ?_, .cons hR hall⟩
    rw [List.mapM_cons, hy, ok_bind, hys]
    rfl

namespace DumpSession

variable {s : DumpSession} {r : ProtoRecords} {n : ℕ}

/-- The attributes of a message the `k`-th call completes. -/
theorem mem_completed {k : ℕ} {f : FillCall × ℕ} (hf : f ∈ s.completed k) :
    f.1 = dumpCall (s.env k) s.req (s.table k) f.1.p ∧ f.1.p ∈ s.reported k ∧
      ∃ l, f.1.attrs f.2 = some l ∧ attrsSize l < 65536 := by
  obtain ⟨hfill, hsome⟩ := List.mem_filter.mp hf
  refine ⟨?_, List.mem_map_of_mem hf, ?_⟩
  · rw [(s.outcome k).fills] at hfill
    obtain ⟨x, -, rfl⟩ := List.mem_map.mp hfill
    rfl
  · obtain ⟨l, hl⟩ := Option.isSome_iff_exists.mp hsome
    -- the message is part of a buffer
    have hbytes : f.1.bytes f.2 = nlMsgBytes f.1.env.endian f.1.hdr l := by
      rw [FillCall.bytes, hl]
    obtain ⟨front, back, hsplit⟩ := List.append_of_mem hf
    have hlen := (s.call k).2.skb.le_cap
    have hcap := (s.call k).2.skb.cap_lt
    rw [buffer_eq, hsplit, List.flatMap_append, List.flatMap_cons, hbytes, List.length_append,
      List.length_append, length_nlMsgBytes] at hlen
    exact ⟨l, hl, by omega⟩

/-- The messages of the `k`-th call. -/
def messages (s : DumpSession) (k : ℕ) : List NetlinkMessage :=
  (s.completed k).map fun f => netlinkMessage (s.env k).endian f.1.hdr ((f.1.attrs f.2).getD [])

/-- What `netlink_dump` sends of a session that ends at the `n`-th call: the buffer of every call, and behind the
last one's the message that ends the answer. -/
def Sent (s : DumpSession) (e : Endian) (n : ℕ) (datagrams : List Bytes) : Prop :=
  ∃ m : NetlinkMessage, m.Ends e ∧ datagrams = (List.range n).map (fun k => (s.call k).2.skb.data) ++
    [(s.call n).2.skb.data ++ m.bytes e]

def datagrams (s : DumpSession) (e : Endian) (flags : UInt16) (n : ℕ) : List Bytes :=
  (List.range n).map (fun k => (s.call k).2.skb.data) ++
    [(s.call n).2.skb.data ++ (NetlinkMessage.done e s.req.seq s.req.portid flags).bytes e]

theorem datagrams_sent (s : DumpSession) (e : Endian) (flags : UInt16) (n : ℕ) :
    s.Sent e n (s.datagrams e flags n) := ⟨_, NetlinkMessage.done_ends _ _ flags, rfl⟩

/-- The message about `f`. -/
theorem mem_messages {k : ℕ} {m : NetlinkMessage} (hm : m ∈ s.messages k) :
    ∃ f ∈ s.completed k, ∃ l, f.1.attrs f.2 = some l ∧ attrsSize l < 65536 ∧
      m = netlinkMessage (s.env k).endian f.1.hdr l := by
  obtain ⟨f, hf, rfl⟩ := List.mem_map.mp hm
  obtain ⟨-, -, l, hl, hsize⟩ := mem_completed hf
  refine ⟨f, hf, l, hl, hsize, ?_⟩
  rw [hl]
  rfl

theorem messages_part (hport : s.req.portid ≠ 0) {k : ℕ} : ∀ m ∈ s.messages k, m.Part := by
  intro m hm
  obtain ⟨f, hf, l, hl, hsize, rfl⟩ := mem_messages hm
  have hcall := (mem_completed hf).1
  have hfport : f.1.portid ≠ 0 := by
    rw [hcall]
    exact hport
  exact fillInfo_part hfport hsize

theorem messages_ids {k : ℕ} :
    ∀ m ∈ s.messages k, m.header.sequence = s.req.seq ∧ m.header.pid = s.req.portid := by
  intro m hm
  obtain ⟨f, hf, l, -, -, rfl⟩ := mem_messages hm
  have hcall := (mem_completed hf).1
  constructor
  · show f.1.seq = s.req.seq
    rw [hcall]
    rfl
  · show f.1.portid = s.req.portid
    rw [hcall]
    rfl

/-- **The buffer of a call** is its messages. -/
theorem messages_bytes {k : ℕ} (he : (s.env k).endian = e) :
    (s.messages k).flatMap (NetlinkMessage.bytes e) = (s.call k).2.skb.data := by
  rw [buffer_eq, messages, List.flatMap_map]
  refine List.flatMap_congr fun f hf => ?_
  obtain ⟨hcall, -, l, hl, -⟩ := mem_completed hf
  have hend : f.1.env.endian = e := by
    rw [hcall]
    exact he
  rw [he, netlinkMessage_bytes, FillCall.bytes, hl, hend]
  rfl

/-- The last call completes nothing. -/
theorem completed_last (hend : s.EndsAt n) : s.completed n = [] := by
  have hlen : (s.call n).2.skb.data.length = 0 := hend.1
  refine FillCall.completed_eq_nil (fun f hf => (List.mem_filter.mp hf).2) ?_
  rw [← buffer_eq]
  exact List.eq_nil_of_length_eq_zero hlen

/-- Any other completes something. -/
theorem messages_ne_nil (hend : s.EndsAt n) {k : ℕ} (hk : k < n) : s.messages k ≠ [] := by
  intro hnil
  have hdata : (s.call k).2.skb.data = [] := by
    rw [← messages_bytes rfl, hnil]
    rfl
  have hlen : (s.call k).1 = (s.call k).2.skb.data.length := rfl
  exact hend.2 k hk (by rw [hlen, hdata]; rfl)

/-- **The answer to a dump** is read whole: its messages are those of the calls, in order. -/
theorem execute_session (hport : s.req.portid ≠ 0) (hend : s.EndsAt n) (he : ∀ k ≤ n, (s.env k).endian = e)
    {datagrams : List Bytes} (hsent : s.Sent e n datagrams) (after : List Bytes) :
    execute e s.req.seq s.req.portid (datagrams ++ after) = .ok ((List.range n).flatMap s.messages, after) := by
  have hlast : (s.call n).2.skb.data = [] := List.eq_nil_of_length_eq_zero hend.1
  obtain ⟨m, hm, rfl⟩ := hsent
  have hcalls : (List.range n).map (fun k => (s.call k).2.skb.data)
      = ((List.range n).map s.messages).map fun l => l.flatMap (NetlinkMessage.bytes e) := by
    rw [List.map_map]
    refine List.map_congr_left fun k hk => ?_
    exact (messages_bytes (he k (List.mem_range.mp hk).le)).symm
  have hparts : (List.range n).map (fun k => (s.call k).2.skb.data) ++ [(s.call n).2.skb.data ++ m.bytes e] ++ after
      = ((List.range n).map s.messages).map (fun l => l.flatMap (NetlinkMessage.bytes e)) ++
        ([] ++ [m]).flatMap (NetlinkMessage.bytes e) :: after := by
    rw [hcalls, hlast]
    simp
  have hall : ∀ l ∈ (List.range n).map s.messages, l ≠ [] ∧ ∀ m ∈ l, m.Part := by
    intro l hl
    obtain ⟨k, hk, rfl⟩ := List.mem_map.mp hl
    exact ⟨messages_ne_nil hend (List.mem_range.mp hk), messages_part hport⟩
  have hreceive := NetlinkMessage.lockedReceive_parts hm [] after (by simp) _ hall
  have hids : ∀ m ∈ (List.range n).flatMap s.messages,
      m.header.sequence = s.req.seq ∧ m.header.pid = s.req.portid := by
    intro m hm
    obtain ⟨k, -, hk⟩ := List.mem_flatMap.mp hm
    exact messages_ids m hk
  have hflat : ((List.range n).map s.messages).flatten = (List.range n).flatMap s.messages :=
    List.flatMap_def.symm
  unfold execute
  rw [hparts, hreceive, ok_bind, List.append_nil, hflat]
  dsimp only
  rw [NetlinkMessage.validate_ok hids]
  rfl

/-- What the CLI makes of the messages of one call. -/
theorem unmarshalFlow_messages {k : ℕ} (he : (s.env k).endian = e) (hstock : (s.env k).Stock r)
    (hread : ∀ p ∈ s.reported k, ((s.table k).heap p).Readable) {f : FillCall × ℕ} (hf : f ∈ s.completed k) :
    ∃ flow, unmarshalFlow e ((netlinkMessage (s.env k).endian f.1.hdr ((f.1.attrs f.2).getD [])).bytes e)
      = .ok flow ∧ f.1.Tells r flow := by
  obtain ⟨hcall, hp, l, hl, hsize⟩ := mem_completed hf
  have hfenv : f.1.env = s.env k := by
    rw [hcall]
    rfl
  have hfct : f.1.ct = (s.table k).heap f.1.p := by
    rw [hcall]
    rfl
  have hext : f.1.extinfo = true := by
    rw [hcall]
    rfl
  obtain ⟨flow, hflow, htells⟩ := unmarshalFlow_attrs (r := r) hext (by rw [hfenv]; exact hstock)
    (by rw [hfct]; exact hread _ hp) hl hsize
  refine ⟨flow, ?_, htells⟩
  rw [hfenv, he] at hflow
  rw [hl, he, netlinkMessage_bytes]
  exact hflow

/-- **The messages of a session decode**, each to a flow that says what the record does. -/
theorem unmarshalFlows_session (henv : ∀ k ≤ n, (s.env k).endian = e ∧ (s.env k).Stock r)
    (hread : ∀ k ≤ n, ∀ p ∈ s.reported k, ((s.table k).heap p).Readable) :
    ∃ flows, unmarshalFlows e (((List.range n).flatMap s.messages).map (NetlinkMessage.bytes e)) = .ok flows ∧
      List.Forall₂ (fun f flow => f.1.Tells r flow) ((List.range n).flatMap s.completed) flows := by
  -- the flow of each message completed, call by call
  have hflow : ∀ x ∈ (List.range n).flatMap fun k => (s.completed k).map fun f => (k, f),
      ∃ flow, unmarshalFlow e ((netlinkMessage (s.env x.1).endian x.2.1.hdr
        ((x.2.1.attrs x.2.2).getD [])).bytes e) = .ok flow ∧ x.2.1.Tells r flow := by
    intro x hx
    obtain ⟨k, hk, hx⟩ := List.mem_flatMap.mp hx
    obtain ⟨f, hf, rfl⟩ := List.mem_map.mp hx
    have hle := (List.mem_range.mp hk).le
    exact unmarshalFlow_messages (henv k hle).1 (henv k hle).2 (hread k hle) hf
  obtain ⟨flows, hflows, htells⟩ := mapM_forall₂ hflow
  have hmessages : ((List.range n).flatMap s.messages).map (NetlinkMessage.bytes e)
      = ((List.range n).flatMap fun k => (s.completed k).map fun f => (k, f)).map fun x =>
        (netlinkMessage (s.env x.1).endian x.2.1.hdr ((x.2.1.attrs x.2.2).getD [])).bytes e := by
    simp only [List.map_flatMap, messages, List.map_map]
    rfl
  have hsecond : (List.range n).flatMap s.completed
      = ((List.range n).flatMap fun k => (s.completed k).map fun f => (k, f)).map Prod.snd := by
    simp [List.map_flatMap, List.map_map, Function.comp_def]
  refine ⟨flows, ?_, ?_⟩
  · rw [unmarshalFlows, hmessages, List.mapM_map]
    exact hflows
  · rw [hsecond, List.forall₂_map_left_iff]
    exact htells

theorem connDumpFilter_ok {sequence pid : UInt32} {datagrams after : List Bytes} {nlm : List NetlinkMessage}
    {flows : List Flow} (hexec : execute e sequence pid datagrams = .ok (nlm, after))
    (hflows : unmarshalFlows e (nlm.map (NetlinkMessage.bytes e)) = .ok flows) :
    connDumpFilter e sequence pid datagrams = .ok (flows, after) := by
  unfold connDumpFilter
  rw [hexec, ok_bind]
  simp only [hflows]
  rfl

/-- The last call, which completes nothing, does not matter. -/
theorem completed_range (hend : s.EndsAt n) :
    (List.range (n + 1)).flatMap s.completed = (List.range n).flatMap s.completed := by
  rw [List.range_succ, List.flatMap_append, List.flatMap_singleton, completed_last hend, List.append_nil]

/-- **What the CLI gets of a dump.**  Whatever becomes of the table between the calls of the session, the CLI
reads the whole answer and nothing behind it, and it gets one flow for each conntrack the calls report, in
order, which says what the conntrack's record says in that call. -/
theorem dumpFilter_session (hport : s.req.portid ≠ 0) (hend : s.EndsAt n)
    (henv : ∀ k ≤ n, (s.env k).endian = e ∧ (s.env k).Stock r)
    (hread : ∀ k ≤ n, ∀ p ∈ s.reported k, ((s.table k).heap p).Readable) {datagrams : List Bytes}
    (hsent : s.Sent e n datagrams) (after : List Bytes) :
    ∃ flows, connDumpFilter e s.req.seq s.req.portid (datagrams ++ after) = .ok (flows, after) ∧
      List.Forall₂ (fun f flow => f.1.Tells r flow) ((List.range (n + 1)).flatMap s.completed) flows := by
  obtain ⟨flows, hflows, htells⟩ := unmarshalFlows_session henv hread
  refine ⟨flows, connDumpFilter_ok ?_ hflows, by rwa [completed_range hend]⟩
  exact execute_session hport hend (fun k hk => (henv k hk).1) hsent after

/-- A table that is the same in front of every call, and of which nothing expires, does not change. -/
theorem unchanged_of_steady {t : NfConntrackHash} {env : NlEnv} (htable : ∀ k, s.table k = t)
    (henv : ∀ k, s.env k = env) (hlive : ∀ p, nfCtIsExpired env (t.heap p) = false) (k : ℕ) :
    s.Unchanged k := by
  have hframe := s.frame k
  have hlive' : ∀ p, nfCtIsExpired (s.env k) ((s.table k).heap p) = false := by
    intro p
    rw [henv, htable]
    exact hlive p
  obtain ⟨keep, hkeep, hchains⟩ := hframe.chains
  have hall : ∀ p, keep p = true := by
    intro p
    by_contra hne
    have hexp := hkeep p (by simpa using hne)
    rw [hlive' p] at hexp
    cases hexp
  have hnext : s.table (k + 1) = s.table k := (htable _).trans (htable k).symm
  refine ⟨?_, fun p => ?_, fun p => ?_⟩
  · rw [hchains, hnext]
    simp only [hall, List.filter_true, List.map_id']
  · rw [hnext]
    exact (hframe.live p (hlive' p)).symm
  · rw [hnext, henv (k + 1), ← henv k]
    exact (hframe.expired_eq p).symm

end DumpSession

/-- Two connections of zone 100 are dumped, on a host with the kernel's protocols. -/
def stockSession : DumpSession := { steadySession with env := fun _ => stockNlEnv }

theorem stockSession_live (p : CtPtr) :
    nfCtIsExpired stockNlEnv ((pairTable 1 2 one_ne_two_ptr).heap p) = false := by
  show nfCtIsExpired stockNlEnv liveConn = false
  decide

theorem stockSession_roomy (k : ℕ) : stockSession.Roomy k := by
  intro p _
  show ((sampleRequest.fillCall stockNlEnv 0 liveConn).need 300).isSome = true
  decide +kernel

theorem stockSession_ends : ∃ n, stockSession.EndsAt n :=
  DumpSession.exists_endsAt (@DumpSession.exists_end stockSession 0 stockSession_roomy fun k _ =>
    (stockSession.unchanged_of_steady (fun _ => rfl) (fun _ => rfl) stockSession_live k).quiet)

theorem stockSession_readable (k : ℕ) (p : CtPtr) : ((stockSession.table k).heap p).Readable :=
  ⟨.inl rfl, .inl rfl, fun h => absurd (show (8 : UInt32).toNat.testBit ipsExpectedBit = true from h) (by decide),
    fun _ h => by cases h⟩

theorem dumpFilter_session_sample : ∃ n flows,
    connDumpFilter .little 1 1 (stockSession.datagrams .little 0 n ++ []) = .ok (flows, []) ∧
      List.Forall₂ (fun f flow => f.1.Tells stockRecords flow)
        ((List.range (n + 1)).flatMap stockSession.completed) flows := by
  obtain ⟨n, hn⟩ := stockSession_ends
  obtain ⟨flows, h⟩ := stockSession.dumpFilter_session (by decide) hn
    (fun k _ => ⟨rfl, stockNlEnv_stock⟩) (fun k _ p _ => stockSession_readable k p)
    (stockSession.datagrams_sent .little 0 n) []
  exact ⟨n, flows, h⟩

/-! ### Showing a zone -/

/-- The attributes `runCmdCtShow` hands to `DumpFilter`: `FilterZone`, unless the zone is `-1`. -/
def showAttrs (zone : ℤ) : List Attr := if zone ≠ -1 then filterZoneMarshal (goUint16 zone) else []

/-- The session `ctnetlink_start` prepares for the request of `ct show`. -/
structure ShowRequest (env : FilterEnv) (net : NetPtr) (zone : ℤ) (req : DumpRequest) : Prop where
  net : req.net = net
  type : req.type = ipctnlMsgCtGet
  start : ctnetlinkStart env (nlaTable ctaMax (showAttrs zone)) 0 = .ok req.filter

/-- The conntracks the request is for. -/
def inShownZone (zone : ℤ) (ct : NfConn) : Prop := zone = -1 ∨ origZoneId ct = goUint16 zone

/-- **The filter of `ct show`** matches the conntracks of the zone its argument is cut to. -/
theorem show_wanted {env : FilterEnv} {net : NetPtr} {zone : ℤ} {req : DumpRequest}
    (hreq : ShowRequest env net zone req) (t : NfConntrackHash) (p : CtPtr) :
    wanted req t p = true ↔ inShownZone zone (t.heap p) := by
  have hstart := hreq.start
  unfold ctnetlinkStart showAttrs at hstart
  unfold wanted inShownZone
  by_cases hz : zone = -1
  · have hcda : nlaTable ctaMax (if zone ≠ -1 then filterZoneMarshal (goUint16 zone) else [])
        = fun _ => none := by
      funext t
      simp [hz, nlaTable]
    rw [hcda, if_neg (by simp [ctnetlinkNeedsFilter])] at hstart
    rw [← Except.ok.inj hstart]
    simp [ctnetlinkFilterMatch, hz]
  · have htab := nlaTable_zone ctaMax (goUint16 zone) (by decide)
    have halloc := allocFilter_zone env (show ctaZone ≤ ctaMax by decide) (goUint16 zone)
    have hattrs : filterZoneMarshal (goUint16 zone) = [nlaBe16 ctaZone (goUint16 zone)] := rfl
    rw [if_pos hz, hattrs, if_pos (by simp [ctnetlinkNeedsFilter, htab]), halloc] at hstart
    rw [← Except.ok.inj hstart, filterMatch_zone]
    simp [hz, origZoneId]

/-- What a dump can report, of the zone that is asked for. -/
theorem mem_shown {env : FilterEnv} {net : NetPtr} {zone : ℤ} {req : DumpRequest}
    (hreq : ShowRequest env net zone req) (nlenv : NlEnv) (t : NfConntrackHash) (p : CtPtr) :
    p ∈ eligible nlenv req t ↔ (∃ i < t.size, ⟨p, .original⟩ ∈ t.chain i) ∧
      nfCtIsExpired nlenv (t.heap p) = false ∧ (t.heap p).net = net ∧ inShownZone zone (t.heap p) := by
  rw [mem_eligible, show_wanted hreq]
  simp only [mem_dumpable_iff, dumpableNode_iff, hreq.net]
  constructor
  · rintro ⟨hzone, i, hi, hnode, hexp, hnet, -⟩
    exact ⟨⟨i, hi, hnode⟩, hexp, hnet, hzone⟩
  · rintro ⟨⟨i, hi, hnode⟩, hexp, hnet, hzone⟩
    exact ⟨hzone, i, hi, hnode, hexp, hnet, trivial⟩

namespace DumpSession

variable {s : DumpSession} {r : ProtoRecords} {n : ℕ}

/-- The flows that the calls `fs` are told as, by conntrack. -/
theorem tells_ids {fs : List (FillCall × ℕ)} {flows : List Flow}
    (hfs : ∀ f ∈ fs, ∃ k ≤ n, f ∈ s.completed k) (htells : List.Forall₂ (fun f flow => f.1.Tells r flow) fs flows) :
    List.Forall₂ (fun p flow => ∃ k ≤ n, (dumpCall (s.env k) s.req (s.table k) p).Tells r flow)
      (fs.map fun f => f.1.p) flows := by
  rw [List.forall₂_map_left_iff]
  refine List.forall₂_iff_zip.mpr ⟨htells.length_eq, fun {f flow} hmem => ?_⟩
  obtain ⟨k, hk, hf⟩ := hfs f (List.of_mem_zip hmem).1
  have htell := (List.forall₂_iff_zip.mp htells).2 hmem
  rw [(DumpSession.mem_completed hf).1] at htell
  exact ⟨k, hk, htell⟩

/-- In a session whose table does not change, the calls report what can be reported at its start. -/
theorem completed_ids (hend : s.EndsAt n) (hroomy : ∀ k ≤ n, s.Roomy k) (hunchanged : ∀ k < n, s.Unchanged k) :
    ((List.range n).flatMap s.completed).map (fun f => f.1.p) = eligible (s.env 0) s.req (s.table 0) := by
  have hall := reports_append_todo (n := n) (fun k hk => hroomy k (Nat.le_of_lt hk)) hunchanged
  rw [todo_of_call (hroomy n (Nat.le_refl n)) hend.1, List.append_nil] at hall
  rw [List.map_flatMap]
  exact hall

theorem mem_calls {f : FillCall × ℕ} (hf : f ∈ (List.range n).flatMap s.completed) :
    ∃ k ≤ n, f ∈ s.completed k := by
  obtain ⟨k, hk, hf⟩ := List.mem_flatMap.mp hf
  exact ⟨k, Nat.le_of_lt (List.mem_range.mp hk), hf⟩

/-- In front of every call, an unexpired conntrack is as it was at the start, but for its counters. -/
theorem record_unchanged (hunchanged : ∀ k < n, s.Unchanged k) {p : CtPtr}
    (hlive : nfCtIsExpired (s.env 0) ((s.table 0).heap p) = false) {k : ℕ} (hk : k ≤ n) :
    nfCtIsExpired (s.env k) ((s.table k).heap p) = false ∧
      SameButCounters ((s.table 0).heap p) ((s.table k).heap p) := by
  induction k with
  | zero => exact ⟨hlive, .refl _⟩
  | succ k ih =>
    obtain ⟨hexp, hsame⟩ := ih (Nat.le_of_succ_le hk)
    have hnext := hunchanged k hk
    refine ⟨?_, hsame.trans (((s.frame k).live p hexp).trans (hnext.records p))⟩
    rw [hnext.expired, (s.frame k).expired_eq, hexp]

end DumpSession

/-- **`ct show`**, over a table that does not change and into buffers that each hold a message: the CLI gets
one flow for each unexpired conntrack of the namespace in the zone, in bucket and chain order, and no other;
it says what the record says in the call that reports it. -/
theorem ctShow_exact {s : DumpSession} {r : ProtoRecords} {e : Endian} {n : ℕ} {env : FilterEnv} {net : NetPtr}
    {zone : ℤ} (hreq : ShowRequest env net zone s.req) (hport : s.req.portid ≠ 0) (hend : s.EndsAt n)
    (hroomy : ∀ k ≤ n, s.Roomy k) (hunchanged : ∀ k < n, s.Unchanged k)
    (henv : ∀ k ≤ n, (s.env k).endian = e ∧ (s.env k).Stock r)
    (hread : ∀ k ≤ n, ∀ p ∈ s.reported k, ((s.table k).heap p).Readable) {datagrams : List Bytes}
    (hsent : s.Sent e n datagrams) (after : List Bytes) :
    ∃ ps flows, connDumpFilter e s.req.seq s.req.portid (datagrams ++ after) = .ok (flows, after) ∧
      List.Forall₂ (fun p flow => ∃ k ≤ n, (dumpCall (s.env k) s.req (s.table k) p).Tells r flow) ps flows ∧
      ps = eligible (s.env 0) s.req (s.table 0) ∧ ps.Nodup ∧
      ∀ p, p ∈ ps ↔ (∃ i < (s.table 0).size, ⟨p, .original⟩ ∈ (s.table 0).chain i) ∧
        nfCtIsExpired (s.env 0) ((s.table 0).heap p) = false ∧ ((s.table 0).heap p).net = net ∧
        inShownZone zone ((s.table 0).heap p) := by
  obtain ⟨flows, hflows, htells⟩ := DumpSession.unmarshalFlows_session henv hread
  have hexec := DumpSession.execute_session hport hend (fun k hk => (henv k hk).1) hsent after
  refine ⟨eligible (s.env 0) s.req (s.table 0), flows, DumpSession.connDumpFilter_ok hexec hflows, ?_, rfl,
    nodup_eligible _ _ _, mem_shown hreq _ _⟩
  rw [← DumpSession.completed_ids hend hroomy hunchanged]
  exact DumpSession.tells_ids (fun f hf => DumpSession.mem_calls hf) htells

theorem sampleRequest_show : ShowRequest kernelFilterEnv 0 100 sampleRequest := by
  refine ⟨rfl, rfl, ?_⟩
  have htab := nlaTable_zone ctaMax 100 (by decide)
  have hattrs : showAttrs 100 = [nlaBe16 ctaZone 100] := rfl
  unfold ctnetlinkStart
  rw [hattrs, if_pos (by simp [ctnetlinkNeedsFilter, htab]),
    allocFilter_zone kernelFilterEnv (show ctaZone ≤ ctaMax by decide) 100]
  rfl

/-- Both connections are shown. -/
theorem ctShow_exact_sample : ∃ n flows,
    connDumpFilter .little 1 1 (stockSession.datagrams .little 0 n ++ []) = .ok (flows, []) ∧ flows.length = 2 := by
  obtain ⟨n, hn⟩ := stockSession_ends
  obtain ⟨ps, flows, hflows, htells, hps, -⟩ := ctShow_exact (s := stockSession) sampleRequest_show (by decide) hn
    (fun k _ => stockSession_roomy k)
    (fun k _ => stockSession.unchanged_of_steady (fun _ => rfl) (fun _ => rfl) stockSession_live k)
    (fun k _ => ⟨rfl, stockNlEnv_stock⟩) (fun k _ p _ => stockSession_readable k p)
    (stockSession.datagrams_sent .little 0 n) []
  have heligible : ps = [1, 2] := hps.trans (pairTable_eligible one_ne_two_ptr)
  exact ⟨n, flows, hflows, by rw [← htells.length_eq, heligible]; rfl⟩

end VgwDriver
