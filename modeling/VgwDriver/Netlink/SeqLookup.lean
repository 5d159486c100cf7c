import VgwDriver.Base.Budget
import VgwDriver.Netlink.Counters
import VgwDriver.Netlink.ExpectId

/-!
# The sequence numbers of one connection

The family `vgw_nl_ct` answers a filter, the C struct `tcp_seq_filter` in the bytes of one attribute, with the
last sequence and acknowledgement numbers of the conntrack it names.

* `vgwGenlRequest` — a request, through `vgw_genl_rx_msg`, `dump_conntrack_tcp_seq` and
  `looup_conntrack_by_filter`;
* `seqAttrs` — what the conntrack that is found under the filter's tuple contributes to the reply;
* `dumpTcpSeq_reply` — **a reply carries these attributes and nothing else**;
* `request_table` — no request changes the table.
-/

namespace VgwDriver

open Base

/-! ### Byte order -/

/-- `htonl` and `htons`: the word whose bytes in memory are `x` in network order. -/
def htonl (e : Endian) (x : UInt32) : UInt32 := get32 e (put32 .big x)
def htons (e : Endian) (x : UInt16) : UInt16 := get16 e (put16 .big x)

/-- `ntohl` and `ntohs`. -/
def ntohl (e : Endian) (x : UInt32) : UInt32 := get32 .big (put32 e x)
def ntohs (e : Endian) (x : UInt16) : UInt16 := get16 .big (put16 e x)

@[simp] theorem ntohl_htonl (e : Endian) (x : UInt32) : ntohl e (htonl e x) = x := by
  rw [ntohl, htonl, put32_get32 e (length_put32 .big x), get32_put32]

@[simp] theorem ntohs_htons (e : Endian) (x : UInt16) : ntohs e (htons e x) = x := by
  rw [ntohs, htons, put16_get16 e (length_put16 .big x), get16_put16]

/-! ### The filter -/

/-- `struct tcp_seq_filter`, and `TcpSeqFilter` of the CLI. -/
structure TcpSeqFilter where
  id : UInt32
  zone : UInt32
  srcIp : UInt32
  dstIp : UInt32
  srcPort : UInt16
  dstPort : UInt16
  protocol : UInt8
  dummy : UInt8 × UInt8 × UInt8
  deriving DecidableEq, Repr

/-- `struct tcp_seq`, and `TcpSeq` of the CLI. -/
structure TcpSeq where
  id : UInt32
  seq : UInt32
  ack : UInt32
  deriving DecidableEq, Repr

namespace TcpSeqFilter

/-- The struct at the start of `mem`, each field at its offset. -/
def ofMem (e : Endian) (mem : Bytes) : TcpSeqFilter where
  id := u32At e mem 0
  zone := u32At e mem 4
  srcIp := u32At e mem 8
  dstIp := u32At e mem 12
  srcPort := u16At e mem 16
  dstPort := u16At e mem 18
  protocol := mem.getD 20 0
  dummy := (mem.getD 21 0, mem.getD 22 0, mem.getD 23 0)

/-- The variable `zone` of the lookup. -/
def ctZone (flt : TcpSeqFilter) : NfConntrackZone := ⟨flt.zone.toUInt16, 0, nfCtZoneDirOrig⟩

/-- The variable `tuple` of the lookup.  Its words are stored with `htonl` and `htons`; a tuple of the model
holds the numbers that they denote in network order. -/
def tuple (e : Endian) (flt : TcpSeqFilter) : NfConntrackTuple where
  src := ⟨.ofIp (ntohl e (htonl e flt.srcIp)), ntohs e (htons e flt.srcPort), nfprotoIpv4.toUInt16⟩
  dst := ⟨.ofIp (ntohl e (htonl e flt.dstIp)), ntohs e (htons e flt.dstPort), flt.protocol,
    IpConntrackDir.original.code⟩

end TcpSeqFilter

/-! ### The requests -/

def vgwNlCtCmdDump : UInt8 := 1
def vgwNlCtAttrFilter : UInt16 := 1
def vgwNlCtAttrTcpSeq : UInt16 := 2
def vgwNlCtAttrMax : UInt16 := 2

/-- The kernel around the family: the byte order, `nf_ct_get_id`, `nf_conntrack_find_get` without the
reference it takes, the number the family was given, and what `genlmsg_unicast` returns. -/
structure SeqEnv where
  endian : Endian
  nfCtGetId : CtPtr → UInt32
  find : NfConntrackFind
  familyId : UInt16
  genlmsgUnicast : NetPtr → UInt32 → Buf → ℤ

/-- The fields of `struct genl_info` that the handler reads, besides the attributes. -/
structure GenlInfo where
  net : NetPtr
  sndPortid : UInt32
  sndSeq : UInt32

/-- What a request returns and leaves, and the reply that reached its sender. -/
structure GenlResult where
  err : ℤ
  table : NfConntrackHash
  reply : Option Buf

/-- The attribute `VGW_NL_CT_ATTR_TCP_SEQ` with the struct `s`. -/
def tcpSeqAttr (e : Endian) (s : TcpSeq) : Attr :=
  ⟨vgwNlCtAttrTcpSeq, put32 e s.id ++ (put32 e s.seq ++ put32 e s.ack)⟩

section Request

variable (env : SeqEnv) (info : GenlInfo) (flt : TcpSeqFilter)

/-- The part of `looup_conntrack_by_filter` behind the lookup, for the conntrack `ct` at `p`. -/
def putTcpSeq {σ : Type} (p : CtPtr) (ct : NfConn) : Writer ℤ σ Unit :=
  let id := ntohl env.endian (env.nfCtGetId p)
  if flt.id ≠ id then pure ()
  else do
    -- a failure is only logged
    let _ ← (putAttrs (-emsgsize) env.endian
      [tcpSeqAttr env.endian ⟨id, ct.tcp.lastSeq, ct.tcp.lastAck⟩]).attempt
    pure ()

/-- `looup_conntrack_by_filter`, which returns 0 on every path. -/
def looupConntrackByFilter : Writer ℤ NfConntrackHash Unit := fun (t, b) =>
  match env.find t info.net flt.ctZone (flt.tuple env.endian) with
  | none => (.ok (), t, b)
  | some h =>
    let held := t.withHeap (t.heap.get h.ct)
    match putTcpSeq env flt h.ct (held.heap h.ct) (held, b) with
    | (ret, held, b) => (ret, held.withHeap (held.heap.put h.ct), b)

/-- The headers of a reply.  A `struct genlmsghdr` is laid out like a `struct nfgenmsg`: the command, the
version and two bytes of zero. -/
def SeqEnv.replyHdr : NlMsgHdr where
  type := env.familyId
  flags := 0
  seq := info.sndSeq
  portid := 0
  family := vgwNlCtCmdDump
  version := 1
  resId := 0

/-- `dump_conntrack_tcp_seq`; `skb` is what `genlmsg_new` returns. -/
def dumpConntrackTcpSeq (skb : Option Buf) (t : NfConntrackHash) : GenlResult :=
  match skb with
  | none => ⟨-enomem, t, none⟩
  | some skb =>
    match nlMsg env.endian (env.replyHdr info) (looupConntrackByFilter env info flt) t skb with
    | (len, t, skb) =>
      -- only the headers can be too long for the buffer
      if len ≤ 0 then ⟨-enomem, t, none⟩
      else
        let ret := env.genlmsgUnicast info.net info.sndPortid skb
        if ret ≠ 0 then ⟨ret, t, none⟩ else ⟨0, t, some skb⟩

end Request

section Receive

variable (env : SeqEnv) (info : GenlInfo) (skb : Option Buf) (behind : Bytes)

/-- `vgw_genl_rx_msg`.  It reads a whole struct, however short the attribute: `behind` is what follows the
attribute in memory. -/
def vgwGenlRxMsg (attrs : NlaTable) (t : NfConntrackHash) : GenlResult :=
  match attrs vgwNlCtAttrFilter with
  | none => ⟨-einval, t, none⟩
  | some a => dumpConntrackTcpSeq env info (TcpSeqFilter.ofMem env.endian (a.payload ++ behind)) skb t

/-- `vgw_genl_policy`, which only bounds the length from above. -/
def vgwGenlPolicy (a : Attr) : Bool := a.kind ≠ vgwNlCtAttrFilter || a.payload.length ≤ 24

/-- A request with the attributes `data`, as the generic netlink core hands it to `vgw_genl_rx_msg`. -/
def vgwGenlRequest (data : Bytes) (t : NfConntrackHash) : GenlResult :=
  let l := scanAttrs env.endian data
  if l.all vgwGenlPolicy then vgwGenlRxMsg env info skb behind (nlaTable vgwNlCtAttrMax l) t
  else ⟨-erange, t, none⟩

end Receive

/-! ### The lookup -/

/-- `nf_ct_key_equal`: the node `h` is one of the tuple, in the namespace and in the zone. -/
def NfConntrackHash.KeyEqual (t : NfConntrackHash) (h : TupleHash) (net : NetPtr) (zone : NfConntrackZone)
    (tuple : NfConntrackTuple) : Prop :=
  nfCtTupleEqual tuple (nfCtTuple (t.heap h.ct) h.dir) ∧
    nfCtZoneId (t.heap h.ct).zone h.dir = nfCtZoneId zone h.dir ∧ (t.heap h.ct).net = net

instance (t : NfConntrackHash) (h : TupleHash) (net : NetPtr) (zone : NfConntrackZone)
    (tuple : NfConntrackTuple) : Decidable (t.KeyEqual h net zone tuple) := inferInstanceAs (Decidable (_ ∧ _))

/-- What is assumed of `nf_conntrack_find_get`: it finds only nodes of the key, and the node that is filed
under the zone, if there is one. -/
structure NfConntrackFind.Finds (find : NfConntrackFind) (t : NfConntrackHash) : Prop where
  found : ∀ net zone tuple h, find t net zone tuple = some h →
    h ∈ t.chains.flatten ∧ t.KeyEqual h net zone tuple
  filed : ∀ net zone tuple h, h ∈ t.chains.flatten → t.KeyEqual h net zone tuple →
    nfCtZoneId (t.heap h.ct).zone h.dir = nfCtZoneId zone .original → find t net zone tuple = some h

/-- What the conntrack that is found contributes to the reply. -/
def seqAttrs (env : SeqEnv) (info : GenlInfo) (flt : TcpSeqFilter) (t : NfConntrackHash) : List Attr :=
  match env.find t info.net flt.ctZone (flt.tuple env.endian) with
  | none => []
  | some h =>
    if flt.id ≠ ntohl env.endian (env.nfCtGetId h.ct) then []
    else [tcpSeqAttr env.endian
      ⟨ntohl env.endian (env.nfCtGetId h.ct), (t.heap h.ct).tcp.lastSeq, (t.heap h.ct).tcp.lastAck⟩]

@[simp] theorem align4_tcpSeqAttr (e : Endian) (s : TcpSeq) : align4 (tcpSeqAttr e s).len = 16 := by
  simp [tcpSeqAttr, Attr.len, attrHdrLen, align4]

section Reply

variable {env : SeqEnv} {info : GenlInfo} {flt : TcpSeqFilter} {t : NfConntrackHash}

theorem attrsSize_seqAttrs : attrsSize (seqAttrs env info flt t) ≤ 16 := by
  rw [seqAttrs]
  split
  · exact Nat.zero_le _
  · split
    · exact Nat.zero_le _
    · rw [attrsSize_cons, align4_tcpSeqAttr]
      exact Nat.le_refl _

/-- What is contributed by the conntrack of the node that is found. -/
theorem seqAttrs_found {h : TupleHash}
    (hfind : env.find t info.net flt.ctZone (flt.tuple env.endian) = some h) :
    seqAttrs env info flt t = if flt.id ≠ ntohl env.endian (env.nfCtGetId h.ct) then []
      else [tcpSeqAttr env.endian
        ⟨ntohl env.endian (env.nfCtGetId h.ct), (t.heap h.ct).tcp.lastSeq, (t.heap h.ct).tcp.lastAck⟩] := by
  rw [seqAttrs, hfind]

/-- Nothing is contributed by conntracks of another identifier. -/
theorem seqAttrs_eq_nil (hother : ∀ h, env.find t info.net flt.ctZone (flt.tuple env.endian) = some h →
    flt.id ≠ ntohl env.endian (env.nfCtGetId h.ct)) : seqAttrs env info flt t = [] := by
  cases hfind : env.find t info.net flt.ctZone (flt.tuple env.endian) with
  | none => rw [seqAttrs, hfind]
  | some h => rw [seqAttrs_found hfind, if_pos (hother h hfind)]

/-- Taking a reference and dropping it again leaves the table as it was. -/
theorem NfConntrackHash.get_put (t : NfConntrackHash) (p : CtPtr) :
    t.withHeap ((t.heap.get p).put p) = t := by
  have hheap : (t.heap.get p).put p = t.heap := by
    rw [CtHeap.get, CtHeap.put, CtHeap.modify_modify]
    funext q
    by_cases hq : q = p
    · rw [hq, CtHeap.modify_self]
      rfl
    · rw [CtHeap.modify_of_ne _ _ hq]
  rw [hheap]
  rfl

theorem emits_putTcpSeq (p : CtPtr) (ct : NfConn) :
    Emits env.endian (putTcpSeq env flt p ct : Writer ℤ NfConntrackHash Unit)
      (fittingOut (if flt.id ≠ ntohl env.endian (env.nfCtGetId p) then []
        else [tcpSeqAttr env.endian
          ⟨ntohl env.endian (env.nfCtGetId p), ct.tcp.lastSeq, ct.tcp.lastAck⟩])) := by
  rw [putTcpSeq]
  split
  · exact Emits.pure
  · exact Emits.putAttrsIgnored _ _

/-- **The lookup** writes what the conntrack contributes, and leaves the table as it was. -/
theorem emits_looup : EmitsFrom env.endian (looupConntrackByFilter env info flt) t
    (fittingOut (seqAttrs env info flt t)) t fun _ => t := by
  intro b
  refine ⟨?_, fun h => by cases h⟩
  intro l hl
  cases hfind : env.find t info.net flt.ctZone (flt.tuple env.endian) with
  | none =>
    have hnil : l = [] := by
      rw [seqAttrs, hfind] at hl
      exact (Option.some.inj hl).symm
    refine ⟨b, ?_, by rw [hnil]; exact Buf.Appended.nil b⟩
    simp only [looupConntrackByFilter, hfind]
  | some h =>
    rw [seqAttrs_found hfind] at hl
    have htcp : (t.heap.get h.ct h.ct).tcp = (t.heap h.ct).tcp := by
      rw [CtHeap.get, CtHeap.modify_self]
    obtain ⟨b', hrun, happ⟩ := (@emits_putTcpSeq env flt h.ct (t.heap.get h.ct h.ct)
      (t.withHeap (t.heap.get h.ct)) b).1 l (by rw [htcp]; exact hl)
    refine ⟨b', ?_, happ⟩
    simp only [looupConntrackByFilter, hfind]
    rw [NfConntrackHash.withHeap_heap, hrun]
    exact congrArg (fun t => ((.ok (), t, b') : Except ℤ Unit × NfConntrackHash × Buf))
      (NfConntrackHash.get_put t h.ct)

/-- The headers and one sequence attribute, far less than the `NLMSG_DEFAULT_SIZE` of a new message. -/
def seqReplyLen : ℕ := nlMsgHdrLen + 16

/-- **A reply** to a filter carries what the lookup contributes. -/
theorem dumpTcpSeq_reply {b : Buf} (hdata : b.data = []) (hroom : seqReplyLen ≤ b.cap) :
    ∃ b' : Buf, b'.data = nlMsgBytes env.endian (env.replyHdr info) (seqAttrs env info flt t) ∧
      dumpConntrackTcpSeq env info flt (some b) t =
        if env.genlmsgUnicast info.net info.sndPortid b' ≠ 0 then
          ⟨env.genlmsgUnicast info.net info.sndPortid b', t, none⟩
        else ⟨0, t, some b'⟩ := by
  have hfree : b.room = b.cap := by
    rw [Buf.room, hdata]
    rfl
  have hlen : nlMsgHdrLen ≤ b.room := by
    rw [hfree]
    exact (Nat.le_add_right nlMsgHdrLen 16).trans hroom
  have hfits : fittingAttrs (seqAttrs env info flt t) (b.room - nlMsgHdrLen) = seqAttrs env info flt t := by
    refine fittingAttrs_of_le (attrsSize_seqAttrs.trans ?_)
    rw [hfree]
    rw [seqReplyLen] at hroom
    omega
  obtain ⟨b', hmsg, happ⟩ := (@emits_nlMsg _ _ (env.replyHdr info) _ _ _ _ _
    (@emits_looup env info flt t) b).1 _ hlen (congrArg some hfits)
  have hbytes : b'.data = nlMsgBytes env.endian (env.replyHdr info) (seqAttrs env info flt t) := by
    rw [happ.1, hdata, List.nil_append]
  have hpos : ¬ (b'.data.length : ℤ) ≤ 0 := by
    rw [hbytes, length_nlMsgBytes, nlMsgHdrLen]
    omega
  refine ⟨b', hbytes, ?_⟩
  rw [dumpConntrackTcpSeq, hmsg]
  exact if_neg hpos

theorem dumpTcpSeq_table (skb : Option Buf) : (dumpConntrackTcpSeq env info flt skb t).table = t := by
  cases skb with
  | none => rfl
  | some b =>
    obtain ⟨hfits, -, hshort⟩ := @emits_nlMsg _ _ (env.replyHdr info) _ _ _ _ _
      (@emits_looup env info flt t) b
    have hkept : ∃ len b', nlMsg env.endian (env.replyHdr info) (looupConntrackByFilter env info flt) t b =
        (len, t, b') := by
      by_cases hroom : nlMsgHdrLen ≤ b.room
      · obtain ⟨b', hmsg, -⟩ := hfits _ hroom rfl
        exact ⟨_, b', hmsg⟩
      · exact ⟨_, b, hshort (Nat.lt_of_not_le hroom)⟩
    obtain ⟨len, b', hmsg⟩ := hkept
    rw [dumpConntrackTcpSeq, hmsg]
    dsimp only
    split
    · rfl
    · split <;> rfl

/-- **No request changes the table**: a reference that is taken is dropped on every path. -/
theorem request_table (skb : Option Buf) (behind data : Bytes) :
    (vgwGenlRequest env info skb behind data t).table = t := by
  rw [vgwGenlRequest]
  split
  · rw [vgwGenlRxMsg]
    split
    · rfl
    · exact dumpTcpSeq_table skb
  · rfl

/-- A request with one filter of the struct's size is answered for the struct it holds. -/
theorem request_filter (skb : Option Buf) (behind : Bytes) {mem : Bytes} (hlen : mem.length = 24) :
    vgwGenlRequest env info skb behind (attrsBytes env.endian [⟨vgwNlCtAttrFilter, mem⟩]) t =
      dumpConntrackTcpSeq env info (TcpSeqFilter.ofMem env.endian (mem ++ behind)) skb t := by
  have hfits : ∀ a ∈ [(⟨vgwNlCtAttrFilter, mem⟩ : Attr)], a.Fits := by
    intro a ha
    obtain rfl := List.mem_singleton.mp ha
    show attrHdrLen + mem.length < 65536
    rw [hlen, attrHdrLen]
    omega
  have hkind : (⟨vgwNlCtAttrFilter, mem⟩ : Attr).kind = vgwNlCtAttrFilter := by
    show vgwNlCtAttrFilter &&& typeMask = vgwNlCtAttrFilter
    decide
  have hpolicy : [(⟨vgwNlCtAttrFilter, mem⟩ : Attr)].all vgwGenlPolicy = true := by
    simp [vgwGenlPolicy, hlen]
  have htable : nlaTable vgwNlCtAttrMax [⟨vgwNlCtAttrFilter, mem⟩] vgwNlCtAttrFilter =
      some ⟨vgwNlCtAttrFilter, mem⟩ :=
    @nlaTable_last vgwNlCtAttrMax vgwNlCtAttrFilter [] [] _ (by decide) hkind fun a ha => by cases ha
  rw [vgwGenlRequest, scanAttrs_attrsBytes _ _ hfits]
  rw [if_pos hpolicy, vgwGenlRxMsg, htable]

end Reply

end VgwDriver
