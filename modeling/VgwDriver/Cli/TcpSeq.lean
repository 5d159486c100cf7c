import VgwDriver.Cli.Reset
import VgwDriver.Netlink.SeqLookup

/-!
# Asking for the sequence numbers of one connection

`GetTcpSeq` asks the kernel module for the last sequence and acknowledgement numbers of the conntrack that
`GetTcpInfoFromConntrack` chose from a dump.  The addresses and ports it starts from are the original tuple
reversed, the addresses as bytes, and the identifier as it was read in network order.

* `TcpSeqFilter.ofMem_marshal` — the kernel reads the struct that the CLI lays out;
* `seqFilter_denotes` — **the filter denotes the conntrack's** original tuple, protocol, zone and identifier;
* `seqFilter_answered` — **what is answered**: the conntrack's numbers while it is in the table, and nothing
  where its tuple is another one's.
-/

namespace VgwDriver

open Base

/-! ### The command -/

def fltAttrFilter : UInt16 := 1
def fltAttrTcpSeq : UInt16 := 2

/-- How `GetTcpSeq` can fail: a slice is too short, or `Execute` returns an error. -/
inductive SeqError (ε : Type) where
  | panic
  | execute (err : ε)
  deriving DecidableEq, Repr

/-- `TcpSeqFilter.Marshal`. -/
def TcpSeqFilter.marshal (e : Endian) (f : TcpSeqFilter) : Bytes :=
  put32 e f.id ++ (put32 e f.zone ++ (put32 e f.srcIp ++ (put32 e f.dstIp ++ (put16 e f.srcPort ++
    (put16 e f.dstPort ++ [f.protocol, f.dummy.1, f.dummy.2.1, f.dummy.2.2])))))

section Command

variable {ε : Type} (e : Endian)

/-- `Ipv4ToUint32`. -/
def ipv4ToUint32 (addr : Bytes) : Except (SeqError ε) UInt32 :=
  if addr.length < 4 then .error .panic else .ok (get32 .big (addr.take 4))

/-- `TcpSeq.UnMarshal`. -/
def TcpSeq.unmarshal (b : Bytes) : Except (SeqError ε) TcpSeq :=
  if b.length < 12 then .error .panic else .ok ⟨u32At e b 0, u32At e b 4, u32At e b 8⟩

/-- The variable `flt` of `GetTcpSeq`. -/
def seqFilter (zone : UInt32) (tcpinfo : TcpInfo) : Except (SeqError ε) TcpSeqFilter := do
  let dstIp ← ipv4ToUint32 tcpinfo.srcIp
  let srcIp ← ipv4ToUint32 tcpinfo.dstIp
  pure
    { id := tcpinfo.id
      zone := zone
      srcIp := srcIp
      dstIp := dstIp
      srcPort := tcpinfo.dstPort
      dstPort := tcpinfo.srcPort
      protocol := ipprotoTcp
      dummy := (0, 0, 0) }

/-- The body of the inner loop of `UnpackMessage`. -/
def unpackAttr (tcpseq : List TcpSeq) (a : Attr) : Except (SeqError ε) (List TcpSeq) :=
  if a.kind = fltAttrTcpSeq then do
    let res ← TcpSeq.unmarshal e a.payload
    pure (tcpseq ++ [res])
  else pure tcpseq

/-- `UnpackMessage`, for the attributes of each message.  An error that ends a decoder's iteration is not
looked at. -/
def unpackMessage (msgs : List Bytes) : Except (SeqError ε) (List TcpSeq) :=
  msgs.foldlM (fun tcpseq data =>
    match newAttributeDecoder e data with
    | .error _ => pure tcpseq
    | .ok ad => ad.attrs.foldlM (unpackAttr e) tcpseq) []

/-- `GetTcpSeq`; `execute` is what `Execute` makes of the request's attributes: the attributes of each
message of the answer. -/
def getTcpSeq (execute : Bytes → Except ε (List Bytes)) (zone : UInt32) (tcpinfo : TcpInfo) :
    Except (SeqError ε) (List TcpSeq) := do
  let flt ← seqFilter zone tcpinfo
  match execute (attrsBytes e [⟨fltAttrFilter, flt.marshal e⟩]) with
  | .error err => .error (.execute err)
  | .ok retMsg => unpackMessage e retMsg

end Command

/-! ### One exchange -/

/-- The attributes of the request. -/
def TcpSeqFilter.request (e : Endian) (flt : TcpSeqFilter) : Bytes :=
  attrsBytes e [⟨fltAttrFilter, flt.marshal e⟩]

/-- What is around one call of `GetTcpSeq`: the kernel, the sender, the memory of the reply, what follows the
filter's attribute in the request, the table at the time of the lookup, and the library. -/
structure SeqExchange (ε : Type) where
  env : SeqEnv
  info : GenlInfo
  skb : Option Buf
  behind : Bytes
  table : NfConntrackHash
  execute : Bytes → Except ε (List Bytes)

/-- What the kernel makes of the request with the attributes `data`. -/
def SeqExchange.request {ε : Type} (x : SeqExchange ε) (data : Bytes) : GenlResult :=
  vgwGenlRequest x.env x.info x.skb x.behind data x.table

/-- What is assumed of the kernel and of the library, on the host and in the namespace of the dump that made
the message `c`. -/
structure SeqExchange.Assumed {ε : Type} (x : SeqExchange ε) (c : FillCall) : Prop where
  endian : x.env.endian = c.env.endian
  net : x.info.net = c.ct.net
  finds : x.env.find.Finds x.table
  roomy : ∀ b, x.skb = some b → b.data = [] ∧ seqReplyLen ≤ b.cap
  carries : ∀ data r, (x.request data).reply = some r → x.execute data = .ok [r.data.drop nlMsgHdrLen]

/-- The filter, as the kernel reads it, denotes the original tuple of `ct`, its protocol, the zone that the
tuple is in, and the identifier `id`. -/
structure TcpSeqFilter.Denotes (flt : TcpSeqFilter) (e : Endian) (ct : NfConn) (id : UInt32) : Prop where
  tuple : flt.tuple e = ct.tupleOrig
  protocol : flt.protocol = ipprotoTcp
  zone : flt.ctZone = ⟨nfCtZoneId ct.zone .original, 0, nfCtZoneDirOrig⟩
  id : flt.id = id

/-- The conntrack that was `ct` is still in the table at `p`. -/
structure NfConntrackHash.Keeps (t : NfConntrackHash) (p : CtPtr) (ct : NfConn) : Prop where
  listed : ⟨p, .original⟩ ∈ t.chains.flatten
  tuple : (t.heap p).tupleOrig = ct.tupleOrig
  zone : (t.heap p).zone = ct.zone
  net : (t.heap p).net = ct.net

section Answers

variable {ε : Type} (x : SeqExchange ε) (c : FillCall) (zone : UInt32) (t : TcpInfo) (flt : TcpSeqFilter)

/-- The request with `flt` is answered with the structs `l`: a reply, which there is if it gets memory and a
receiver, carries one attribute for each of them and no other, and `GetTcpSeq` returns them. -/
structure SeqExchange.Replies (l : List TcpSeq) : Prop where
  sent : x.skb.isSome → (∀ b, x.env.genlmsgUnicast x.info.net x.info.sndPortid b = 0) →
    ∃ r, (x.request (flt.request x.env.endian)).reply = some r
  carried : ∀ r, (x.request (flt.request x.env.endian)).reply = some r →
    r.data = nlMsgBytes x.env.endian (x.env.replyHdr x.info) (l.map (tcpSeqAttr x.env.endian))
  returned : ∀ r, (x.request (flt.request x.env.endian)).reply = some r →
    getTcpSeq x.env.endian x.execute zone t = .ok l

/-- `GetTcpSeq` sends `flt` for the choice `t`, it denotes the conntrack of the message `c`, and it is answered
for that conntrack: with its numbers if it is still in the table, and with nothing if its tuple is filed for a
conntrack of another identifier, or for none of its own. -/
structure SeqExchange.Answers : Prop where
  marshalled : (seqFilter zone t : Except (SeqError ε) TcpSeqFilter) = .ok flt
  denotes : (TcpSeqFilter.ofMem x.env.endian (flt.marshal x.env.endian ++ x.behind)).Denotes x.env.endian
    c.ct (c.env.ctId c.p)
  present : x.table.Keeps c.p c.ct → x.env.nfCtGetId c.p = c.env.nfCtGetId c.p →
    x.Replies zone t flt
      [⟨c.env.ctId c.p, (x.table.heap c.p).tcp.lastSeq, (x.table.heap c.p).tcp.lastAck⟩]
  taken : ∀ h ∈ x.table.chains.flatten, x.table.KeyEqual h x.info.net flt.ctZone c.ct.tupleOrig →
    nfCtZoneId (x.table.heap h.ct).zone h.dir = nfCtZoneId flt.ctZone .original →
    ntohl x.env.endian (x.env.nfCtGetId h.ct) ≠ c.env.ctId c.p → x.Replies zone t flt []
  gone : (∀ h ∈ x.table.chains.flatten, x.table.KeyEqual h x.info.net flt.ctZone c.ct.tupleOrig →
    ntohl x.env.endian (x.env.nfCtGetId h.ct) ≠ c.env.ctId c.p) → x.Replies zone t flt []

end Answers

/-! ### The request -/

@[simp] theorem TcpSeqFilter.length_marshal (e : Endian) (f : TcpSeqFilter) : (f.marshal e).length = 24 := by
  simp [marshal]

/-- **The kernel's struct is the CLI's.** -/
theorem TcpSeqFilter.ofMem_marshal (e : Endian) (f : TcpSeqFilter) (behind : Bytes) :
    ofMem e (f.marshal e ++ behind) = f := by
  simp [ofMem, marshal, u32At, u16At]

/-- The filter for the conntrack `ct`. -/
def NfConn.seqFilter (ct : NfConn) (id zone : UInt32) : TcpSeqFilter where
  id := id
  zone := zone
  srcIp := ct.tupleOrig.src.u3.ip
  dstIp := ct.tupleOrig.dst.u3.ip
  srcPort := ct.tupleOrig.src.u
  dstPort := ct.tupleOrig.dst.u
  protocol := ipprotoTcp
  dummy := (0, 0, 0)

theorem ipv4ToUint32_put32 {ε : Type} (ip : UInt32) :
    (ipv4ToUint32 (put32 .big ip) : Except (SeqError ε) UInt32) = .ok ip := by
  rw [ipv4ToUint32, if_neg (by simp), List.take_of_length_le (by simp), get32_put32]

/-- **The reversal is undone**: the filter made of what was read from a flow names the original tuple. -/
theorem seqFilter_flow {c : FillCall} (hports : c.env.PortTuples) (hct : c.ct.TcpV4) {b : Buf} {msg : Bytes}
    (hmsg : c.message b = some msg) {flow : Flow} (hflow : unmarshalFlow c.env.endian msg = .ok flow)
    {sport dport : UInt16} {t : TcpInfo} (ht : flow.tcpInfo sport dport = some t) (zone : UInt32) {ε : Type} :
    (seqFilter zone t : Except (SeqError ε) TcpSeqFilter) = .ok (c.ct.seqFilter (c.env.ctId c.p) zone) := by
  obtain ⟨hip, hproto⟩ := flow_tupleOrig hports hct hmsg hflow
  obtain ⟨tcp, seqTrk, -, -, rfl⟩ := Flow.tcpInfo_some ht
  rw [seqFilter]
  dsimp only
  rw [hip, hproto, flow_id hmsg hflow, NfConntrackTuple.ipTuple]
  dsimp only
  rw [ipv4ToUint32_put32, ok_bind, ipv4ToUint32_put32, ok_bind]
  rfl

/-- **What the kernel reads** denotes the conntrack. -/
theorem seqFilter_denotes (e : Endian) {ct : NfConn} (hct : ct.TcpV4)
    (hinet : ct.tupleOrig.Inet nfprotoIpv4 IpConntrackDir.original.code) {zone : UInt32}
    (hzone : nfCtZoneId ct.zone .original = zone.toUInt16) (id : UInt32) :
    (ct.seqFilter id zone).Denotes e ct id where
  tuple := by
    have hsrc : ct.tupleOrig.src.u3 = .ofIp ct.tupleOrig.src.u3.ip := hinet.src hinet.l3num
    have hdst : ct.tupleOrig.dst.u3 = .ofIp ct.tupleOrig.dst.u3.ip := hinet.dst hinet.l3num
    have hproto : ct.tupleOrig.dst.protonum = ipprotoTcp := hct.2
    have hl3num := hinet.l3num
    have hdir := hinet.dir
    rw [TcpSeqFilter.tuple, NfConn.seqFilter]
    dsimp only
    rw [ntohl_htonl, ntohl_htonl, ntohs_htons, ntohs_htons, ← hsrc, ← hdst, ← hproto, ← hl3num, ← hdir]
  protocol := rfl
  zone := by
    rw [hzone]
    rfl
  id := rfl

/-! ### The answer -/

theorem tcpSeq_unmarshal {ε : Type} (e : Endian) (s : TcpSeq) :
    (TcpSeq.unmarshal e (tcpSeqAttr e s).payload : Except (SeqError ε) TcpSeq) = .ok s := by
  rw [TcpSeq.unmarshal, if_neg (by simp [tcpSeqAttr])]
  simp [tcpSeqAttr, u32At, List.take_of_length_le]

/-- The loop over sequence attributes collects their structs. -/
theorem foldlM_unpackAttr {ε : Type} (e : Endian) (l : List TcpSeq) : ∀ tcpseq : List TcpSeq,
    ((l.map (tcpSeqAttr e)).foldlM (unpackAttr e) tcpseq : Except (SeqError ε) (List TcpSeq)) =
      .ok (tcpseq ++ l) := by
  induction l with
  | nil =>
    intro tcpseq
    rw [List.append_nil]
    rfl
  | cons s l ih =>
    intro tcpseq
    have hkind : (tcpSeqAttr e s).kind = fltAttrTcpSeq := by
      show vgwNlCtAttrTcpSeq &&& typeMask = fltAttrTcpSeq
      decide
    have hstep : (unpackAttr e tcpseq (tcpSeqAttr e s) : Except (SeqError ε) (List TcpSeq)) =
        .ok (tcpseq ++ [s]) := by
      rw [unpackAttr, if_pos hkind, tcpSeq_unmarshal]
      rfl
    rw [List.map_cons, List.foldlM_cons, hstep, ok_bind, ih, List.append_assoc, List.singleton_append]

/-- **A message of sequence attributes** is unpacked to their structs. -/
theorem unpackMessage_seqs {ε : Type} (e : Endian) (l : List TcpSeq) :
    (unpackMessage e [attrsBytes e (l.map (tcpSeqAttr e))] : Except (SeqError ε) (List TcpSeq)) = .ok l := by
  have hfits : ∀ a ∈ l.map (tcpSeqAttr e), a.Fits := by
    intro a ha
    obtain ⟨s, -, rfl⟩ := List.mem_map.mp ha
    show (tcpSeqAttr e s).len < 65536
    simp [tcpSeqAttr, Attr.len, attrHdrLen]
  rw [unpackMessage, List.foldlM_cons, newAttributeDecoder_attrsBytes e hfits]
  dsimp only
  rw [foldlM_unpackAttr, ok_bind, List.nil_append]
  rfl

section Answer

variable {ε : Type} {x : SeqExchange ε} {c : FillCall} {zone : UInt32} {t : TcpInfo} {flt : TcpSeqFilter}

/-- The kernel's answer is the one to the filter itself. -/
theorem SeqExchange.request_marshal (x : SeqExchange ε) (flt : TcpSeqFilter) :
    x.request (flt.request x.env.endian) = dumpConntrackTcpSeq x.env x.info flt x.skb x.table := by
  have h := @request_filter x.env x.info x.table x.skb x.behind _ (flt.length_marshal x.env.endian)
  rw [TcpSeqFilter.ofMem_marshal] at h
  exact h

/-- **The exchange returns what the lookup contributes.** -/
theorem SeqExchange.Assumed.replies (hx : x.Assumed c)
    (hflt : (seqFilter zone t : Except (SeqError ε) TcpSeqFilter) = .ok flt) {l : List TcpSeq}
    (hattrs : seqAttrs x.env x.info flt x.table = l.map (tcpSeqAttr x.env.endian)) :
    x.Replies zone t flt l := by
  have hcarried : ∀ r, (x.request (flt.request x.env.endian)).reply = some r →
      r.data = nlMsgBytes x.env.endian (x.env.replyHdr x.info) (l.map (tcpSeqAttr x.env.endian)) := by
    intro r hr
    rw [x.request_marshal] at hr
    cases hskb : x.skb with
    | none =>
      rw [hskb] at hr
      cases hr
    | some b =>
      obtain ⟨hdata, hroom⟩ := hx.roomy b hskb
      obtain ⟨b', hbytes, hdump⟩ := @dumpTcpSeq_reply x.env x.info flt x.table b hdata hroom
      rw [hskb, hdump] at hr
      split at hr
      · cases hr
      · obtain rfl : b' = r := Option.some.inj hr
        rw [hbytes, hattrs]
  refine ⟨?_, hcarried, ?_⟩
  · intro hsome hunicast
    obtain ⟨b, hskb⟩ := Option.isSome_iff_exists.mp hsome
    obtain ⟨hdata, hroom⟩ := hx.roomy b hskb
    obtain ⟨b', -, hdump⟩ := @dumpTcpSeq_reply x.env x.info flt x.table b hdata hroom
    rw [x.request_marshal, hskb, hdump, if_neg (not_not.mpr (hunicast b'))]
    exact ⟨b', rfl⟩
  · intro r hr
    have hexecute := hx.carries _ r hr
    rw [hcarried r hr, drop_nlMsgBytes, TcpSeqFilter.request] at hexecute
    rw [getTcpSeq, hflt, ok_bind, hexecute]
    exact unpackMessage_seqs _ l

/-- The node of a conntrack that is still in the table has the key of its filter. -/
theorem NfConntrackHash.Keeps.keyEqual {table : NfConntrackHash} {p : CtPtr} {ct : NfConn}
    (h : table.Keeps p ct) {e : Endian} {id : UInt32} (hflt : flt.Denotes e ct id) :
    table.KeyEqual ⟨p, .original⟩ ct.net flt.ctZone ct.tupleOrig ∧
      nfCtZoneId (table.heap p).zone .original = nfCtZoneId flt.ctZone .original := by
  have hzone : nfCtZoneId (table.heap p).zone .original = nfCtZoneId flt.ctZone .original := by
    have hbit : nfCtZoneDirOrig &&& IpConntrackDir.original.zoneBit ≠ 0 := by decide
    rw [h.zone, hflt.zone]
    exact (if_pos hbit).symm
  refine ⟨⟨?_, hzone, h.net⟩, hzone⟩
  show nfCtTupleEqual ct.tupleOrig (table.heap p).tupleOrig
  rw [h.tuple]
  exact ⟨rfl, rfl, rfl, rfl⟩

/-- **Whose numbers are answered**: the filter of a conntrack is answered with its numbers while it is in the
table, and with none for other conntracks under its tuple. -/
theorem SeqExchange.Assumed.answers (hx : x.Assumed c)
    (hflt : (seqFilter zone t : Except (SeqError ε) TcpSeqFilter) = .ok flt)
    (hdenotes : flt.Denotes x.env.endian c.ct (c.env.ctId c.p)) : x.Answers c zone t flt where
  marshalled := hflt
  denotes := by
    rw [TcpSeqFilter.ofMem_marshal]
    exact hdenotes
  present := by
    intro hkeeps hid
    obtain ⟨hkey, hfiled⟩ := hkeeps.keyEqual hdenotes
    have hfind := hx.finds.filed _ _ _ _ hkeeps.listed hkey hfiled
    rw [← hx.net, ← hdenotes.tuple] at hfind
    have hsame : ntohl x.env.endian (x.env.nfCtGetId c.p) = c.env.ctId c.p := by
      rw [hid, hx.endian]
      rfl
    apply hx.replies hflt
    rw [seqAttrs_found hfind, hsame, if_neg (not_not.mpr hdenotes.id)]
    rfl
  taken := by
    intro h hmem hkey hfiled hother
    have hfind := hx.finds.filed _ _ _ _ hmem hkey hfiled
    rw [← hdenotes.tuple] at hfind
    apply hx.replies hflt
    rw [seqAttrs_found hfind, if_pos (by rw [hdenotes.id]; exact hother.symm)]
    rfl
  gone := by
    intro hnone
    apply hx.replies hflt
    refine seqAttrs_eq_nil fun h hfind => ?_
    rw [hdenotes.tuple] at hfind
    obtain ⟨hmem, hkey⟩ := hx.finds.found _ _ _ h hfind
    rw [hdenotes.id]
    exact (hnone h hmem hkey).symm

end Answer

/-- **The command asks for the conntrack it read**, in every zone: the filter that `GetTcpSeq` sends for a
dumped IPv4 TCP conntrack denotes it, and is answered for it only. -/
theorem seqFilter_answered {c : FillCall} (hports : c.env.PortTuples) (hct : c.ct.TcpV4)
    (hinet : c.ct.tupleOrig.Inet nfprotoIpv4 IpConntrackDir.original.code) {b : Buf} {msg : Bytes}
    (hmsg : c.message b = some msg) {flow : Flow} (hflow : unmarshalFlow c.env.endian msg = .ok flow)
    {sport dport : UInt16} {t : TcpInfo} (ht : flow.tcpInfo sport dport = some t) {zone : UInt32}
    (hzone : nfCtZoneId c.ct.zone .original = zone.toUInt16) {ε : Type} {x : SeqExchange ε}
    (hx : x.Assumed c) : ∃ flt, x.Answers c zone t flt :=
  ⟨_, hx.answers (seqFilter_flow hports hct hmsg hflow ht zone)
    (seqFilter_denotes x.env.endian hct hinet hzone (c.env.ctId c.p))⟩

/-! ### One connection -/

/-- A lookup: the first node of the key. -/
def sampleSeqFind : NfConntrackFind := fun t net zone tuple =>
  t.chains.flatten.find? fun h => t.KeyEqual h net zone tuple

def sampleSeqEnv : SeqEnv where
  endian := .little
  nfCtGetId := sampleNlEnv.nfCtGetId
  find := sampleSeqFind
  familyId := 24
  genlmsgUnicast := fun _ _ _ => 0

/-- The connection at 0, some segments after it was dumped. -/
def sampleSeqTable : NfConntrackHash where
  chains := [[⟨0, .original⟩]]
  heap := fun _ => sampleConn (sampleTcp .established 1500 2600 1503)
  nodup := by decide

/-- A library that hands on the attributes of the kernel's reply. -/
def sampleExchange : SeqExchange Unit where
  env := sampleSeqEnv
  info := ⟨0, 1, 1⟩
  skb := some (Buf.empty 4096 page_lt)
  behind := []
  table := sampleSeqTable
  execute := fun data =>
    match (vgwGenlRequest sampleSeqEnv ⟨0, 1, 1⟩ (some (Buf.empty 4096 page_lt)) [] data
      sampleSeqTable).reply with
    | some r => .ok [r.data.drop nlMsgHdrLen]
    | none => .error ()

theorem sampleSeqFind_finds : sampleSeqFind.Finds sampleSeqTable where
  found := by
    intro net zone tuple h hfind
    rw [sampleSeqFind] at hfind
    have hkey := List.find?_some hfind
    exact ⟨List.mem_of_find?_eq_some hfind, of_decide_eq_true hkey⟩
  filed := by
    intro net zone tuple h hmem hkey _
    obtain rfl := List.mem_singleton.mp hmem
    exact List.find?_cons_of_pos (decide_eq_true hkey)

theorem sampleExchange_assumed {c : FillCall} (hendian : c.env.endian = .little) (hnet : c.ct.net = 0) :
    sampleExchange.Assumed c where
  endian := hendian.symm
  net := hnet.symm
  finds := sampleSeqFind_finds
  roomy := by
    intro b hb
    obtain rfl := Option.some.inj hb
    exact ⟨rfl, by decide⟩
  carries := by
    intro data r hr
    show (match (sampleExchange.request data).reply with
      | some r => Except.ok [r.data.drop nlMsgHdrLen]
      | none => .error ()) = _
    rw [hr]

/-- The numbers that the connection has meanwhile are asked for and answered. -/
theorem seqFilter_answered_sample : ∃ t,
    getTcpInfoFromConntrack .little (sampleQuery (sampleConn (sampleTcp .established 1000 2000 1003))) 100 0 0
      = .ok (some t) ∧
    getTcpSeq .little sampleExchange.execute 100 t = .ok [⟨sampleNlEnv.ctId 0, 1500, 2600⟩] := by
  have hshown : ShownFirst sampleNlEnv _ (UInt32.toUInt16 100) 0 0 0
      (sampleConn (sampleTcp .established 1000 2000 1003)) := shownFirst_sample (by decide +kernel)
  obtain ⟨req, filter, skb, msg, flow, t, -, hmsg, hflow, ht, hread⟩ := hshown.taken
  have hzone : nfCtZoneId (sampleConn (sampleTcp .established 1000 2000 1003)).zone .original =
      UInt32.toUInt16 100 := by decide
  obtain ⟨flt, hanswers⟩ := @seqFilter_answered
    (req.fillCall sampleNlEnv 0 (sampleConn (sampleTcp .established 1000 2000 1003))) sampleNlEnv_ports
    ⟨rfl, rfl⟩ (sampleConn_inetKeys _).orig _ _ hmsg _ hflow _ _ t ht 100 hzone Unit sampleExchange
    (sampleExchange_assumed rfl rfl)
  have hkeeps : sampleSeqTable.Keeps 0 (sampleConn (sampleTcp .established 1000 2000 1003)) :=
    ⟨List.mem_singleton.mpr rfl, rfl, rfl, rfl⟩
  have hreplies := hanswers.present hkeeps rfl
  obtain ⟨r, hr⟩ := hreplies.sent rfl fun _ => rfl
  exact ⟨t, hread, hreplies.returned r hr⟩

end VgwDriver
