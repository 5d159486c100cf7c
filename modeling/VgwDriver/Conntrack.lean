import VgwDriver.Base.Tlv
import VgwDriver.Packet

/-!
# Conntracks

The kernel's connection tracking records as the module reads and writes them: `struct nf_conn` with its
two tuples, its zone, its TCP state and its extensions.  Addresses, ports and everything else the kernel
keeps in network byte order is held here as the number it denotes, so byte order appears only where bytes
are written or read.

* `NfConn` — the record;
* `nfCtZoneId` — the zone id a conntrack shows in one direction;
* `CtHeap` — all of them, with the reference counts; `CtHeap.modify` changes one record.
-/

namespace VgwDriver

open Base

/-- A `struct net *`. -/
abbrev NetPtr := ℕ

/-! ### Tuples and zones -/

/-- `enum ip_conntrack_dir`. -/
inductive IpConntrackDir where
  | original
  | reply
  deriving DecidableEq, Repr

/-- `union nf_inet_addr`: four words, each the number its bytes denote in network order. -/
structure NfInetAddr where
  all0 : UInt32
  all1 : UInt32
  all2 : UInt32
  all3 : UInt32
  deriving DecidableEq, Repr

/-- The union's `ip` member. -/
def NfInetAddr.ip (a : NfInetAddr) : UInt32 := a.all0

/-- The union's `in6` member, as bytes. -/
def NfInetAddr.in6 (a : NfInetAddr) : Bytes :=
  put32 .big a.all0 ++ put32 .big a.all1 ++ put32 .big a.all2 ++ put32 .big a.all3

@[simp] theorem NfInetAddr.length_in6 (a : NfInetAddr) : a.in6.length = 16 := by
  simp [NfInetAddr.in6]

/-- An IPv4 address in the union, the other words zero. -/
def NfInetAddr.ofIp (ip : UInt32) : NfInetAddr := ⟨ip, 0, 0, 0⟩

/-- The `src` part of a tuple, `struct nf_conntrack_man`. -/
structure TupleSrc where
  u3 : NfInetAddr
  /-- port, ICMP id or GRE key -/
  u : UInt16
  l3num : UInt16
  deriving DecidableEq, Repr

/-- The `dst` part of a tuple. -/
structure TupleDst where
  u3 : NfInetAddr
  /-- port, GRE key, or ICMP type and code -/
  u : UInt16
  protonum : UInt8
  dir : UInt8
  deriving DecidableEq, Repr

/-- `struct nf_conntrack_tuple`. -/
structure NfConntrackTuple where
  src : TupleSrc
  dst : TupleDst
  deriving DecidableEq, Repr

/-- The tuple of all zero bytes. -/
def NfConntrackTuple.zero : NfConntrackTuple := ⟨⟨⟨0, 0, 0, 0⟩, 0, 0⟩, ⟨⟨0, 0, 0, 0⟩, 0, 0, 0⟩⟩

def nfprotoIpv4 : UInt8 := 2
def nfprotoIpv6 : UInt8 := 10

/-- `struct nf_conntrack_zone`. -/
structure NfConntrackZone where
  id : UInt16
  flags : UInt8
  dir : UInt8
  deriving DecidableEq, Repr

def nfCtDefaultZoneId : UInt16 := 0
def nfCtZoneDirOrig : UInt8 := 1
def nfCtZoneDirRepl : UInt8 := 2
def nfCtDefaultZoneDir : UInt8 := nfCtZoneDirOrig ||| nfCtZoneDirRepl

/-- `1 << dir`. -/
def IpConntrackDir.zoneBit : IpConntrackDir → UInt8
  | .original => nfCtZoneDirOrig
  | .reply => nfCtZoneDirRepl

/-- `nf_ct_zone_id`: the zone's id where the zone applies, the default id elsewhere. -/
def nfCtZoneId (zone : NfConntrackZone) (dir : IpConntrackDir) : UInt16 :=
  if zone.dir &&& dir.zoneBit ≠ 0 then zone.id else nfCtDefaultZoneId

/-! ### TCP state -/

/-- `enum tcp_conntrack`, as far as a conntrack's state can be. -/
inductive TcpConntrack where
  | none
  | synSent
  | synRecv
  | established
  | finWait
  | closeWait
  | lastAck
  | timeWait
  | close
  | synSent2
  deriving DecidableEq, Repr

/-- The constant's value. -/
def TcpConntrack.code : TcpConntrack → UInt8
  | .none => 0
  | .synSent => 1
  | .synRecv => 2
  | .established => 3
  | .finWait => 4
  | .closeWait => 5
  | .lastAck => 6
  | .timeWait => 7
  | .close => 8
  | .synSent2 => 9

/-- The C comparison `s < TCP_CONNTRACK_ESTABLISHED`. -/
def TcpConntrack.ltEstablished (s : TcpConntrack) : Bool := s.code < TcpConntrack.established.code

/-- `struct ip_ct_tcp_state`, one direction's window. -/
structure IpCtTcpState where
  tdEnd : UInt32
  tdMaxend : UInt32
  tdMaxwin : UInt32
  tdMaxack : UInt32
  tdScale : UInt8
  flags : UInt8
  deriving DecidableEq, Repr

/-- `struct ip_ct_tcp`. -/
structure IpCtTcp where
  seen0 : IpCtTcpState
  seen1 : IpCtTcpState
  state : TcpConntrack
  lastDir : UInt8
  retrans : UInt8
  lastIndex : UInt8
  lastSeq : UInt32
  lastAck : UInt32
  lastEnd : UInt32
  lastWin : UInt16
  lastWscale : UInt8
  lastFlags : UInt8
  deriving DecidableEq, Repr

/-! ### Extensions -/

/-- `struct nf_conn_counter`. -/
structure NfConnCounter where
  packets : UInt64
  bytes : UInt64
  deriving DecidableEq, Repr

/-- `struct nf_conn_acct`: one counter a direction. -/
structure NfConnAcct where
  orig : NfConnCounter
  reply : NfConnCounter
  deriving DecidableEq, Repr

/-- `struct nf_conn_tstamp`. -/
structure NfConnTstamp where
  start : UInt64
  stop : UInt64
  deriving DecidableEq, Repr

/-- `struct nf_conntrack_helper`: its name, and what its `to_nlattr` callback would write. -/
structure NfConntrackHelper where
  name : Bytes
  toNlattr : List Attr
  deriving DecidableEq, Repr

/-- `struct nf_conn_labels`, as the two words of its bit map. -/
structure NfConnLabels where
  bits0 : UInt64
  bits1 : UInt64
  deriving DecidableEq, Repr

/-- `struct nf_ct_seqadj`. -/
structure NfCtSeqadj where
  correctionPos : UInt32
  offsetBefore : UInt32
  offsetAfter : UInt32
  deriving DecidableEq, Repr

/-- `struct nf_conn_synproxy`. -/
structure NfConnSynproxy where
  isn : UInt32
  its : UInt32
  tsoff : UInt32
  deriving DecidableEq, Repr

/-! ### The record -/

/-- `struct nf_conn`.  A missing extension is `none`; `help` is `some none` when the extension is there
without a helper; `masterTuple` is the original tuple of `ct->master`. -/
structure NfConn where
  net : NetPtr
  tupleOrig : NfConntrackTuple
  tupleReply : NfConntrackTuple
  zone : NfConntrackZone
  status : UInt32
  mark : UInt32
  secmark : UInt32
  timeout : UInt32
  use : ℕ
  masterTuple : NfConntrackTuple
  tcp : IpCtTcp
  acct : Option NfConnAcct
  tstamp : Option NfConnTstamp
  help : Option (Option NfConntrackHelper)
  labels : Option NfConnLabels
  seqadj : Option (NfCtSeqadj × NfCtSeqadj)
  synproxy : Option NfConnSynproxy
  deriving DecidableEq, Repr

/-- `nf_ct_tuple`. -/
def nfCtTuple (ct : NfConn) : IpConntrackDir → NfConntrackTuple
  | .original => ct.tupleOrig
  | .reply => ct.tupleReply

/-- `nf_ct_l3num`. -/
def nfCtL3num (ct : NfConn) : UInt16 := ct.tupleOrig.src.l3num

/-- `nf_ct_protonum`. -/
def nfCtProtonum (ct : NfConn) : UInt8 := ct.tupleOrig.dst.protonum

/-- `test_bit` on `ct->status`. -/
def NfConn.testStatus (ct : NfConn) (bit : ℕ) : Bool := ct.status.toNat.testBit bit

def ipsExpectedBit : ℕ := 0
def ipsConfirmedBit : ℕ := 3
def ipsSeqAdjustBit : ℕ := 6
def ipsDyingBit : ℕ := 9
def ipsOffloadBit : ℕ := 14

/-- `struct nf_conntrack_tuple_hash`, as the conntrack and the direction it leads to. -/
structure TupleHash where
  ct : CtPtr
  dir : IpConntrackDir
  deriving DecidableEq, Repr

/-! ### All records -/

/-- Every conntrack there is. -/
abbrev CtHeap := CtPtr → NfConn

/-- Change the record at `p`. -/
def CtHeap.modify (h : CtHeap) (p : CtPtr) (f : NfConn → NfConn) : CtHeap :=
  fun q => if q = p then f (h q) else h q

@[simp] theorem CtHeap.modify_self (h : CtHeap) (p : CtPtr) (f : NfConn → NfConn) :
    h.modify p f p = f (h p) := if_pos rfl

theorem CtHeap.modify_of_ne (h : CtHeap) {p q : CtPtr} (f : NfConn → NfConn) (hq : q ≠ p) :
    h.modify p f q = h q := if_neg hq

/-- Every record keeps a reflexive relation to what it was if the changed one does. -/
theorem CtHeap.modify_rel {R : NfConn → NfConn → Prop} (hrefl : ∀ c, R c c) {h : CtHeap} {p q : CtPtr}
    {f : NfConn → NfConn} (hf : R (h p) (f (h p))) : R (h q) (h.modify p f q) := by
  by_cases hq : q = p
  · rw [hq, CtHeap.modify_self]
    exact hf
  · rw [CtHeap.modify_of_ne h f hq]
    exact hrefl _

@[simp] theorem CtHeap.modify_modify (h : CtHeap) (p : CtPtr) (f g : NfConn → NfConn) :
    (h.modify p f).modify p g = h.modify p (fun c => g (f c)) := by
  funext q
  by_cases hq : q = p <;> simp [CtHeap.modify, hq]

/-- Take a reference. -/
def CtHeap.get (h : CtHeap) (p : CtPtr) : CtHeap := h.modify p fun c => { c with use := c.use + 1 }

/-- `nf_ct_put`: drop a reference. -/
def CtHeap.put (h : CtHeap) (p : CtPtr) : CtHeap := h.modify p fun c => { c with use := c.use - 1 }

theorem CtHeap.get_of_ne (h : CtHeap) {p q : CtPtr} (hq : q ≠ p) : h.get p q = h q :=
  CtHeap.modify_of_ne h _ hq

theorem CtHeap.put_of_ne (h : CtHeap) {p q : CtPtr} (hq : q ≠ p) : h.put p q = h q :=
  CtHeap.modify_of_ne h _ hq

theorem CtHeap.use_get (h : CtHeap) (p q : CtPtr) :
    (h.get p q).use = if q = p then (h q).use + 1 else (h q).use := by
  unfold CtHeap.get CtHeap.modify
  split <;> rfl

theorem CtHeap.use_put (h : CtHeap) (p q : CtPtr) :
    (h.put p q).use = if q = p then (h q).use - 1 else (h q).use := by
  unfold CtHeap.put CtHeap.modify
  split <;> rfl

@[simp] theorem CtHeap.get_acct (h : CtHeap) (p q : CtPtr) : (h.get p q).acct = (h q).acct :=
  CtHeap.modify_rel (R := fun c c' => c'.acct = c.acct) (fun _ => rfl) rfl

@[simp] theorem CtHeap.put_acct (h : CtHeap) (p q : CtPtr) : (h.put p q).acct = (h q).acct :=
  CtHeap.modify_rel (R := fun c c' => c'.acct = c.acct) (fun _ => rfl) rfl

/-! ### A conntrack to try things on -/

def sampleTuple (src dst : UInt32) (sport dport : UInt16) (dir : UInt8) : NfConntrackTuple :=
  ⟨⟨.ofIp src, sport, 2⟩, ⟨.ofIp dst, dport, 6, dir⟩⟩

def sampleTcp (state : TcpConntrack) (lastSeq lastAck lastEnd : UInt32) : IpCtTcp :=
  ⟨⟨0, 0, 0, 0, 0, 0⟩, ⟨0, 0, 0, 0, 0, 0⟩, state, 0, 0, 0, lastSeq, lastAck, lastEnd, 0, 0, 0⟩

/-- A confirmed TCP connection from 10.0.0.1:12345 to 10.0.0.2:80 in zone 100. -/
def sampleConn (tcp : IpCtTcp) : NfConn where
  net := 0
  tupleOrig := sampleTuple 0x0a000001 0x0a000002 12345 80 0
  tupleReply := sampleTuple 0x0a000002 0x0a000001 80 12345 1
  zone := ⟨100, 0, nfCtDefaultZoneDir⟩
  status := 8
  mark := 0
  secmark := 0
  timeout := 0
  use := 1
  masterTuple := NfConntrackTuple.zero
  tcp := tcp
  acct := none
  tstamp := none
  help := none
  labels := none
  seqadj := none
  synproxy := none

end VgwDriver
