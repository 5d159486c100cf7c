import Mathlib.Data.Int.Notation
import VgwDriver.Base.Bytes

/-!
# The packet as the tracker reads it

`struct sk_buff` as far as `tcp_track.c` looks at it, and the functions of that file that read headers:
`ipv4_get_l4proto`, `tcp_error` and `segment_seq_plus_len`.  The C code mixes `int`, `unsigned int` and
`size_t`; the conversions are written out (`s32`, `u32`, 64-bit words), not left to mathematical integers.

* `segmentSeqPlusLen_eq` — behind a successful header check the mixed arithmetic computes the segment's
  end: sequence number, payload length, one for SYN and one for FIN, modulo `2 ^ 32`;
* `segmentEnd_within` — how far a segment can reach, from the checks alone;
* `TcpSegment` — a segment as its receiver sees it, and `TcpSegment.endSeq`, that end.
-/

namespace VgwDriver

open Base

/-- A `struct nf_conn *`. -/
abbrev CtPtr := ℕ

/-- The value of an `unsigned int` read as an `int`. -/
def s32 (n : ℕ) : ℤ :=
  if n % 2 ^ 32 < 2 ^ 31 then ((n % 2 ^ 32 : ℕ) : ℤ) else ((n % 2 ^ 32 : ℕ) : ℤ) - 2 ^ 32

/-- The value of an `int` read as an `unsigned int`. -/
def u32 (i : ℤ) : ℕ := (i % 2 ^ 32).toNat

/-- `struct sk_buff`: the packet's bytes from `skb->data` on (`skb->len` of them), the network header's
offset in them, and `skb->_nfct`, a conntrack pointer with the `enum ip_conntrack_info` in its low bits. -/
structure SkBuff where
  data : Bytes
  networkOffset : ℕ
  nfct : Option CtPtr × UInt8
  len_lt : data.length < 2 ^ 32
  networkOffset_lt : networkOffset < 2 ^ 31

/-- `skb->len`. -/
def SkBuff.len (skb : SkBuff) : ℕ := skb.data.length

/-- `skb_header_pointer`: `n` bytes at `offset`, or nothing when the packet ends before them.  The
comparison is made on `int`. -/
def skbHeaderPointer (skb : SkBuff) (offset n : ℕ) : Option Bytes :=
  if (n : ℤ) ≤ s32 skb.len - s32 offset then some ((skb.data.drop offset).take n) else none

/-! ### Headers -/

/-- The fields of `struct iphdr` that are read. -/
structure Iphdr where
  ihl : ℕ
  fragOff : UInt16
  protocol : UInt8
  deriving DecidableEq, Repr

/-- `sizeof(struct iphdr)`. -/
def iphdrLen : ℕ := 20

def Iphdr.ofBytes (b : Bytes) : Iphdr where
  ihl := (b.getD 0 0).toNat % 16
  fragOff := get16 .big ((b.drop 6).take 2)
  protocol := b.getD 9 0

/-- The fields of `struct tcphdr` that are read. -/
structure Tcphdr where
  seq : UInt32
  ackSeq : UInt32
  doff : ℕ
  fin : Bool
  syn : Bool
  rst : Bool
  ack : Bool
  deriving DecidableEq, Repr

/-- `sizeof(struct tcphdr)`. -/
def tcphdrLen : ℕ := 20

def Tcphdr.ofBytes (b : Bytes) : Tcphdr where
  seq := get32 .big ((b.drop 4).take 4)
  ackSeq := get32 .big ((b.drop 8).take 4)
  doff := (b.getD 12 0).toNat / 16
  fin := (b.getD 13 0).toNat.testBit 0
  syn := (b.getD 13 0).toNat.testBit 1
  rst := (b.getD 13 0).toNat.testBit 2
  ack := (b.getD 13 0).toNat.testBit 4

theorem Iphdr.ihl_lt (b : Bytes) : (Iphdr.ofBytes b).ihl < 16 := Nat.mod_lt _ (by decide)

/-- `IP_OFFSET`: the fragment offset bits of `frag_off`. -/
def ipOffset : UInt16 := 0x1fff

/-- `IPPROTO_TCP`. -/
def ipprotoTcp : UInt8 := 6

/-- `ipv4_get_l4proto`: where the layer-4 header starts, and its protocol; `-1` for no IPv4 header, a
later fragment, or a header that reaches behind the packet.  (The protocol is only looked at when the
offset is positive.) -/
def ipv4GetL4proto (skb : SkBuff) (nhoff : ℕ) : ℤ × UInt8 :=
  match skbHeaderPointer skb nhoff iphdrLen with
  | none => (-1, 0)
  | some b =>
    let iph := Iphdr.ofBytes b
    if iph.fragOff &&& ipOffset ≠ 0 then (-1, 0)
    else
      let dataoff := s32 (nhoff + iph.ihl * 4)
      -- an `int` against an `unsigned int`: the comparison is unsigned
      if skb.len < u32 dataoff then (-1, iph.protocol)
      else (dataoff, iph.protocol)

/-- `tcp_error`: not a whole TCP header, or a malformed one. -/
def tcpError (th : Tcphdr) (skb : SkBuff) (dataoff : ℕ) : Bool :=
  let tcplen := u32 (skb.len - dataoff)
  th.doff * 4 < tcphdrLen || tcplen < th.doff * 4

/-- `segment_seq_plus_len`, in `size_t` arithmetic cut to 32 bits at the end. -/
def segmentSeqPlusLen (seq : UInt32) (len dataoff : ℕ) (tcph : Tcphdr) : UInt32 :=
  (seq.toUInt64 + UInt64.ofNat len - UInt64.ofNat dataoff - UInt64.ofNat (tcph.doff * 4)
    + (if tcph.syn then 1 else 0) + (if tcph.fin then 1 else 0)).toUInt32

/-! ### What the headers say -/

/-- A TCP segment as its receiver sees it. -/
structure TcpSegment where
  seq : UInt32
  ackSeq : UInt32
  payload : ℕ
  syn : Bool
  fin : Bool
  rst : Bool
  ack : Bool
  deriving DecidableEq, Repr

/-- The segment's end, its receiver's next expected byte. -/
def TcpSegment.endSeq (s : TcpSegment) : UInt32 :=
  s.seq + UInt32.ofNat s.payload + (if s.syn then 1 else 0) + (if s.fin then 1 else 0)

/-- The segment behind a TCP header at `dataoff`. -/
def TcpSegment.ofHeader (th : Tcphdr) (len dataoff : ℕ) : TcpSegment where
  seq := th.seq
  ackSeq := th.ackSeq
  payload := len - dataoff - 4 * th.doff
  syn := th.syn
  fin := th.fin
  rst := th.rst
  ack := th.ack

/-- **The computed end is the segment's end**, whenever the header lies inside the packet. -/
theorem segmentSeqPlusLen_eq {len dataoff : ℕ} {th : Tcphdr} (h : dataoff + 4 * th.doff ≤ len) :
    segmentSeqPlusLen th.seq len dataoff th = (TcpSegment.ofHeader th len dataoff).endSeq := by
  have hsub : UInt32.ofNat (len - dataoff - 4 * th.doff)
      = UInt32.ofNat len - UInt32.ofNat dataoff - UInt32.ofNat (4 * th.doff) := by
    rw [UInt32.ofNat_sub (by omega), UInt32.ofNat_sub (by omega)]
  have hcut : segmentSeqPlusLen th.seq len dataoff th
      = th.seq + UInt32.ofNat len - UInt32.ofNat dataoff - UInt32.ofNat (th.doff * 4)
        + (if th.syn then 1 else 0) + (if th.fin then 1 else 0) := by
    unfold segmentSeqPlusLen
    cases th.syn <;> cases th.fin <;> simp
  rw [hcut, Nat.mul_comm th.doff 4]
  simp only [TcpSegment.endSeq, TcpSegment.ofHeader, hsub]
  grind

/-- A positive layer-4 offset is the network offset plus the IP header length, and lies in the packet. -/
theorem ipv4GetL4proto_pos {skb : SkBuff} {nhoff : ℕ} {off : ℤ} {proto : UInt8}
    (h : ipv4GetL4proto skb nhoff = (off, proto)) (hpos : 0 < off) :
    ∃ b, skbHeaderPointer skb nhoff iphdrLen = some b ∧
      (Iphdr.ofBytes b).fragOff &&& ipOffset = 0 ∧ proto = (Iphdr.ofBytes b).protocol ∧
      off = s32 (nhoff + (Iphdr.ofBytes b).ihl * 4) ∧ off.toNat ≤ skb.len := by
  unfold ipv4GetL4proto at h
  cases hb : skbHeaderPointer skb nhoff iphdrLen with
  | none =>
    rw [hb] at h
    obtain ⟨rfl, -⟩ := Prod.mk.inj h
    omega
  | some b =>
    rw [hb] at h
    simp only at h
    split at h
    · obtain ⟨rfl, -⟩ := Prod.mk.inj h
      omega
    · rename_i hfrag
      split at h
      · obtain ⟨rfl, -⟩ := Prod.mk.inj h
        omega
      · rename_i hlen
        obtain ⟨rfl, rfl⟩ := Prod.mk.inj h
        refine ⟨b, rfl, not_not.mp hfrag, rfl, rfl, ?_⟩
        unfold u32 s32 at *
        omega

/-- A header that passes `tcp_error` lies wholly inside the packet. -/
theorem tcpError_eq_false {th : Tcphdr} {skb : SkBuff} {dataoff : ℕ}
    (h : tcpError th skb dataoff = false) (hoff : dataoff ≤ skb.len) :
    5 ≤ th.doff ∧ dataoff + 4 * th.doff ≤ skb.len := by
  have hlen := skb.len_lt
  have htcp : u32 ((skb.len : ℤ) - (dataoff : ℤ)) = skb.len - dataoff := by
    unfold u32 SkBuff.len at *
    omega
  have hdoff : ¬ th.doff * 4 < tcphdrLen ∧ ¬ skb.len - dataoff < th.doff * 4 := by
    simpa [tcpError, htcp] using h
  unfold tcphdrLen at hdoff
  omega

/-- **The length behind the checks.**  Whatever the packet and its headers say, once the offset is positive, a
TCP header can be read there and `tcp_error` is false, the subtraction of `segment_seq_plus_len` stays within
what is left behind a header of 20 bytes, and the segment ends that far, and one each for SYN and FIN, behind
its sequence number. -/
theorem segmentEnd_within {skb : SkBuff} {nhoff : ℕ} {dataoff : ℤ} {proto : UInt8} {b : Bytes}
    (h : ipv4GetL4proto skb nhoff = (dataoff, proto)) (hpos : 0 < dataoff)
    (_hb : skbHeaderPointer skb dataoff.toNat tcphdrLen = some b)
    (herr : tcpError (Tcphdr.ofBytes b) skb dataoff.toNat = false) :
    0 ≤ (skb.len : ℤ) - dataoff - 4 * (Tcphdr.ofBytes b).doff ∧
      (skb.len : ℤ) - dataoff - 4 * (Tcphdr.ofBytes b).doff ≤ skb.len - dataoff - 20 ∧
      ∃ n : ℕ, (n : ℤ) = (skb.len : ℤ) - dataoff - 4 * (Tcphdr.ofBytes b).doff
          + (if (Tcphdr.ofBytes b).syn then 1 else 0) + (if (Tcphdr.ofBytes b).fin then 1 else 0) ∧
        (n : ℤ) ≤ skb.len - dataoff - 20 + 2 ∧
        segmentSeqPlusLen (Tcphdr.ofBytes b).seq skb.len dataoff.toNat (Tcphdr.ofBytes b)
          = (Tcphdr.ofBytes b).seq + UInt32.ofNat n := by
  obtain ⟨_, -, -, -, -, hoff⟩ := ipv4GetL4proto_pos h hpos
  obtain ⟨hdoff, hfits⟩ := tcpError_eq_false herr hoff
  obtain ⟨th, hth⟩ : ∃ th, th = Tcphdr.ofBytes b := ⟨_, rfl⟩
  rw [← hth] at hdoff hfits ⊢
  have hnat : (dataoff.toNat : ℤ) = dataoff := Int.toNat_of_nonneg (by omega)
  have hend := segmentSeqPlusLen_eq hfits
  refine ⟨by omega, by omega, skb.len - dataoff.toNat - 4 * th.doff + (if th.syn then 1 else 0)
    + (if th.fin then 1 else 0), ?_, ?_, ?_⟩
  · cases th.syn <;> cases th.fin <;> simp <;> omega
  · cases th.syn <;> cases th.fin <;> simp <;> omega
  · rw [hend]
    show th.seq + UInt32.ofNat (skb.len - dataoff.toNat - 4 * th.doff) + (if th.syn then 1 else 0)
      + (if th.fin then 1 else 0) = _
    cases th.syn <;> cases th.fin <;> simp [UInt32.ofNat_add, UInt32.add_assoc]

theorem atStart_lt : 0 < 2 ^ 31 := by decide

/-- A FIN with one byte of payload, behind an IP header of 20 bytes. -/
def finPacket : SkBuff where
  data := [0x45, 0, 0, 41, 0, 0, 0, 0, 64, 6, 0, 0, 10, 0, 0, 1, 10, 0, 0, 2] ++
    [0x30, 0x39, 0, 80, 0, 0, 3, 232, 0, 0, 7, 208, 0x50, 0x11, 16, 0, 0, 0, 0, 0] ++ [65]
  networkOffset := 0
  nfct := (none, 0)
  len_lt := by decide
  networkOffset_lt := atStart_lt

/-- It ends two behind its sequence number. -/
theorem segmentEnd_within_fin : ∃ n : ℕ, (n : ℤ) = 41 - 20 - 4 * 5 + 0 + 1 ∧
    segmentSeqPlusLen 1000 41 20 (Tcphdr.ofBytes ((finPacket.data.drop 20).take 20)) = 1000 + UInt32.ofNat n := by
  have hl4 : ipv4GetL4proto finPacket 0 = (20, 6) := by decide
  have hb : skbHeaderPointer finPacket (20 : ℤ).toNat tcphdrLen = some ((finPacket.data.drop 20).take 20) := by
    decide
  have herr : tcpError (Tcphdr.ofBytes ((finPacket.data.drop 20).take 20)) finPacket (20 : ℤ).toNat = false := by
    decide
  obtain ⟨-, -, n, hn, -, hend⟩ := segmentEnd_within hl4 (by decide) hb herr
  exact ⟨n, hn, hend⟩

end VgwDriver
