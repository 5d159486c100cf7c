import VgwDriver.Cli.Gopacket
import VgwDriver.Cli.Reset

/-!
# Sending a reset

`SendTcpReset` builds a TCP reset out of a `TcpInfo`, and hands it to a raw socket, or to an UDP socket as the
payload of a VXLAN tunnel.  The MAC addresses are filled in only on the path to the raw socket, which sends no
Ethernet header; and of the tunnel's VNI the header has room for 24 bits.

* `decodeTunnel` — the payload as the tunnel's other end reads it, down to the TCP header;
* `sendTcpReset_tunnel` — **what goes into the tunnel**, for every reset and every tunnel;
* `sendTcpReset_ip` — what the raw socket gets;
* `resetTunnelled_iff` — **when it is the given reset**, in the given tunnel.
-/

namespace VgwDriver

open Base

/-! ### The command -/

structure VxlanInfo where
  vni : UInt32
  tunSrcIp : String
  tunDstIp : String
  tunDstPort : UInt16
  deriving DecidableEq, Repr

/-- `TcpInfo` with its MAC addresses. -/
structure MacTcpInfo extends TcpInfo where
  srcMAC : Bytes
  dstMAC : Bytes
  deriving DecidableEq, Repr

/-- What the host's sockets answer: whether they can be opened, and `net.ResolveUDPAddr`. -/
structure Sockets (UDPAddr : Type) where
  udp : Bool
  resolveUDPAddr : String → Option UDPAddr
  ip : Bool

/-- What is handed to a socket: the header and the payload of a packet, or a datagram. -/
inductive Sent (UDPAddr : Type) where
  | ip (header payload : Bytes)
  | udp (dst : UDPAddr) (payload : Bytes)

/-- The Ethernet layer of a reset: it gets the MAC addresses where there is no tunnel. -/
def resetEthernet (t : MacTcpInfo) (vxlanInfo : Option VxlanInfo) : Ethernet :=
  let eth : Ethernet :=
    { ethernetType := ethernetTypeIPv4
      srcMAC := [0x00, 0x00, 0x00, 0x00, 0x00, 0x00]
      dstMAC := [0x00, 0x00, 0x00, 0x00, 0x00, 0x00] }
  match vxlanInfo with
  | none => { eth with srcMAC := t.srcMAC, dstMAC := t.dstMAC }
  | some _ => eth

def resetIPv4 (t : MacTcpInfo) : IPv4 where
  srcIP := t.srcIp
  dstIP := t.dstIp
  version := 4
  ttl := 64
  protocol := ipProtocolTCP

def resetTCP (t : MacTcpInfo) : TCP where
  srcPort := t.srcPort
  dstPort := t.dstPort
  urgent := 0
  seq := t.seq
  ack := t.ack
  ACK := false
  SYN := false
  FIN := false
  RST := true
  URG := true
  ECE := false
  CWR := false
  NS := false
  PSH := false

section Sending

variable {UDPAddr : Type}

/-- `sendVxlan`: the store of the VNI is four bytes long, and the first of them is cleared again. -/
def sendVxlan (s : Sockets UDPAddr) (v : VxlanInfo) (payload : Bytes) : Option (Sent UDPAddr) :=
  if !s.udp then none
  else
    let vxlanHdr : Bytes := [0x08, 0x00, 0x00, 0x00, 0x00, 0x00, 0x00, 0x00]
    let vxlanHdr := overwrite vxlanHdr 3 (put32 .big v.vni)
    let vxlanHdr := vxlanHdr.set 3 0
    match s.resolveUDPAddr (v.tunDstIp ++ ":" ++ toString v.tunDstPort) with
    | none => none
    | some dst => some (.udp dst (vxlanHdr ++ payload))

/-- `sendIpSocket`. -/
def sendIpSocket (s : Sockets UDPAddr) (ip : IPv4) (payload : Bytes) : Option (Sent UDPAddr) :=
  match ip.serializeTo [] fixAll with
  | .error _ => none
  | .ok header => if s.ip then some (.ip header payload) else none

/-- `SendTcpReset`. -/
def sendTcpReset (s : Sockets UDPAddr) (t : MacTcpInfo) (vxlanInfo : Option VxlanInfo) :
    Option (Sent UDPAddr) :=
  let eth := resetEthernet t vxlanInfo
  let ip := resetIPv4 t
  let tcp := resetTCP t
  match vxlanInfo with
  | none =>
    match tcp.serializeTo ip [] fixAll with
    | .error _ => none
    | .ok segment => sendIpSocket s ip segment
  | some v =>
    match (tcp.serializeTo ip [] fixAll >>= (ip.serializeTo · fixAll) >>= (eth.serializeTo · fixAll)) with
    | .error _ => none
    | .ok frame => sendVxlan s v frame

end Sending

/-! ### The other end of the tunnel -/

/-- A TCP segment in a tunnel. -/
structure TunnelFrame where
  vni : ℕ
  srcMAC : Bytes
  dstMAC : Bytes
  srcIp : Bytes
  dstIp : Bytes
  srcPort : UInt16
  dstPort : UInt16
  seq : UInt32
  ack : UInt32
  fin : Bool
  syn : Bool
  rst : Bool
  deriving DecidableEq, Repr

/-- The VNI of a VXLAN header whose flag says that it is valid, and the frame behind it. -/
def decodeVxlan (b : Bytes) : Option (ℕ × Bytes) :=
  if 8 ≤ b.length ∧ b.getD 0 0 &&& 0x08 ≠ 0 then some (Endian.big.nat ((b.drop 4).take 3), b.drop 8) else none

/-- VXLAN header, Ethernet, IPv4 and TCP in turn. -/
def decodeTunnel (b : Bytes) : Option TunnelFrame := do
  let (vni, frame) ← decodeVxlan b
  let (dstMAC, srcMAC, packet) ← decodeEthernet frame
  let (srcIp, dstIp, segment) ← decodeIPv4 packet
  let tcp ← decodeTCP srcIp dstIp segment
  pure
    { vni, srcMAC, dstMAC, srcIp, dstIp
      srcPort := tcp.srcPort
      dstPort := tcp.dstPort
      seq := tcp.seq
      ack := tcp.ack
      fin := tcp.FIN
      syn := tcp.SYN
      rst := tcp.RST }

/-- The given reset, in a tunnel. -/
def MacTcpInfo.tunnelFrame (t : MacTcpInfo) (vni : ℕ) : TunnelFrame where
  vni := vni
  srcMAC := t.srcMAC
  dstMAC := t.dstMAC
  srcIp := t.srcIp
  dstIp := t.dstIp
  srcPort := t.srcPort
  dstPort := t.dstPort
  seq := t.seq
  ack := t.ack
  fin := false
  syn := false
  rst := true

/-- The addresses are IPv4 addresses. -/
def TcpInfo.IsIPv4 (t : TcpInfo) : Prop := t.srcIp.length = 4 ∧ t.dstIp.length = 4

/-- What is handed to the tunnel's socket is the given reset in the given tunnel; with a VNI that does not fit
nothing is. -/
def ResetTunnelled {UDPAddr : Type} (s : Sockets UDPAddr) (t : MacTcpInfo) (v : VxlanInfo) : Prop :=
  ∀ dst payload, sendTcpReset s t (some v) = some (.udp dst payload) →
    v.vni.toNat < 2 ^ 24 ∧ decodeTunnel payload = some (t.tunnelFrame v.vni.toNat)

/-- The packet is not a fragment. -/
theorem resetIPv4_whole (t : MacTcpInfo) : (resetIPv4 t).flagsfrags &&& 0x3fff = 0 := by
  show ((0 : UInt8).toUInt16 <<< 13 ||| 0) &&& 0x3fff = 0
  decide

section Tunnel

variable {UDPAddr : Type} (s : Sockets UDPAddr) (v : VxlanInfo)

/-- Where the tunnel ends, if a datagram can be sent there. -/
def Sockets.tunnel : Option UDPAddr :=
  if s.udp then s.resolveUDPAddr (v.tunDstIp ++ ":" ++ toString v.tunDstPort) else none

/-- **The VXLAN header** carries the low 24 bits of the VNI. -/
theorem sendVxlan_eq (payload : Bytes) :
    ∃ b, sendVxlan s v payload = (s.tunnel v).map (.udp · b) ∧
      decodeVxlan b = some (v.vni.toNat % 2 ^ 24, payload) := by
  let vxlanHdr := [0x08, 0, 0, 0] ++ (leBytes 3 v.vni.toNat).reverse ++ [0]
  refine ⟨vxlanHdr ++ payload, ?_, ?_⟩
  · rw [sendVxlan, Sockets.tunnel]
    cases s.udp with
    | false => rfl
    | true =>
      rw [if_pos rfl]
      show (match s.resolveUDPAddr _ with
        | none => none
        | some dst => some (Sent.udp dst (vxlanHdr ++ payload))) = _
      cases s.resolveUDPAddr (v.tunDstIp ++ ":" ++ toString v.tunDstPort) <;> rfl
  · have hvni : Endian.big.nat (((vxlanHdr ++ payload).drop 4).take 3) = v.vni.toNat % 2 ^ 24 := by
      show leNat (leBytes 3 v.vni.toNat).reverse.reverse = _
      rw [List.reverse_reverse]
      exact leNat_leBytes 3 v.vni.toNat
    have hflag : (vxlanHdr ++ payload).getD 0 0 &&& 0x08 ≠ 0 := by
      show (0x08 : UInt8) &&& 0x08 ≠ 0
      decide
    have hlong : 8 ≤ (vxlanHdr ++ payload).length := Nat.le_add_left 8 _
    rw [decodeVxlan, if_pos ⟨hlong, hflag⟩, hvni]
    rfl

/-- **Without a tunnel** the raw socket is given a header and a segment that are as the reset says. -/
theorem sendTcpReset_ip {t : MacTcpInfo} (ht : t.IsIPv4) :
    ∃ header segment checksum,
      sendTcpReset s t none = (if s.ip then some (.ip header segment) else none) ∧
      decodeIPv4 header = some (t.srcIp, t.dstIp, []) ∧
      decodeTCP t.srcIp t.dstIp segment = some { resetTCP t with dataOffset := 5, checksum := checksum } := by
  have hsrc : (resetIPv4 t).srcIP.length = 4 := ht.1
  have hdst : (resetIPv4 t).dstIP.length = 4 := ht.2
  obtain ⟨segment, checksum, hsegment, -, hTCP⟩ :=
    decodeTCP_serializeTo (resetTCP t) hsrc hdst (show ([] : Bytes).length < 65516 by decide)
  obtain ⟨header, hheader, hIPv4⟩ :=
    decodeIPv4_serializeTo hsrc hdst rfl rfl (resetIPv4_whole t) (show ([] : Bytes).length < 65516 by decide)
  refine ⟨header, segment, checksum, ?_, ?_, hTCP⟩
  · rw [sendTcpReset, hsegment]
    show sendIpSocket s (resetIPv4 t) segment = _
    rw [sendIpSocket, hheader]
  · have hdecode := hIPv4 []
    rwa [List.append_nil] at hdecode

/-- **What goes into the tunnel**: the reset of the given connection, with the low 24 bits of the VNI and with
MAC addresses of zeros. -/
theorem sendTcpReset_tunnel {t : MacTcpInfo} (ht : t.IsIPv4) :
    ∃ b, sendTcpReset s t (some v) = (s.tunnel v).map (.udp · b) ∧
      decodeTunnel b = some
        ({ t with srcMAC := List.replicate 6 0, dstMAC := List.replicate 6 0 }.tunnelFrame
          (v.vni.toNat % 2 ^ 24)) := by
  have hsrc : (resetIPv4 t).srcIP.length = 4 := ht.1
  have hdst : (resetIPv4 t).dstIP.length = 4 := ht.2
  obtain ⟨segment, checksum, hsegment, hsegmentLen, hTCP⟩ :=
    decodeTCP_serializeTo (resetTCP t) hsrc hdst (show ([] : Bytes).length < 65516 by decide)
  rw [List.length_nil] at hsegmentLen
  obtain ⟨packet, hpacket, hIPv4⟩ :=
    decodeIPv4_serializeTo hsrc hdst rfl rfl (resetIPv4_whole t) (show segment.length < 65516 by omega)
  obtain ⟨frame, trailer, hframe, hEthernet⟩ :=
    decodeEthernet_serializeTo (show (resetEthernet t (some v)).srcMAC.length = 6 from rfl) rfl rfl rfl packet
  obtain ⟨b, hb, hVxlan⟩ := sendVxlan_eq s v frame
  refine ⟨b, ?_, ?_⟩
  · rw [← hb, sendTcpReset, hsegment]
    show (match (resetIPv4 t).serializeTo segment fixAll >>= ((resetEthernet t (some v)).serializeTo · fixAll) with
      | .error _ => none
      | .ok frame => sendVxlan s v frame) = _
    rw [hpacket]
    show (match (resetEthernet t (some v)).serializeTo packet fixAll with
      | .error _ => none
      | .ok frame => sendVxlan s v frame) = _
    rw [hframe]
  · rw [decodeTunnel, hVxlan]
    show (decodeEthernet frame).bind _ = _
    rw [hEthernet]
    show (decodeIPv4 (packet ++ trailer)).bind _ = _
    rw [hIPv4 trailer]
    show (decodeTCP (resetIPv4 t).srcIP (resetIPv4 t).dstIP segment).bind _ = _
    rw [hTCP]
    rfl

/-- Six bytes of zeros. -/
def zeroMAC : Bytes := List.replicate 6 0

variable {s v}

/-- **When the given reset goes into the given tunnel**: no datagram can be sent, or both MAC addresses are
zeros and the VNI fits. -/
theorem resetTunnelled_iff {t : MacTcpInfo} (ht : t.IsIPv4) :
    ResetTunnelled s t v ↔
      s.tunnel v = none ∨ t.srcMAC = zeroMAC ∧ t.dstMAC = zeroMAC ∧ v.vni.toNat < 2 ^ 24 := by
  obtain ⟨b, hsend, hdecode⟩ := sendTcpReset_tunnel s v ht
  cases htunnel : s.tunnel v with
  | none =>
    rw [htunnel] at hsend
    refine iff_of_true (fun dst payload h => ?_) (Or.inl rfl)
    rw [hsend] at h
    cases h
  | some dst =>
    rw [htunnel, Option.map_some] at hsend
    constructor
    · intro h
      obtain ⟨hfits, hgiven⟩ := h dst b hsend
      have hframe := Option.some.inj (hdecode.symm.trans hgiven)
      have hsrcMAC := congrArg TunnelFrame.srcMAC hframe
      have hdstMAC := congrArg TunnelFrame.dstMAC hframe
      exact Or.inr ⟨hsrcMAC.symm, hdstMAC.symm, hfits⟩
    · rintro (hnone | ⟨hsrcMAC, hdstMAC, hfits⟩)
      · cases hnone
      · intro dst' payload h
        rw [hsend] at h
        cases h
        refine ⟨hfits, ?_⟩
        rw [hdecode, Nat.mod_eq_of_lt hfits, MacTcpInfo.tunnelFrame, MacTcpInfo.tunnelFrame, hsrcMAC, hdstMAC]
        rfl

end Tunnel

/-! A host with open sockets. -/

def openSockets : Sockets Unit := ⟨true, fun _ => some (), true⟩

/-- From 10.0.0.1 to 10.0.0.2, between the given MAC addresses. -/
def sampleReset (srcMAC dstMAC : Bytes) : MacTcpInfo :=
  ⟨⟨[10, 0, 0, 1], [10, 0, 0, 2], 80, 1234, 7, 1000, 2000⟩, srcMAC, dstMAC⟩

def sampleTunnel (vni : UInt32) : VxlanInfo := ⟨vni, "192.168.0.1", "192.168.0.2", 4789⟩

theorem resetTunnelled_zeroMAC : ResetTunnelled openSockets (sampleReset zeroMAC zeroMAC) (sampleTunnel 100) :=
  (resetTunnelled_iff ⟨rfl, rfl⟩).mpr (Or.inr ⟨rfl, rfl, by decide⟩)

/-- The given MAC addresses are lost, and a VNI that does not fit is another tunnel's. -/
theorem resetTunnelled_fails :
    ¬ ResetTunnelled openSockets
        (sampleReset [0x52, 0x54, 0x88, 0x88, 0x89, 0x0b] [0x52, 0x54, 0x88, 0x88, 0x89, 0x15])
        (sampleTunnel 100) ∧
      ¬ ResetTunnelled openSockets (sampleReset zeroMAC zeroMAC) (sampleTunnel 0x01000064) := by
  constructor
  · intro h
    obtain ⟨b, hsend, hdecode⟩ := sendTcpReset_tunnel openSockets (sampleTunnel 100)
      (t := sampleReset [0x52, 0x54, 0x88, 0x88, 0x89, 0x0b] [0x52, 0x54, 0x88, 0x88, 0x89, 0x15]) ⟨rfl, rfl⟩
    obtain ⟨-, hgiven⟩ := h () b hsend
    have hframe := Option.some.inj (hdecode.symm.trans hgiven)
    exact absurd (congrArg TunnelFrame.srcMAC hframe) (by decide)
  · intro h
    obtain ⟨b, hsend, -⟩ := sendTcpReset_tunnel openSockets (sampleTunnel 0x01000064)
      (t := sampleReset zeroMAC zeroMAC) ⟨rfl, rfl⟩
    obtain ⟨hfits, -⟩ := h () b hsend
    exact absurd hfits (by decide)

end VgwDriver
