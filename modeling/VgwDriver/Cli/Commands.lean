import Mathlib.Data.List.GetD
import VgwDriver.Cli.Add

/-!
# The commands together

`ct add`, `ct flush` and `ct show`, one after the other, on one table.

* `ShowSession`, `ShowSession.flows` — what `ct show` gets from the table of a state;
* `connCreate_again` — **a conntrack is created once**, and again only when it has left the table;
* `ctShow_add` — **what `ct add` adds, `ct show` shows**, and nothing else changes;
* `ctShow_flush` — **what `ct flush` removes is no longer shown**, and nothing else is missing.
-/

namespace VgwDriver

open Base

/-! ### What is shown -/

/-- The conntracks of the table that `ct show` is for. -/
def CtWorld.Shown (w : CtWorld) (env : NlEnv) (net : NetPtr) (zone : ℤ) (p : CtPtr) : Prop :=
  w.Listed p ∧ nfCtIsExpired env (w.conn p) = false ∧ (w.conn p).net = net ∧ inShownZone zone (w.conn p)

/-- `ct show -z zone`, over the table of `w`, which does not change in the meantime, into buffers that each hold a
message. -/
structure ShowSession (s : DumpSession) (r : ProtoRecords) (e : Endian) (n : ℕ) (env : FilterEnv) (net : NetPtr)
    (zone : ℤ) (w : CtWorld) : Prop where
  table : s.table 0 = w.hash
  request : ShowRequest env net zone s.req
  port : s.req.portid ≠ 0
  ends : s.EndsAt n
  roomy : ∀ k ≤ n, s.Roomy k
  unchanged : ∀ k < n, s.Unchanged k
  stock : ∀ k ≤ n, (s.env k).endian = e ∧ (s.env k).Stock r
  readable : ∀ k ≤ n, ∀ p ∈ s.reported k, ((s.table k).heap p).Readable

section Show

variable {s : DumpSession} {r : ProtoRecords} {e : Endian} {n : ℕ} {env : FilterEnv} {net : NetPtr} {zone : ℤ}
  {w : CtWorld} {p : CtPtr}

theorem CtWorld.listed_iff : w.Listed p ↔ ∃ i < w.hash.size, ⟨p, .original⟩ ∈ w.hash.chain i := by
  unfold CtWorld.Listed NfConntrackHash.nodes
  rw [List.mem_flatten]
  constructor
  · rintro ⟨chain, hchain, hp⟩
    obtain ⟨i, hi, rfl⟩ := List.mem_iff_getElem.mp hchain
    refine ⟨i, hi, ?_⟩
    rwa [NfConntrackHash.chain, List.getD_eq_getElem _ _ hi]
  · rintro ⟨i, hi, hp⟩
    refine ⟨_, List.getElem_mem hi, ?_⟩
    rwa [NfConntrackHash.chain, List.getD_eq_getElem _ _ hi] at hp

/-- The flows that the CLI gets are those of the conntracks shown, each once. -/
theorem ShowSession.flows (h : ShowSession s r e n env net zone w) {datagrams : List Bytes}
    (hsent : s.Sent e n datagrams) (after : List Bytes) :
    ∃ ps flows, connDumpFilter e s.req.seq s.req.portid (datagrams ++ after) = .ok (flows, after) ∧
      List.Forall₂ (fun p flow => ∃ k ≤ n, (dumpCall (s.env k) s.req (s.table k) p).Tells r flow) ps flows ∧
      ps.Nodup ∧ ∀ p, p ∈ ps ↔ w.Shown (s.env 0) net zone p := by
  obtain ⟨flows, hflows, htells⟩ := DumpSession.unmarshalFlows_session h.stock h.readable
  have hexec := DumpSession.execute_session h.port h.ends (fun k hk => (h.stock k hk).1) hsent after
  refine ⟨eligible (s.env 0) s.req (s.table 0), flows, DumpSession.connDumpFilter_ok hexec hflows, ?_,
    nodup_eligible _ _ _, fun p => ?_⟩
  · rw [← DumpSession.completed_ids h.ends h.roomy h.unchanged]
    exact DumpSession.tells_ids (fun f hf => DumpSession.mem_calls hf) htells
  · rw [mem_shown h.request, h.table]
    unfold CtWorld.Shown
    rw [CtWorld.listed_iff]
    rfl

/-- In every call of the session, an unexpired conntrack is told as it is in the state. -/
theorem ShowSession.record (h : ShowSession s r e n env net zone w)
    (hlive : nfCtIsExpired (s.env 0) (w.conn p) = false) {k : ℕ} (hk : k ≤ n) :
    SameButCounters (w.conn p) ((s.table k).heap p) := by
  have hexp : nfCtIsExpired (s.env 0) ((s.table 0).heap p) = false := by
    rw [h.table]
    exact hlive
  have hsame := (DumpSession.record_unchanged h.unchanged hexp hk).2
  rw [h.table] at hsame
  exact hsame

end Show

/-! ### Adding twice -/

/-- At the time of `nlenv`, what is filed under a key and a zone and has not expired is found there, or something
else under the same key is. -/
def CreateEnv.FindsFiled (env : CreateEnv) (nlenv : NlEnv) : Prop :=
  ∀ t net zone tuple h, h ∈ t.nodes → t.KeyEqual h net zone tuple →
    nfCtZoneId (t.heap h.ct).zone h.dir = nfCtZoneId zone .original →
    nfCtIsExpired nlenv (t.heap h.ct) = false → (env.find t net zone tuple).isSome

section Again

variable {env : CreateEnv} {w w' : CtWorld} {held : CtPtr → ℕ} {f : Flow} {p : CtPtr} {info : NfnlInfo}
  {q : CtQuery} {events : UInt32}

theorem CtWorld.Sound.rcvNew (h : w.Sound held) (henv : env.Lawful) (info : NfnlInfo) (q : CtQuery) :
    (w.rcvNew env info q).world.Sound held := by
  unfold CtWorld.rcvNew
  cases nlaParseCt q.attrs with
  | error err => exact h
  | ok cda => exact h.new henv { info with family := q.family } q.flags cda

/-- What a successful request for a new flow reports is the conntrack that is new. -/
theorem rcvNew_gained (h : w.Sound held) (henv : env.Lawful) (hf : f.New)
    (hports : env.toFilterEnv.Ports f.tupleOrig.proto.protocol) (hq : connCreate env.endian f = .ok q)
    (hadd : w.rcvNew env info q = ⟨0, w', some (p, events)⟩) :
    w.Gained w' p ∧ (w'.conn p).Fresh info.net f.newZone (f.tupleOrig.key .original) (f.tupleReply.key .reply)
      f.mark := by
  obtain ⟨hsome, hnone⟩ := newFlow_cases h henv hf hports info hq
  cases hfind : env.find w.hash info.net f.newZone (f.tupleOrig.key .original) with
  | some n =>
    rw [hsome n hfind] at hadd
    cases hadd
  | none =>
    rcases hnone hfind with ⟨err, herr⟩ | ⟨p', w'', heq, hgained, hfresh⟩
    · rw [herr] at hadd
      cases hadd
    · rw [heq] at hadd
      cases hadd
      exact ⟨hgained, hfresh⟩

/-- **A conntrack is created once**: whatever is requested behind a successful `ct add`, as long as the new
conntrack is in the table and has not expired, a flow of the same original tuple and zone is refused with
`EEXIST`, and nothing changes. -/
theorem connCreate_again (h : w.Sound held) (henv : env.Lawful) {nlenv : NlEnv} (hfiled : env.FindsFiled nlenv)
    (hf : f.New) (hports : env.toFilterEnv.Ports f.tupleOrig.proto.protocol) (hq : connCreate env.endian f = .ok q)
    (hadd : w.rcvNew env info q = ⟨0, w', some (p, events)⟩) (l : List CtRequest)
    (hp : ∀ pre, pre <+: l → p ∈ (run CtRequest.step w' pre).live) (hlisted : (run CtRequest.step w' l).Listed p)
    (hlive : nfCtIsExpired nlenv ((run CtRequest.step w' l).conn p) = false) {f₂ : Flow} {q₂ : CtQuery}
    (hf₂ : f₂.New) (hq₂ : connCreate env.endian f₂ = .ok q₂)
    (hzone : f₂.zone = f.zone) (hkey : f₂.tupleOrig.key .original = f.tupleOrig.key .original)
    {info₂ : NfnlInfo} (hnet : info₂.net = info.net) :
    (run CtRequest.step w' l).rcvNew env info₂ q₂ = ⟨-eexist, run CtRequest.step w' l, none⟩ := by
  obtain ⟨-, hfresh⟩ := rcvNew_gained h henv hf hports hq hadd
  have hsound : w'.Sound held := by
    have hnew := h.rcvNew henv info q
    rwa [hadd] at hnew
  have hstep : ∀ (w : CtWorld) r, w.Sound held ∧ p ∈ w.live → w.Kept (CtRequest.step w r) p :=
    fun _ r hs => step_kept hs.1 hs.2 r
  have hkept : w'.Kept (run CtRequest.step w' l) p :=
    @run_rel CtWorld CtRequest CtRequest.step _ (fun w w' => w.Kept w' p) (fun w => .refl w p)
      CtWorld.Kept.trans hstep w' l fun pre hpre => ⟨sound_run hsound pre, hp pre hpre⟩
  have hsound₂ := sound_run hsound l
  set w₂ := run CtRequest.step w' l
  -- the conntrack still has its key
  have hnewZone : f₂.newZone = f.newZone := by rw [Flow.newZone, hzone, Flow.newZone]
  have htuple : nfCtTuple (w₂.conn p) .original = f₂.tupleOrig.key .original :=
    (hkept.identity.tupleOrig.trans hfresh.tupleOrig).trans hkey.symm
  have hconnZone : (w₂.conn p).zone = f₂.newZone := (hkept.identity.zone.trans hfresh.zone).trans hnewZone.symm
  have hequal : w₂.hash.KeyEqual ⟨p, .original⟩ info₂.net f₂.newZone (f₂.tupleOrig.key .original) := by
    refine ⟨?_, ?_, ?_⟩
    · rw [show nfCtTuple (w₂.hash.heap p) .original = _ from htuple]
      exact ⟨rfl, rfl, rfl, rfl⟩
    · rw [show (w₂.hash.heap p).zone = _ from hconnZone]
    · exact (hkept.identity.net.trans hfresh.net).trans hnet.symm
  have hfound := hfiled w₂.hash info₂.net f₂.newZone _ ⟨p, .original⟩ hlisted hequal
    (by rw [show (w₂.hash.heap p).zone = _ from hconnZone]) hlive
  obtain ⟨n, hn⟩ := Option.isSome_iff_exists.mp hfound
  have hproto : f₂.tupleOrig.proto.protocol = f.tupleOrig.proto.protocol :=
    congrArg (fun t : NfConntrackTuple => t.dst.protonum) hkey
  exact (newFlow_cases hsound₂ henv hf₂ (hproto ▸ hports) info₂ hq₂).1 n hn

theorem kernelEnv_findsFiled (nlenv : NlEnv) : kernelEnv.FindsFiled nlenv := by
  intro t net zone tuple h hh hkey _ _
  exact List.find?_isSome.mpr ⟨h, hh, decide_eq_true hkey⟩

/-- `ct add -z 100` again, behind a request that changes the mark. -/
theorem connCreate_again_sample : ∃ q, connCreate .little (ctAddFlow 100) = .ok q ∧
    (run CtRequest.step (emptyWorld.ctAdd kernelEnv ⟨0, 1, 1, 0, 0⟩ 100) [connRequest 0 2]).rcvNew kernelEnv
        ⟨0, 1, 2, 0, 0⟩ q =
      ⟨-eexist, run CtRequest.step (emptyWorld.ctAdd kernelEnv ⟨0, 1, 1, 0, 0⟩ 100) [connRequest 0 2], none⟩ := by
  obtain ⟨q, hq, hadd⟩ := ctAdd_empty
  refine ⟨q, hq, ?_⟩
  refine connCreate_again emptyWorld_sound kernelEnv_lawful (kernelEnv_findsFiled stockNlEnv) (ctAddFlow_new 100)
    kernelFilterEnv_ports hq hadd _ (fun pre hpre => ?_) (by decide +kernel) (by decide +kernel)
    (ctAddFlow_new 100) hq rfl rfl rfl
  rcases List.prefix_cons_iff.mp hpre with rfl | ⟨rest, rfl, hrest⟩
  · decide +kernel
  · rw [List.prefix_nil.mp hrest]
    decide +kernel

end Again

/-! ### Adding and showing -/

section AddShow

variable {t : Tuple} {e : Endian}

/-- The addresses of a tuple come back. -/
theorem key_addrs (ht : t.Ported) (d : IpConntrackDir) : (t.key d).addrs = t.ip := by
  unfold NfConntrackTuple.addrs
  rcases ht.ip with ⟨hs, hd⟩ | ⟨hs, hd⟩
  · have hput : ∀ addr : Bytes, addrIs4 addr → put32 .big (inetAddr addr).ip = addr := by
      intro addr h
      rw [inetAddr, if_pos h]
      exact put32_get32 .big (addrIs4_iff.mp h)
    have hl3 : (t.key d).src.l3num = nfprotoIpv4.toUInt16 := by rw [Tuple.key, if_pos hs]
    rw [if_pos hl3]
    show (⟨put32 .big (inetAddr _).ip, put32 .big (inetAddr _).ip⟩ : IPTuple) = _
    rw [hput _ hs, hput _ hd]
  · have hnot : ¬ addrIs4 t.ip.sourceAddress = true := by
      rw [addrIs4_iff, addrIs6_iff.mp hs]
      decide
    have hl3 : (t.key d).src.l3num = nfprotoIpv6.toUInt16 := by rw [Tuple.key, if_neg hnot]
    rw [if_neg (by rw [hl3]; decide)]
    show (⟨(inetAddr _).in6, (inetAddr _).in6⟩ : IPTuple) = _
    rw [in6_inetAddr hs, in6_inetAddr hd]

/-- And its ports, from a host that writes them. -/
theorem key_proto {env : NlEnv} (ht : t.Ported) (hwrites : (env.tupleToNlattr t.proto.protocol).isSome)
    (d : IpConntrackDir) : (t.key d).proto env = t.proto.sent := by
  obtain ⟨g, hg⟩ := Option.isSome_iff_exists.mp hwrites
  have hproto : env.tupleToNlattr (t.key d).dst.protonum = some g := hg
  unfold NfConntrackTuple.proto ProtoTuple.sent
  rw [hproto, if_neg ht.icmp, if_neg ht.icmpv6]
  dsimp only
  unfold NfConntrackTuple.ports
  rw [if_neg (show ¬ (t.key d).dst.protonum = ipprotoIcmp from ht.icmp),
    if_neg (show ¬ (t.key d).dst.protonum = ipprotoIcmpv6 from ht.icmpv6)]
  rfl

/-- **The conntrack of a new flow is told as the flow.** -/
theorem fresh_told {env : NlEnv} {r : ProtoRecords} {ct ct' : NfConn} {net : NetPtr} {f : Flow} (hf : f.New)
    (hwrites : (env.tupleToNlattr f.tupleOrig.proto.protocol).isSome)
    (h : ct.Fresh net f.newZone (f.tupleOrig.key .original) (f.tupleReply.key .reply) f.mark)
    (hsame : SameButCounters ct ct') (p : CtPtr) (flags : UInt16) (info : Bytes) :
    (ct'.flow env r p flags info).tupleOrig = f.tupleOrig.sent ∧
      (ct'.flow env r p flags info).tupleReply = f.tupleReply.sent ∧
      (ct'.flow env r p flags info).zone = f.zone ∧ (ct'.flow env r p flags info).mark = f.mark := by
  obtain ⟨hid, hdir⟩ := newZone_id f
  have hzone : ct'.zone = f.newZone := by rw [hsame]; exact h.zone
  have horig : ct'.tupleOrig = f.tupleOrig.key .original := by rw [hsame]; exact h.tupleOrig
  have hreply : ct'.tupleReply = f.tupleReply.key .reply := by rw [hsame]; exact h.tupleReply
  have hmark : ct'.mark = f.mark := by rw [hsame]; exact h.mark
  have hshown : ∀ dir, dir ≠ nfCtDefaultZoneDir → f.newZone.shown dir = 0 := by
    intro dir hne
    rw [NfConntrackZone.shown, hdir, if_neg hne.symm]
  have hsent : ∀ t : Tuple, t.Ported → t.sent = ⟨t.ip, t.proto.sent, 0⟩ := by
    intro t ht
    rw [Tuple.sent, if_pos ht.filled', ht.zone]
  unfold NfConn.flow
  dsimp only
  rw [hzone, horig, hreply, hmark, hsent _ hf.orig, hsent _ hf.reply, key_addrs hf.orig, key_addrs hf.reply,
    key_proto hf.orig hwrites, key_proto hf.reply (by rw [hf.proto]; exact hwrites),
    hshown _ (by decide), hshown _ (by decide), NfConntrackZone.shown, if_pos hdir, hid]
  exact ⟨rfl, rfl, rfl, rfl⟩

variable {env : CreateEnv} {w w' : CtWorld} {held : CtPtr → ℕ} {f : Flow} {p : CtPtr} {info : NfnlInfo}
  {q : CtQuery} {events : UInt32} {s : DumpSession} {r : ProtoRecords} {n : ℕ} {zone : ℤ}

/-- What is shown behind a creation. -/
theorem shown_gained (h : w.Sound held) (hgained : w.Gained w' p) (nlenv : NlEnv) (net : NetPtr) (x : CtPtr) :
    w'.Shown nlenv net zone x ↔ (x = p ∧ w'.Shown nlenv net zone p) ∨ w.Shown nlenv net zone x := by
  have hlisted : w'.Listed x ↔ x = p ∨ w.Listed x := hgained.nodes _
  have hold : ¬ w.Listed p := fun hl => hgained.fresh (h.live_of_listed hl)
  by_cases hxp : x = p
  · rw [hxp]
    exact ⟨fun hs => .inl ⟨rfl, hs⟩, fun hs => hs.elim And.right fun hs => absurd hs.1 hold⟩
  · unfold CtWorld.Shown
    rw [hlisted, hgained.conn x hxp]
    simp [hxp]

/-- **What `ct add` adds, `ct show` shows**: behind a successful creation, the CLI gets a flow for each conntrack
that was shown before and, if it has not expired and is of a zone that is shown, one for the new conntrack, with
the tuples, the zone and the mark that were added. -/
theorem ctShow_add (h : w.Sound held) (henv : env.Lawful) (hf : f.New)
    (hports : env.toFilterEnv.Ports f.tupleOrig.proto.protocol) (hq : connCreate env.endian f = .ok q)
    (hadd : w.rcvNew env info q = ⟨0, w', some (p, events)⟩)
    (hshow : ShowSession s r e n env.toFilterEnv info.net zone w')
    (hwrites : ∀ k ≤ n, ((s.env k).tupleToNlattr f.tupleOrig.proto.protocol).isSome)
    (hlive : nfCtIsExpired (s.env 0) (w'.conn p) = false) {datagrams : List Bytes} (hsent : s.Sent e n datagrams)
    (after : List Bytes) :
    ∃ (ps : List CtPtr) (flows : List Flow),
      connDumpFilter e s.req.seq s.req.portid (datagrams ++ after) = .ok (flows, after) ∧
      List.Forall₂ (fun x flow => ∃ k ≤ n, (dumpCall (s.env k) s.req (s.table k) x).Tells r flow) ps flows ∧
      ps.Nodup ∧
      (∀ x, x ∈ ps ↔ (x = p ∧ (zone = -1 ∨ f.zone = goUint16 zone)) ∨ w.Shown (s.env 0) info.net zone x) ∧
      ∀ flow : Flow, (p, flow) ∈ ps.zip flows →
        flow.tupleOrig = f.tupleOrig.sent ∧ flow.tupleReply = f.tupleReply.sent ∧ flow.zone = f.zone ∧
          flow.mark = f.mark := by
  obtain ⟨hgained, hfresh⟩ := rcvNew_gained h henv hf hports hq hadd
  obtain ⟨ps, flows, hflows, htells, hnodup, hmem⟩ := hshow.flows hsent after
  refine ⟨ps, flows, hflows, htells, hnodup, fun x => ?_, fun flow hflow => ?_⟩
  · have hnew : w'.Shown (s.env 0) info.net zone p ↔ zone = -1 ∨ f.zone = goUint16 zone := by
      obtain ⟨hid, hdir⟩ := newZone_id f
      have horig : origZoneId (w'.conn p) = f.zone := by
        rw [origZoneId, hfresh.zone, nfCtZoneId, hdir, if_pos (by decide), hid]
      unfold CtWorld.Shown inShownZone
      rw [horig]
      exact ⟨fun hs => hs.2.2.2, fun hz => ⟨(hgained.nodes _).mpr (.inl rfl), hlive, hfresh.net, hz⟩⟩
    rw [hmem, shown_gained h hgained, hnew]
  · obtain ⟨k, hk, helper, -, htell⟩ := (List.forall₂_iff_zip.mp htells).2 hflow
    rw [htell]
    exact fresh_told hf (hwrites k hk) hfresh (hshow.record hlive hk) p _ helper

/-! A session over a table of one new conntrack, to try it on. -/

/-- A host on which nothing has expired. -/
def earlyNlEnv : NlEnv := { stockNlEnv with nfctTimeStamp := 0xffffffff }

theorem earlyNlEnv_stock : earlyNlEnv.Stock stockRecords := ⟨stockNlEnv_stock.tuple, stockNlEnv_stock.info⟩

def addedWorld : CtWorld := emptyWorld.ctAdd kernelEnv ⟨0, 1, 1, 0, 0⟩ 100

/-- `ct show -z 100`. -/
def addedSession : DumpSession where
  req := sampleRequest
  env := fun _ => earlyNlEnv
  table := fun _ => addedWorld.hash
  cap := fun _ => 1024
  cap_lt := fun _ => by decide

theorem addedWorld_sound : addedWorld.Sound fun _ => 0 := by
  obtain ⟨q, -, hadd⟩ := ctAdd_empty
  have hsound := emptyWorld_sound.rcvNew kernelEnv_lawful ⟨0, 1, 1, 0, 0⟩ q
  rw [hadd] at hsound
  exact hsound

/-- Its conntrack, and what the rest of the heap holds. -/
theorem addedWorld_conn (x : CtPtr) : x ≠ 1 → addedWorld.conn x = sampleConn (sampleTcp .none 0 0 0) := by
  obtain ⟨q, hq, hadd⟩ := ctAdd_empty
  have hgained := (rcvNew_gained emptyWorld_sound kernelEnv_lawful (ctAddFlow_new 100) kernelFilterEnv_ports hq
    hadd).1
  exact hgained.conn x

theorem addedSession_live (x : CtPtr) : nfCtIsExpired earlyNlEnv (addedWorld.conn x) = false := by
  by_cases hx : x = 1
  · rw [hx]
    decide +kernel
  · rw [addedWorld_conn x hx]
    decide

/-- A message about it fits. -/
theorem addedWorld_need : (dumpNeed earlyNlEnv sampleRequest addedWorld.hash 1 1024).isSome := by decide +kernel

theorem addedSession_show : ∃ n, ShowSession addedSession stockRecords .little n kernelFilterEnv 0 100 addedWorld := by
  have hunchanged : ∀ k, addedSession.Unchanged k :=
    addedSession.unchanged_of_steady (fun _ => rfl) (fun _ => rfl) addedSession_live
  have hroomy : ∀ k, addedSession.Roomy k := by
    intro k p hp
    have heligible : eligible earlyNlEnv sampleRequest addedWorld.hash = [1] := by decide +kernel
    have hp1 : p = 1 := List.mem_singleton.mp (heligible ▸ hp)
    rw [hp1]
    exact addedWorld_need
  have hread : ∀ x, (addedWorld.conn x).Readable := by
    intro x
    by_cases hx : x = 1
    · rw [hx]
      refine ⟨by decide +kernel, by decide +kernel, fun hexp => ?_, fun h hh => ?_⟩
      · exact absurd hexp (by decide +kernel)
      · have hnone : (addedWorld.conn 1).help.isNone := by decide +kernel
        rw [hh] at hnone
        cases hnone
    · rw [addedWorld_conn x hx]
      exact sampleConn_readable _
  obtain ⟨n, hn⟩ := DumpSession.exists_endsAt (@DumpSession.exists_end addedSession 0 hroomy fun k _ =>
    (hunchanged k).quiet)
  exact ⟨n, rfl, sampleRequest_show, by decide, hn, fun k _ => hroomy k, fun k _ => hunchanged k,
    fun k _ => ⟨rfl, earlyNlEnv_stock⟩, fun k _ p _ => hread p⟩

/-- `ct add -z 100` and `ct show -z 100`. -/
theorem ctShow_add_sample : ∃ (n : ℕ) (ps : List CtPtr) (flows : List Flow),
    connDumpFilter .little 1 1 (addedSession.datagrams .little 0 n ++ []) = .ok (flows, []) ∧
      (∀ x, x ∈ ps ↔ (x = 1 ∧ ((100 : ℤ) = -1 ∨ (ctAddFlow 100).zone = goUint16 100)) ∨
        emptyWorld.Shown earlyNlEnv 0 100 x) ∧
      ∀ flow : Flow, (1, flow) ∈ ps.zip flows → flow.zone = 100 ∧ flow.mark = 0xff := by
  obtain ⟨q, hq, hadd⟩ := ctAdd_empty
  obtain ⟨n, hshow⟩ := addedSession_show
  obtain ⟨ps, flows, hflows, -, -, hmem, htold⟩ := ctShow_add emptyWorld_sound kernelEnv_lawful
    (ctAddFlow_new 100) kernelFilterEnv_ports hq hadd hshow (fun k _ => rfl) (addedSession_live 1)
    (addedSession.datagrams_sent .little 0 n) []
  exact ⟨n, ps, flows, hflows, hmem, fun flow hflow => ⟨(htold flow hflow).2.2.1, (htold flow hflow).2.2.2⟩⟩

end AddShow

/-! ### Flushing and showing -/

section FlushShow

variable {e : Endian} {env : CreateEnv} {w : CtWorld} {held : CtPtr → ℕ} {p : CtPtr} {info : NfnlInfo}
  {s : DumpSession} {r : ProtoRecords} {n : ℕ} {zone zone' : ℤ}

open CtWorld in
/-- What is in the table behind a flush, and that it is as it was, but for the references. -/
theorem ctFlush_listed (h : w.Sound held) (info : NfnlInfo) (zone : ℤ) (p : CtPtr) :
    ((w.ctFlush env info zone).Listed p ↔ w.Listed p ∧ ¬ ((w.conn p).net = info.net ∧
      ¬ (w.conn p).testStatus ipsOffloadBit ∧ (zone = -1 ∨ origZoneId (w.conn p) = goUint16 zone))) ∧
    ((w.ctFlush env info zone).Listed p →
      uncounted ((w.ctFlush env info zone).conn p) = uncounted (w.conn p)) := by
  have hentries := entries_ctFlush env h info zone
  rw [flush_keeps] at hentries
  set w' := w.ctFlush env info zone
  have hkept : ∀ ct : NfConn, (!(Flushable info.net (uncounted ct) &&
      (decide (zone = -1) || decide (origZoneId (uncounted ct) = goUint16 zone)))) = true ↔
        ¬ (ct.net = info.net ∧ ¬ ct.testStatus ipsOffloadBit ∧ (zone = -1 ∨ origZoneId ct = goUint16 zone)) := by
    intro ct
    show (!((decide (ct.net = info.net) && !ct.testStatus ipsOffloadBit) &&
      (decide (zone = -1) || decide (origZoneId ct = goUint16 zone)))) = true ↔ _
    rw [Bool.not_eq_true', Bool.eq_false_iff, ← and_assoc]
    simp only [ne_eq, Bool.and_eq_true, Bool.or_eq_true, Bool.not_eq_true', decide_eq_true_eq, Bool.not_eq_true]
  have hmem : ∀ ct, (p, ct) ∈ w'.entries ↔ w.Listed p ∧ ct = uncounted (w.conn p) ∧
      ¬ ((w.conn p).net = info.net ∧ ¬ (w.conn p).testStatus ipsOffloadBit ∧
        (zone = -1 ∨ origZoneId (w.conn p) = goUint16 zone)) := by
    intro ct
    rw [hentries, List.mem_filter, mem_entries, and_assoc]
    refine and_congr_right fun _ => and_congr_right fun hct => ?_
    dsimp only at hct ⊢
    rw [hct]
    exact hkept (w.conn p)
  have hself : w'.Listed p → (p, uncounted (w'.conn p)) ∈ w'.entries := fun hl => mem_entries.mpr ⟨hl, rfl⟩
  refine ⟨⟨fun hl => ?_, fun hl => ?_⟩, fun hl => ((hmem _).mp (hself hl)).2.1⟩
  · obtain ⟨hl', -, hkeep⟩ := (hmem _).mp (hself hl)
    exact ⟨hl', hkeep⟩
  · exact (mem_entries.mp ((hmem (uncounted (w.conn p))).mpr ⟨hl.1, rfl, hl.2⟩)).1

/-- **What `ct flush` removes is no longer shown**, and everything else is: behind a flush of a zone, the CLI gets
one flow, which tells it, for each conntrack that it got one for before, except those of that zone that are not
offloaded. -/
theorem ctShow_flush (h : w.Sound held)
    (hshow : ShowSession s r e n env.toFilterEnv info.net zone' (w.ctFlush env info zone))
    {datagrams : List Bytes} (hsent : s.Sent e n datagrams) (after : List Bytes) :
    ∃ (ps : List CtPtr) (flows : List Flow),
      connDumpFilter e s.req.seq s.req.portid (datagrams ++ after) = .ok (flows, after) ∧
      List.Forall₂ (fun x flow => ∃ k ≤ n, (dumpCall (s.env k) s.req (s.table k) x).Tells r flow) ps flows ∧
      ps.Nodup ∧
      ∀ x, x ∈ ps ↔ w.Shown (s.env 0) info.net zone' x ∧
        ((w.conn x).testStatus ipsOffloadBit ∨ (zone ≠ -1 ∧ origZoneId (w.conn x) ≠ goUint16 zone)) := by
  obtain ⟨ps, flows, hflows, htells, hnodup, hmem⟩ := hshow.flows hsent after
  refine ⟨ps, flows, hflows, htells, hnodup, fun x => ?_⟩
  obtain ⟨hlisted, hsame⟩ := @ctFlush_listed env w held h info zone x
  have hshown : ∀ ct ct' : NfConn, CtWorld.uncounted ct = CtWorld.uncounted ct' →
      (nfCtIsExpired (s.env 0) ct = nfCtIsExpired (s.env 0) ct' ∧ ct.net = ct'.net ∧
        (inShownZone zone' ct ↔ inShownZone zone' ct')) := by
    intro ct ct' heq
    have hexp : nfCtIsExpired (s.env 0) (CtWorld.uncounted ct) = nfCtIsExpired (s.env 0) (CtWorld.uncounted ct') := by
      rw [heq]
    have hnet : (CtWorld.uncounted ct).net = (CtWorld.uncounted ct').net := by rw [heq]
    have hzone : inShownZone zone' (CtWorld.uncounted ct) ↔ inShownZone zone' (CtWorld.uncounted ct') := by rw [heq]
    exact ⟨hexp, hnet, hzone⟩
  rw [hmem]
  unfold CtWorld.Shown
  constructor
  · rintro ⟨hl, hexp, hnet, hzone⟩
    obtain ⟨hexp', hnet', hzone'⟩ := hshown _ _ (hsame hl)
    obtain ⟨hold, hkeep⟩ := hlisted.mp hl
    rw [hnet'] at hnet
    refine ⟨⟨hold, hexp'.symm.trans hexp, hnet, hzone'.mp hzone⟩, ?_⟩
    by_cases hoff : (w.conn x).testStatus ipsOffloadBit
    · exact .inl hoff
    · exact .inr (not_or.mp fun hz => hkeep ⟨hnet, hoff, hz⟩)
  · rintro ⟨⟨hold, hexp, hnet, hzone⟩, hkeep⟩
    have hl : (w.ctFlush env info zone).Listed x := by
      refine hlisted.mpr ⟨hold, fun hgone => ?_⟩
      rcases hkeep with hoff | ⟨hne, hne'⟩
      · exact hgone.2.1 hoff
      · exact hgone.2.2.elim hne hne'
    obtain ⟨hexp', hnet', hzone'⟩ := hshown _ _ (hsame hl)
    exact ⟨hl, hexp'.trans hexp, hnet'.trans hnet, hzone'.mpr hzone⟩

/-- The table behind a flush of the zone of its conntrack. -/
def flushedWorld : CtWorld := addedWorld.ctFlush kernelEnv ⟨0, 1, 1, 0, 0⟩ 100

/-- `ct show -z 100` behind it. -/
def flushedSession : DumpSession := { addedSession with table := fun _ => flushedWorld.hash }

theorem flushedSession_show :
    ShowSession flushedSession stockRecords .little 0 kernelFilterEnv 0 100 flushedWorld := by
  have heligible : eligible earlyNlEnv sampleRequest flushedWorld.hash = [] := by decide +kernel
  have htodo : flushedSession.todo 0 = [] := pending_zero.trans heligible
  have hreported : flushedSession.reported 0 = [] := by
    have hall := flushedSession.reported_append_left 0
    rw [htodo] at hall
    exact (List.append_eq_nil_iff.mp hall).1
  refine ⟨rfl, sampleRequest_show, by decide, ⟨DumpSession.call_of_todo_nil htodo, fun j hj => by omega⟩,
    fun k hk p hp => ?_, fun k hk => by omega, fun k _ => ⟨rfl, earlyNlEnv_stock⟩, fun k hk p hp => ?_⟩
  · have hnone : p ∈ eligible earlyNlEnv sampleRequest flushedWorld.hash := hp
    rw [heligible] at hnone
    cases hnone
  · rw [Nat.le_zero.mp hk, hreported] at hp
    cases hp

/-- `ct add -z 100`, `ct flush -z 100` and `ct show -z 100`: the conntrack that was shown is shown no more. -/
theorem ctShow_flush_sample :
    addedWorld.Shown earlyNlEnv 0 100 1 ∧ ∃ (ps : List CtPtr) (flows : List Flow),
      connDumpFilter .little 1 1 (flushedSession.datagrams .little 0 0 ++ []) = .ok (flows, []) ∧
      List.Forall₂ (fun x flow => ∃ k ≤ 0, (dumpCall (flushedSession.env k) flushedSession.req
        (flushedSession.table k) x).Tells stockRecords flow) ps flows ∧
      ps.Nodup ∧ 1 ∉ ps := by
  have hshown : addedWorld.Shown earlyNlEnv 0 100 1 := by
    refine ⟨by decide +kernel, addedSession_live 1, by decide +kernel, .inr ?_⟩
    decide +kernel
  refine ⟨hshown, ?_⟩
  obtain ⟨ps, flows, hflows, htells, hnodup, hmem⟩ := ctShow_flush addedWorld_sound
    (show ShowSession flushedSession stockRecords .little 0 kernelEnv.toFilterEnv (⟨0, 1, 1, 0, 0⟩ : NfnlInfo).net
      100 (addedWorld.ctFlush kernelEnv ⟨0, 1, 1, 0, 0⟩ 100) from flushedSession_show)
    (flushedSession.datagrams_sent .little 0 0) []
  refine ⟨ps, flows, hflows, htells, hnodup, fun h1 => ?_⟩
  have hnot : ¬ ((addedWorld.conn 1).testStatus ipsOffloadBit ∨
      ((100 : ℤ) ≠ -1 ∧ origZoneId (addedWorld.conn 1) ≠ goUint16 100)) := by decide +kernel
  exact hnot ((hmem 1).mp h1).2

end FlushShow

end VgwDriver
