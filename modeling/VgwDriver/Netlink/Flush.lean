import VgwDriver.Netlink.Filter

/-!
# Flushing conntracks

`vgwctl ct flush -z z`: the CLI's request, its way through `ctnetlink_del_conntrack` and
`ctnetlink_flush_conntrack`, and the conntracks it removes.

* `flush_keeps` — what a request with the CLI's attributes removes;
* `flush_exact_iff` — **the command removes exactly the zone it was given**, if and only if the number is
  `-1` or a 16-bit zone id, or no conntrack would be removed in the zone it is cut to.
-/

namespace VgwDriver

open Base

/-- The conntracks there are, with the pointers they are known by. -/
abbrev CtTable := List (CtPtr × NfConn)

/-! ### The kernel's side -/

/-- `ctnetlink_flush_iterate`. -/
def ctnetlinkFlushIterate (ct : NfConn) (filter : Option CtnetlinkFilter) : Bool :=
  if ct.testStatus ipsOffloadBit then false else ctnetlinkFilterMatch ct filter

/-- `nf_ct_iterate_cleanup_net`: the callback is asked once about each conntrack of the namespace, and
those it returns true for are deleted. -/
def nfCtIterateCleanupNet (net : NetPtr) (iter : NfConn → Bool) (table : CtTable) : CtTable :=
  table.filter fun entry => !(entry.2.net = net && iter entry.2)

/-- `ctnetlink_flush_conntrack`. -/
def ctnetlinkFlushConntrack (env : FilterEnv) (net : NetPtr) (cda : NlaTable) (family : UInt8)
    (table : CtTable) : ℤ × CtTable :=
  if ctnetlinkNeedsFilter family cda then
    if (cda ctaFilter).isSome then (-eopnotsupp, table)
    else
      match ctnetlinkAllocFilter env cda family with
      | .error err => (err, table)
      | .ok filter =>
        (0, nfCtIterateCleanupNet net (fun ct => ctnetlinkFlushIterate ct (some filter)) table)
  else (0, nfCtIterateCleanupNet net (fun ct => ctnetlinkFlushIterate ct none) table)

/-- What `ctnetlink_del_conntrack` calls besides the parsers: the table lookup and `nf_ct_get_id`. -/
structure DelEnv extends FilterEnv where
  nfConntrackFindGet : NetPtr → NfConntrackZone → NfConntrackTuple → Option CtPtr
  nfCtGetId : CtPtr → UInt32

/-- The deletion of one conntrack by its tuple. -/
def ctnetlinkDelOne (env : DelEnv) (net : NetPtr) (cda : NlaTable) (zone : NfConntrackZone)
    (tuple : NfConntrackTuple) (table : CtTable) : ℤ × CtTable :=
  match (env.nfConntrackFindGet net zone tuple).bind fun p => table.find? fun entry => entry.1 = p with
  | none => (-enoent, table)
  | some (p, ct) =>
    if ct.testStatus ipsOffloadBit then (-ebusy, table)
    else
      match cda ctaId with
      | some id =>
        -- the id is compared as it stands in memory
        if get32 env.endian (id.payload.take 4) ≠ env.nfCtGetId p then (-enoent, table)
        else (0, table.filter fun entry => entry.1 ≠ p)
      | none => (0, table.filter fun entry => entry.1 ≠ p)

/-- `ctnetlink_del_conntrack`. -/
def ctnetlinkDelConntrack (env : DelEnv) (net : NetPtr) (cda : NlaTable) (family version : UInt8)
    (table : CtTable) : ℤ × CtTable :=
  let zone := ctnetlinkParseZone (cda ctaZone)
  match cda ctaTupleOrig, cda ctaTupleReply with
  | some attr, _ =>
    match ctnetlinkParseTuple env.toFilterEnv attr ctaTupleOrig family zone with
    | .error err => (err, table)
    | .ok (tuple, zone) => ctnetlinkDelOne env net cda zone tuple table
  | none, some attr =>
    match ctnetlinkParseTuple env.toFilterEnv attr ctaTupleReply family zone with
    | .error err => (err, table)
    | .ok (tuple, zone) => ctnetlinkDelOne env net cda zone tuple table
  | none, none =>
    let u3 := if version ≠ 0 then family else 0
    ctnetlinkFlushConntrack env.toFilterEnv net cda u3 table

/-! ### The branches of a flush -/

section Flush

variable {env : FilterEnv} {cda : NlaTable} {family : UInt8}

theorem flushConntrack_unfiltered (h : ctnetlinkNeedsFilter family cda = false) (net : NetPtr)
    (table : CtTable) :
    ctnetlinkFlushConntrack env net cda family table
      = (0, nfCtIterateCleanupNet net (fun ct => ctnetlinkFlushIterate ct none) table) := by
  rw [ctnetlinkFlushConntrack, h]
  rfl

/-- A flush by `CTA_FILTER` is not supported. -/
theorem flushConntrack_byFilter (h : ctnetlinkNeedsFilter family cda = true)
    (hfilter : (cda ctaFilter).isSome = true) (net : NetPtr) (table : CtTable) :
    ctnetlinkFlushConntrack env net cda family table = (-eopnotsupp, table) := by
  rw [ctnetlinkFlushConntrack, if_pos h, if_pos hfilter]

theorem flushConntrack_filtered (h : ctnetlinkNeedsFilter family cda = true) (hfilter : cda ctaFilter = none)
    (net : NetPtr) (table : CtTable) :
    ctnetlinkFlushConntrack env net cda family table =
      match ctnetlinkAllocFilter env cda family with
      | .error err => (err, table)
      | .ok filter =>
        (0, nfCtIterateCleanupNet net (fun ct => ctnetlinkFlushIterate ct (some filter)) table) := by
  rw [ctnetlinkFlushConntrack, if_pos h, hfilter]
  rfl

/-- Without tuples, a delete request is a flush. -/
theorem delConntrack_eq_flush (horig : cda ctaTupleOrig = none) (hreply : cda ctaTupleReply = none)
    (env : DelEnv) (net : NetPtr) (family version : UInt8) (table : CtTable) :
    ctnetlinkDelConntrack env net cda family version table = ctnetlinkFlushConntrack env.toFilterEnv net cda
      (if version ≠ 0 then family else 0) table := by
  rw [ctnetlinkDelConntrack, horig, hreply]

end Flush

/-! ### The CLI's side -/

/-- The Go conversion `uint16(i)`. -/
def goUint16 (i : ℤ) : UInt16 := UInt16.ofNat (i % 65536).toNat

/-- `FilterZone.Marshal`. -/
def filterZoneMarshal (zone : UInt16) : List Attr := [⟨ctaZone, put16 .big zone⟩]

/-- The attributes `runCmdCtFlush` hands to `FlushFilter`. -/
def flushAttrs (zone : ℤ) : List Attr :=
  if zone ≠ -1 then filterZoneMarshal (goUint16 zone) else []

/-- `runCmdCtFlush`: `FlushFilter` sends a delete request of family and version 0; the result is the table
afterwards. -/
def runCmdCtFlush (env : DelEnv) (net : NetPtr) (zone : ℤ) (table : CtTable) : CtTable :=
  (ctnetlinkDelConntrack env net (nlaTable ctaMax (flushAttrs zone)) 0 0 table).2

/-! ### What is removed -/

/-- The zone id of a conntrack in the original direction. -/
def origZoneId (ct : NfConn) : UInt16 := nfCtZoneId ct.zone .original

/-- The conntracks of the namespace that a flush may remove. -/
def Flushable (net : NetPtr) (ct : NfConn) : Bool := ct.net = net && !ct.testStatus ipsOffloadBit

/-- What the command is for: the flushable conntracks of the zone, or all of them for `-1`. -/
def flushed (net : NetPtr) (zone : ℤ) (table : CtTable) : CtTable :=
  table.filter fun entry =>
    !(Flushable net entry.2 && (zone = -1 || ((origZoneId entry.2).toNat : ℤ) = zone))

theorem goUint16_toNat (i : ℤ) : ((goUint16 i).toNat : ℤ) = i % 65536 := by
  unfold goUint16
  rw [UInt16.toNat_ofNat']
  omega

/-- **What the command removes**: the flushable conntracks of the zone its argument is cut to. -/
theorem flush_keeps (env : DelEnv) (net : NetPtr) (zone : ℤ) (table : CtTable) :
    runCmdCtFlush env net zone table = table.filter fun entry =>
      !(Flushable net entry.2 && (zone = -1 || origZoneId entry.2 = goUint16 zone)) := by
  have hflush : ∀ {cda : NlaTable}, cda ctaTupleOrig = none → cda ctaTupleReply = none →
      ctnetlinkDelConntrack env net cda 0 0 table = ctnetlinkFlushConntrack env.toFilterEnv net cda 0 table :=
    fun horig hreply => delConntrack_eq_flush horig hreply env net 0 0 table
  by_cases hz : zone = -1
  · have hcda : nlaTable ctaMax (flushAttrs zone) = fun _ => none := by
      funext t
      simp [flushAttrs, hz, nlaTable]
    rw [runCmdCtFlush, hcda, hflush rfl rfl, flushConntrack_unfiltered (by simp [ctnetlinkNeedsFilter])]
    refine List.filter_congr fun entry _ => ?_
    cases hoff : entry.2.testStatus ipsOffloadBit <;>
      simp [ctnetlinkFlushIterate, ctnetlinkFilterMatch, Flushable, hoff, hz]
  · have hattrs : flushAttrs zone = [nlaBe16 ctaZone (goUint16 zone)] := by
      rw [flushAttrs, if_pos hz]
      rfl
    have htab := nlaTable_zone ctaMax (goUint16 zone) (by decide)
    have hmax : ctaZone ≤ ctaMax := by decide
    have halloc := allocFilter_zone env.toFilterEnv hmax (goUint16 zone)
    have hnofilter : nlaTable ctaMax [nlaBe16 ctaZone (goUint16 zone)] ctaFilter = none := by
      rw [htab, if_neg (by decide)]
    have horig : nlaTable ctaMax [nlaBe16 ctaZone (goUint16 zone)] ctaTupleOrig = none := by
      rw [htab, if_neg (by decide)]
    have hreply : nlaTable ctaMax [nlaBe16 ctaZone (goUint16 zone)] ctaTupleReply = none := by
      rw [htab, if_neg (by decide)]
    rw [runCmdCtFlush, hattrs, hflush horig hreply,
      flushConntrack_filtered (by simp [ctnetlinkNeedsFilter, htab]) hnofilter, halloc]
    refine List.filter_congr fun entry _ => ?_
    have hmatch := filterMatch_zone entry.2 (goUint16 zone)
    cases hoff : entry.2.testStatus ipsOffloadBit with
    | true => simp [ctnetlinkFlushIterate, Flushable, hoff]
    | false =>
      by_cases hid : nfCtZoneId entry.2.zone .original = goUint16 zone
      · simp [ctnetlinkFlushIterate, Flushable, hoff, hz, hmatch.mpr hid, origZoneId, hid]
      · have hno := Bool.eq_false_iff.mpr fun h => hid (hmatch.mp h)
        simp [ctnetlinkFlushIterate, Flushable, hoff, hz, hno, origZoneId, hid]

/-- **The command removes exactly the zone it was given**, if and only if its argument is `-1` or a 16-bit
number, or the namespace has no conntrack that may be removed in the zone the argument is cut to. -/
theorem flush_exact_iff (env : DelEnv) (net : NetPtr) (zone : ℤ) (table : CtTable) :
    runCmdCtFlush env net zone table = flushed net zone table ↔
      zone = -1 ∨ (0 ≤ zone ∧ zone < 65536) ∨
        ∀ entry ∈ table, Flushable net entry.2 → origZoneId entry.2 ≠ goUint16 zone := by
  have hnat := goUint16_toNat zone
  have hcut : ∀ ct, origZoneId ct = goUint16 zone ↔ ((origZoneId ct).toNat : ℤ) = zone % 65536 := by
    intro ct
    rw [← hnat, ← UInt16.toNat_inj]
    omega
  rw [flush_keeps, flushed]
  constructor
  · intro hsame
    by_cases hz : zone = -1
    · exact .inl hz
    by_cases hrange : 0 ≤ zone ∧ zone < 65536
    · exact .inr (.inl hrange)
    -- out of range: a conntrack removed in the cut zone would be kept by the exact command
    refine .inr (.inr fun entry hmem hflush hid => ?_)
    have hkept : entry ∈ table.filter fun entry =>
        !(Flushable net entry.2 && (zone = -1 || ((origZoneId entry.2).toNat : ℤ) = zone)) := by
      have hlt := (origZoneId entry.2).toNat_lt
      have hne : ¬ ((origZoneId entry.2).toNat : ℤ) = zone := by omega
      simp [hmem, hz, hne]
    rw [← hsame] at hkept
    simp [hflush, hid] at hkept
  · intro hcond
    refine List.filter_congr fun entry hmem => ?_
    rcases hcond with hz | hrange | hnone
    · simp [hz]
    · have hmod : zone % 65536 = zone := Int.emod_eq_of_lt hrange.1 hrange.2
      simp [hcut, hmod]
    · cases hflush : Flushable net entry.2 with
      | false => simp
      | true =>
        have hid := hnone entry hmem hflush
        have hne : ¬ ((origZoneId entry.2).toNat : ℤ) = zone := by
          intro heq
          have hlt := (origZoneId entry.2).toNat_lt
          exact hid ((hcut _).mpr (by omega))
        simp [hid, hne]

/-- `ct flush -z 65636` removes a connection of zone 100. -/
theorem flush_exact_fails :
    ¬ ∀ (env : DelEnv) (net : NetPtr) (zone : ℤ) (table : CtTable),
      runCmdCtFlush env net zone table = flushed net zone table := by
  intro hall
  have h := hall ⟨⟨.little, fun _ => none⟩, fun _ _ _ => none, fun _ => 0⟩ 0 65636
    [(0, { sampleConn (sampleTcp .established 0 0 0) with zone := ⟨100, 0, nfCtDefaultZoneDir⟩ })]
  revert h
  decide

end VgwDriver
