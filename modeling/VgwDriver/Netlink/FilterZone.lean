import VgwDriver.Netlink.FilterSpec

/-!
# The zone a filter tests

A request names a zone by `CTA_ZONE` or in a tuple, three parsers write the filter's zone, and
`ctnetlink_filter_match` tests it.

* `filterMatch_eq_and` — a match is a match without the zone and one in the zone;
* `zone_selects_iff` — **the zone test does what the request says**: exactly when.
-/

namespace VgwDriver

open Base

/-! ### The zone test -/

/-- The zone test alone. -/
def CtnetlinkFilter.passesZone (filter : CtnetlinkFilter) (ct : NfConn) : Bool :=
  ctnetlinkFilterMatch ct (some { CtnetlinkFilter.zero with zone := filter.zone })

theorem passesZone_iff (filter : CtnetlinkFilter) (ct : NfConn) :
    filter.passesZone ct = true ↔
      (filter.zone.flags &&& nfCtZoneDirOrig ≠ 0 → nfCtZoneId ct.zone .original = filter.zone.id) := by
  rw [imp_iff_not_or]
  simp [CtnetlinkFilter.passesZone, ctnetlinkFilterMatch, CtnetlinkFilter.zero]

/-- **A match is a match without the zone, and in the zone.** -/
theorem filterMatch_eq_and (filter : CtnetlinkFilter) (ct : NfConn) :
    ctnetlinkFilterMatch ct (some filter)
      = (ctnetlinkFilterMatch ct (some filter.unzoned) && filter.passesZone ct) := by
  have hzone : ¬ filter.unzoned.zone.flags &&& nfCtZoneDirOrig ≠ 0 := by
    show ¬ (0 : UInt8) &&& nfCtZoneDirOrig ≠ 0
    decide
  rw [Bool.eq_iff_iff, Bool.and_eq_true, filterMatch_iff, filterMatch_iff, passesZone_iff]
  have hdir : ∀ dir, filter.unzoned.tuple dir = filter.tuple dir ∧
      filter.unzoned.flags dir = filter.flags dir := by
    intro dir
    cases dir <;> exact ⟨rfl, rfl⟩
  simp only [fun dir => (hdir dir).1, fun dir => (hdir dir).2]
  constructor
  · intro h
    exact ⟨⟨h.1, h.2.1, fun hz => absurd hz hzone, h.2.2.2⟩, h.2.2.1⟩
  · intro h
    exact ⟨h.1.1, h.1.2.1, h.2, h.1.2.2.2⟩

/-- The zone the request names in a direction's tuple. -/
def FilterEnv.namedZone (env : FilterEnv) (cda : NlaTable) (filter : CtnetlinkFilter) (dir : IpConntrackDir) :
    Option UInt16 :=
  env.tupleZone (cda dir.tupleAttr) (filter.flags dir)

/-- The zone test does what the request says: it tests the zone of `CTA_ZONE` in the original direction, else
the zone of a tuple in the tuple's direction, and nothing if no zone is named. -/
structure FilterEnv.TestsZone (env : FilterEnv) (cda : NlaTable) (filter : CtnetlinkFilter) : Prop where
  zone : ∀ a, cda ctaZone = some a →
    ∀ ct, filter.passesZone ct = true ↔ nfCtZoneId ct.zone .original = nlaGetBe16 a
  tuple : cda ctaZone = none → ∀ dir z, env.namedZone cda filter dir = some z →
    ∀ ct, filter.passesZone ct = true ↔ nfCtZoneId ct.zone dir = z
  unnamed : cda ctaZone = none → (∀ dir, env.namedZone cda filter dir = none) →
    ∀ ct, filter.passesZone ct = true

/-- The test of a zone that is marked as named, whatever its direction. -/
theorem passesZone_named {filter : CtnetlinkFilter} {z : UInt16} {dir : UInt8}
    (h : filter.zone = ⟨z, nfCtZoneDirOrig, dir⟩) (ct : NfConn) :
    filter.passesZone ct = true ↔ nfCtZoneId ct.zone .original = z := by
  have hbit : nfCtZoneDirOrig &&& nfCtZoneDirOrig ≠ 0 := by decide
  rw [passesZone_iff, h]
  exact ⟨fun htest => htest hbit, fun hid _ => hid⟩

/-- A conntrack in a zone. -/
def zoneConn (zone : NfConntrackZone) : NfConn :=
  { sampleConn (sampleTcp .established 0 0 0) with zone := zone }

theorem zoneConn_id (z : UInt16) (bits : UInt8) (dir : IpConntrackDir) :
    nfCtZoneId (zoneConn ⟨z, 0, bits⟩).zone dir = if bits &&& dir.zoneBit ≠ 0 then z else 0 := rfl

/-- Two zones with the same conntracks in the original direction are the same. -/
theorem zone_eq_of_iff {z z' : UInt16}
    (h : ∀ ct : NfConn, nfCtZoneId ct.zone .original = z ↔ nfCtZoneId ct.zone .original = z') : z = z' := by
  have hz : nfCtZoneId (zoneConn ⟨z, 0, nfCtDefaultZoneDir⟩).zone .original = z :=
    (zoneConn_id _ _ _).trans (if_pos (by decide))
  exact hz.symm.trans ((h _).mp hz)

/-- No zone has the same conntracks in both directions. -/
theorem zone_directions_differ (z : UInt16) :
    ¬ ∀ ct : NfConn, nfCtZoneId ct.zone .original = z ↔ nfCtZoneId ct.zone .reply = z := by
  intro h
  by_cases hz : z = 0
  · have horig : nfCtZoneId (zoneConn ⟨1, 0, nfCtZoneDirRepl⟩).zone .original = 0 :=
    (zoneConn_id _ _ _).trans (if_neg (by decide))
    have hreply : nfCtZoneId (zoneConn ⟨1, 0, nfCtZoneDirRepl⟩).zone .reply = 1 :=
    (zoneConn_id _ _ _).trans (if_pos (by decide))
    have hone := (h (zoneConn ⟨1, 0, nfCtZoneDirRepl⟩)).mp (horig.trans hz.symm)
    rw [hreply, hz] at hone
    exact absurd hone (by decide)
  · have horig : nfCtZoneId (zoneConn ⟨z, 0, nfCtZoneDirOrig⟩).zone .original = z :=
    (zoneConn_id _ _ _).trans (if_pos (by decide))
    have hreply : nfCtZoneId (zoneConn ⟨z, 0, nfCtZoneDirOrig⟩).zone .reply = 0 :=
    (zoneConn_id _ _ _).trans (if_neg (by decide))
    exact hz ((h _).mp horig ▸ hreply)

section Selects

variable {env : FilterEnv} {cda : NlaTable} {family : UInt8} {filter : CtnetlinkFilter}

/-- The zone of the filter, from that of `CTA_ZONE` and those the two tuples name. -/
theorem filterZone_eq (halloc : ctnetlinkAllocFilter env cda family = .ok filter) :
    filter.zone = zoneAfter .reply (env.namedZone cda filter .reply)
      (zoneAfter .original (env.namedZone cda filter .original) (ctnetlinkParseZone (cda ctaZone))) := by
  obtain ⟨-, -, -, zone, horig, hreply⟩ := allocFilter_ok halloc
  have hafter : zone = zoneAfter .original (env.namedZone cda filter .original)
      (ctnetlinkParseZone (cda ctaZone)) := horig.after
  rw [← hafter]
  exact hreply.after

/-- A tuple names a zone only over zone 0. -/
theorem unnamed_orig (halloc : ctnetlinkAllocFilter env cda family = .ok filter) {z : UInt16}
    (hnamed : env.namedZone cda filter .original = some z) : (ctnetlinkParseZone (cda ctaZone)).id = 0 := by
  obtain ⟨-, -, -, zone, horig, -⟩ := allocFilter_ok halloc
  exact horig.unnamed (Option.isSome_of_eq_some hnamed)

theorem unnamed_reply (halloc : ctnetlinkAllocFilter env cda family = .ok filter) {z : UInt16}
    (hnamed : env.namedZone cda filter .reply = some z) :
    (zoneAfter .original (env.namedZone cda filter .original) (ctnetlinkParseZone (cda ctaZone))).id = 0 := by
  obtain ⟨-, -, -, zone, horig, hreply⟩ := allocFilter_ok halloc
  have hafter : zone = zoneAfter .original (env.namedZone cda filter .original)
      (ctnetlinkParseZone (cda ctaZone)) := horig.after
  rw [← hafter]
  exact hreply.unnamed (Option.isSome_of_eq_some hnamed)

/-- If the test is the one of `CTA_ZONE`, a tuple that names a zone names the same. -/
theorem named_of_testsZone (halloc : ctnetlinkAllocFilter env cda family = .ok filter)
    (htests : env.TestsZone cda filter) {a : Attr} (ha : cda ctaZone = some a) {dir : IpConntrackDir}
    {z : UInt16} (hnamed : env.namedZone cda filter dir = some z) : z = nlaGetBe16 a := by
  have hafter := filterZone_eq halloc
  have hsame : ∀ {z' dir'}, filter.zone = ⟨z', nfCtZoneDirOrig, dir'⟩ → z' = nlaGetBe16 a := by
    intro z' dir' hz'
    apply zone_eq_of_iff
    intro ct
    rw [← passesZone_named hz', htests.zone a ha]
  cases hr : env.namedZone cda filter .reply with
  | some r =>
    rw [hr] at hafter
    cases dir with
    | reply =>
      rw [hr] at hnamed
      rw [← Option.some.inj hnamed]
      exact hsame hafter
    | original =>
      -- both tuples name a zone: only 0 can be named over
      have hzone := unnamed_reply halloc hr
      have hattr := unnamed_orig halloc hnamed
      rw [hnamed] at hzone
      rw [ha] at hattr
      exact hzone.trans hattr.symm
  | none =>
    cases dir with
    | reply =>
      rw [hr] at hnamed
      cases hnamed
    | original =>
      rw [hr, hnamed] at hafter
      exact hsame hafter

/-- If the test is the one the tuples ask for, the reply tuple names no zone. -/
theorem reply_unnamed_of_testsZone (halloc : ctnetlinkAllocFilter env cda family = .ok filter)
    (htests : env.TestsZone cda filter) (hnone : cda ctaZone = none) :
    env.namedZone cda filter .reply = none := by
  by_contra hsome
  obtain ⟨r, hr⟩ := Option.ne_none_iff_exists'.mp hsome
  have hafter := filterZone_eq halloc
  rw [hr] at hafter
  apply zone_directions_differ r
  intro ct
  rw [← passesZone_named hafter, htests.tuple hnone .reply r hr]

theorem testsZone_of_named (halloc : ctnetlinkAllocFilter env cda family = .ok filter)
    (hattr : ∀ a, cda ctaZone = some a → ∀ dir z, env.namedZone cda filter dir = some z → z = nlaGetBe16 a)
    (htuple : cda ctaZone = none → env.namedZone cda filter .reply = none) :
    env.TestsZone cda filter := by
  have hafter := filterZone_eq halloc
  refine ⟨fun a ha => ?_, fun hnone dir z hnamed => ?_, fun hnone hnamed ct => ?_⟩
  · cases hr : env.namedZone cda filter .reply with
    | some r =>
      rw [hr, hattr a ha .reply r hr] at hafter
      exact passesZone_named hafter
    | none =>
      cases ho : env.namedZone cda filter .original with
      | some o =>
        rw [hr, ho, hattr a ha .original o ho] at hafter
        exact passesZone_named hafter
      | none =>
        rw [hr, ho, ha] at hafter
        exact passesZone_named hafter
  · cases dir with
    | reply =>
      rw [htuple hnone] at hnamed
      cases hnamed
    | original =>
      rw [htuple hnone, hnamed] at hafter
      exact passesZone_named hafter
  · rw [hnamed .reply, hnamed .original, hnone] at hafter
    rw [passesZone_iff, hafter]
    intro hflag
    exact absurd hflag (by decide)

end Selects

/-- **The zone test does what the request says**, if and only if a tuple that names a zone beside `CTA_ZONE`
names the same, and without `CTA_ZONE` the reply tuple names none. -/
theorem zone_selects_iff {env : FilterEnv} {cda : NlaTable} {family : UInt8} {filter : CtnetlinkFilter}
    (halloc : ctnetlinkAllocFilter env cda family = .ok filter) :
    env.TestsZone cda filter ↔
      (∀ a, cda ctaZone = some a → ∀ dir z, env.namedZone cda filter dir = some z → z = nlaGetBe16 a) ∧
        (cda ctaZone = none → env.namedZone cda filter .reply = none) := by
  constructor
  · intro htests
    exact ⟨fun a ha dir z hnamed => named_of_testsZone halloc htests ha hnamed,
      reply_unnamed_of_testsZone halloc htests⟩
  · rintro ⟨hattr, htuple⟩
    exact testsZone_of_named halloc hattr htuple

/-- A request that names zone 0. -/
theorem zone_selects_sample :
    kernelFilterEnv.TestsZone (nlaTable 26 [nlaBe16 ctaZone 0]) (zoneFilter 0) := by
  have halloc : ctnetlinkAllocFilter kernelFilterEnv (nlaTable 26 [nlaBe16 ctaZone 0]) 0
      = .ok (zoneFilter 0) := allocFilter_zone kernelFilterEnv (by decide) 0
  have hnone : ∀ dir, kernelFilterEnv.namedZone (nlaTable 26 [nlaBe16 ctaZone 0]) (zoneFilter 0) dir
      = none := by
    intro dir
    cases dir <;> decide
  refine (zone_selects_iff halloc).mpr ⟨fun a _ dir z hz => ?_, fun _ => hnone .reply⟩
  rw [hnone] at hz
  cases hz

/-- A request that names zone 5 in the reply tuple. -/
def replyZoneRequest : NlaTable :=
  nlaTable 26
    [nestAttr .little ctaTupleReply [nlaBe16 ctaTupleZone 5],
      nestAttr .little ctaFilter [⟨2, [0x04, 0, 0, 0]⟩]]

def replyZoneFilter : CtnetlinkFilter :=
  { CtnetlinkFilter.zero with
    family := nfprotoIpv4
    replyFlags := 0x04
    reply := ⟨⟨.ofIp 0, 0, 2⟩, ⟨.ofIp 0, 0, 0, 1⟩⟩
    zone := ⟨5, nfCtZoneDirOrig, nfCtZoneDirRepl⟩ }

/-- A conntrack that is in zone 5 in the original direction only passes. -/
theorem zone_selects_fails :
    ¬ ∀ (env : FilterEnv) (cda : NlaTable) (family : UInt8) (filter : CtnetlinkFilter),
      ctnetlinkAllocFilter env cda family = .ok filter → env.TestsZone cda filter := by
  intro hall
  have halloc : ctnetlinkAllocFilter kernelFilterEnv replyZoneRequest nfprotoIpv4 = .ok replyZoneFilter := by
    decide +kernel
  have htests := hall _ _ _ _ halloc
  have hpasses := (htests.tuple (by decide) .reply 5 (by decide +kernel)
    (zoneConn ⟨5, 0, nfCtZoneDirOrig⟩)).mp (by decide)
  revert hpasses
  decide

end VgwDriver
