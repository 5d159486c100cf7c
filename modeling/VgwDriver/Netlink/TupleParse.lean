import VgwDriver.Netlink.Export
import VgwDriver.Netlink.FilterSpec

/-!
# Reading back what a message says

The parsers of a create request, run over the message that `ctnetlink_fill_info` wrote: the zone, which
stands in one of three places, and the two tuples, in the order of `ctnetlink_new_conntrack`.

* `newConntrackKeys` — the start of `ctnetlink_new_conntrack`;
* `parseNested_nest`, `nlaTable_last` — what parsing a nested attribute gives;
* `parseTupleIp_dump`, `parseTupleProto_dump`, `parseTuple_dump` — **each parser undoes its writer**;
* `newConntrackKeys_dump` — the keys of a conntrack survive the way through a message.
-/

namespace VgwDriver

open Base

/-- The start of `ctnetlink_new_conntrack`: the tuples the request names and its zone. -/
def newConntrackKeys (env : FilterEnv) (cda : NlaTable) (u3 : UInt8) :
    Except ℤ (Option NfConntrackTuple × Option NfConntrackTuple × NfConntrackZone) := do
  let zone := ctnetlinkParseZone (cda ctaZone)
  let (otuple, zone) ← match cda ctaTupleOrig with
    | none => pure (none, zone)
    | some a => do
      let (tuple, zone) ← ctnetlinkParseTuple env a ctaTupleOrig u3 zone
      pure (some tuple, zone)
  let (rtuple, zone) ← match cda ctaTupleReply with
    | none => pure (none, zone)
    | some a => do
      let (tuple, zone) ← ctnetlinkParseTuple env a ctaTupleReply u3 zone
      pure (some tuple, zone)
  pure (otuple, rtuple, zone)

/-- The attributes of a message by type, and the `nfgen_family` in its header. -/
def msgTable (e : Endian) (msg : Bytes) : NlaTable := nlaTable ctaMax (scanAttrs e (msg.drop nlMsgHdrLen))
def msgFamily (msg : Bytes) : UInt8 := msg.getD 16 0

/-! ### Tables -/

/-- The last attribute of a type is the one the table holds. -/
theorem nlaTable_last {max t : UInt16} {l₁ l₂ : List Attr} {a : Attr} (ht : 0 < t ∧ t ≤ max)
    (ha : a.kind = t) (h : ∀ b ∈ l₂, b.kind ≠ t) : nlaTable max (l₁ ++ a :: l₂) t = some a := by
  have hnil : l₂.filter (fun b => b.kind = t) = [] :=
    List.filter_eq_nil_iff.mpr fun b hb => by simpa using h b hb
  rw [nlaTable, if_pos ht, List.filter_append, List.filter_cons, hnil]
  simp [ha]

/-- Where no type comes twice, every attribute is in the table. -/
theorem nlaTable_of_mem {max t : UInt16} {l : List Attr} {a : Attr} (ht : 0 < t ∧ t ≤ max) (ha : a.kind = t)
    (hnodup : (l.map Attr.kind).Nodup) (hmem : a ∈ l) : nlaTable max l t = some a := by
  obtain ⟨l₁, l₂, rfl⟩ := List.append_of_mem hmem
  refine nlaTable_last ht ha fun b hb heq => ?_
  rw [List.map_append, List.map_cons] at hnodup
  have htail := (List.nodup_cons.mp hnodup.of_append_right).1
  exact htail (List.mem_map.mpr ⟨b, hb, heq.trans ha.symm⟩)

theorem mem_of_nlaTable {max t : UInt16} {l : List Attr} {a : Attr} (h : nlaTable max l t = some a) :
    a ∈ l ∧ a.kind = t := by
  unfold nlaTable at h
  split at h
  · obtain ⟨hmem, hkind⟩ := List.mem_filter.mp (List.mem_of_getLast? h)
    exact ⟨hmem, of_decide_eq_true hkind⟩
  · cases h

theorem nlaTable_none {max t : UInt16} {l : List Attr} (h : ∀ b ∈ l, b.kind ≠ t) :
    nlaTable max l t = none := by
  have hnil : l.filter (fun b => b.kind = t) = [] :=
    List.filter_eq_nil_iff.mpr fun b hb => by simpa using h b hb
  rw [nlaTable, hnil]
  split <;> rfl

/-- **Parsing a nested attribute** gives the table of its children, if they meet the policy. -/
theorem parseNested_nest {e : Endian} {max : UInt16} {policy : UInt16 → NlaPolicy} (type : UInt16)
    {kids : List Attr} (hsize : attrsSize kids < 65536)
    (hok : ∀ a ∈ kids, (max < a.kind || (policy a.kind).ok a) = true) :
    nlaParseNestedDeprecated e max policy (nestAttr e type kids) = .ok (nlaTable max kids) := by
  have hscan : scanAttrs e (nestAttr e type kids).payload = kids :=
    scanAttrs_attrsBytes e kids (fits_of_attrsSize hsize)
  have hall : (kids.all fun a => max < a.kind || (policy a.kind).ok a) = true := List.all_eq_true.mpr hok
  simp only [nlaParseNestedDeprecated, hscan, hall, if_true]

/-- An attribute that is long enough meets its policy. -/
theorem meetsPolicy {policy : UInt16 → NlaPolicy} {a : Attr} {t max : UInt16} {n : ℕ} (ha : a.kind = t)
    (hp : policy t = .minLen n) (hn : n ≤ a.payload.length) :
    (max < a.kind || (policy a.kind).ok a) = true := by
  rw [ha, hp]
  simp [NlaPolicy.ok, hn]

/-- The children of an attribute in a list take less room than the list. -/
theorem kids_lt {e : Endian} {type : UInt16} {kids l : List Attr} {n : ℕ} (h : nestAttr e type kids ∈ l)
    (hl : attrsSize l < n) : attrsSize kids < n := by
  have hle := payload_le_attrsSize h
  rw [nestAttr, length_attrsBytes] at hle
  omega

@[simp] theorem nlaGetU8_nlaU8 (type : UInt16) (x : UInt8) : nlaGetU8 (nlaU8 type x) = x := rfl

@[simp] theorem nlaGetBe32_nlaBe32 (type : UInt16) (x : UInt32) : nlaGetBe32 (nlaBe32 type x) = x := by
  have htake : (put32 .big x).take 4 = put32 .big x := List.take_of_length_le (by simp)
  rw [nlaGetBe32, nlaBe32, htake, get32_put32]

theorem nlaGetIn6Addr_in6 (type : UInt16) (a : NfInetAddr) : nlaGetIn6Addr ⟨type, a.in6⟩ = a := by
  have hfirst : a.in6 = put32 .big a.all0 ++
      (put32 .big a.all1 ++ (put32 .big a.all2 ++ put32 .big a.all3)) := by
    simp only [NfInetAddr.in6, List.append_assoc]
  have hhalf : a.in6 = (put32 .big a.all0 ++ put32 .big a.all1) ++
      (put32 .big a.all2 ++ put32 .big a.all3) := by
    simp only [NfInetAddr.in6, List.append_assoc]
  have h₀ : a.in6.take 4 = put32 .big a.all0 := by
    rw [hfirst]
    exact List.take_left' (length_put32 _ _)
  have h₁ : (a.in6.drop 4).take 4 = put32 .big a.all1 := by
    rw [hfirst, List.drop_left' (length_put32 _ _)]
    exact List.take_left' (length_put32 _ _)
  have h₂ : (a.in6.drop 8).take 4 = put32 .big a.all2 := by
    rw [hhalf, List.drop_left' (by simp)]
    exact List.take_left' (length_put32 _ _)
  have h₃ : (a.in6.drop 12).take 4 = put32 .big a.all3 := by
    rw [NfInetAddr.in6, List.drop_left' (by simp)]
    exact List.take_of_length_le (by simp)
  rw [nlaGetIn6Addr, h₀, h₁, h₂, h₃]
  simp only [get32_put32]

theorem parseNested_pair {max : UInt16} {policy : UInt16 → NlaPolicy} {a b : Attr} (e : Endian)
    (type : UInt16) (hsize : attrsSize [a, b] < 65536) (ha : (max < a.kind || (policy a.kind).ok a) = true)
    (hb : (max < b.kind || (policy b.kind).ok b) = true) :
    nlaParseNestedDeprecated e max policy (nestAttr e type [a, b]) = .ok (nlaTable max [a, b]) := by
  refine parseNested_nest type hsize fun c hc => ?_
  rcases List.mem_cons.mp hc with rfl | hc
  · exact ha
  · rw [List.mem_singleton.mp hc]
    exact hb

/-- The table of two attributes of different types. -/
theorem nlaTable_pair {max s t : UInt16} {a b : Attr} (hs : 0 < s ∧ s ≤ max) (ht : 0 < t ∧ t ≤ max)
    (ha : a.kind = s) (hb : b.kind = t) (hne : t ≠ s) :
    nlaTable max [a, b] s = some a ∧ nlaTable max [a, b] t = some b := by
  have hnodup : ([a, b].map Attr.kind).Nodup := by
    simp [ha, hb, hne.symm]
  exact ⟨nlaTable_of_mem hs ha hnodup (by simp), nlaTable_of_mem ht hb hnodup (by simp)⟩

/-! ### Tuples -/

/-- An address in the form of its family: an IPv4 address leaves the other words zero. -/
def NfInetAddr.Of (l3num : UInt16) (a : NfInetAddr) : Prop :=
  l3num = nfprotoIpv4.toUInt16 → a = .ofIp a.ip

/-- A tuple of IPv4 or IPv6, for the direction `dir`. -/
structure NfConntrackTuple.Inet (t : NfConntrackTuple) (family dir : UInt8) : Prop where
  l3num : t.src.l3num = family.toUInt16
  family : family = nfprotoIpv4 ∨ family = nfprotoIpv6
  src : t.src.u3.Of t.src.l3num
  dst : t.dst.u3.Of t.src.l3num
  dir : t.dst.dir = dir

/-- The callbacks of the tuple's protocol are inverse on it: what `tuple_to_nlattr` writes, besides the
protocol number, is what `nlattr_to_tuple` stores again; a protocol with neither has no ports. -/
structure TupleInverse (env : NlEnv) (fenv : FilterEnv) (t : NfConntrackTuple) : Prop where
  kinds : ∀ f, env.tupleToNlattr t.dst.protonum = some f → ∀ a ∈ f t, a.kind ≠ ctaProtoNum
  inverse : ∀ f, env.tupleToNlattr t.dst.protonum = some f →
    ∃ g, fenv.nlattrToTuple t.dst.protonum = some g ∧ ∀ t₀, t₀.dst.protonum = t.dst.protonum →
      g (nestAttr fenv.endian ctaTupleProto (tupleProtoAttrs env t)) t₀ ctaFilterFAll =
        .ok ⟨{ t₀.src with u := t.src.u }, { t₀.dst with u := t.dst.u }⟩
  neither : env.tupleToNlattr t.dst.protonum = none →
    fenv.nlattrToTuple t.dst.protonum = none ∧ t.src.u = 0 ∧ t.dst.u = 0

variable {env : NlEnv} {fenv : FilterEnv} {t : NfConntrackTuple} {family dir : UInt8}

/-- `ctnetlink_parse_tuple_ip` reads back what `ctnetlink_dump_tuples_ip` wrote. -/
theorem parseTupleIp_dump (ht : t.Inet family dir) {t₀ : NfConntrackTuple}
    (h₀ : t₀.src.l3num = t.src.l3num) :
    ctnetlinkParseTupleIp fenv (nestAttr fenv.endian ctaTupleIp (tupleIpAttrs t)) t₀ ctaFilterFAll =
      .ok ⟨{ t₀.src with u3 := t.src.u3 }, { t₀.dst with u3 := t.dst.u3 }⟩ := by
  have hsrcFlag : hasFlag ctaFilterFAll ctaFilterFCtaIpSrc = true := by decide
  have hdstFlag : hasFlag ctaFilterFAll ctaFilterFCtaIpDst = true := by decide
  have hl3 := ht.l3num
  have hattrsrc := ht.src
  have hattrdst := ht.dst
  rw [hl3] at h₀ hattrsrc hattrdst
  rcases ht.family with rfl | rfl
  · have hattrs : tupleIpAttrs t = [nlaBe32 ctaIpV4Src t.src.u3.ip, nlaBe32 ctaIpV4Dst t.dst.u3.ip] := by
      rw [tupleIpAttrs, if_pos hl3]
    have hsrc : t.src.u3 = .ofIp t.src.u3.ip := hattrsrc rfl
    have hdst : t.dst.u3 = .ofIp t.dst.u3.ip := hattrdst rfl
    have hks : (nlaBe32 ctaIpV4Src t.src.u3.ip).kind = ctaIpV4Src := by rw [nlaBe32_kind]; decide
    have hkd : (nlaBe32 ctaIpV4Dst t.dst.u3.ip).kind = ctaIpV4Dst := by rw [nlaBe32_kind]; decide
    obtain ⟨hts, htd⟩ := @nlaTable_pair 4 _ _ _ _ (by decide) (by decide) hks hkd (by decide)
    have hps : ctaIpNlaPolicy ctaIpV4Src = .minLen 4 := by decide
    have hpd : ctaIpNlaPolicy ctaIpV4Dst = .minLen 4 := by decide
    have htb := parseNested_pair fenv.endian ctaTupleIp (by simp)
      (@meetsPolicy _ _ _ 4 _ hks hps (by simp [nlaBe32])) (meetsPolicy hkd hpd (by simp [nlaBe32]))
    rw [ctnetlinkParseTupleIp, hattrs, htb, ok_bind, if_pos h₀, ipv4NlattrToTuple, hsrcFlag, hdstFlag, hts, htd, hsrc, hdst]
    simp only [nlaGetBe32_nlaBe32, if_true]
    rfl
  · have hne : nfprotoIpv6.toUInt16 ≠ nfprotoIpv4.toUInt16 := by decide
    have hattrs : tupleIpAttrs t = [⟨ctaIpV6Src, t.src.u3.in6⟩, ⟨ctaIpV6Dst, t.dst.u3.in6⟩] := by
      rw [tupleIpAttrs, hl3, if_neg hne, if_pos rfl]
    have hks : (⟨ctaIpV6Src, t.src.u3.in6⟩ : Attr).kind = ctaIpV6Src :=
      show ctaIpV6Src &&& typeMask = ctaIpV6Src by decide
    have hkd : (⟨ctaIpV6Dst, t.dst.u3.in6⟩ : Attr).kind = ctaIpV6Dst :=
      show ctaIpV6Dst &&& typeMask = ctaIpV6Dst by decide
    obtain ⟨hts, htd⟩ := @nlaTable_pair 4 _ _ _ _ (by decide) (by decide) hks hkd (by decide)
    have hps : ctaIpNlaPolicy ctaIpV6Src = .minLen 16 := by decide
    have hpd : ctaIpNlaPolicy ctaIpV6Dst = .minLen 16 := by decide
    have htb := parseNested_pair fenv.endian ctaTupleIp (by simp [Attr.len, attrHdrLen, align4])
      (@meetsPolicy _ _ _ 4 _ hks hps (by simp)) (meetsPolicy hkd hpd (by simp))
    rw [ctnetlinkParseTupleIp, hattrs, htb, ok_bind, h₀, if_neg hne, if_pos rfl, ipv6NlattrToTuple, hsrcFlag, hdstFlag, hts, htd]
    simp only [nlaGetIn6Addr_in6, if_true]
    rfl

/-- `ctnetlink_parse_tuple_proto` reads back what `ctnetlink_dump_tuples_proto` wrote. -/
theorem parseTupleProto_dump (hinv : TupleInverse env fenv t)
    (hsize : attrsSize (tupleProtoAttrs env t) < 65536) {t₀ : NfConntrackTuple} (hsrc : t₀.src.u = 0)
    (hdst : t₀.dst.u = 0) :
    ctnetlinkParseTupleProto fenv (nestAttr fenv.endian ctaTupleProto (tupleProtoAttrs env t)) t₀
        ctaFilterFAll =
      .ok ⟨{ t₀.src with u := t.src.u }, { t₀.dst with protonum := t.dst.protonum, u := t.dst.u }⟩ := by
  have hnumFlag : hasFlag ctaFilterFAll ctaFilterFCtaProtoNum = true := by decide
  have hnum : (nlaU8 ctaProtoNum t.dst.protonum).kind = ctaProtoNum := by rw [nlaU8_kind]; decide
  have hpol : protoNlaPolicy ctaProtoNum = .minLen 1 := by decide
  obtain ⟨rest, hattrs, hrest⟩ : ∃ rest, tupleProtoAttrs env t = nlaU8 ctaProtoNum t.dst.protonum :: rest ∧
      ∀ a ∈ rest, a.kind ≠ ctaProtoNum := by
    refine ⟨_, rfl, ?_⟩
    split
    · rename_i f hf
      exact hinv.kinds f hf
    · intro a ha
      cases ha
  have htb := @parseNested_nest fenv.endian 9 protoNlaPolicy ctaTupleProto _ hsize (by
    rw [hattrs]
    intro a ha
    rcases List.mem_cons.mp ha with rfl | ha
    · exact meetsPolicy hnum hpol (Nat.le_refl 1)
    · rw [protoNlaPolicy, if_neg (hrest a ha)]
      simp [NlaPolicy.ok])
  have hget : nlaTable 9 (tupleProtoAttrs env t) ctaProtoNum = some (nlaU8 ctaProtoNum t.dst.protonum) := by
    rw [hattrs]
    exact @nlaTable_last 9 _ [] rest _ (by decide) hnum hrest
  rw [ctnetlinkParseTupleProto, htb, ok_bind, if_neg (not_not.mpr hnumFlag), hget]
  simp only [nlaGetU8_nlaU8]
  cases hf : env.tupleToNlattr t.dst.protonum with
  | none =>
    obtain ⟨hnone, hsu, hdu⟩ := hinv.neither hf
    rw [hnone, hsu.trans hsrc.symm, hdu.trans hdst.symm]
    rfl
  | some f =>
    obtain ⟨g, hg, hinverse⟩ := hinv.inverse f hf
    rw [hg]
    exact hinverse _ rfl

/-- The zone id that an attribute for the directions `bits` names. -/
def zoneNamed (zone : NfConntrackZone) (bits : UInt8) : Option UInt16 :=
  if zone.id = nfCtDefaultZoneId ∨ zone.dir ≠ bits then none else some zone.id

theorem zoneAttrs_eq (attrtype : UInt16) (zone : NfConntrackZone) (bits : UInt8) :
    zoneAttrs attrtype zone bits = ((zoneNamed zone bits).map (nlaBe16 attrtype)).toList := by
  rw [zoneAttrs, zoneNamed]
  split <;> rfl

/-- The bit of a direction in a tuple. -/
def IpConntrackDir.code : IpConntrackDir → UInt8
  | .original => 0
  | .reply => 1

/-- The attribute of one direction: its tuple, and the zone if it applies to this direction only. -/
def dirAttr (env : NlEnv) (t : NfConntrackTuple) (zone : NfConntrackZone) (d : IpConntrackDir) : Attr :=
  nestAttr env.endian d.tupleAttr (tupleAttrs env t ++ zoneAttrs ctaTupleZone zone d.zoneBit)

/-- The table of a tuple's attribute. -/
theorem dirAttr_table (t : NfConntrackTuple) (zone : NfConntrackZone) (d : IpConntrackDir)
    (hsize : attrsSize (tupleAttrs env t ++ zoneAttrs ctaTupleZone zone d.zoneBit) < 65536) :
    ∃ tb, nlaParseNestedDeprecated env.endian 3 tupleNlaPolicy (dirAttr env t zone d) = .ok tb ∧
      tb ctaTupleIp = some (nestAttr env.endian ctaTupleIp (tupleIpAttrs t)) ∧
      tb ctaTupleProto = some (nestAttr env.endian ctaTupleProto (tupleProtoAttrs env t)) ∧
      tb ctaTupleZone = (zoneNamed zone d.zoneBit).map (nlaBe16 ctaTupleZone) := by
  have hip : (nestAttr env.endian ctaTupleIp (tupleIpAttrs t)).kind = ctaTupleIp := by
    rw [nestAttr_kind]; decide
  have hproto : (nestAttr env.endian ctaTupleProto (tupleProtoAttrs env t)).kind = ctaTupleProto := by
    rw [nestAttr_kind]; decide
  have hzone : ∀ z, (nlaBe16 ctaTupleZone z).kind = ctaTupleZone := by
    intro z
    rw [nlaBe16_kind]; decide
  have hnested : ∀ type kids, NlaPolicy.nested.ok (nestAttr env.endian type kids) = true := by
    intro type kids
    cases kids with
    | nil => rfl
    | cons a kids =>
      have hle := le_align4 a.len
      have hhdr : attrHdrLen ≤ a.len := Nat.le_add_right _ _
      have hlen : attrHdrLen ≤ (attrsBytes env.endian (a :: kids)).length := by
        rw [length_attrsBytes, attrsSize_cons]
        omega
      simp only [NlaPolicy.ok, nestAttr, Bool.or_eq_true]
      exact .inr (decide_eq_true hlen)
  rw [dirAttr]
  rw [zoneAttrs_eq] at hsize ⊢
  refine ⟨_, parseNested_nest _ hsize ?_, ?_, ?_, ?_⟩
  · intro a ha
    simp only [tupleAttrs, List.cons_append, List.nil_append, List.mem_cons] at ha
    rcases ha with rfl | rfl | ha
    · rw [hip, show tupleNlaPolicy ctaTupleIp = .nested by decide, hnested, Bool.or_true]
    · rw [hproto, show tupleNlaPolicy ctaTupleProto = .nested by decide, hnested, Bool.or_true]
    · obtain ⟨z, -, rfl⟩ := Option.map_eq_some_iff.mp (Option.mem_toList.mp ha)
      exact @meetsPolicy _ _ _ 3 2 (hzone z) (by decide) (by simp [nlaBe16])
  · refine @nlaTable_last 3 ctaTupleIp [] _ _ (by decide) hip ?_
    intro b hb
    rcases List.mem_cons.mp hb with rfl | hb
    · rw [hproto]; decide
    · obtain ⟨z, -, rfl⟩ := Option.map_eq_some_iff.mp (Option.mem_toList.mp hb)
      rw [hzone]; decide
  · refine @nlaTable_last 3 ctaTupleProto [_] _ _ (by decide) hproto ?_
    intro b hb
    obtain ⟨z, -, rfl⟩ := Option.map_eq_some_iff.mp (Option.mem_toList.mp hb)
    rw [hzone]; decide
  · cases hnamed : zoneNamed zone d.zoneBit with
    | none =>
      refine nlaTable_none fun b hb => ?_
      simp only [tupleAttrs, Option.map_none, Option.toList_none, List.append_nil, List.mem_cons,
        List.not_mem_nil, or_false] at hb
      rcases hb with rfl | rfl
      · rw [hip]; decide
      · rw [hproto]; decide
    | some z =>
      refine @nlaTable_last 3 ctaTupleZone (tupleAttrs env t) [] _ (by decide) (hzone z) ?_
      intro b hb
      cases hb

/-- **`ctnetlink_parse_tuple` reads back a tuple**, and the zone that stands with it. -/
theorem parseTuple_dump {d : IpConntrackDir} (hendian : fenv.endian = env.endian) (ht : t.Inet family d.code)
    (hinv : TupleInverse env fenv t) {zone₀ zone : NfConntrackZone}
    (hsize : attrsSize (tupleAttrs env t ++ zoneAttrs ctaTupleZone zone₀ d.zoneBit) < 65536)
    (hzone : (zoneNamed zone₀ d.zoneBit).isSome → zone.id = nfCtDefaultZoneId) :
    ctnetlinkParseTuple fenv (dirAttr env t zone₀ d) d.tupleAttr family zone =
      .ok (t, zoneAfter d (zoneNamed zone₀ d.zoneBit) zone) := by
  obtain ⟨tb, htb, hip, hproto, hztb⟩ := dirAttr_table t zone₀ d hsize
  have hipFlag : (hasFlag ctaFilterFAll ctaFilterFCtaIpDst || hasFlag ctaFilterFAll ctaFilterFCtaIpSrc)
      = true := by decide
  have hnumFlag : hasFlag ctaFilterFAll ctaFilterFCtaProtoNum = true := by decide
  have hzoneFlag : hasFlag ctaFilterFAll ctaFilterFCtaTupleZone = true := by decide
  have hfamily : ¬ (family ≠ nfprotoIpv4 ∧ family ≠ nfprotoIpv6) := by
    rcases ht.family with rfl | rfl
    · exact fun h => h.1 rfl
    · exact fun h => h.2 rfl
  have hmem : nestAttr env.endian ctaTupleProto (tupleProtoAttrs env t) ∈
      tupleAttrs env t ++ zoneAttrs ctaTupleZone zone₀ d.zoneBit := by simp [tupleAttrs]
  have hprotoSize := kids_lt hmem hsize
  rw [← hendian] at htb hip hproto
  rw [ctnetlinkParseTuple, ctnetlinkParseTupleFilter, htb, ok_bind]
  dsimp only
  rw [if_neg hfamily, hipFlag, if_pos rfl, hip]
  dsimp only
  rw [parseTupleIp_dump ht (by rw [ht.l3num]), ok_bind, hnumFlag, if_pos rfl, hproto]
  dsimp only
  rw [parseTupleProto_dump hinv hprotoSize rfl rfl, ok_bind, hzoneFlag, hztb]
  have htuple : (⟨⟨t.src.u3, t.src.u, family.toUInt16⟩,
      ⟨t.dst.u3, t.dst.u, t.dst.protonum, if d.tupleAttr = ctaTupleReply then 1 else 0⟩⟩ : NfConntrackTuple)
      = t := by
    have hdir : (if d.tupleAttr = ctaTupleReply then 1 else 0) = t.dst.dir := by
      rw [ht.dir]
      cases d <;> rfl
    rw [← ht.l3num, hdir]
  cases hnamed : zoneNamed zone₀ d.zoneBit with
  | none => exact congrArg (fun x => Except.ok (x, zone)) htuple
  | some z =>
    rw [hnamed] at hzone
    have hparse : ctnetlinkParseTupleZone (nlaBe16 ctaTupleZone z) d.tupleAttr zone =
        .ok (zoneAfter d (some z) zone) := by
      rw [ctnetlinkParseTupleZone, if_neg (not_not.mpr (hzone rfl)), ctnetlinkParseZone, nlaGetBe16_nlaBe16]
      cases d <;> rfl
    dsimp only [Option.map_some]
    rw [hparse, ok_bind]
    exact congrArg (fun x => Except.ok (x, zoneAfter d (some z) zone)) htuple

/-! ### The keys of a message -/

/-- The keys of an IPv4 or IPv6 conntrack: one family, the directions in place, and a zone for one direction
or both, the default zone for both. -/
structure NfConn.InetKeys (ct : NfConn) (family : UInt8) : Prop where
  orig : ct.tupleOrig.Inet family IpConntrackDir.original.code
  reply : ct.tupleReply.Inet family IpConntrackDir.reply.code
  zoneDir : ct.zone.dir = nfCtZoneDirOrig ∨ ct.zone.dir = nfCtZoneDirRepl ∨ ct.zone.dir = nfCtDefaultZoneDir
  zoneDefault : ct.zone.id = nfCtDefaultZoneId → ct.zone.dir = nfCtDefaultZoneDir

/-- The zone that the three places together give. -/
def zoneReadBack (zone : NfConntrackZone) : NfConntrackZone :=
  zoneAfter .reply (zoneNamed zone IpConntrackDir.reply.zoneBit)
    (zoneAfter .original (zoneNamed zone IpConntrackDir.original.zoneBit)
      (ctnetlinkParseZone ((zoneNamed zone nfCtDefaultZoneDir).map (nlaBe16 ctaZone))))

/-- **The zone is read back**, and no place is refused because of one before it. -/
theorem zoneReadBack_eq {ct : NfConn} {family : UInt8} (hct : ct.InetKeys family) :
    ((zoneNamed ct.zone IpConntrackDir.original.zoneBit).isSome →
      (ctnetlinkParseZone ((zoneNamed ct.zone nfCtDefaultZoneDir).map (nlaBe16 ctaZone))).id
        = nfCtDefaultZoneId) ∧
    ((zoneNamed ct.zone IpConntrackDir.reply.zoneBit).isSome →
      (zoneAfter .original (zoneNamed ct.zone IpConntrackDir.original.zoneBit)
        (ctnetlinkParseZone ((zoneNamed ct.zone nfCtDefaultZoneDir).map (nlaBe16 ctaZone)))).id
        = nfCtDefaultZoneId) ∧
    (zoneReadBack ct.zone).id = ct.zone.id ∧ (zoneReadBack ct.zone).dir = ct.zone.dir := by
  have hnone : ∀ bits, ct.zone.id = nfCtDefaultZoneId ∨ ct.zone.dir ≠ bits → zoneNamed ct.zone bits = none :=
    fun bits h => if_pos h
  have hsome : ∀ bits, ct.zone.id ≠ nfCtDefaultZoneId → ct.zone.dir = bits →
      zoneNamed ct.zone bits = some ct.zone.id := fun bits hid hdir => if_neg (by simp [hid, hdir])
  have hor : nfCtZoneDirOrig ≠ nfCtZoneDirRepl := by decide
  have hod : nfCtZoneDirOrig ≠ nfCtDefaultZoneDir := by decide
  have hrd : nfCtZoneDirRepl ≠ nfCtDefaultZoneDir := by decide
  have horigBit : IpConntrackDir.original.zoneBit = nfCtZoneDirOrig := rfl
  have hreplyBit : IpConntrackDir.reply.zoneBit = nfCtZoneDirRepl := rfl
  rw [zoneReadBack, horigBit, hreplyBit]
  by_cases hid : ct.zone.id = nfCtDefaultZoneId
  · have hall : ∀ bits, zoneNamed ct.zone bits = none := fun bits => hnone bits (.inl hid)
    rw [hall, hall, hall, hct.zoneDefault hid, hid]
    exact ⟨fun _ => rfl, fun _ => rfl, rfl, rfl⟩
  · rcases hct.zoneDir with hdir | hdir | hdir
    · rw [hsome nfCtZoneDirOrig hid hdir, hnone nfCtZoneDirRepl (.inr (by rw [hdir]; exact hor)),
        hnone nfCtDefaultZoneDir (.inr (by rw [hdir]; exact hod)), hdir]
      exact ⟨fun _ => rfl, fun h => by simp at h, rfl, rfl⟩
    · rw [hnone nfCtZoneDirOrig (.inr (by rw [hdir]; exact hor.symm)), hsome nfCtZoneDirRepl hid hdir,
        hnone nfCtDefaultZoneDir (.inr (by rw [hdir]; exact hrd)), hdir]
      exact ⟨fun h => by simp at h, fun _ => rfl, rfl, rfl⟩
    · rw [hnone nfCtZoneDirOrig (.inr (by rw [hdir]; exact hod.symm)),
        hnone nfCtZoneDirRepl (.inr (by rw [hdir]; exact hrd.symm)), hsome nfCtDefaultZoneDir hid hdir, hdir]
      refine ⟨fun h => by simp at h, fun h => by simp at h, ?_, rfl⟩
      show (ctnetlinkParseZone (some (nlaBe16 ctaZone ct.zone.id))).id = ct.zone.id
      rw [ctnetlinkParseZone, nlaGetBe16_nlaBe16]

/-- The attributes behind the zone have other types than the keys. -/
theorem restKinds_ne {l : List Attr} (h : Kinds (ctaProtoinfo :: (infoKinds ++ extKinds)) l) :
    ∀ a ∈ l, a.kind ≠ ctaTupleOrig ∧ a.kind ≠ ctaTupleReply ∧ a.kind ≠ ctaZone := by
  intro a ha
  have hall : ((ctaProtoinfo :: (infoKinds ++ extKinds)).all fun t =>
      t ≠ ctaTupleOrig ∧ t ≠ ctaTupleReply ∧ t ≠ ctaZone) = true := by decide
  exact of_decide_eq_true (List.all_eq_true.mp hall _ (h a ha))

/-- **The keys of a conntrack survive the way through a message**: the table of a message's attributes gives
both tuples, and a zone of the same id for the same directions. -/
theorem newConntrackKeys_table {ct : NfConn} (hendian : fenv.endian = env.endian) (hct : ct.InetKeys family)
    (ho : TupleInverse env fenv ct.tupleOrig) (hr : TupleInverse env fenv ct.tupleReply) {rest : List Attr}
    (hrest : Kinds (ctaProtoinfo :: (infoKinds ++ extKinds)) rest)
    (hsize : attrsSize (origAttr env ct :: replyAttr env ct ::
      (zoneAttrs ctaZone ct.zone nfCtDefaultZoneDir ++ rest)) < 65536) :
    newConntrackKeys fenv (nlaTable ctaMax (origAttr env ct :: replyAttr env ct ::
        (zoneAttrs ctaZone ct.zone nfCtDefaultZoneDir ++ rest))) family =
      .ok (some ct.tupleOrig, some ct.tupleReply, zoneReadBack ct.zone) := by
  have hko : (origAttr env ct).kind = ctaTupleOrig := by rw [origAttr, nestAttr_kind]; decide
  have hkr : (replyAttr env ct).kind = ctaTupleReply := by rw [replyAttr, nestAttr_kind]; decide
  have hkz : ∀ z, (nlaBe16 ctaZone z).kind = ctaZone := fun z => by rw [nlaBe16_kind]; decide
  have hne := restKinds_ne hrest
  rw [zoneAttrs_eq] at hsize ⊢
  have hmem : ∀ a ∈ ((zoneNamed ct.zone nfCtDefaultZoneDir).map (nlaBe16 ctaZone)).toList ++ rest,
      a.kind ≠ ctaTupleOrig ∧ a.kind ≠ ctaTupleReply := by
    intro a ha
    rcases List.mem_append.mp ha with ha | ha
    · obtain ⟨z, -, rfl⟩ := Option.map_eq_some_iff.mp (Option.mem_toList.mp ha)
      rw [hkz]
      exact ⟨by decide, by decide⟩
    · exact ⟨(hne a ha).1, (hne a ha).2.1⟩
  have htorig := @nlaTable_last ctaMax ctaTupleOrig [] (replyAttr env ct ::
    (((zoneNamed ct.zone nfCtDefaultZoneDir).map (nlaBe16 ctaZone)).toList ++ rest)) _ (by decide) hko (by
      intro b hb
      rcases List.mem_cons.mp hb with rfl | hb
      · rw [hkr]; decide
      · exact (hmem b hb).1)
  have htreply := @nlaTable_last ctaMax ctaTupleReply [origAttr env ct]
    (((zoneNamed ct.zone nfCtDefaultZoneDir).map (nlaBe16 ctaZone)).toList ++ rest) _ (by decide) hkr
    fun b hb => (hmem b hb).2
  have htzone : nlaTable ctaMax (origAttr env ct :: replyAttr env ct ::
      (((zoneNamed ct.zone nfCtDefaultZoneDir).map (nlaBe16 ctaZone)).toList ++ rest)) ctaZone =
        (zoneNamed ct.zone nfCtDefaultZoneDir).map (nlaBe16 ctaZone) := by
    cases zoneNamed ct.zone nfCtDefaultZoneDir with
    | none =>
      refine nlaTable_none fun b hb => ?_
      rcases List.mem_cons.mp hb with rfl | hb
      · rw [hko]; decide
      · rcases List.mem_cons.mp hb with rfl | hb
        · rw [hkr]; decide
        · exact (hne b hb).2.2
    | some z =>
      exact @nlaTable_last ctaMax ctaZone [origAttr env ct, replyAttr env ct] rest _ (by decide) (hkz z)
        fun b hb => (hne b hb).2.2
  obtain ⟨hzo, hzr, -, -⟩ := zoneReadBack_eq hct
  have hparseo : ctnetlinkParseTuple fenv (origAttr env ct) ctaTupleOrig family _ = _ :=
    parseTuple_dump hendian hct.orig ho (kids_lt List.mem_cons_self hsize) hzo
  have hparser : ctnetlinkParseTuple fenv (replyAttr env ct) ctaTupleReply family _ = _ :=
    parseTuple_dump hendian hct.reply hr (kids_lt (List.mem_cons_of_mem _ List.mem_cons_self) hsize) hzr
  simp only [List.nil_append, List.singleton_append] at htorig htreply
  rw [newConntrackKeys, htzone, htorig, htreply]
  dsimp only
  rw [hparseo, ok_bind]
  dsimp only
  rw [pure_bind]
  dsimp only
  rw [hparser]
  rfl

/-- The family of a message is its header's. -/
theorem msgFamily_bytes (e : Endian) (hdr : NlMsgHdr) (l : List Attr) :
    msgFamily (nlMsgBytes e hdr l) = hdr.family := by
  have hsplit : nlMsgBytes e hdr l =
      (put32 e (UInt32.ofNat (nlMsgHdrLen + attrsSize l)) ++ put16 e hdr.type ++ put16 e hdr.flags ++
        put32 e hdr.seq ++ put32 e hdr.portid) ++
      (hdr.family :: ([hdr.version] ++ put16 .big hdr.resId ++ attrsBytes e l)) := by
    simp [nlMsgBytes, NlMsgHdr.rest]
  rw [msgFamily, hsplit, List.getD_eq_getElem?_getD, List.getElem?_append_right (by simp)]
  simp

/-- **What a message says is read back.**  Parsing the attributes of the message that `ctnetlink_fill_info`
wrote about an IPv4 or IPv6 conntrack, as `ctnetlink_new_conntrack` does, gives both tuples, and a zone of
the same id for the same directions. -/
theorem message_reads_back {c : FillCall} {b : Buf} {msg : Bytes} (hmsg : c.message b = some msg)
    (hendian : fenv.endian = c.env.endian) (hct : c.ct.InetKeys family)
    (ho : TupleInverse c.env fenv c.ct.tupleOrig) (hr : TupleInverse c.env fenv c.ct.tupleReply) :
    ∃ zone, newConntrackKeys fenv (msgTable c.env.endian msg) (msgFamily msg) =
        .ok (some c.ct.tupleOrig, some c.ct.tupleReply, zone) ∧
      zone.id = c.ct.zone.id ∧ zone.dir = c.ct.zone.dir := by
  rw [FillCall.message_eq] at hmsg
  obtain ⟨l, hl, rfl⟩ := Option.map_eq_some_iff.mp hmsg
  have hsize := FillCall.attrs_lt hl
  have hfamily : msgFamily (nlMsgBytes c.env.endian c.hdr l) = family := by
    rw [msgFamily_bytes]
    show (nfCtL3num c.ct).toUInt8 = family
    rw [nfCtL3num, hct.orig.l3num]
    exact UInt8.toUInt8_toUInt16 family
  have htable : msgTable c.env.endian (nlMsgBytes c.env.endian c.hdr l) = nlaTable ctaMax l := by
    rw [msgTable, drop_nlMsgBytes, scanAttrs_attrsBytes _ _ (fits_of_attrsSize hsize)]
  rw [FillCall.attrs] at hl
  split at hl
  · obtain ⟨info, post, rfl, hinfo, hpost⟩ := fillInfoOut_parts c.env hl
    have hrest : Kinds (ctaProtoinfo :: (infoKinds ++ extKinds))
        (info ++ (protoinfoPart c.env c.ct c.hdr.flags ++ post)) := by
      refine Kinds.append (hinfo.mono ?_) (Kinds.append
        ((kinds_protoinfoPart c.env c.ct c.hdr.flags).mono ?_) (hpost.mono ?_))
      · exact fun t ht => List.mem_cons_of_mem _ (List.mem_append_left _ ht)
      · exact fun t ht => List.mem_cons.mpr (.inl (List.mem_singleton.mp ht))
      · exact fun t ht => List.mem_cons_of_mem _ (List.mem_append_right _ ht)
    have hkeys := newConntrackKeys_table hendian hct ho hr hrest hsize
    rw [htable, hfamily]
    exact ⟨_, hkeys, (zoneReadBack_eq hct).2.2⟩
  · cases hl

/-- The kernel's TCP callbacks are inverse to the writers of a host with the same byte order. -/
theorem tcp_tupleInverse {t : NfConntrackTuple} (ht : t.dst.protonum = ipprotoTcp) :
    TupleInverse sampleNlEnv kernelFilterEnv t where
  kinds := by
    intro f hf a ha
    obtain rfl := Option.some.inj hf
    have hmem : a = nlaBe16 ctaProtoSrcPort t.src.u ∨ a = nlaBe16 ctaProtoDstPort t.dst.u := by
      simpa using ha
    rcases hmem with rfl | rfl
    · rw [nlaBe16_kind]; decide
    · rw [nlaBe16_kind]; decide
  inverse := by
    intro f hf
    rw [ht]
    refine ⟨_, rfl, fun t₀ _ => ?_⟩
    have hattrs : tupleProtoAttrs sampleNlEnv t =
        [nlaU8 ctaProtoNum t.dst.protonum, nlaBe16 ctaProtoSrcPort t.src.u, nlaBe16 ctaProtoDstPort t.dst.u] :=
      rfl
    have hkn : (nlaU8 ctaProtoNum t.dst.protonum).kind = ctaProtoNum := by rw [nlaU8_kind]; decide
    have hks : (nlaBe16 ctaProtoSrcPort t.src.u).kind = ctaProtoSrcPort := by rw [nlaBe16_kind]; decide
    have hkd : (nlaBe16 ctaProtoDstPort t.dst.u).kind = ctaProtoDstPort := by rw [nlaBe16_kind]; decide
    have hpolicy : ∃ policy : UInt16 → NlaPolicy,
        policy = (fun type => if type ∈ [1, 5, 6, 8, 9] then nlaU8Policy else nlaU16Policy) ∧
          policy ctaProtoNum = .minLen 1 ∧ policy ctaProtoSrcPort = .minLen 2 ∧
            policy ctaProtoDstPort = .minLen 2 := ⟨_, rfl, by decide, by decide, by decide⟩
    obtain ⟨policy, hpolicy, hpn, hps, hpd⟩ := hpolicy
    have htb := @parseNested_nest .little 9 policy ctaTupleProto (tupleProtoAttrs sampleNlEnv t)
      (by rw [hattrs]; simp) (by
        rw [hattrs]
        intro a ha
        simp only [List.mem_cons, List.not_mem_nil, or_false] at ha
        rcases ha with rfl | rfl | rfl
        · exact meetsPolicy hkn hpn (by simp [nlaU8])
        · exact meetsPolicy hks hps (by simp [nlaBe16])
        · exact meetsPolicy hkd hpd (by simp [nlaBe16]))
    have hnodup : ((tupleProtoAttrs sampleNlEnv t).map Attr.kind).Nodup := by
      rw [hattrs]
      simp only [List.map_cons, List.map_nil, hkn, hks, hkd]
      decide
    have hgs : nlaTable 9 (tupleProtoAttrs sampleNlEnv t) ctaProtoSrcPort
        = some (nlaBe16 ctaProtoSrcPort t.src.u) := nlaTable_of_mem (by decide) hks hnodup (by simp [hattrs])
    have hgd : nlaTable 9 (tupleProtoAttrs sampleNlEnv t) ctaProtoDstPort
        = some (nlaBe16 ctaProtoDstPort t.dst.u) := nlaTable_of_mem (by decide) hkd hnodup (by simp [hattrs])
    have hfs : hasFlag ctaFilterFAll TupleField.srcPort.flag = true := by decide
    have hfd : hasFlag ctaFilterFAll TupleField.dstPort.flag = true := by decide
    show kernelNlattrToTuple [.srcPort, .dstPort]
      (nestAttr .little ctaTupleProto (tupleProtoAttrs sampleNlEnv t)) t₀ ctaFilterFAll = _
    rw [kernelNlattrToTuple, ← hpolicy, htb, ok_bind]
    simp only [List.foldlM_cons, List.foldlM_nil, hfs, hfd, if_true]
    have hts : TupleField.srcPort.attrType = ctaProtoSrcPort := rfl
    have htd : TupleField.dstPort.attrType = ctaProtoDstPort := rfl
    rw [hts, htd, hgs, hgd]
    simp only [TupleField.store, nlaGetBe16_nlaBe16]
    rfl
  neither := by
    intro h
    cases h

theorem sampleConn_inetKeys (tcp : IpCtTcp) : (sampleConn tcp).InetKeys nfprotoIpv4 where
  orig := ⟨rfl, .inl rfl, fun _ => rfl, fun _ => rfl, rfl⟩
  reply := ⟨rfl, .inl rfl, fun _ => rfl, fun _ => rfl, rfl⟩
  zoneDir := .inr (.inr rfl)
  zoneDefault := fun _ => rfl

/-- A connection in zone 100, dumped and read back. -/
theorem message_reads_back_sample :
    ∃ msg, ((FillSource.getConntrack).call sampleNlEnv 1 1 ipctnlMsgCtGet 0
        (sampleConn (sampleTcp .established 1 2 3))).message (Buf.empty 4096 (by decide)) = some msg ∧
      ∃ zone, newConntrackKeys kernelFilterEnv (msgTable .little msg) (msgFamily msg) =
          .ok (some (sampleTuple 0x0a000001 0x0a000002 12345 80 0),
            some (sampleTuple 0x0a000002 0x0a000001 80 12345 1), zone) ∧
        zone.id = 100 ∧ zone.dir = nfCtDefaultZoneDir := by
  have hfits : ((FillSource.getConntrack).call sampleNlEnv 1 1 ipctnlMsgCtGet 0
      (sampleConn (sampleTcp .established 1 2 3))).attrs 4096 |>.isSome := by decide +kernel
  obtain ⟨l, hl⟩ := Option.isSome_iff_exists.mp hfits
  have hmsg := FillCall.message_eq ((FillSource.getConntrack).call sampleNlEnv 1 1 ipctnlMsgCtGet 0
    (sampleConn (sampleTcp .established 1 2 3))) (Buf.empty 4096 (by decide))
  rw [Buf.empty_room, hl] at hmsg
  exact ⟨_, hmsg, message_reads_back hmsg rfl (sampleConn_inetKeys _) (tcp_tupleInverse rfl)
    (tcp_tupleInverse rfl)⟩

end VgwDriver
