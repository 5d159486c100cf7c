import VgwDriver.Netlink.TupleParse

/-!
# Changing the sequence adjustment

`CTA_SEQ_ADJ_ORIG` and `CTA_SEQ_ADJ_REPLY` of a request each carry three members.  `change_seq_adj` stores one
member before it looks for the next, so a request that is refused may have changed the conntrack already.

* `changeSeqAdj`, `ctnetlinkChangeSeqAdj` — the functions;
* `requestedSeqAdj_seqAdjAttr` — what a message tells is what is stored again;
* `seqAdjAtomic_iff` — a request is **executed whole or not at all** exactly if the members in front of the
  first missing one tell nothing new.
-/

namespace VgwDriver

open Base

/-! ### The functions -/

def ctaSeqadjMax : UInt16 := 3

/-- `seqadj_policy`. -/
def seqadjPolicy (type : UInt16) : NlaPolicy :=
  if type ∈ [ctaSeqadjCorrectionPos, ctaSeqadjOffsetBefore, ctaSeqadjOffsetAfter] then nlaU32Policy
  else .unspec

/-- `IPS_SEQ_ADJUST`. -/
def ipsSeqAdjust : UInt32 := 64

section Functions

variable (e : Endian)

/-- `change_seq_adj`: what it returns, and what it leaves in `seq`. -/
def changeSeqAdj (seq : NfCtSeqadj) (attr : Attr) : ℤ × NfCtSeqadj :=
  match nlaParseNestedDeprecated e ctaSeqadjMax seqadjPolicy attr with
  | .error err => (err, seq)
  | .ok cda =>
    match cda ctaSeqadjCorrectionPos with
    | none => (-einval, seq)
    | some pos =>
      let seq := { seq with correctionPos := nlaGetBe32 pos }
      match cda ctaSeqadjOffsetBefore with
      | none => (-einval, seq)
      | some before =>
        let seq := { seq with offsetBefore := nlaGetBe32 before }
        match cda ctaSeqadjOffsetAfter with
        | none => (-einval, seq)
        | some after => (0, { seq with offsetAfter := nlaGetBe32 after })

/-- `set_bit(IPS_SEQ_ADJUST_BIT, &ct->status)`. -/
def NfConn.setSeqAdjust (ct : NfConn) : NfConn := { ct with status := ct.status ||| ipsSeqAdjust }

/-- `seqadj->seq[dir]`. -/
def seqAdjAt (seqs : NfCtSeqadj × NfCtSeqadj) : IpConntrackDir → NfCtSeqadj
  | .original => seqs.1
  | .reply => seqs.2

def seqAdjSet (seqs : NfCtSeqadj × NfCtSeqadj) (seq : NfCtSeqadj) : IpConntrackDir → NfCtSeqadj × NfCtSeqadj
  | .original => (seq, seqs.2)
  | .reply => (seqs.1, seq)

/-- The part of `ctnetlink_change_seq_adj` about the direction `dir`, whose attribute is `attr`. -/
def changeSeqAdjDir (dir : IpConntrackDir) (ct : NfConn) (attr : Option Attr) : ℤ × NfConn :=
  match ct.seqadj with
  | none => (0, ct)
  | some seqs =>
    match attr with
    | none => (0, ct)
    | some attr =>
      match changeSeqAdj e (seqAdjAt seqs dir) attr with
      | (ret, seq) =>
        let ct := { ct with seqadj := some (seqAdjSet seqs seq dir) }
        if ret < 0 then (ret, ct) else (0, ct.setSeqAdjust)

/-- `ctnetlink_change_seq_adj`. -/
def ctnetlinkChangeSeqAdj (ct : NfConn) (cda : NlaTable) : ℤ × NfConn :=
  match ct.seqadj with
  | none => (0, ct)
  | some _ =>
    match changeSeqAdjDir e .original ct (cda ctaSeqAdjOrig) with
    | (ret, ct) => if ret < 0 then (ret, ct) else changeSeqAdjDir e .reply ct (cda ctaSeqAdjReply)

end Functions

/-! ### What a request asks for -/

section Requests

variable (e : Endian)

/-- The three values of an attribute that has all its members. -/
def requestedSeqAdj (attr : Attr) : Option NfCtSeqadj :=
  match nlaParseNestedDeprecated e ctaSeqadjMax seqadjPolicy attr with
  | .error _ => none
  | .ok cda =>
    match cda ctaSeqadjCorrectionPos, cda ctaSeqadjOffsetBefore, cda ctaSeqadjOffsetAfter with
    | some pos, some before, some after => some ⟨nlaGetBe32 pos, nlaGetBe32 before, nlaGetBe32 after⟩
    | _, _, _ => none

/-- One direction is changed as the request says: to the values of its attribute, or not at all. -/
def SeqAdjChanged (attr : Option Attr) (seq seq' : NfCtSeqadj) : Prop :=
  match attr with
  | none => seq' = seq
  | some a => requestedSeqAdj e a = some seq'

/-- The members in front of the first missing one tell what `seq` holds already. -/
def SeqAdjRepeats (attr : Attr) (seq : NfCtSeqadj) : Prop :=
  ∀ cda, nlaParseNestedDeprecated e ctaSeqadjMax seqadjPolicy attr = .ok cda →
    ∀ pos, cda ctaSeqadjCorrectionPos = some pos → nlaGetBe32 pos = seq.correctionPos ∧
      ∀ before, cda ctaSeqadjOffsetBefore = some before → nlaGetBe32 before = seq.offsetBefore

variable (cda : NlaTable) (ct : NfConn) (orig reply : NfCtSeqadj)

/-- A request that fails has changed neither direction nor the status bit; one that succeeds has changed each
direction as it says. -/
structure SeqAdjAtomic : Prop where
  failed : (ctnetlinkChangeSeqAdj e ct cda).1 ≠ 0 →
    (ctnetlinkChangeSeqAdj e ct cda).2.seqadj = some (orig, reply) ∧
      (ctnetlinkChangeSeqAdj e ct cda).2.testStatus ipsSeqAdjustBit = ct.testStatus ipsSeqAdjustBit
  changed : (ctnetlinkChangeSeqAdj e ct cda).1 = 0 →
    ∃ orig' reply', (ctnetlinkChangeSeqAdj e ct cda).2.seqadj = some (orig', reply') ∧
      SeqAdjChanged e (cda ctaSeqAdjOrig) orig orig' ∧ SeqAdjChanged e (cda ctaSeqAdjReply) reply reply'

/-- What is stored before the request is refused tells nothing new: the members of `CTA_SEQ_ADJ_ORIG` in front
of the first missing one; or, where all its members are there, those and the status bit, and the members of
`CTA_SEQ_ADJ_REPLY` in front of the first missing one. -/
structure SeqAdjHarmless : Prop where
  inOrig : ∀ a, cda ctaSeqAdjOrig = some a → requestedSeqAdj e a = none → SeqAdjRepeats e a orig
  inReply : ∀ b, cda ctaSeqAdjReply = some b → requestedSeqAdj e b = none →
    (∀ a, cda ctaSeqAdjOrig = some a → requestedSeqAdj e a ≠ none) →
      SeqAdjRepeats e b reply ∧
        ∀ a seq, cda ctaSeqAdjOrig = some a → requestedSeqAdj e a = some seq →
          seq = orig ∧ ct.testStatus ipsSeqAdjustBit = true

end Requests

/-! ### One direction -/

section Direction

variable {e : Endian} {seq : NfCtSeqadj} {attr : Attr}

/-- An attribute that has all its members is stored. -/
theorem changeSeqAdj_complete {seq' : NfCtSeqadj} (h : requestedSeqAdj e attr = some seq') :
    changeSeqAdj e seq attr = (0, seq') := by
  rw [requestedSeqAdj] at h
  rw [changeSeqAdj]
  cases hparse : nlaParseNestedDeprecated e ctaSeqadjMax seqadjPolicy attr with
  | error err =>
    rw [hparse] at h
    cases h
  | ok cda =>
    rw [hparse] at h
    dsimp only at h ⊢
    split at h
    · rename_i pos before after hpos hbefore hafter
      rw [hpos, hbefore, hafter]
      exact congrArg (Prod.mk 0) (Option.some.inj h)
    · cases h

theorem parseNested_error {e : Endian} {max : UInt16} {policy : UInt16 → NlaPolicy} {attr : Attr} {err : ℤ}
    (h : nlaParseNestedDeprecated e max policy attr = .error err) : err = -erange := by
  rw [nlaParseNestedDeprecated] at h
  split at h
  · cases h
  · exact (Except.error.inj h).symm

/-- **A refused attribute** leaves the members in front of the first missing one behind. -/
theorem changeSeqAdj_refused (h : requestedSeqAdj e attr = none) :
    ∃ err seq', changeSeqAdj e seq attr = (err, seq') ∧ err < 0 ∧
      (seq' = seq ↔ SeqAdjRepeats e attr seq) := by
  have heinval : -einval < 0 := by decide
  rw [changeSeqAdj, SeqAdjRepeats]
  rw [requestedSeqAdj] at h
  cases hparse : nlaParseNestedDeprecated e ctaSeqadjMax seqadjPolicy attr with
  | error err =>
    refine ⟨err, seq, rfl, ?_, iff_of_true rfl fun cda hcda => by cases hcda⟩
    rw [parseNested_error hparse]
    decide
  | ok cda =>
    rw [hparse] at h
    dsimp only at h ⊢
    have hrepeats : (∀ cda', Except.ok (ε := ℤ) cda = .ok cda' → ∀ pos,
        cda' ctaSeqadjCorrectionPos = some pos → nlaGetBe32 pos = seq.correctionPos ∧
          ∀ before, cda' ctaSeqadjOffsetBefore = some before → nlaGetBe32 before = seq.offsetBefore) ↔
        ∀ pos, cda ctaSeqadjCorrectionPos = some pos → nlaGetBe32 pos = seq.correctionPos ∧
          ∀ before, cda ctaSeqadjOffsetBefore = some before → nlaGetBe32 before = seq.offsetBefore := by
      constructor
      · exact fun hall => hall cda rfl
      · rintro hall cda' hcda'
        cases hcda'
        exact hall
    rw [hrepeats]
    cases hpos : cda ctaSeqadjCorrectionPos with
    | none => exact ⟨_, _, rfl, heinval, iff_of_true rfl fun pos hp => by cases hp⟩
    | some pos =>
      cases hbefore : cda ctaSeqadjOffsetBefore with
      | none =>
        refine ⟨_, _, rfl, heinval, ?_⟩
        constructor
        · intro heq pos' hp
          cases hp
          exact ⟨congrArg NfCtSeqadj.correctionPos heq, fun b hb => by cases hb⟩
        · intro hall
          show ({ seq with correctionPos := nlaGetBe32 pos } : NfCtSeqadj) = seq
          rw [(hall pos rfl).1]
      | some before =>
        cases hafter : cda ctaSeqadjOffsetAfter with
        | none =>
          refine ⟨_, _, rfl, heinval, ?_⟩
          constructor
          · intro heq pos' hp
            cases hp
            refine ⟨congrArg NfCtSeqadj.correctionPos heq, fun b hb => ?_⟩
            cases hb
            exact congrArg NfCtSeqadj.offsetBefore heq
          · intro hall
            show (⟨nlaGetBe32 pos, nlaGetBe32 before, seq.offsetAfter⟩ : NfCtSeqadj) = seq
            rw [(hall pos rfl).1, (hall pos rfl).2 before rfl]
        | some after =>
          rw [hpos, hbefore, hafter] at h
          cases h

/-- **What a message tells** about a direction is stored again as it was. -/
theorem requestedSeqAdj_seqAdjAttr (env : NlEnv) (seq : NfCtSeqadj) (type : UInt16) :
    requestedSeqAdj env.endian (seqAdjAttr env seq type) = some seq := by
  have hkp : (nlaBe32 ctaSeqadjCorrectionPos seq.correctionPos).kind = ctaSeqadjCorrectionPos := by
    rw [nlaBe32_kind]; decide
  have hkb : (nlaBe32 ctaSeqadjOffsetBefore seq.offsetBefore).kind = ctaSeqadjOffsetBefore := by
    rw [nlaBe32_kind]; decide
  have hka : (nlaBe32 ctaSeqadjOffsetAfter seq.offsetAfter).kind = ctaSeqadjOffsetAfter := by
    rw [nlaBe32_kind]; decide
  have hparse := @parseNested_nest env.endian ctaSeqadjMax seqadjPolicy type
    [nlaBe32 ctaSeqadjCorrectionPos seq.correctionPos, nlaBe32 ctaSeqadjOffsetBefore seq.offsetBefore,
      nlaBe32 ctaSeqadjOffsetAfter seq.offsetAfter] (by simp) (by
    have hp : seqadjPolicy ctaSeqadjCorrectionPos = .minLen 4 := by decide
    have hb : seqadjPolicy ctaSeqadjOffsetBefore = .minLen 4 := by decide
    have ha : seqadjPolicy ctaSeqadjOffsetAfter = .minLen 4 := by decide
    intro a hmem
    simp only [List.mem_cons, List.not_mem_nil, or_false] at hmem
    rcases hmem with rfl | rfl | rfl
    · exact meetsPolicy hkp hp (by simp [nlaBe32])
    · exact meetsPolicy hkb hb (by simp [nlaBe32])
    · exact meetsPolicy hka ha (by simp [nlaBe32]))
  have hnodup : ([nlaBe32 ctaSeqadjCorrectionPos seq.correctionPos,
      nlaBe32 ctaSeqadjOffsetBefore seq.offsetBefore,
      nlaBe32 ctaSeqadjOffsetAfter seq.offsetAfter].map Attr.kind).Nodup := by
    simp only [List.map_cons, List.map_nil, hkp, hkb, hka]
    decide
  have htp := @nlaTable_of_mem ctaSeqadjMax _ _ _ (by decide) hkp hnodup (by simp)
  have htb := @nlaTable_of_mem ctaSeqadjMax _ _ _ (by decide) hkb hnodup (by simp)
  have hta := @nlaTable_of_mem ctaSeqadjMax _ _ _ (by decide) hka hnodup (by simp)
  rw [requestedSeqAdj, seqAdjAttr, hparse]
  simp only [htp, htb, hta, nlaGetBe32_nlaBe32]

end Direction

/-! ### Both directions -/

section Both

variable {e : Endian} {cda : NlaTable} {ct : NfConn} {orig reply : NfCtSeqadj}

@[simp] theorem setSeqAdjust_seqadj (ct : NfConn) : ct.setSeqAdjust.seqadj = ct.seqadj := rfl

@[simp] theorem setSeqAdjust_bit (ct : NfConn) : ct.setSeqAdjust.testStatus ipsSeqAdjustBit = true := by
  show (ct.status ||| ipsSeqAdjust).toNat.testBit 6 = true
  rw [UInt32.toNat_or, Nat.testBit_or, show ipsSeqAdjust.toNat.testBit 6 = true by decide, Bool.or_true]

/-- **A direction that is absent, or complete**, is changed as the request says. -/
theorem changeSeqAdjDir_accepted {seqs : NfCtSeqadj × NfCtSeqadj} (hext : ct.seqadj = some seqs)
    (dir : IpConntrackDir) {attr : Option Attr} (hok : ∀ a, attr = some a → requestedSeqAdj e a ≠ none) :
    ∃ ct' seq, changeSeqAdjDir e dir ct attr = (0, ct') ∧ SeqAdjChanged e attr (seqAdjAt seqs dir) seq ∧
      ct'.seqadj = some (seqAdjSet seqs seq dir) ∧
      ct'.testStatus ipsSeqAdjustBit = (ct.testStatus ipsSeqAdjustBit || attr.isSome) := by
  cases attr with
  | none =>
    refine ⟨ct, seqAdjAt seqs dir, ?_, rfl, ?_, by simp⟩
    · rw [changeSeqAdjDir, hext]
    · rw [hext]
      cases dir <;> rfl
  | some a =>
    obtain ⟨seq, hreq⟩ := Option.ne_none_iff_exists'.mp (hok a rfl)
    refine ⟨{ ct with seqadj := some (seqAdjSet seqs seq dir) }.setSeqAdjust, seq, ?_, hreq, rfl, by simp⟩
    rw [changeSeqAdjDir, hext]
    dsimp only
    rw [changeSeqAdj_complete hreq]
    exact if_neg (Int.lt_irrefl 0)

/-- **A direction with a member missing** is refused, with the members in front of it stored. -/
theorem changeSeqAdjDir_refused {seqs : NfCtSeqadj × NfCtSeqadj} (hext : ct.seqadj = some seqs)
    (dir : IpConntrackDir) {a : Attr} (hreq : requestedSeqAdj e a = none) :
    ∃ err seq, changeSeqAdjDir e dir ct (some a) = (err, { ct with seqadj := some (seqAdjSet seqs seq dir) }) ∧
      err < 0 ∧ (seq = seqAdjAt seqs dir ↔ SeqAdjRepeats e a (seqAdjAt seqs dir)) := by
  obtain ⟨err, seq, hrun, herr, hrepeats⟩ := @changeSeqAdj_refused e (seqAdjAt seqs dir) a hreq
  refine ⟨err, seq, ?_, herr, hrepeats⟩
  rw [changeSeqAdjDir, hext]
  dsimp only
  rw [hrun]
  exact if_pos herr

/-- A request that goes through. -/
theorem seqAdjAtomic_of_ok {ct' : NfConn} {orig' reply' : NfCtSeqadj}
    (hrun : ctnetlinkChangeSeqAdj e ct cda = (0, ct')) (hseq : ct'.seqadj = some (orig', reply'))
    (horig : SeqAdjChanged e (cda ctaSeqAdjOrig) orig orig')
    (hreply : SeqAdjChanged e (cda ctaSeqAdjReply) reply reply') : SeqAdjAtomic e cda ct orig reply where
  failed := by
    rw [hrun]
    exact fun h => absurd rfl h
  changed := by
    rw [hrun]
    exact fun _ => ⟨orig', reply', hseq, horig, hreply⟩

/-- A request that is refused. -/
theorem seqAdjAtomic_of_error {err : ℤ} {ct' : NfConn} (hrun : ctnetlinkChangeSeqAdj e ct cda = (err, ct'))
    (herr : err < 0) : SeqAdjAtomic e cda ct orig reply ↔
      ct'.seqadj = some (orig, reply) ∧
        ct'.testStatus ipsSeqAdjustBit = ct.testStatus ipsSeqAdjustBit := by
  constructor
  · rintro ⟨hfailed, -⟩
    rw [hrun] at hfailed
    exact hfailed (Int.ne_of_lt herr)
  · intro hsame
    refine ⟨?_, ?_⟩
    · rw [hrun]
      exact fun _ => hsame
    · rw [hrun]
      exact fun h => absurd h (Int.ne_of_lt herr)

theorem changeSeqAdj_eq (hext : ct.seqadj = some (orig, reply)) :
    ctnetlinkChangeSeqAdj e ct cda =
      match changeSeqAdjDir e .original ct (cda ctaSeqAdjOrig) with
      | (ret, ct) => if ret < 0 then (ret, ct) else changeSeqAdjDir e .reply ct (cda ctaSeqAdjReply) := by
  rw [ctnetlinkChangeSeqAdj, hext]

/-- The first direction is refused: the request does no harm if that direction repeats what it finds. -/
theorem seqAdjAtomic_iff_of_orig {a : Attr} (hext : ct.seqadj = some (orig, reply))
    (ha : cda ctaSeqAdjOrig = some a) (hnone : requestedSeqAdj e a = none) :
    SeqAdjAtomic e cda ct orig reply ↔ SeqAdjRepeats e a orig := by
  obtain ⟨err, orig', hdir, herr, hrepeats⟩ := changeSeqAdjDir_refused hext .original hnone
  have hrun : ctnetlinkChangeSeqAdj e ct cda =
      (err, { ct with seqadj := some (seqAdjSet (orig, reply) orig' .original) }) := by
    rw [changeSeqAdj_eq hext, ha, hdir]
    exact if_pos herr
  rw [seqAdjAtomic_of_error hrun herr]
  show some (orig', reply) = some (orig, reply) ∧
    ct.testStatus ipsSeqAdjustBit = ct.testStatus ipsSeqAdjustBit ↔ _
  rw [Option.some.injEq, Prod.mk.injEq, and_iff_left rfl, and_iff_left rfl]
  exact hrepeats

/-- The second direction is refused: the first one is stored already, with the status bit. -/
theorem seqAdjAtomic_iff_of_reply {b : Attr} (hext : ct.seqadj = some (orig, reply))
    (hok : ∀ a, cda ctaSeqAdjOrig = some a → requestedSeqAdj e a ≠ none) (hb : cda ctaSeqAdjReply = some b)
    (hnone : requestedSeqAdj e b = none) :
    SeqAdjAtomic e cda ct orig reply ↔ SeqAdjRepeats e b reply ∧
      ∀ a seq, cda ctaSeqAdjOrig = some a → requestedSeqAdj e a = some seq →
        seq = orig ∧ ct.testStatus ipsSeqAdjustBit = true := by
  obtain ⟨ct₁, orig₁, hdir₁, horig, hseq₁, hbit₁⟩ := changeSeqAdjDir_accepted hext .original hok
  obtain ⟨err, reply', hdir₂, herr, hrepeats⟩ := changeSeqAdjDir_refused hseq₁ .reply hnone
  have hrun : ctnetlinkChangeSeqAdj e ct cda =
      (err, { ct₁ with seqadj := some (seqAdjSet (orig₁, reply) reply' .reply) }) := by
    rw [changeSeqAdj_eq hext, hdir₁, hb]
    exact (if_neg (Int.lt_irrefl 0)).trans hdir₂
  rw [seqAdjAtomic_of_error hrun herr]
  show some (orig₁, reply') = some (orig, reply) ∧
    ct₁.testStatus ipsSeqAdjustBit = ct.testStatus ipsSeqAdjustBit ↔ _
  have hsplit : some (orig₁, reply') = some (orig, reply) ↔ orig₁ = orig ∧ SeqAdjRepeats e b reply := by
    rw [Option.some.injEq, Prod.mk.injEq]
    exact and_congr_right fun _ => hrepeats
  rw [hsplit, hbit₁]
  cases ha : cda ctaSeqAdjOrig with
  | none =>
    rw [ha] at horig
    have hsame : orig₁ = orig := horig
    simp [hsame]
  | some a =>
    rw [ha] at horig
    have hreq : requestedSeqAdj e a = some orig₁ := horig
    rw [Option.isSome_some, Bool.or_true]
    constructor
    · rintro ⟨⟨hsame, hrep⟩, hbit⟩
      refine ⟨hrep, fun a' seq ha' hseq => ?_⟩
      rw [← Option.some.inj ha', hreq] at hseq
      exact ⟨(Option.some.inj hseq).symm.trans hsame, hbit.symm⟩
    · rintro ⟨hrep, hfirst⟩
      obtain ⟨hsame, hbit⟩ := hfirst a orig₁ rfl hreq
      exact ⟨⟨hsame, hrep⟩, hbit.symm⟩

/-- Neither direction is refused. -/
theorem seqAdjAtomic_of_requested (hext : ct.seqadj = some (orig, reply))
    (hok : ∀ a, cda ctaSeqAdjOrig = some a → requestedSeqAdj e a ≠ none)
    (hok' : ∀ b, cda ctaSeqAdjReply = some b → requestedSeqAdj e b ≠ none) :
    SeqAdjAtomic e cda ct orig reply := by
  obtain ⟨ct₁, orig₁, hdir₁, horig, hseq₁, -⟩ := changeSeqAdjDir_accepted hext .original hok
  obtain ⟨ct₂, reply₂, hdir₂, hreply, hseq₂, -⟩ := changeSeqAdjDir_accepted hseq₁ .reply hok'
  have hrun : ctnetlinkChangeSeqAdj e ct cda = (0, ct₂) := by
    rw [changeSeqAdj_eq hext, hdir₁]
    exact (if_neg (Int.lt_irrefl 0)).trans hdir₂
  exact seqAdjAtomic_of_ok hrun hseq₂ horig hreply

/-- **A request is executed whole or not at all** exactly if what is stored before it is refused tells nothing
new. -/
theorem seqAdjAtomic_iff (hext : ct.seqadj = some (orig, reply)) :
    SeqAdjAtomic e cda ct orig reply ↔ SeqAdjHarmless e cda ct orig reply := by
  by_cases hok : ∀ a, cda ctaSeqAdjOrig = some a → requestedSeqAdj e a ≠ none
  · by_cases hok' : ∀ b, cda ctaSeqAdjReply = some b → requestedSeqAdj e b ≠ none
    · refine iff_of_true (seqAdjAtomic_of_requested hext hok hok') ⟨?_, ?_⟩
      · exact fun a ha hnone => absurd hnone (hok a ha)
      · exact fun b hb hnone => absurd hnone (hok' b hb)
    · push Not at hok'
      obtain ⟨b, hb, hnone⟩ := hok'
      rw [seqAdjAtomic_iff_of_reply hext hok hb hnone]
      constructor
      · intro hharmless
        refine ⟨fun a ha hnone' => absurd hnone' (hok a ha), fun b' hb' _ _ => ?_⟩
        rw [hb] at hb'
        rwa [← Option.some.inj hb']
      · rintro ⟨-, hharmless⟩
        exact hharmless b hb hnone hok
  · push Not at hok
    obtain ⟨a, ha, hnone⟩ := hok
    rw [seqAdjAtomic_iff_of_orig hext ha hnone]
    constructor
    · intro hrep
      refine ⟨fun a' ha' _ => ?_, fun _ _ _ hall => absurd hnone (hall a ha)⟩
      rw [ha] at ha'
      rwa [← Option.some.inj ha']
    · rintro ⟨horig, -⟩
      exact horig a ha hnone

end Both

/-- A connection whose sequence numbers are not adjusted yet. -/
def adjustableConn : NfConn :=
  { sampleConn (sampleTcp .established 1 2 3) with seqadj := some (⟨0, 0, 0⟩, ⟨0, 0, 0⟩) }

/-- A request of all three members for the original direction. -/
def completeSeqAdj : NlaTable := nlaTable ctaMax [seqAdjAttr sampleNlEnv ⟨100, 4, 8⟩ ctaSeqAdjOrig]

theorem completeSeqAdj_atomic :
    SeqAdjAtomic .little completeSeqAdj adjustableConn ⟨0, 0, 0⟩ ⟨0, 0, 0⟩ := by
  refine (seqAdjAtomic_iff rfl).mpr ⟨?_, ?_⟩
  · intro a ha hnone
    have hattr : completeSeqAdj ctaSeqAdjOrig = some (seqAdjAttr sampleNlEnv ⟨100, 4, 8⟩ ctaSeqAdjOrig) := rfl
    rw [← Option.some.inj (hattr.symm.trans ha)] at hnone
    have hsome := requestedSeqAdj_seqAdjAttr sampleNlEnv ⟨100, 4, 8⟩ ctaSeqAdjOrig
    rw [show sampleNlEnv.endian = .little from rfl, hnone] at hsome
    cases hsome
  · intro b hb
    have hattr : completeSeqAdj ctaSeqAdjReply = none := rfl
    rw [hattr] at hb
    cases hb

/-- A request with only the first member. -/
def cutSeqAdj : NlaTable :=
  nlaTable ctaMax [nestAttr .little ctaSeqAdjOrig [nlaBe32 ctaSeqadjCorrectionPos 100]]

/-- It is refused, and the position is stored. -/
theorem cutSeqAdj_not_atomic : ¬ SeqAdjAtomic .little cutSeqAdj adjustableConn ⟨0, 0, 0⟩ ⟨0, 0, 0⟩ := by
  intro hatomic
  have hret : (ctnetlinkChangeSeqAdj .little adjustableConn cutSeqAdj).1 ≠ 0 := by decide +kernel
  have hseq : (ctnetlinkChangeSeqAdj .little adjustableConn cutSeqAdj).2.seqadj
      = some (⟨100, 0, 0⟩, ⟨0, 0, 0⟩) := by decide +kernel
  have hsame := (hatomic.failed hret).1
  rw [hseq] at hsame
  exact absurd hsame (by decide)

end VgwDriver
