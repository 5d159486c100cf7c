import VgwDriver.Netlink.LifecycleRuns

/-!
# Deleting conntracks

A request to delete, on the table with its references, and on a plain list of conntracks.

* `CtWorld.entries` — the conntracks of the table, in its order, without their counts;
* `delConntrack_refines` — **a delete request on the table** is the one on the list;
* `ctFlush_left` — **what `ct flush` leaves**: of the namespace, what the list keeps, and of what is no longer
  in the table only what somebody holds or what is the master of something left.
-/

namespace VgwDriver

open Base

namespace CtWorld

variable {env : CreateEnv} {w : CtWorld} {held : CtPtr → ℕ} {p q : CtPtr} {info : NfnlInfo} {cda : NlaTable}

/-! ### The conntracks of the table -/

/-- A conntrack without its count. -/
def uncounted (ct : NfConn) : NfConn := { ct with use := 0 }

/-- The conntracks of the table. -/
def entries (w : CtWorld) : CtTable :=
  (w.hash.nodes.filter fun n => n.dir = .original).map fun n => (n.ct, uncounted (w.conn n.ct))

theorem mem_entries {e : CtPtr × NfConn} : e ∈ w.entries ↔ w.Listed e.1 ∧ e.2 = uncounted (w.conn e.1) := by
  unfold entries
  rw [List.mem_map]
  constructor
  · rintro ⟨n, hn, rfl⟩
    obtain ⟨hn, hdir⟩ := List.mem_filter.mp hn
    obtain ⟨q, dir⟩ := n
    cases of_decide_eq_true hdir
    exact ⟨hn, rfl⟩
  · rintro ⟨hlisted, hconn⟩
    refine ⟨⟨e.1, .original⟩, List.mem_filter.mpr ⟨hlisted, decide_eq_true rfl⟩, ?_⟩
    exact Prod.ext rfl hconn.symm

/-! The counts do not show. -/

@[simp] theorem entries_get (w : CtWorld) (p : CtPtr) : (w.get p).entries = w.entries := rfl
@[simp] theorem entries_put (w : CtWorld) (p : CtPtr) : (w.put p).entries = w.entries := rfl

/-- **A deletion** takes the conntrack off the list. -/
theorem entries_delete (h : w.Sound held) (hp : p ∈ w.live) :
    (w.delete p).entries = w.entries.filter fun e => e.1 ≠ p := by
  unfold CtWorld.delete
  by_cases hdying : (w.conn p).testStatus ipsDyingBit
  · rw [if_pos hdying]
    have hunlisted : ¬ w.Listed p := by
      have heq := h.dying p hp
      rw [hdying] at heq
      simpa using heq.symm
    refine (List.filter_eq_self.mpr fun e he => ?_).symm
    refine decide_eq_true fun heq => hunlisted ?_
    exact heq ▸ (mem_entries.mp he).1
  · rw [if_neg hdying]
    dsimp only
    rw [entries_put]
    unfold entries
    rw [show (CtWorld.mk ((w.modify p _).hash.unlink p) _ _).hash.nodes = _ from nodes_unlink _ p,
      List.filter_map, List.filter_filter, List.filter_filter]
    have hpred : ∀ n : TupleHash, (decide (n.dir = .original) && decide (n.ct ≠ p)) =
        (((fun e : CtPtr × NfConn => decide (e.1 ≠ p)) ∘ fun n : TupleHash => (n.ct, uncounted (w.conn n.ct))) n &&
          decide (n.dir = .original)) := fun n => Bool.and_comm _ _
    rw [List.filter_congr fun n _ => hpred n]
    refine List.map_congr_left fun n hn => ?_
    have hne : n.ct ≠ p := by
      have hand := (List.mem_filter.mp hn).2
      exact of_decide_eq_true (Bool.and_eq_true_iff.mp hand).1
    exact congrArg (fun ct => (n.ct, uncounted ct)) (if_neg hne)

/-! ### Many conntracks -/

/-- What a callback of a cleanup does not look at. -/
def UseBlind (iter : NfConn → Bool) : Prop := ∀ ct, iter (uncounted ct) = iter ct

theorem entries_deleteTaken (h : w.Sound held) (hp : p ∈ w.live) :
    (((w.get p).delete p).put p).entries = w.entries.filter fun e => e.1 ≠ p := by
  rw [entries_put, entries_delete (h.get hp) hp, entries_get]

theorem entries_cleanupStep (h : w.Sound held) (net : NetPtr) {iter : NfConn → Bool} (hiter : UseBlind iter)
    (p : CtPtr) : (cleanupStep net iter w p).entries =
      w.entries.filter fun e => !(e.1 = p && e.2.net = net && iter e.2) := by
  have hconn : ∀ e ∈ w.entries, e.1 = p → e.2.net = (w.conn p).net ∧ iter e.2 = iter (w.conn p) := by
    rintro e he rfl
    rw [(mem_entries.mp he).2]
    exact ⟨rfl, hiter _⟩
  unfold cleanupStep
  by_cases hp : w.Listed p ∧ (w.conn p).net = net ∧ iter (w.conn p)
  · rw [if_pos hp, entries_deleteTaken h (h.live_of_listed hp.1)]
    refine List.filter_congr fun e he => ?_
    by_cases heq : e.1 = p
    · obtain ⟨hnet, hval⟩ := hconn e he heq
      simp [heq, hnet, hval, hp.2.1, hp.2.2]
    · simp [heq]
  · rw [if_neg hp]
    refine (List.filter_eq_self.mpr fun e he => ?_).symm
    by_cases heq : e.1 = p
    · obtain ⟨hnet, hval⟩ := hconn e he heq
      have hno : ¬ ((w.conn p).net = net ∧ iter (w.conn p)) := fun hyes => hp ⟨heq ▸ (mem_entries.mp he).1, hyes⟩
      rw [not_and_or, Bool.not_eq_true] at hno
      simpa [heq, hnet, hval] using hno
    · simp [heq]

/-- The conntracks that are looked at, and only they, are asked about. -/
theorem entries_run (h : w.Sound held) (net : NetPtr) {iter : NfConn → Bool} (hiter : UseBlind iter)
    (l : List CtPtr) : (run (cleanupStep net iter) w l).entries =
      w.entries.filter fun e => !(decide (e.1 ∈ l) && e.2.net = net && iter e.2) := by
  induction l generalizing w with
  | nil => exact (List.filter_eq_self.mpr fun e _ => by simp).symm
  | cons p l ih =>
    rw [run_cons, ih (h.cleanupStep net iter p), entries_cleanupStep h net hiter, List.filter_filter]
    refine List.filter_congr fun e _ => ?_
    by_cases hp : e.1 = p
    · by_cases hnet : e.2.net = net
      · cases iter e.2 <;> simp [hp, hnet]
      · simp [hp, hnet]
    · simp [hp]

/-- **A cleanup** is the one on the list. -/
theorem entries_cleanup (h : w.Sound held) (net : NetPtr) {iter : NfConn → Bool} (hiter : UseBlind iter) :
    (w.iterateCleanupNet net iter).entries = nfCtIterateCleanupNet net iter w.entries := by
  rw [iterateCleanupNet_eq, entries_run h net hiter, nfCtIterateCleanupNet]
  refine List.filter_congr fun e he => ?_
  have hmem : e.1 ∈ w.hash.nodes.map (·.ct) := List.mem_map.mpr ⟨⟨e.1, .original⟩, (mem_entries.mp he).1, rfl⟩
  rw [decide_eq_true hmem, Bool.true_and]

theorem useBlind_flush (filter : Option CtnetlinkFilter) : UseBlind fun ct => ctnetlinkFlushIterate ct filter :=
  fun _ => rfl

/-- **A flush** is the one on the list. -/
theorem flush_refines (h : w.Sound held) (family : UInt8) :
    ctnetlinkFlushConntrack env.toFilterEnv info.net cda family w.entries =
      ((w.flushConntrack env info cda family).1, (w.flushConntrack env info cda family).2.entries) := by
  unfold flushConntrack ctnetlinkFlushConntrack
  split
  · split
    · rfl
    · cases ctnetlinkAllocFilter env.toFilterEnv cda family with
      | error err => rfl
      | ok filter => exact congrArg (Prod.mk 0) (entries_cleanup h info.net (useBlind_flush (some filter))).symm
  · exact congrArg (Prod.mk 0) (entries_cleanup h info.net (useBlind_flush none)).symm

/-! ### One conntrack -/

/-- What a delete request on the list looks up. -/
def delEnv (env : CreateEnv) (t : NfConntrackHash) : DelEnv where
  toFilterEnv := env.toFilterEnv
  nfConntrackFindGet := fun net zone tuple => (env.find t net zone tuple).map (·.ct)
  nfCtGetId := env.nfCtGetId

theorem find_entries (hp : w.Listed p) :
    w.entries.find? (fun e => e.1 = p) = some (p, uncounted (w.conn p)) := by
  have hmem : (p, uncounted (w.conn p)) ∈ w.entries := mem_entries.mpr ⟨hp, rfl⟩
  cases hfind : w.entries.find? (fun e => e.1 = p) with
  | none => exact absurd (decide_eq_true rfl) (List.find?_eq_none.mp hfind _ hmem)
  | some e =>
    have hkey : e.1 = p := by simpa using List.find?_some hfind
    have hconn := (mem_entries.mp (List.mem_of_find?_eq_some hfind)).2
    rw [hkey] at hconn
    exact congrArg some (Prod.ext hkey hconn)

theorem delOne_refines (h : w.Sound held) (henv : env.Lawful) (zone : NfConntrackZone) (tuple : NfConntrackTuple)
    {n : TupleHash} (hfind : env.find w.hash info.net zone tuple = some n) :
    ctnetlinkDelOne (delEnv env w.hash) info.net cda zone tuple w.entries =
      (((w.get n.ct).delOne env cda n.ct).1, ((w.get n.ct).delOne env cda n.ct).2.entries) := by
  have hlisted := h.listed_of_mem (henv.found _ _ _ _ n hfind).1
  have hlive := h.live_of_listed hlisted
  have hentry : ((delEnv env w.hash).nfConntrackFindGet info.net zone tuple).bind
      (fun p => w.entries.find? fun e => e.1 = p) = some (n.ct, uncounted (w.conn n.ct)) := by
    rw [show (delEnv env w.hash).nfConntrackFindGet info.net zone tuple = some n.ct from
      congrArg (Option.map TupleHash.ct) hfind]
    exact find_entries hlisted
  have hdelete : (((w.get n.ct).delete n.ct).put n.ct).entries = w.entries.filter fun e => e.1 ≠ n.ct :=
    entries_deleteTaken h hlive
  unfold ctnetlinkDelOne CtWorld.delOne
  rw [hentry]
  dsimp only
  split
  · rw [if_pos (by assumption)]
    rfl
  · rw [if_neg (by assumption)]
    cases cda ctaId with
    | none => exact congrArg (Prod.mk 0) hdelete.symm
    | some id =>
      dsimp only
      split
      · rw [if_pos (by assumption)]
        rfl
      · rw [if_neg (by assumption)]
        exact congrArg (Prod.mk 0) hdelete.symm

/-! ### Requests -/

/-- The lookup of a delete request, behind the parser of its tuple. -/
theorem lookup_refines (h : w.Sound held) (henv : env.Lawful)
    (r : Except ℤ (NfConntrackTuple × NfConntrackZone)) :
    (match r with
      | .error err => (err, w.entries)
      | .ok (tuple, zone) => ctnetlinkDelOne (delEnv env w.hash) info.net cda zone tuple w.entries) =
    (match (r >>= fun r => match env.find w.hash info.net r.2 r.1 with
        | none => throw (-enoent)
        | some h => pure h : Except ℤ TupleHash) with
      | .error err => (err, w.entries)
      | .ok n => (((w.get n.ct).delOne env cda n.ct).1, ((w.get n.ct).delOne env cda n.ct).2.entries)) := by
  cases r with
  | error err => rfl
  | ok r =>
    obtain ⟨tuple, zone⟩ := r
    show ctnetlinkDelOne (delEnv env w.hash) info.net cda zone tuple w.entries =
      match (match env.find w.hash info.net zone tuple with
        | none => throw (-enoent)
        | some h => pure h : Except ℤ TupleHash) with
      | .error err => (err, w.entries)
      | .ok n => (((w.get n.ct).delOne env cda n.ct).1, ((w.get n.ct).delOne env cda n.ct).2.entries)
    cases hfind : env.find w.hash info.net zone tuple with
    | none =>
      unfold ctnetlinkDelOne
      rw [show (delEnv env w.hash).nfConntrackFindGet info.net zone tuple = none from
        congrArg (Option.map TupleHash.ct) hfind]
      rfl
    | some n => exact delOne_refines h henv zone tuple hfind

theorem delConntrack_lookup {version : UInt8} (htuple : ¬ ((cda ctaTupleOrig).isNone ∧ (cda ctaTupleReply).isNone)) :
    ((w.delConntrack env info version cda).1, (w.delConntrack env info version cda).2.entries) =
      match getLookup env.toFilterEnv env.find info cda w.hash with
      | .error err => (err, w.entries)
      | .ok n => (((w.get n.ct).delOne env cda n.ct).1, ((w.get n.ct).delOne env cda n.ct).2.entries) := by
  unfold delConntrack
  rw [if_neg htuple]
  cases getLookup env.toFilterEnv env.find info cda w.hash <;> rfl

/-- A delete request without a tuple is a flush. -/
theorem delFlush_refines (h : w.Sound held) (horig : cda ctaTupleOrig = none) (hreply : cda ctaTupleReply = none)
    (info : NfnlInfo) (version : UInt8) :
    ctnetlinkDelConntrack (delEnv env w.hash) info.net cda info.family version w.entries =
      ((w.delConntrack env info version cda).1, (w.delConntrack env info version cda).2.entries) := by
  have hflush : (cda ctaTupleOrig).isNone ∧ (cda ctaTupleReply).isNone := by
    rw [horig, hreply]
    exact ⟨rfl, rfl⟩
  rw [delConntrack_eq_flush horig hreply, delConntrack, if_pos hflush]
  exact flush_refines h _

/-- **A delete request** on the table and its references is the one on the list: the same error, and the same
conntracks are left. -/
theorem delConntrack_refines (h : w.Sound held) (henv : env.Lawful) (info : NfnlInfo) (version : UInt8)
    (cda : NlaTable) :
    ctnetlinkDelConntrack (delEnv env w.hash) info.net cda info.family version w.entries =
      ((w.delConntrack env info version cda).1, (w.delConntrack env info version cda).2.entries) := by
  cases horig : cda ctaTupleOrig with
  | some attr =>
    rw [delConntrack_lookup (by simp [horig]), ctnetlinkDelConntrack, getLookup, horig]
    exact lookup_refines h henv _
  | none =>
    cases hreply : cda ctaTupleReply with
    | some attr =>
      rw [delConntrack_lookup (by simp [hreply]), ctnetlinkDelConntrack, getLookup, horig, hreply]
      exact lookup_refines h henv _
    | none => exact delFlush_refines h horig hreply info version

theorem delConntrack_refines_sample :
    ctnetlinkDelConntrack (delEnv kernelEnv oneWorld.hash) 0 (nlaTable ctaMax (flushAttrs 100)) 2 0
      oneWorld.entries =
    ((oneWorld.delConntrack kernelEnv ⟨0, 1, 1, 2, nfprotoIpv4⟩ 0 (nlaTable ctaMax (flushAttrs 100))).1,
      (oneWorld.delConntrack kernelEnv ⟨0, 1, 1, 2, nfprotoIpv4⟩ 0 (nlaTable ctaMax (flushAttrs 100))).2.entries) :=
  delConntrack_refines oneWorld_sound kernelEnv_lawful ⟨0, 1, 1, 2, nfprotoIpv4⟩ 0 _

/-! ### What a flush leaves -/

/-- `runCmdCtFlush` on the table. -/
def ctFlush (env : CreateEnv) (info : NfnlInfo) (zone : ℤ) (w : CtWorld) : CtWorld :=
  (w.delConntrack env { info with family := 0 } 0 (nlaTable ctaMax (flushAttrs zone))).2

/-- The CLI names no tuple. -/
theorem flushAttrs_none (zone : ℤ) {t : UInt16} (ht : t ≠ ctaZone) : nlaTable ctaMax (flushAttrs zone) t = none := by
  by_cases hz : zone = -1
  · rw [flushAttrs, if_neg (not_not.mpr hz)]
    exact nlaTable_none fun a ha => by cases ha
  · rw [flushAttrs, if_pos hz]
    exact (nlaTable_zone ctaMax (goUint16 zone) (by decide) t).trans (if_neg ht)

variable (env) in
theorem entries_ctFlush (h : w.Sound held) (info : NfnlInfo) (zone : ℤ) :
    (w.ctFlush env info zone).entries = runCmdCtFlush (delEnv env w.hash) info.net zone w.entries :=
  (congrArg Prod.snd (delFlush_refines h (flushAttrs_none zone (by decide)) (flushAttrs_none zone (by decide))
    { info with family := 0 } 0)).symm

/-- The ancestors of a conntrack are allocated and of its namespace. -/
theorem Sound.ancestor (h : w.Sound held) (hq : q ∈ w.live)
    (hpath : Relation.ReflTransGen (fun a b => w.master a = some b) q p) :
    p ∈ w.live ∧ (w.conn p).net = (w.conn q).net := by
  induction hpath with
  | refl => exact ⟨hq, rfl⟩
  | tail _ hmaster ih => exact ⟨h.exact.parent _ ih.1 _ hmaster, (h.nets _ ih.1 _ hmaster).trans ih.2⟩

/-- **What `ct flush` leaves** of the namespace, in the table or not: every conntrack is one that somebody
holds, or one of the table that is not to be flushed, or the master of such a conntrack, directly or not. -/
theorem ctFlush_left (h : w.Sound held) (henv : env.Lawful) (info : NfnlInfo) (zone : ℤ)
    (hp : p ∈ (w.ctFlush env info zone).live) (hnet : ((w.ctFlush env info zone).conn p).net = info.net) :
    ∃ q, Relation.ReflTransGen (fun a b => (w.ctFlush env info zone).master a = some b) q p ∧
      ((w.ctFlush env info zone).conn q).net = info.net ∧
      (0 < held q ∨ ((w.ctFlush env info zone).Listed q ∧
        (((w.ctFlush env info zone).conn q).testStatus ipsOffloadBit ∨
          (zone ≠ -1 ∧ origZoneId ((w.ctFlush env info zone).conn q) ≠ goUint16 zone)))) := by
  have hentries := entries_ctFlush env h info zone
  rw [flush_keeps] at hentries
  have hsound : (w.ctFlush env info zone).Sound held := h.del henv { info with family := 0 } 0 _
  set w' := w.ctFlush env info zone
  obtain ⟨q, hq, hheld, hpath⟩ := hsound.exact.reached hsound.older hp
  have hqnet : (w'.conn q).net = info.net := (hsound.ancestor hq hpath).2.symm.trans hnet
  refine ⟨q, hpath, hqnet, ?_⟩
  by_cases hlisted : w'.Listed q
  · refine .inr ⟨hlisted, ?_⟩
    have hmem : (q, uncounted (w'.conn q)) ∈ w'.entries := mem_entries.mpr ⟨hlisted, rfl⟩
    rw [hentries] at hmem
    have hkept := (List.mem_filter.mp hmem).2
    by_cases hoff : (w'.conn q).testStatus ipsOffloadBit
    · exact .inl hoff
    · refine .inr ?_
      have hflushable : Flushable info.net (uncounted (w'.conn q)) = true := by
        show (decide ((w'.conn q).net = info.net) && !(w'.conn q).testStatus ipsOffloadBit) = true
        rw [decide_eq_true hqnet, Bool.eq_false_iff.mpr hoff]
        rfl
      rw [hflushable, Bool.true_and, Bool.not_eq_true', Bool.or_eq_false_iff] at hkept
      exact ⟨of_decide_eq_false hkept.1, of_decide_eq_false hkept.2⟩
  · rw [linked, if_neg hlisted, Nat.zero_add] at hheld
    exact .inl hheld

/-- The connection of zone 100 is left by a flush of zone 5. -/
theorem ctFlush_left_sample : ∃ q,
    Relation.ReflTransGen (fun a b => (oneWorld.ctFlush kernelEnv ⟨0, 1, 1, 2, 0⟩ 5).master a = some b) q 1 ∧
      ((oneWorld.ctFlush kernelEnv ⟨0, 1, 1, 2, 0⟩ 5).conn q).net = 0 ∧
      (0 < 0 ∨ ((oneWorld.ctFlush kernelEnv ⟨0, 1, 1, 2, 0⟩ 5).Listed q ∧
        (((oneWorld.ctFlush kernelEnv ⟨0, 1, 1, 2, 0⟩ 5).conn q).testStatus ipsOffloadBit ∨
          ((5 : ℤ) ≠ -1 ∧ origZoneId ((oneWorld.ctFlush kernelEnv ⟨0, 1, 1, 2, 0⟩ 5).conn q) ≠ goUint16 5)))) :=
  ctFlush_left oneWorld_sound kernelEnv_lawful ⟨0, 1, 1, 2, 0⟩ 5 (by decide +kernel) (by decide +kernel)

end CtWorld

end VgwDriver
