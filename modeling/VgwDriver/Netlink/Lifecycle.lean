import VgwDriver.Netlink.Create
import VgwDriver.Netlink.SeqLookup

/-!
# The life of a conntrack

What holds of the conntracks between the steps of any request that creates, changes or deletes one.

* `CtWorld.Sound` — the counts are those of the references there are, a conntrack of an expectation has a
  master, and the other way round; the table holds the conntracks that are not being deleted, each with both
  nodes and under its own key;
* `Sound.get`, `Sound.put`, `Sound.modify`, `Sound.delete`, `Sound.insert` — what the steps of a request keep;
* `create_cases` — **a creation** either fails and leaves everything as it was, or puts a new conntrack in.
-/

namespace VgwDriver

open Base

namespace CtWorld

variable {w : CtWorld} {held : CtPtr → ℕ} {p q : CtPtr}

/-! ### The state -/

@[simp] theorem counted_withCounted {s : Counted CtPtr} (h : s.parent = w.master) :
    (w.withCounted s).counted = s := by
  cases s
  cases h
  rfl

@[simp] theorem counted_get (w : CtWorld) (p : CtPtr) : (w.get p).counted = w.counted.get p :=
  counted_withCounted rfl

@[simp] theorem counted_put (w : CtWorld) (p : CtPtr) : (w.put p).counted = w.counted.put p :=
  counted_withCounted (Counted.put_parent _ p)

@[simp] theorem conn_withCounted (w : CtWorld) (s : Counted CtPtr) (p : CtPtr) :
    (w.withCounted s).conn p = { w.conn p with use := s.count p } := rfl

@[simp] theorem nodes_get (w : CtWorld) (p : CtPtr) : (w.get p).hash.nodes = w.hash.nodes := rfl
@[simp] theorem nodes_put (w : CtWorld) (p : CtPtr) : (w.put p).hash.nodes = w.hash.nodes := rfl
@[simp] theorem nodes_modify (w : CtWorld) (p : CtPtr) (f : NfConn → NfConn) :
    (w.modify p f).hash.nodes = w.hash.nodes := rfl
@[simp] theorem master_get (w : CtWorld) (p : CtPtr) : (w.get p).master = w.master := rfl
@[simp] theorem master_put (w : CtWorld) (p : CtPtr) : (w.put p).master = w.master := rfl
@[simp] theorem live_get (w : CtWorld) (p : CtPtr) : (w.get p).live = w.live := rfl

theorem live_put (w : CtWorld) (p : CtPtr) : (w.put p).live.Sublist w.live := Counted.put_live w.counted p

/-- The table's references. -/
def linked (w : CtWorld) (p : CtPtr) : ℕ := if w.Listed p then 1 else 0

/-- Two conntracks have the same key in the direction `dir`. -/
def SameKey (ct ct' : NfConn) (dir : IpConntrackDir) : Prop :=
  nfCtTupleEqual (nfCtTuple ct dir) (nfCtTuple ct' dir) ∧ nfCtZoneId ct.zone dir = nfCtZoneId ct'.zone dir ∧
    ct.net = ct'.net

theorem SameKey.symm {ct ct' : NfConn} {dir : IpConntrackDir} (h : SameKey ct ct' dir) : SameKey ct' ct dir := by
  obtain ⟨⟨hsrc, hu3, hu, hproto⟩, hzone, hnet⟩ := h
  exact ⟨⟨hsrc.symm, hu3.symm, hu.symm, hproto.symm⟩, hzone.symm, hnet.symm⟩

/-- The same, as the table's comparison has it. -/
theorem SameKey.keyEqual {ct : NfConn} {dir : IpConntrackDir} (h : SameKey (w.conn p) ct dir) :
    w.hash.KeyEqual ⟨p, dir⟩ ct.net ct.zone (nfCtTuple ct dir) :=
  ⟨h.symm.1, h.2.1, h.2.2⟩

/-- The state between the steps of requests; `held` are the references in their hands. -/
structure Sound (w : CtWorld) (held : CtPtr → ℕ) : Prop where
  exact : w.counted.Exact fun p => w.linked p + held p
  paired : ∀ h ∈ w.hash.nodes, ∀ dir, ⟨h.ct, dir⟩ ∈ w.hash.nodes
  expected : ∀ p ∈ w.live, (w.conn p).testStatus ipsExpectedBit = (w.master p).isSome
  confirmed : ∀ p ∈ w.live, (w.conn p).testStatus ipsConfirmedBit
  dying : ∀ p ∈ w.live, (w.conn p).testStatus ipsDyingBit = !decide (w.Listed p)
  keys : ∀ p q, w.Listed p → w.Listed q → ∀ dir, SameKey (w.conn p) (w.conn q) dir → p = q
  nets : ∀ p ∈ w.live, ∀ m, w.master p = some m → (w.conn m).net = (w.conn p).net
  older : w.counted.Older

/-- What the table holds is allocated. -/
theorem Sound.live_of_listed (h : w.Sound held) (hp : w.Listed p) : p ∈ w.live :=
  h.exact.held p (by rw [linked, if_pos hp]; omega)

theorem Sound.listed_of_mem (h : w.Sound held) {n : TupleHash} (hn : n ∈ w.hash.nodes) : w.Listed n.ct :=
  h.paired n hn .original

/-- Two states with the same tables, masters and statuses, of which the second has at most the records of the
first. -/
structure SameTable (w w' : CtWorld) : Prop where
  nodes : w'.hash.nodes = w.hash.nodes
  master : w'.master = w.master
  live : w'.live.Sublist w.live
  key : ∀ p dir, nfCtTuple (w'.conn p) dir = nfCtTuple (w.conn p) dir ∧
    (w'.conn p).zone = (w.conn p).zone ∧ (w'.conn p).net = (w.conn p).net
  status : ∀ p, ∀ bit ∈ [ipsExpectedBit, ipsConfirmedBit, ipsDyingBit],
    (w'.conn p).testStatus bit = (w.conn p).testStatus bit

/-- **The frame of the invariant**: only the counts are to be shown. -/
theorem Sound.of_sameTable {w' : CtWorld} {held' : CtPtr → ℕ} (h : w.Sound held) (hsame : SameTable w w')
    (hexact : w'.counted.Exact fun p => w'.linked p + held' p) : w'.Sound held' where
  exact := hexact
  paired := by rw [hsame.nodes]; exact h.paired
  expected := by
    intro p hp
    rw [hsame.status p _ (by simp), hsame.master]
    exact h.expected p (hsame.live.subset hp)
  confirmed := by
    intro p hp
    rw [hsame.status p _ (by simp)]
    exact h.confirmed p (hsame.live.subset hp)
  dying := by
    intro p hp
    have hlisted : w.Listed p ↔ w'.Listed p := by rw [Listed, Listed, hsame.nodes]
    rw [hsame.status p _ (by simp), h.dying p (hsame.live.subset hp), decide_eq_decide.mpr hlisted]
  keys := by
    intro p q hp hq dir hkey
    rw [Listed, hsame.nodes] at hp hq
    obtain ⟨htuple, hzone, hnet⟩ := hsame.key p dir
    obtain ⟨htuple', hzone', hnet'⟩ := hsame.key q dir
    refine h.keys p q hp hq dir ?_
    unfold SameKey at hkey ⊢
    rwa [htuple, htuple', hzone, hzone', hnet, hnet'] at hkey
  nets := by
    intro p hp m hm
    rw [hsame.master] at hm
    rw [(hsame.key m .original).2.2, (hsame.key p .original).2.2]
    exact h.nets p (hsame.live.subset hp) m hm
  older := by
    have hparent : w'.counted.parent = w.counted.parent := hsame.master
    refine ⟨?_, ?_⟩
    · rw [hparent]
      exact h.older.before.sublist hsame.live
    · rw [hparent]
      exact fun p hp => h.older.irrefl p (hsame.live.subset hp)

theorem sameTable_withCounted {s : Counted CtPtr} (hs : s.live.Sublist w.live) : SameTable w (w.withCounted s) where
  nodes := rfl
  master := rfl
  live := hs
  key := fun p dir => by cases dir <;> exact ⟨rfl, rfl, rfl⟩
  status := fun _ _ _ => rfl

/-- **A reference taken.** -/
theorem Sound.get (h : w.Sound held) (hp : p ∈ w.live) : (w.get p).Sound (Counted.more held p) := by
  refine h.of_sameTable (sameTable_withCounted (List.Sublist.refl _)) ?_
  rw [counted_get]
  refine (h.exact.get hp).congr fun q => ?_
  show w.linked q + Counted.more held p q = _
  rw [Counted.more_apply, Counted.more_apply]
  by_cases hq : q = p
  · subst hq
    rw [if_pos rfl, if_pos rfl]
    omega
  · rw [if_neg hq, if_neg hq]

/-- **A reference dropped** that was held. -/
theorem Sound.put (h : w.Sound held) (hp : 0 < held p) : (w.put p).Sound (Counted.less held p) := by
  refine h.of_sameTable (sameTable_withCounted (live_put w p)) ?_
  rw [counted_put]
  refine (h.exact.put (by omega)).congr fun q => ?_
  show w.linked q + Counted.less held p q = _
  rw [Counted.less_apply, Counted.less_apply]
  by_cases hq : q = p
  · subst hq
    rw [if_pos rfl, if_pos rfl]
    omega
  · rw [if_neg hq, if_neg hq]

/-- **A reference taken for a change** and dropped again leaves the change. -/
theorem put_modify_get {ct' : NfConn} (h : w.Sound held) (hp : p ∈ w.live) (huse : ct'.use = (w.conn p).use + 1) :
    ((w.get p).modify p fun _ => ct').put p = w.modify p fun _ => { ct' with use := (w.conn p).use } := by
  set w' := (w.get p).modify p fun _ => ct'
  have hcount : w'.counted.count p = (w.conn p).use + 1 := (congrArg NfConn.use (if_pos rfl)).trans huse
  have hput : w'.counted.put p = w'.counted.dec p := by
    refine Counted.put_of_count_ne_one hp ?_
    have hpos : 0 < (w.conn p).use := h.exact.pos p hp
    rw [hcount]
    omega
  rw [CtWorld.put, hput]
  have hheap : (fun q => { w'.conn q with use := (w'.counted.dec p).count q }) =
      (w.modify p fun _ => { ct' with use := (w.conn p).use }).conn := by
    funext q
    show { w'.conn q with use := Function.update w'.counted.count p (w'.counted.count p - 1) q } =
      if q = p then { ct' with use := (w.conn p).use } else w.conn q
    rw [Function.update_apply, hcount]
    by_cases hq : q = p
    · rw [if_pos hq, if_pos hq, show w'.conn q = ct' from if_pos hq]
      rfl
    · have hconn : w'.conn q = { w.conn q with use := (w.get p).counted.count q } := if_neg hq
      have hget : (w.get p).counted.count q = (w.conn q).use := by
        rw [counted_get]
        exact Function.update_of_ne hq _ _
      rw [if_neg hq, if_neg hq, show w'.counted.count q = (w'.conn q).use from rfl, hconn, hget]
  unfold withCounted
  rw [hheap]
  rfl

/-- **A reference taken and dropped again** leaves the state as it was. -/
theorem put_get (h : w.Sound held) (hp : p ∈ w.live) : (w.get p).put p = w := by
  have hsame : ∀ (w : CtWorld) (ct : NfConn), w.conn p = ct → w.modify p (fun _ => ct) = w := by
    intro w ct heq
    have hheap : w.hash.heap.modify p (fun _ => ct) = w.hash.heap := by
      funext q
      show (if q = p then ct else w.hash.heap q) = w.hash.heap q
      by_cases hq : q = p
      · rw [if_pos hq, hq]
        exact heq.symm
      · rw [if_neg hq]
    unfold CtWorld.modify
    rw [hheap]
    rfl
  have huse : ((w.get p).conn p).use = (w.conn p).use + 1 := Function.update_self _ _ _
  have hput := put_modify_get h hp huse
  rw [hsame (w.get p) _ rfl] at hput
  exact hput.trans (hsame w _ rfl)

/-- The record at `p` changes in what no reference, key or table depends on. -/
theorem Sound.modify {ct' : NfConn} (h : w.Sound held) (hcore : (w.conn p).SameCore ct') :
    (w.modify p fun _ => ct').Sound held := by
  have hrel : ∀ q, (w.conn q).SameCore ((w.modify p fun _ => ct').conn q) :=
    fun q => CtHeap.modify_rel (R := NfConn.SameCore) NfConn.SameCore.refl (f := fun _ => ct') hcore
  have hcounted : (w.modify p fun _ => ct').counted = w.counted := by
    have huse : (fun q => ((w.modify p fun _ => ct').conn q).use) = fun q => (w.conn q).use :=
      funext fun q => (hrel q).use
    unfold counted
    rw [huse]
    rfl
  refine h.of_sameTable ⟨rfl, rfl, List.Sublist.refl _, ?_, ?_⟩ ?_
  · intro q dir
    have hq := hrel q
    cases dir with
    | original => exact ⟨hq.tupleOrig, hq.zone, hq.net⟩
    | reply => exact ⟨hq.tupleReply, hq.zone, hq.net⟩
  · intro q bit hbit
    refine (hrel q).fixed bit ?_
    simp only [List.mem_cons, List.not_mem_nil, or_false] at hbit
    rcases hbit with rfl | rfl | rfl <;> decide
  · rw [hcounted]
    exact h.exact

/-! ### Deleting -/

theorem nodes_unlink (t : NfConntrackHash) (p : CtPtr) : (t.unlink p).nodes = t.nodes.filter fun h => h.ct ≠ p :=
  (List.filter_flatten).symm

/-- A conntrack that leaves the table and is marked as dying; the reference of the table is now in our hands. -/
theorem Sound.unlink (h : w.Sound held) (hp : w.Listed p) :
    { w.modify p (fun ct => { ct with status := ct.status ||| ipsDying }) with
      hash := (w.modify p fun ct => { ct with status := ct.status ||| ipsDying }).hash.unlink p }.Sound
      (Counted.more held p) := by
  set f : NfConn → NfConn := fun ct => { ct with status := ct.status ||| ipsDying } with hf
  set w' : CtWorld := { w.modify p f with hash := (w.modify p f).hash.unlink p } with hw'
  have hconn : ∀ q, w'.conn q = if q = p then f (w.conn q) else w.conn q := fun q => rfl
  have hmem : ∀ n, n ∈ w'.hash.nodes ↔ n ∈ w.hash.nodes ∧ n.ct ≠ p := by
    intro n
    rw [show w'.hash.nodes = _ from nodes_unlink _ p, List.mem_filter, decide_eq_true_iff]
    rfl
  have hlisted : ∀ q, w'.Listed q ↔ w.Listed q ∧ q ≠ p := fun q => hmem _
  have hkey : ∀ q dir, nfCtTuple (w'.conn q) dir = nfCtTuple (w.conn q) dir ∧
      (w'.conn q).zone = (w.conn q).zone ∧ (w'.conn q).net = (w.conn q).net := by
    intro q dir
    rw [hconn]
    split <;> cases dir <;> exact ⟨rfl, rfl, rfl⟩
  have hbit : ∀ q bit, Nat.testBit 512 bit = false → (w'.conn q).testStatus bit = (w.conn q).testStatus bit := by
    intro q bit hclear
    rw [hconn]
    split
    · rw [hf, NfConn.testStatus_or, show ipsDying.toNat = 512 from rfl, hclear, Bool.or_false]
    · rfl
  have hcounted : w'.counted = w.counted := by
    have huse : (fun q => (w'.conn q).use) = fun q => (w.conn q).use := by
      funext q
      rw [hconn]
      split <;> rfl
    unfold counted
    rw [huse]
    rfl
  refine ⟨?_, ?_, ?_, ?_, ?_, ?_, ?_, ?_⟩
  · rw [hcounted]
    refine h.exact.congr fun q => ?_
    rw [Counted.more_apply, linked, linked]
    by_cases hq : q = p
    · subst hq
      rw [if_neg fun hl => ((hlisted q).mp hl).2 rfl, if_pos rfl, if_pos hp]
      omega
    · have hiff : w'.Listed q ↔ w.Listed q := (hlisted q).trans (and_iff_left hq)
      rw [if_neg hq]
      simp only [hiff]
  · intro n hn dir
    obtain ⟨hn, hne⟩ := (hmem n).mp hn
    exact (hmem _).mpr ⟨h.paired n hn dir, hne⟩
  · intro q hq
    rw [hbit q _ (by decide)]
    exact h.expected q hq
  · intro q hq
    rw [hbit q _ (by decide)]
    exact h.confirmed q hq
  · intro q hq
    by_cases hqp : q = p
    · subst hqp
      have hset : (w'.conn q).testStatus ipsDyingBit = true := by
        rw [hconn, if_pos rfl, hf, NfConn.testStatus_or, show ipsDying.toNat.testBit ipsDyingBit = true by decide,
          Bool.or_true]
      rw [hset, decide_eq_false fun hl => ((hlisted q).mp hl).2 rfl]
      rfl
    · have hiff : w'.Listed q ↔ w.Listed q := (hlisted q).trans (and_iff_left hqp)
      rw [hconn, if_neg hqp, h.dying q hq, decide_eq_decide.mpr hiff]
  · intro q r hq hr dir hsame
    obtain ⟨htuple, hzone, hnet⟩ := hkey q dir
    obtain ⟨htuple', hzone', hnet'⟩ := hkey r dir
    refine h.keys q r ((hlisted q).mp hq).1 ((hlisted r).mp hr).1 dir ?_
    unfold SameKey at hsame ⊢
    rwa [htuple, htuple', hzone, hzone', hnet, hnet'] at hsame
  · intro q hq m hm
    rw [(hkey m .original).2.2, (hkey q .original).2.2]
    exact h.nets q hq m hm
  · rw [hcounted]
    exact h.older

/-- **A conntrack that is held is deleted**, and still held. -/
theorem Sound.delete (h : w.Sound held) (hp : 0 < held p) : (w.delete p).Sound held := by
  have hlive : p ∈ w.live := h.exact.held p (by omega)
  unfold CtWorld.delete
  by_cases hdying : (w.conn p).testStatus ipsDyingBit
  · rw [if_pos hdying]
    exact h
  · rw [if_neg hdying]
    have hlisted : w.Listed p := by
      have heq := h.dying p hlive
      rw [Bool.not_eq_true] at hdying
      rw [hdying] at heq
      simpa using heq.symm
    have hput := (h.unlink hlisted).put (p := p) (by rw [Counted.more_apply, if_pos rfl]; omega)
    rwa [Counted.less_more] at hput

/-! ### Creating -/

theorem mem_nodes_insert {t : NfConntrackHash} (hp : ∀ h ∈ t.nodes, h.ct ≠ p) (i j : Fin t.size) (n : TupleHash) :
    n ∈ (t.insert p hp i j).nodes ↔ n.ct = p ∨ n ∈ t.nodes := by
  have hi := addHead_flatten t.chains i.isLt ⟨p, .original⟩
  have hj := addHead_flatten (addHead t.chains i ⟨p, .original⟩)
    (by rw [addHead_length]; exact j.isLt) ⟨p, .reply⟩
  have hmem : n ∈ (t.insert p hp i j).nodes ↔ n = ⟨p, .reply⟩ ∨ n = ⟨p, .original⟩ ∨ n ∈ t.nodes := by
    refine (hj.trans (hi.cons _)).mem_iff.trans ?_
    rw [List.mem_cons, List.mem_cons]
    rfl
  rw [hmem]
  constructor
  · rintro (rfl | rfl | hn)
    · exact .inl rfl
    · exact .inl rfl
    · exact .inr hn
  · rintro (rfl | hn)
    · obtain ⟨q, dir⟩ := n
      cases dir with
      | original => exact .inr (.inl rfl)
      | reply => exact .inl rfl
    · exact .inr (.inr hn)

section Insert

variable (ct : NfConn) (m : Option CtPtr) (i j : Fin w.hash.size)

theorem insert_eq (hp : ∀ n ∈ w.hash.nodes, n.ct ≠ p) : w.insert p ct m i j =
    { hash := (w.hash.insert p hp i j).withHeap (w.hash.heap.modify p fun _ => { ct with use := 2 })
      master := Function.update w.master p m
      live := p :: w.live } := dif_pos hp

theorem conn_insert (hp : ∀ n ∈ w.hash.nodes, n.ct ≠ p) (q : CtPtr) :
    (w.insert p ct m i j).conn q = if q = p then { ct with use := 2 } else w.conn q := by
  rw [insert_eq ct m i j hp]
  rfl

theorem master_insert (hp : ∀ n ∈ w.hash.nodes, n.ct ≠ p) (q : CtPtr) :
    (w.insert p ct m i j).master q = if q = p then m else w.master q := by
  rw [insert_eq ct m i j hp]
  exact Function.update_apply _ _ _ _

theorem live_insert (hp : ∀ n ∈ w.hash.nodes, n.ct ≠ p) : (w.insert p ct m i j).live = p :: w.live := by
  rw [insert_eq ct m i j hp]

theorem mem_insert (hp : ∀ n ∈ w.hash.nodes, n.ct ≠ p) (n : TupleHash) :
    n ∈ (w.insert p ct m i j).hash.nodes ↔ n.ct = p ∨ n ∈ w.hash.nodes := by
  rw [insert_eq ct m i j hp]
  exact mem_nodes_insert hp i j n

end Insert

/-- **A new conntrack in the table**: the reference to its master is the conntrack's, and we hold one to it. -/
theorem Sound.insert {ct : NfConn} {m : Option CtPtr} {i j : Fin w.hash.size} (h : w.Sound held) (hp : p ∉ w.live)
    (hm : ∀ q, m = some q → 0 < held q) (hexpected : ct.testStatus ipsExpectedBit = m.isSome)
    (hconfirmed : ct.testStatus ipsConfirmedBit) (hdying : ct.testStatus ipsDyingBit = false)
    (hkey : ∀ q dir, w.Listed q → ¬ SameKey (w.conn q) ct dir) (hnet : ∀ q, m = some q → (w.conn q).net = ct.net) :
    (w.insert p ct m i j).Sound fun q => if q = p then 1 else held q - if m = some q then 1 else 0 := by
  have hunlisted : ∀ n ∈ w.hash.nodes, n.ct ≠ p := fun n hn heq => hp (heq ▸ h.live_of_listed (h.listed_of_mem hn))
  have hconn := conn_insert ct m i j hunlisted
  have hmaster := master_insert ct m i j hunlisted
  have hlive := live_insert ct m i j hunlisted
  have hmem := mem_insert ct m i j hunlisted
  have heq := insert_eq ct m i j hunlisted
  set w' : CtWorld := w.insert p ct m i j
  have hne : ∀ {q}, q ∈ w.live → q ≠ p := by
    rintro q hq rfl
    exact hp hq
  have hlisted : ∀ q, w'.Listed q ↔ q = p ∨ w.Listed q := fun q => hmem _
  have hold : ∀ {q}, q ≠ p → (w'.Listed q ↔ w.Listed q) := fun hq => (hlisted _).trans (or_iff_right hq)
  have hcounted : w'.counted = w.counted.insert p m 2 := by
    have huse : (fun q => (w'.conn q).use) = Function.update (fun q => (w.conn q).use) p 2 := by
      funext q
      rw [hconn, Function.update_apply]
      split <;> rfl
    unfold counted Counted.insert
    rw [huse, heq]
  have hmlive : ∀ q, m = some q → q ∈ w.live := fun q hq =>
    h.exact.held q (Nat.lt_of_lt_of_le (hm q hq) (Nat.le_add_left _ _))
  refine ⟨?_, ?_, ?_, ?_, ?_, ?_, ?_, ?_⟩
  · rw [hcounted]
    refine (h.exact.insert hp (Nat.succ_pos 1) fun q hq => Nat.lt_of_lt_of_le (hm q hq) (Nat.le_add_left _ _)).congr ?_
    intro q
    unfold linked
    by_cases hq : q = p
    · rw [if_pos hq, if_pos hq, if_pos ((hlisted q).mpr (.inl hq))]
    · rw [if_neg hq, if_neg hq]
      simp only [hold hq]
      by_cases hmq : m = some q
      · have hpos := hm q hmq
        rw [if_pos hmq]
        omega
      · rw [if_neg hmq]
        omega
  · intro n hn dir
    rcases (hmem n).mp hn with hn | hn
    · exact (hmem _).mpr (.inl hn)
    · exact (hmem _).mpr (.inr (h.paired n hn dir))
  · intro q hq
    rw [hlive] at hq
    rw [hconn, hmaster]
    rcases List.mem_cons.mp hq with rfl | hq
    · rw [if_pos rfl, if_pos rfl]
      exact hexpected
    · rw [if_neg (hne hq), if_neg (hne hq)]
      exact h.expected q hq
  · intro q hq
    rw [hlive] at hq
    rw [hconn]
    rcases List.mem_cons.mp hq with rfl | hq
    · rw [if_pos rfl]
      exact hconfirmed
    · rw [if_neg (hne hq)]
      exact h.confirmed q hq
  · intro q hq
    rw [hlive] at hq
    rw [hconn]
    rcases List.mem_cons.mp hq with rfl | hq
    · rw [if_pos rfl, decide_eq_true ((hlisted q).mpr (.inl rfl))]
      exact hdying
    · rw [if_neg (hne hq), h.dying q hq, decide_eq_decide.mpr (hold (hne hq))]
  · intro q r hq hr dir hsame
    have hkey' : ∀ {q}, q ≠ p → w'.Listed q → ¬ SameKey (w.conn q) ct dir :=
      fun hqp hq => hkey _ dir ((hold hqp).mp hq)
    have hcore : ∀ ct', (SameKey { ct with use := 2 } ct' dir ↔ SameKey ct ct' dir) ∧
        (SameKey ct' { ct with use := 2 } dir ↔ SameKey ct' ct dir) := by
      intro ct'
      cases dir <;> exact ⟨Iff.rfl, Iff.rfl⟩
    rw [hconn, hconn] at hsame
    by_cases hqp : q = p
    · by_cases hrp : r = p
      · exact hqp.trans hrp.symm
      · rw [if_pos hqp, if_neg hrp] at hsame
        exact absurd ((hcore _).1.mp hsame).symm (hkey' hrp hr)
    · by_cases hrp : r = p
      · rw [if_neg hqp, if_pos hrp] at hsame
        exact absurd ((hcore _).2.mp hsame) (hkey' hqp hq)
      · rw [if_neg hqp, if_neg hrp] at hsame
        exact h.keys q r ((hold hqp).mp hq) ((hold hrp).mp hr) dir hsame
  · intro q hq r hr
    rw [hlive] at hq
    rw [hmaster] at hr
    rcases List.mem_cons.mp hq with rfl | hq
    · rw [if_pos rfl] at hr
      rw [hconn, hconn, if_pos rfl, if_neg (hne (hmlive r hr))]
      exact hnet r hr
    · rw [if_neg (hne hq)] at hr
      rw [hconn, hconn, if_neg (hne hq), if_neg (hne (h.exact.parent q hq r hr))]
      exact h.nets q hq r hr
  · rw [hcounted]
    refine ⟨List.pairwise_cons.mpr ⟨?_, ?_⟩, ?_⟩
    · intro q hq hpar
      rw [show (w.counted.insert p m 2).parent q = w.master q from Function.update_of_ne (hne hq) _ _] at hpar
      exact hp (h.exact.parent q hq p hpar)
    · refine h.older.before.imp_of_mem fun {a b} _ hb hab => ?_
      rwa [show (w.counted.insert p m 2).parent b = w.master b from Function.update_of_ne (hne hb) _ _]
    · intro q hq hpar
      rcases List.mem_cons.mp hq with rfl | hq
      · rw [show (w.counted.insert q m 2).parent q = m from Function.update_self _ _ _] at hpar
        exact hp (hmlive q hpar)
      · rw [show (w.counted.insert p m 2).parent q = w.master q from Function.update_of_ne (hne hq) _ _] at hpar
        exact h.older.irrefl q hq hpar

end CtWorld

/-! ### What creates a conntrack -/

/-- The bits that say whether a conntrack is expected, in the table, and being deleted. -/
def fateBits : List ℕ := [ipsExpectedBit, ipsConfirmedBit, ipsDyingBit]

/-- What a part of a creation keeps. -/
structure NfConn.SameFate (ct ct' : NfConn) : Prop where
  net : ct'.net = ct.net
  zone : ct'.zone = ct.zone
  tupleOrig : ct'.tupleOrig = ct.tupleOrig
  bits : ∀ bit ∈ fateBits, ct'.testStatus bit = ct.testStatus bit

theorem NfConn.SameFate.refl (ct : NfConn) : ct.SameFate ct := ⟨rfl, rfl, rfl, fun _ _ => rfl⟩

theorem NfConn.SameFate.trans {a b c : NfConn} (h₁ : a.SameFate b) (h₂ : b.SameFate c) : a.SameFate c :=
  ⟨h₂.net.trans h₁.net, h₂.zone.trans h₁.zone, h₂.tupleOrig.trans h₁.tupleOrig,
    fun bit hbit => (h₂.bits bit hbit).trans (h₁.bits bit hbit)⟩

theorem NfConn.SameCore.sameFate {ct ct' : NfConn} (h : ct.SameCore ct') : ct.SameFate ct' := by
  refine ⟨h.net, h.zone, h.tupleOrig, fun bit hbit => h.fixed bit ?_⟩
  simp only [fateBits, List.mem_cons, List.not_mem_nil, or_false] at hbit
  rcases hbit with rfl | rfl | rfl <;> decide

/-- What the kernel's functions do: memory that is allocated was free, a helper, an extension or a timeout
changes nothing else, address translation keeps the original tuple and the bits above, a conntrack is found in
the table under the key that is looked up, and a new one gets in under a key that no other has. -/
structure CreateEnv.Lawful (env : CreateEnv) : Prop where
  change : env.toChangeEnv.Lawful
  alloc : ∀ w p, env.alloc w = some p → p ∉ w.live
  helperExt : ∀ ct ct', env.helperExtAdd ct = some ct' → ct' = { ct with help := some none }
  tryAssign : ∀ ct, ∃ help, (env.tryAssignHelper ct).2 = { ct with help := help }
  nat : ∀ f, env.parseNatSetup = some f → ∀ manip a (ct : NfConn), ct.SameFate (f manip a ct).2
  ext : ∀ ct, ∃ acct tstamp labels seqadj synproxy, env.extAdd ct =
    { ct with acct := acct, tstamp := tstamp, labels := labels, seqadj := seqadj, synproxy := synproxy }
  setTimeout : ∀ t ct, ∃ timeout, env.setTimeout t ct = { ct with timeout := timeout }
  place : ∀ t ct i j, env.place t ct = .ok (i, j) →
    ∀ h ∈ t.nodes, ¬ t.KeyEqual h ct.net ct.zone (nfCtTuple ct h.dir)
  found : ∀ t net zone tuple h, env.find t net zone tuple = some h → h ∈ t.nodes ∧ t.KeyEqual h net zone tuple

section Parts

variable {env : CreateEnv} {cda : NlaTable}

theorem createHelper_sameFate (henv : env.Lawful) (ct : NfConn) : ct.SameFate (createHelper env cda ct).2 := by
  unfold createHelper
  cases cda ctaHelp with
  | none =>
    obtain ⟨help, heq⟩ := henv.tryAssign ct
    dsimp only
    rw [heq]
    exact { NfConn.SameFate.refl ct with }
  | some attr =>
    dsimp only
    cases ctnetlinkParseHelp env.endian attr with
    | error err => exact .refl ct
    | ok r =>
      obtain ⟨helpname, helpinfo⟩ := r
      dsimp only
      cases env.helperFind helpname (nfCtL3num ct) (nfCtProtonum ct) with
      | none =>
        dsimp only
        split <;> exact .refl ct
      | some helper =>
        dsimp only
        cases hext : env.helperExtAdd ct with
        | none => exact .refl ct
        | some ct' =>
          have heq := henv.helperExt ct ct' hext
          subst heq
          refine ⟨rfl, rfl, rfl, fun bit hbit => ?_⟩
          have hclear : ipsHelper.toNat.testBit bit = false := by
            simp only [fateBits, List.mem_cons, List.not_mem_nil, or_false] at hbit
            rcases hbit with rfl | rfl | rfl <;> decide
          have hor := ct.testStatus_or ipsHelper bit
          rw [hclear, Bool.or_false] at hor
          exact hor

theorem parseNatSetup_sameFate (henv : env.Lawful) (manip : NfNatManipType) (attr : Option Attr) (ct : NfConn) :
    ct.SameFate (ctnetlinkParseNatSetup env manip attr ct).2 := by
  unfold ctnetlinkParseNatSetup
  cases hf : env.parseNatSetup with
  | none => exact .refl ct
  | some f =>
    have hsame := henv.nat f hf manip attr ct
    dsimp only
    split <;> exact hsame

theorem setupNat_sameFate (henv : env.Lawful) (ct : NfConn) : ct.SameFate (ctnetlinkSetupNat env cda ct).2 := by
  unfold ctnetlinkSetupNat
  split
  · exact .refl ct
  · refine untilError_rel NfConn.SameFate.refl NfConn.SameFate.trans ?_ ct
    intro f hf ct
    simp only [List.mem_cons, List.not_mem_nil, or_false] at hf
    rcases hf with rfl | rfl
    · exact parseNatSetup_sameFate henv _ _ ct
    · exact parseNatSetup_sameFate henv _ _ ct

variable (cda) in
theorem unconfirmedParts_sameFate (henv : env.Lawful) (ct : NfConn) :
    ct.SameFate (untilError (unconfirmedParts env cda) ct).2 := by
  refine untilError_rel NfConn.SameFate.refl NfConn.SameFate.trans ?_ ct
  intro f hf ct
  simp only [unconfirmedParts, List.mem_cons, List.not_mem_nil, or_false] at hf
  rcases hf with rfl | rfl | rfl | rfl
  · exact .refl ct
  · exact createHelper_sameFate henv ct
  · exact setupNat_sameFate henv ct
  · obtain ⟨acct, tstamp, labels, seqadj, synproxy, heq⟩ := henv.ext ct
    dsimp only
    rw [heq]
    exact { NfConn.SameFate.refl ct with }

theorem confirmedParts_sameFate (henv : env.Lawful) (ct : NfConn) :
    ct.SameFate (untilError (confirmedParts env cda) ct).2 := by
  refine untilError_rel NfConn.SameFate.refl NfConn.SameFate.trans ?_ ct
  intro f hf ct
  simp only [confirmedParts, List.mem_cons, List.not_mem_nil, or_false] at hf
  rcases hf with rfl | rfl | rfl | rfl | rfl | rfl | rfl
  · cases cda ctaTimeout with
    | none => exact .refl ct
    | some a =>
      obtain ⟨timeout, heq⟩ := henv.setTimeout ((nlaGetBe32 a).toNat * env.hz) ct
      show ct.SameFate (env.setTimeout _ ct)
      rw [heq]
      exact { NfConn.SameFate.refl ct with }
  · exact (part_sameCore (fun a ct => changeStatus_sameCore henv.change a) ct).sameFate
  · exact (changeSeqAdj_sameCore env.endian cda).sameFate
  · exact { NfConn.SameFate.refl ct with }
  · exact (part_sameCore (fun a ct => changeProtoinfo_sameCore henv.change a) ct).sameFate
  · exact (part_sameCore (fun a ct => changeSynproxy_sameCore a) ct).sameFate
  · exact (markPart_sameCore cda ct).sameFate

/-- **The parts of a creation** that do not give up make a confirmed conntrack, not expected yet, of the tuple
and the zone of the request. -/
theorem createParts_fate (henv : env.Lawful) {net : NetPtr} {zone : NfConntrackZone}
    {otuple rtuple : NfConntrackTuple}
    (hok : ¬ (untilError (createParts env cda) (nfConntrackAlloc net zone otuple rtuple)).1 < 0) :
    ({ nfConntrackAlloc net zone otuple rtuple with status := ipsConfirmed }).SameFate
      (untilError (createParts env cda) (nfConntrackAlloc net zone otuple rtuple)).2 := by
  set ct := nfConntrackAlloc net zone otuple rtuple
  obtain ⟨-, heq⟩ := untilError_append hok
  have hbefore := unconfirmedParts_sameFate cda henv ct
  set ct' := (untilError (unconfirmedParts env cda) ct).2
  have hrest : untilError (createParts env cda) ct = untilError (confirmedParts env cda) (setConfirmed ct').2 :=
    heq.trans (untilError_goOn (Int.lt_irrefl 0))
  have hset : ({ ct with status := ipsConfirmed }).SameFate (setConfirmed ct').2 := by
    refine ⟨hbefore.net, hbefore.zone, hbefore.tupleOrig, fun bit hbit => ?_⟩
    have hor := ct'.testStatus_or ipsConfirmed bit
    have hzero : ct.testStatus bit = false := Nat.zero_testBit bit
    rw [hbefore.bits bit hbit, hzero, Bool.false_or] at hor
    exact hor
  rw [hrest]
  exact hset.trans (confirmedParts_sameFate henv _)

end Parts

section Create

variable {env : CreateEnv} {w : CtWorld} {held : CtPtr → ℕ} {p : CtPtr} {info : NfnlInfo} {cda : NlaTable}
  {zone : NfConntrackZone} {otuple rtuple : NfConntrackTuple}

/-- The conntrack that is created, with the master `m`. -/
def createdConn (env : CreateEnv) (info : NfnlInfo) (zone : NfConntrackZone) (cda : NlaTable)
    (otuple rtuple : NfConntrackTuple) (w : CtWorld) (m : Option CtPtr) : NfConn :=
  let ct := (untilError (createParts env cda) (nfConntrackAlloc info.net zone otuple rtuple)).2.withMaster w m
  { ct with tstamp := ct.tstamp.map fun t => { t with start := env.realNs } }

theorem createdConn_fate (henv : env.Lawful) (m : Option CtPtr)
    (hok : ¬ (untilError (createParts env cda) (nfConntrackAlloc info.net zone otuple rtuple)).1 < 0) :
    ({ nfConntrackAlloc info.net zone otuple rtuple with
      status := if m.isSome then ipsConfirmed ||| ipsExpected else ipsConfirmed }).SameFate
      (createdConn env info zone cda otuple rtuple w m) := by
  have hparts := createParts_fate henv hok
  set ct := (untilError (createParts env cda) (nfConntrackAlloc info.net zone otuple rtuple)).2
  cases m with
  | none => exact ⟨hparts.net, hparts.zone, hparts.tupleOrig, hparts.bits⟩
  | some m =>
    refine ⟨hparts.net, hparts.zone, hparts.tupleOrig, fun bit hbit => ?_⟩
    have hor := ct.testStatus_or ipsExpected bit
    rw [hparts.bits bit hbit] at hor
    refine hor.trans ?_
    exact (NfConn.testStatus_or { nfConntrackAlloc info.net zone otuple rtuple with status := ipsConfirmed }
      ipsExpected bit).symm

theorem createdConn_bits (henv : env.Lawful) (m : Option CtPtr)
    (hok : ¬ (untilError (createParts env cda) (nfConntrackAlloc info.net zone otuple rtuple)).1 < 0) :
    (createdConn env info zone cda otuple rtuple w m).testStatus ipsExpectedBit = m.isSome ∧
      (createdConn env info zone cda otuple rtuple w m).testStatus ipsConfirmedBit ∧
      (createdConn env info zone cda otuple rtuple w m).testStatus ipsDyingBit = false := by
  have hbit : ∀ bit ∈ fateBits, (createdConn env info zone cda otuple rtuple w m).testStatus bit =
      (if m.isSome then ipsConfirmed ||| ipsExpected else ipsConfirmed).toNat.testBit bit :=
    (createdConn_fate henv m hok).bits
  rw [hbit _ (by decide), hbit _ (by decide), hbit _ (by decide)]
  cases m with
  | none => decide
  | some m =>
    show (ipsConfirmed ||| ipsExpected).toNat.testBit ipsExpectedBit = true ∧
      (ipsConfirmed ||| ipsExpected).toNat.testBit ipsConfirmedBit ∧
      (ipsConfirmed ||| ipsExpected).toNat.testBit ipsDyingBit = false
    decide

/-- A master that is named is found in the table. -/
theorem createMaster_found {m : CtPtr} (hm : createMaster env info zone cda w.hash = .ok (some m)) :
    ∃ n tuple, env.find w.hash info.net zone tuple = some n ∧ n.ct = m := by
  unfold createMaster at hm
  cases hattr : cda ctaTupleMaster with
  | none =>
    rw [hattr] at hm
    cases hm
  | some attr =>
    rw [hattr] at hm
    dsimp only at hm
    cases htuple : ctnetlinkParseTupleNoZone env.toFilterEnv attr ctaTupleMaster info.family with
    | error err =>
      rw [htuple] at hm
      cases hm
    | ok tuple =>
      rw [htuple, ok_bind] at hm
      cases hfind : env.find w.hash info.net zone tuple with
      | none =>
        rw [hfind] at hm
        cases hm
      | some n =>
        rw [hfind] at hm
        cases hm
        exact ⟨n, tuple, hfind, rfl⟩

theorem createMaster_live (h : w.Sound held) (henv : env.Lawful) {m : CtPtr}
    (hm : createMaster env info zone cda w.hash = .ok (some m)) : m ∈ w.live := by
  obtain ⟨n, tuple, hfind, rfl⟩ := createMaster_found hm
  exact h.live_of_listed (h.listed_of_mem (henv.found _ _ _ _ n hfind).1)

/-- **A creation**: refused, it leaves everything as it was; otherwise the new conntrack is in the table, with
its master. -/
theorem create_cases (h : w.Sound held) (henv : env.Lawful) (info : NfnlInfo) (zone : NfConntrackZone)
    (cda : NlaTable) (otuple rtuple : NfConntrackTuple) :
    (∃ err, ctnetlinkCreateConntrack env info zone cda otuple rtuple w = (.error err, w)) ∨
      ∃ p m i j, env.alloc w = some p ∧
        ¬ (untilError (createParts env cda) (nfConntrackAlloc info.net zone otuple rtuple)).1 < 0 ∧
        createMaster env info zone cda w.hash = .ok m ∧
        env.place (w.getOpt m).hash (createdConn env info zone cda otuple rtuple (w.getOpt m) m) = .ok (i, j) ∧
        ctnetlinkCreateConntrack env info zone cda otuple rtuple w =
          (.ok p, (w.getOpt m).insert p (createdConn env info zone cda otuple rtuple (w.getOpt m) m) m i j) := by
  unfold ctnetlinkCreateConntrack
  cases halloc : env.alloc w with
  | none => exact .inl ⟨_, rfl⟩
  | some p =>
    dsimp only
    by_cases herr : (untilError (createParts env cda) (nfConntrackAlloc info.net zone otuple rtuple)).1 < 0
    · rw [if_pos herr]
      exact .inl ⟨_, rfl⟩
    · rw [if_neg herr]
      cases hm : createMaster env info zone cda w.hash with
      | error err => exact .inl ⟨err, rfl⟩
      | ok m =>
        dsimp only
        cases hplace : env.place (w.getOpt m).hash
            (createdConn env info zone cda otuple rtuple (w.getOpt m) m) with
        | error err =>
          -- the reference to the master is dropped again
          have hput : (w.getOpt m).putOpt m = w := by
            cases m with
            | none => rfl
            | some m => exact CtWorld.put_get h (createMaster_live h henv hm)
          unfold createdConn at hplace
          dsimp only at hplace
          rw [hplace]
          exact .inl ⟨err, congrArg (Prod.mk _) hput⟩
        | ok ij =>
          obtain ⟨i, j⟩ := ij
          refine .inr ⟨p, m, i, j, rfl, herr, rfl, hplace, ?_⟩
          unfold createdConn at hplace ⊢
          dsimp only at hplace ⊢
          rw [hplace]

end Create

end VgwDriver
