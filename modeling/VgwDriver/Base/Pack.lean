import Mathlib.Data.List.Nodup
import Mathlib.Data.List.TakeWhile
import Mathlib.Data.Nat.Notation
import Mathlib.Tactic.Common

/-!
# Filling containers from a list

Items are placed one after another into a container until one does not fit; the next container goes on
there, or, when the list has changed in between, at a saved item if it is still in the list and from the
start otherwise.  `need x room` is the room the item `x` takes when `room` is left, if it fits.

* `placed_append_leftOver` — what is placed is a prefix of the list;
* `fill_append`, `fill_append_stops` — filling from two lists in a row;
* `onward_append`, `resume_of_split`, `mem_onward`, `mem_resume` — where a saved item resumes.
-/

namespace VgwDriver.Base

/-! ### One container -/

section Fill

variable {ι : Type*} (need : ι → ℕ → Option ℕ)

/-- The items tried, each with the room it found, up to the first that does not fit. -/
def attempts : ℕ → List ι → List (ι × ℕ)
  | _, [] => []
  | room, x :: l =>
    (x, room) :: match need x room with
      | some n => attempts (room - n) l
      | none => []

/-- The items placed. -/
def placed : ℕ → List ι → List ι
  | _, [] => []
  | room, x :: l =>
    match need x room with
    | some n => x :: placed (room - n) l
    | none => []

/-- The items from the first that does not fit. -/
def leftOver : ℕ → List ι → List ι
  | _, [] => []
  | room, x :: l =>
    match need x room with
    | some n => leftOver (room - n) l
    | none => x :: l

/-- The room that is left behind the items placed. -/
def roomAfter : ℕ → List ι → ℕ
  | room, [] => room
  | room, x :: l =>
    match need x room with
    | some n => roomAfter (room - n) l
    | none => room

@[simp] theorem attempts_nil (room : ℕ) : attempts need room [] = [] := rfl
@[simp] theorem placed_nil (room : ℕ) : placed need room [] = [] := rfl
@[simp] theorem leftOver_nil (room : ℕ) : leftOver need room [] = [] := rfl
@[simp] theorem roomAfter_nil (room : ℕ) : roomAfter need room [] = room := rfl

variable {need} {room n : ℕ} {x : ι}

theorem fill_fits (h : need x room = some n) (l : List ι) :
    attempts need room (x :: l) = (x, room) :: attempts need (room - n) l ∧
      placed need room (x :: l) = x :: placed need (room - n) l ∧
      leftOver need room (x :: l) = leftOver need (room - n) l ∧
      roomAfter need room (x :: l) = roomAfter need (room - n) l := by
  simp only [attempts, placed, leftOver, roomAfter, h, and_self]

theorem fill_stops (h : need x room = none) (l : List ι) :
    attempts need room (x :: l) = [(x, room)] ∧ placed need room (x :: l) = [] ∧
      leftOver need room (x :: l) = x :: l ∧ roomAfter need room (x :: l) = room := by
  simp only [attempts, placed, leftOver, roomAfter, h, and_self]

theorem fill_singleton (need : ι → ℕ → Option ℕ) (room : ℕ) (x : ι) :
    attempts need room [x] = [(x, room)] ∧ roomAfter need room [x] = room - (need x room).getD 0 := by
  cases h : need x room with
  | none =>
    obtain ⟨ha, -, -, hr⟩ := fill_stops h []
    exact ⟨ha, hr⟩
  | some n =>
    obtain ⟨ha, -, -, hr⟩ := fill_fits h []
    exact ⟨ha, hr⟩

/-- **What is placed is a prefix.** -/
theorem placed_append_leftOver (room : ℕ) (l : List ι) :
    placed need room l ++ leftOver need room l = l := by
  induction l generalizing room with
  | nil => rfl
  | cons x l ih =>
    cases hn : need x room with
    | none =>
      obtain ⟨-, hp, hl, -⟩ := fill_stops hn l
      rw [hp, hl]
      rfl
    | some n =>
      obtain ⟨-, hp, hl, -⟩ := fill_fits hn l
      rw [hp, hl, List.cons_append, ih]

/-- When the first item fits, it is placed. -/
theorem placed_cons {l : List ι} (h : (need x room).isSome) :
    ∃ rest, placed need room (x :: l) = x :: rest := by
  obtain ⟨n, hn⟩ := Option.isSome_iff_exists.mp h
  exact ⟨_, (fill_fits hn l).2.1⟩

theorem attempts_sublist (room : ℕ) (l : List ι) : ((attempts need room l).map Prod.fst).Sublist l := by
  induction l generalizing room with
  | nil => exact List.Sublist.slnil
  | cons x l ih =>
    cases hn : need x room with
    | none =>
      rw [(fill_stops hn l).1]
      exact (List.nil_sublist l).cons_cons x
    | some n =>
      rw [(fill_fits hn l).1]
      exact (ih _).cons_cons x

theorem mem_of_mem_attempts {l : List ι} {y : ι × ℕ} (h : y ∈ attempts need room l) : y.1 ∈ l :=
  (attempts_sublist room l).subset (List.mem_map_of_mem h)

/-- The items tried that fit are the items placed. -/
theorem attempts_fit (room : ℕ) (l : List ι) :
    ((attempts need room l).filter fun y => (need y.1 y.2).isSome).map Prod.fst = placed need room l := by
  induction l generalizing room with
  | nil => rfl
  | cons x l ih =>
    cases hn : need x room with
    | none =>
      obtain ⟨ha, hp, -, -⟩ := fill_stops hn l
      rw [ha, hp, List.filter_cons_of_neg (by simp [hn])]
      rfl
    | some n =>
      obtain ⟨ha, hp, -, -⟩ := fill_fits hn l
      rw [ha, hp, List.filter_cons_of_pos (by simp [hn]), List.map_cons, ih]

/-- The first item left over is the one tried that does not fit. -/
theorem head_leftOver_iff (room : ℕ) (l : List ι) (x : ι) :
    (leftOver need room l).head? = some x ↔ ∃ r, (x, r) ∈ attempts need room l ∧ need x r = none := by
  induction l generalizing room with
  | nil => simp
  | cons y l ih =>
    cases hn : need y room with
    | none =>
      obtain ⟨ha, -, hl, -⟩ := fill_stops hn l
      rw [ha, hl, List.head?_cons, Option.some.injEq]
      constructor
      · rintro rfl
        exact ⟨room, List.mem_singleton_self _, hn⟩
      · rintro ⟨r, hr, -⟩
        exact (Prod.mk.inj (List.mem_singleton.mp hr)).1.symm
    | some n =>
      obtain ⟨ha, -, hl, -⟩ := fill_fits hn l
      rw [ha, hl, ih]
      constructor
      · rintro ⟨r, hr, hnone⟩
        exact ⟨r, List.mem_cons_of_mem _ hr, hnone⟩
      · rintro ⟨r, hr, hnone⟩
        rcases List.mem_cons.mp hr with heq | hr
        · obtain ⟨rfl, rfl⟩ := Prod.mk.inj heq
          rw [hn] at hnone
          cases hnone
        · exact ⟨r, hr, hnone⟩

/-- **Two lists in a row.**  Once the first list is placed, the second goes on in the room it leaves. -/
theorem fill_append {l₁ : List ι} (l₂ : List ι) (h : leftOver need room l₁ = []) :
    attempts need room (l₁ ++ l₂)
        = attempts need room l₁ ++ attempts need (roomAfter need room l₁) l₂ ∧
      placed need room (l₁ ++ l₂) = l₁ ++ placed need (roomAfter need room l₁) l₂ ∧
      leftOver need room (l₁ ++ l₂) = leftOver need (roomAfter need room l₁) l₂ ∧
      roomAfter need room (l₁ ++ l₂) = roomAfter need (roomAfter need room l₁) l₂ := by
  induction l₁ generalizing room with
  | nil => exact ⟨rfl, rfl, rfl, rfl⟩
  | cons x l ih =>
    cases hn : need x room with
    | none =>
      rw [(fill_stops hn l).2.2.1] at h
      cases h
    | some n =>
      obtain ⟨ha, -, hl, hr⟩ := fill_fits hn l
      obtain ⟨ha', hp', hl', hr'⟩ := fill_fits hn (l ++ l₂)
      rw [hl] at h
      obtain ⟨iha, ihp, ihl, ihr⟩ := ih h
      rw [List.cons_append, ha', hp', hl', hr', ha, hr, iha, ihp, ihl, ihr]
      exact ⟨rfl, rfl, rfl, rfl⟩

/-- When the first list does not go in whole, the second is not tried. -/
theorem fill_append_stops {l₁ : List ι} (l₂ : List ι) (h : leftOver need room l₁ ≠ []) :
    attempts need room (l₁ ++ l₂) = attempts need room l₁ ∧
      placed need room (l₁ ++ l₂) = placed need room l₁ ∧
      leftOver need room (l₁ ++ l₂) = leftOver need room l₁ ++ l₂ ∧
      roomAfter need room (l₁ ++ l₂) = roomAfter need room l₁ := by
  induction l₁ generalizing room with
  | nil => exact absurd rfl h
  | cons x l ih =>
    cases hn : need x room with
    | none =>
      obtain ⟨ha, hp, hl, hr⟩ := fill_stops hn l
      obtain ⟨ha', hp', hl', hr'⟩ := fill_stops hn (l ++ l₂)
      rw [List.cons_append, ha, hp, hl, hr, ha', hp', hl', hr']
      exact ⟨rfl, rfl, rfl, rfl⟩
    | some n =>
      obtain ⟨ha, hp, hl, hr⟩ := fill_fits hn l
      obtain ⟨ha', hp', hl', hr'⟩ := fill_fits hn (l ++ l₂)
      rw [hl] at h
      obtain ⟨iha, ihp, ihl, ihr⟩ := ih h
      rw [List.cons_append, ha', hp', hl', hr', ha, hp, hl, hr, iha, ihp, ihl, ihr]
      exact ⟨rfl, rfl, rfl, rfl⟩

end Fill

/-! ### Going on at a saved item -/

section Resume

variable {ι : Type*} [DecidableEq ι]

/-- The list from the saved item on; nothing when the item is gone. -/
def onward (saved : Option ι) (l : List ι) : List ι :=
  match saved with
  | none => l
  | some x => l.dropWhile (· ≠ x)

/-- The list from the saved item on, or all of it when nothing is saved or the item is gone. -/
def resume (saved : Option ι) (l : List ι) : List ι :=
  if onward saved l = [] then l else onward saved l

@[simp] theorem onward_none (l : List ι) : onward none l = l := rfl

@[simp] theorem onward_nil (saved : Option ι) : onward saved [] = [] := by cases saved <;> rfl

@[simp] theorem resume_none (l : List ι) : resume none l = l := ite_self l

theorem onward_cons_of_ne {x y : ι} (h : y ≠ x) (l : List ι) :
    onward (some x) (y :: l) = onward (some x) l := by
  show (y :: l).dropWhile (· ≠ x) = l.dropWhile (· ≠ x)
  exact List.dropWhile_cons_of_pos (by simpa using h)

@[simp] theorem onward_cons_self (x : ι) (l : List ι) : onward (some x) (x :: l) = x :: l := by
  show (x :: l).dropWhile (· ≠ x) = x :: l
  exact List.dropWhile_cons_of_neg (by simp)

theorem onward_some_eq_nil {x : ι} {l : List ι} : onward (some x) l = [] ↔ x ∉ l := by
  show l.dropWhile (· ≠ x) = [] ↔ x ∉ l
  rw [List.dropWhile_eq_nil_iff]
  constructor
  · intro h hx
    exact of_decide_eq_true (h x hx) rfl
  · intro h y hy
    exact decide_eq_true fun heq : y = x => h (heq ▸ hy)

/-- **Two lists in a row.**  Once the saved item is met, nothing is saved any more. -/
theorem onward_append (saved : Option ι) (l₁ l₂ : List ι) :
    onward saved (l₁ ++ l₂)
      = onward saved l₁ ++ onward (if onward saved l₁ = [] then saved else none) l₂ := by
  cases saved with
  | none =>
    rw [ite_self]
    rfl
  | some x =>
    by_cases h : onward (some x) l₁ = []
    · rw [if_pos h, h]
      replace h : l₁.dropWhile (· ≠ x) = [] := h
      show (l₁ ++ l₂).dropWhile (· ≠ x) = l₂.dropWhile (· ≠ x)
      rw [List.dropWhile_append, h]
      rfl
    · rw [if_neg h]
      replace h : l₁.dropWhile (· ≠ x) ≠ [] := h
      show (l₁ ++ l₂).dropWhile (· ≠ x) = l₁.dropWhile (· ≠ x) ++ l₂
      rw [List.dropWhile_append, if_neg (by rwa [List.isEmpty_iff])]

theorem onward_suffix (saved : Option ι) (l : List ι) : onward saved l <:+ l := by
  cases saved with
  | none => exact List.suffix_refl l
  | some x => exact List.dropWhile_suffix _

theorem resume_suffix (saved : Option ι) (l : List ι) : resume saved l <:+ l := by
  unfold resume
  split
  · exact List.suffix_refl l
  · exact onward_suffix saved l

theorem dropWhile_of_split {x : ι} {pre post : List ι} (h : x ∉ pre) :
    (pre ++ x :: post).dropWhile (· ≠ x) = x :: post := by
  induction pre with
  | nil => simp
  | cons y pre ih =>
    rw [List.mem_cons, not_or] at h
    have hy : y ≠ x := fun heq => h.1 heq.symm
    rw [List.cons_append, List.dropWhile_cons_of_pos (by simpa using hy)]
    exact ih h.2

theorem resume_some (x : ι) (l : List ι) :
    resume (some x) l = if x ∈ l then l.dropWhile (· ≠ x) else l := by
  unfold resume
  by_cases hx : x ∈ l
  · rw [if_neg (fun h => onward_some_eq_nil.mp h hx), if_pos hx]
    rfl
  · rw [if_pos (onward_some_eq_nil.mpr hx), if_neg hx]

/-- **A saved item that is still there** is where the list goes on. -/
theorem resume_of_split {x : ι} {pre post : List ι} (h : x ∉ pre) :
    resume (some x) (pre ++ x :: post) = x :: post := by
  rw [resume_some, if_pos (by simp)]
  exact dropWhile_of_split h

/-- Going on at an item that is still ahead leaves out what stands in front of it. -/
theorem resume_suffix_of_mem {saved : Option ι} {x : ι} {l : List ι} (hl : l.Nodup)
    (hx : x ∈ resume saved l) : resume (some x) l <:+ resume saved l := by
  obtain ⟨pre, hpre⟩ := resume_suffix saved l
  obtain ⟨front, back, hsplit⟩ := List.append_of_mem hx
  rw [hsplit, ← List.append_assoc] at hpre
  have hfront : x ∉ pre ++ front := by
    rw [← hpre] at hl
    intro hmem
    exact (List.nodup_append.mp hl).2.2 x hmem x List.mem_cons_self rfl
  have hresume : resume (some x) l = x :: back := by
    rw [← hpre]
    exact resume_of_split hfront
  rw [hresume, hsplit]
  exact List.suffix_append front (x :: back)

/-- **What the list goes on with**: the saved item, and what is behind it. -/
theorem mem_onward {x y : ι} {l : List ι} :
    y ∈ onward (some x) l ↔ x = y ∧ x ∈ l ∨ [x, y].Sublist l := by
  induction l with
  | nil => simp
  | cons z l ih =>
    by_cases hz : z = x
    · subst hz
      rw [onward_cons_self]
      constructor
      · intro hy
        rcases List.mem_cons.mp hy with rfl | hy
        · exact Or.inl ⟨rfl, List.mem_cons_self⟩
        · exact Or.inr ((List.singleton_sublist.mpr hy).cons_cons z)
      · rintro (⟨rfl, h⟩ | hsub)
        · exact h
        · exact hsub.subset (by simp)
    · rw [onward_cons_of_ne hz, ih]
      have hmem : x ∈ z :: l ↔ x ∈ l := by
        rw [List.mem_cons]
        exact or_iff_right fun h => hz h.symm
      have hsub : [x, y].Sublist (z :: l) ↔ [x, y].Sublist l := by
        refine ⟨fun h => ?_, fun h => h.cons z⟩
        cases h with
        | cons _ h => exact h
        | cons_cons _ h => exact absurd rfl hz
      rw [hmem, hsub]

/-- **An item at or behind the saved one is not passed over**, nor is any when the saved one is gone. -/
theorem mem_resume {x y : ι} {l : List ι} (hy : y ∈ l) (horder : x ∈ l → x = y ∨ [x, y].Sublist l) :
    y ∈ resume (some x) l := by
  rw [resume_some]
  by_cases hx : x ∈ l
  · rw [if_pos hx]
    exact mem_onward.mpr ((horder hx).imp_left fun heq => ⟨heq, hx⟩)
  · rw [if_neg hx]
    exact hy

/-- Where the wanted items of a list end in `x :: rest`, it goes on with them at `x`. -/
theorem onward_filter_of_suffix {w : ι → Bool} {x : ι} {rest l : List ι} (hl : l.Nodup)
    (h : x :: rest <:+ l.filter w) : (onward (some x) l).filter w = x :: rest := by
  obtain ⟨front, hfront⟩ := h
  obtain ⟨hx, hwx⟩ : x ∈ l ∧ w x = true := List.mem_filter.mp (by rw [← hfront]; simp)
  obtain ⟨pre, post, rfl⟩ := List.append_of_mem hx
  have hpre : x ∉ pre := fun hmem => (List.nodup_append.mp hl).2.2 x hmem x List.mem_cons_self rfl
  have hnodup := hl.filter w
  rw [← hfront] at hnodup
  have hnot : x ∉ front := fun hmem => (List.nodup_append.mp hnodup).2.2 x hmem x List.mem_cons_self rfl
  have hpre' : x ∉ pre.filter w := fun hmem => hpre (List.mem_filter.mp hmem).1
  rw [List.filter_append, List.filter_cons_of_pos hwx] at hfront
  have hrest : x :: rest = x :: post.filter w := by
    rw [← dropWhile_of_split hnot, hfront, dropWhile_of_split hpre']
  show ((pre ++ x :: post).dropWhile (· ≠ x)).filter w = x :: rest
  rw [dropWhile_of_split hpre, List.filter_cons_of_pos hwx, hrest]

/-- Two items of a list without repetition that both stay in a part of it keep their order there. -/
theorem order_of_sublist {x y : ι} {l kept : List ι} (hl : l.Nodup) (hkept : kept.Sublist l)
    (hx : x ∈ kept) (hy : y ∈ kept) (hxy : [x, y].Sublist l) : [x, y].Sublist kept := by
  induction hkept with
  | slnil => cases hx
  | @cons l₁ l₂ a hsub ih =>
    -- `a` is dropped, so it is not `x`
    have hax : x ≠ a := fun h => (List.nodup_cons.mp hl).1 (h ▸ hsub.subset hx)
    refine ih (List.nodup_cons.mp hl).2 hx hy ?_
    cases hxy with
    | cons _ h => exact h
    | cons_cons _ h => exact absurd rfl hax
  | @cons_cons l₁ l₂ a hsub ih =>
    have hl' := List.nodup_cons.mp hl
    by_cases hax : x = a
    · subst hax
      have hyl : y ∈ l₂ := by
        cases hxy with
        | cons _ h => exact h.subset (by simp)
        | cons_cons _ h => exact h.subset (by simp)
      have hyx : y ≠ x := fun h => hl'.1 (h ▸ hyl)
      exact List.Sublist.cons_cons x (List.singleton_sublist.mpr ((List.mem_cons.mp hy).resolve_left hyx))
    · have hxy' : [x, y].Sublist l₂ := by
        cases hxy with
        | cons _ h => exact h
        | cons_cons _ h => exact absurd rfl hax
      have hya : y ≠ a := fun h => hl'.1 (h ▸ hxy'.subset (by simp))
      exact List.Sublist.cons a (ih hl'.2 ((List.mem_cons.mp hx).resolve_left hax)
        ((List.mem_cons.mp hy).resolve_left hya) hxy')

end Resume

end VgwDriver.Base
