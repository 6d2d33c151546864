import Mathlib.Data.List.Perm.Basic
import Mathlib.Data.List.Range

/-!
# Lists of tasks

Tasks are started at the end of a list and are known by their numbers in it. Each moves on by
itself, and what it has come to is counted once.
-/

namespace AccountResolver.Tasks

variable {α β : Type}

theorem modify_eq_set {as : List α} {i : Nat} {a : α} (h : as[i]? = some a) (f : α → α) :
    as.modify i f = as.set i (f a) := by
  have hlt : i < as.length := (List.getElem?_eq_some_iff.1 h).1
  apply List.ext_getElem?
  intro j
  by_cases hij : i = j
  · subst hij
    rw [List.getElem?_modify_eq, List.getElem?_set_self hlt, h]
    rfl
  · rw [List.getElem?_modify_ne f as hij, List.getElem?_set_ne hij]

theorem modify_eq_self {as : List α} {i : Nat} {f : α → α}
    (h : ∀ a, as[i]? = some a → f a = a) : as.modify i f = as := by
  apply List.ext_getElem?
  intro j
  by_cases hij : i = j
  · subst hij
    rw [List.getElem?_modify_eq]
    cases ha : as[i]? with
    | none => rfl
    | some a => exact congrArg some (h a ha)
  · rw [List.getElem?_modify_ne f as hij]

theorem getElem?_set {as : List α} {i : Nat} {a : α} (h : as[i]? = some a) (b : α) (j : Nat) :
    (as.set i b)[j]? = if j = i then some b else as[j]? := by
  by_cases hj : j = i
  · subst hj
    rw [List.getElem?_set_self (List.getElem?_eq_some_iff.1 h).1, if_pos rfl]
  · rw [List.getElem?_set_ne (Ne.symm hj), if_neg hj]

theorem exists_split {as : List α} {i : Nat} {a : α} (h : as[i]? = some a) :
    ∃ xs ys, xs.length = i ∧ as = xs ++ a :: ys ∧ ∀ b, as.set i b = xs ++ b :: ys := by
  obtain ⟨hlt, ha⟩ := List.getElem?_eq_some_iff.1 h
  refine ⟨as.take i, as.drop (i + 1), List.length_take_of_le (by omega), ?_, ?_⟩
  · rw [← ha, List.getElem_cons_drop, List.take_append_drop]
  · intro b
    rw [List.set_eq_take_append_cons_drop, if_pos hlt]

theorem map_set {as : List α} {i : Nat} {a b : α} {f : α → β} (h : as[i]? = some a)
    (hf : f b = f a) : (as.set i b).map f = as.map f := by
  obtain ⟨xs, ys, _, has, hset⟩ := exists_split h
  rw [hset, has, List.map_append, List.map_append, List.map_cons, List.map_cons, hf]

/-! ### What tasks have come to -/

/-- What the tasks have come to that have come to something, each with its number. -/
def numbered (f : α → Option β) (as : List α) : List (Nat × β) :=
  as.zipIdx.filterMap fun p => (f p.1).map (Prod.mk p.2)

theorem mem_numbered {f : α → Option β} {as : List α} {i : Nat} {a : α} {y : β}
    (h : as[i]? = some a) (ha : f a = some y) : (i, y) ∈ numbered f as := by
  refine List.mem_filterMap.2 ⟨(a, i), List.mem_zipIdx_iff_getElem?.2 h, ?_⟩
  rw [ha]
  rfl

theorem numbered_split (f : α → Option β) (xs ys : List α) (a : α) :
    numbered f (xs ++ a :: ys) = numbered f xs ++ (((f a).map (Prod.mk xs.length)).toList ++
      (ys.zipIdx (xs.length + 1)).filterMap fun p => (f p.1).map (Prod.mk p.2)) := by
  unfold numbered
  rw [List.zipIdx_append, List.filterMap_append, Nat.zero_add, List.zipIdx_cons,
    List.filterMap_cons]
  cases f a <;> rfl

theorem numbered_snoc {f : α → Option β} {a : α} (ha : f a = none) (as : List α) :
    numbered f (as ++ [a]) = numbered f as := by
  rw [numbered_split, ha]
  exact List.append_nil _

theorem numbered_keep {f : α → Option β} {as : List α} {i : Nat} {a b : α} (h : as[i]? = some a)
    (hf : f b = f a) : numbered f (as.set i b) = numbered f as := by
  obtain ⟨xs, ys, _, has, hset⟩ := exists_split h
  rw [hset, has, numbered_split, numbered_split, hf]

theorem numbered_set {f : α → Option β} {as : List α} {i : Nat} {a b : α} {y : β}
    (h : as[i]? = some a) (ha : f a = none) (hb : f b = some y) :
    (numbered f as ++ [(i, y)]).Perm (numbered f (as.set i b)) := by
  obtain ⟨xs, ys, hlen, has, hset⟩ := exists_split h
  rw [hset, has, numbered_split, numbered_split, ha, hb, hlen]
  exact (List.perm_append_singleton _ _).trans List.perm_middle.symm

theorem map_snd_numbered (f : α → Option β) (as : List α) :
    (numbered f as).map Prod.snd = as.filterMap f := by
  induction as using List.reverseRecOn with
  | nil => rfl
  | append_singleton as a ih =>
    rw [numbered_split, List.map_append, ih, List.filterMap_append]
    cases h : f a <;> simp [h]

/-- No task comes to two things. -/
theorem nodup_numbered (f : α → Option β) (as : List α) :
    ((numbered f as).map Prod.fst).Nodup := by
  have hsub : ((numbered f as).map Prod.fst).Sublist (as.zipIdx.map Prod.snd) := by
    unfold numbered
    generalize as.zipIdx = ps
    induction ps with
    | nil => exact List.Sublist.slnil
    | cons p ps ih =>
      rw [List.filterMap_cons, List.map_cons]
      cases f p.1 with
      | none => exact ih.cons _
      | some y => exact ih.cons_cons _
  have hnum : (as.zipIdx.map Prod.snd).Nodup := by
    rw [List.zipIdx_map_snd]
    exact List.nodup_range'
  exact hsub.nodup hnum

end AccountResolver.Tasks
