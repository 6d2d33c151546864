/-!
# Finite tables

A table binds each of its keys to one value. Entries keep the order in which
their keys were first bound; a lookup depends on the key alone, so two tables
with the same lookups differ in order only.
-/

namespace AccountResolver

/-- A finite map with its entries in the order of first binding. -/
structure Table (κ : Type) (α : Type) where
  entries : List (κ × α)
  nodup : (entries.map Prod.fst).Nodup

namespace Table

variable {κ α : Type}

def empty : Table κ α := ⟨[], List.nodup_nil⟩

instance : Inhabited (Table κ α) := ⟨empty⟩
instance : EmptyCollection (Table κ α) := ⟨empty⟩

def size (t : Table κ α) : Nat := t.entries.length

def keys (t : Table κ α) : List κ := t.entries.map Prod.fst

def values (t : Table κ α) : List α := t.entries.map Prod.snd

variable [DecidableEq κ]

def get? (t : Table κ α) (k : κ) : Option α := t.entries.lookup k

def contains (t : Table κ α) (k : κ) : Bool := (t.get? k).isSome

def getD (t : Table κ α) (k : κ) (d : α) : α := (t.get? k).getD d

/-- The entries with `k` bound to `v`: in place where it was bound, else at the end. -/
def putEntries (k : κ) (v : α) : List (κ × α) → List (κ × α)
  | [] => [(k, v)]
  | e :: es => if e.1 = k then (k, v) :: es else e :: putEntries k v es

theorem mem_keys_putEntries (k : κ) (v : α) (es : List (κ × α)) (x : κ) :
    x ∈ (putEntries k v es).map Prod.fst ↔ x = k ∨ x ∈ es.map Prod.fst := by
  induction es with
  | nil => simp [putEntries]
  | cons e es ih =>
    by_cases h : e.1 = k
    · simp only [putEntries, h, if_true, List.map_cons, List.mem_cons]
      exact ⟨fun hx => hx.elim Or.inl fun hx => Or.inr (Or.inr hx),
        fun hx => hx.elim Or.inl fun hx => hx⟩
    · simp only [putEntries, h, if_false, List.map_cons, List.mem_cons, ih]
      exact ⟨fun hx => hx.elim (fun hx => Or.inr (Or.inl hx)) fun hx =>
          hx.elim Or.inl fun hx => Or.inr (Or.inr hx),
        fun hx => hx.elim (fun hx => Or.inr (Or.inl hx)) fun hx =>
          hx.elim Or.inl fun hx => Or.inr (Or.inr hx)⟩

theorem nodup_putEntries (k : κ) (v : α) (es : List (κ × α))
    (h : (es.map Prod.fst).Nodup) : ((putEntries k v es).map Prod.fst).Nodup := by
  induction es with
  | nil => simp [putEntries]
  | cons e es ih =>
    simp only [List.map_cons, List.nodup_cons] at h
    by_cases he : e.1 = k
    · simp only [putEntries, he, if_true, List.map_cons, List.nodup_cons]
      exact ⟨he ▸ h.1, h.2⟩
    · simp only [putEntries, he, if_false, List.map_cons, List.nodup_cons]
      refine ⟨fun hm => ?_, ih h.2⟩
      exact ((mem_keys_putEntries k v es e.1).1 hm).elim he h.1

def put (t : Table κ α) (k : κ) (v : α) : Table κ α :=
  ⟨putEntries k v t.entries, nodup_putEntries k v t.entries t.nodup⟩

def erase (t : Table κ α) (k : κ) : Table κ α :=
  ⟨t.entries.filter fun e => decide (e.1 ≠ k),
    t.nodup.sublist (List.filter_sublist.map Prod.fst)⟩

/-- The table of a list of bindings; a later binding of a key replaces an earlier one. -/
def ofList (es : List (κ × α)) : Table κ α :=
  es.foldl (fun t e => t.put e.1 e.2) empty

/-! ### Lookups after an operation -/

theorem lookup_putEntries (k : κ) (v : α) (es : List (κ × α)) (x : κ) :
    (putEntries k v es).lookup x = if x = k then some v else es.lookup x := by
  induction es with
  | nil =>
    by_cases h : x = k
    · simp [putEntries, h]
    · have hb : (x == k) = false := by simp [h]
      simp [putEntries, List.lookup_cons, h, hb]
  | cons e es ih =>
    obtain ⟨l, w⟩ := e
    by_cases he : l = k
    · by_cases hx : x = k
      · simp [putEntries, he, hx]
      · have hb : (x == k) = false := by simp [hx]
        simp [putEntries, he, hx, List.lookup_cons, hb]
    · by_cases hxe : x = l
      · have hb : (x == l) = true := by simp [hxe]
        have hxk : x ≠ k := fun h => he (hxe ▸ h)
        simp [putEntries, he, hxk, List.lookup_cons, hb]
      · have hb : (x == l) = false := by simp [hxe]
        simp [putEntries, he, List.lookup_cons, hb, ih]

theorem get?_put (t : Table κ α) (k : κ) (v : α) (x : κ) :
    (t.put k v).get? x = if x = k then some v else t.get? x :=
  lookup_putEntries k v t.entries x

theorem get?_empty (x : κ) : (empty : Table κ α).get? x = none := rfl

theorem lookup_filter_ne (k : κ) (es : List (κ × α)) (x : κ) :
    (es.filter fun e => decide (e.1 ≠ k)).lookup x = if x = k then none else es.lookup x := by
  induction es with
  | nil => simp
  | cons e es ih =>
    obtain ⟨l, w⟩ := e
    by_cases he : l = k
    · have hf : decide (l ≠ k) = false := by simp [he]
      simp only [List.filter_cons, hf, Bool.false_eq_true, if_false, ih]
      by_cases hx : x = k
      · simp [hx]
      · have hb : (x == l) = false := by simp [he, hx]
        simp [hx, List.lookup_cons, hb]
    · have hf : decide (l ≠ k) = true := by simp [he]
      simp only [List.filter_cons, hf, if_true, List.lookup_cons]
      by_cases hxe : x = l
      · have hxk : x ≠ k := fun h => he (hxe ▸ h)
        have hb : (x == l) = true := by simp [hxe]
        simp [hb, hxk]
      · have hb : (x == l) = false := by simp [hxe]
        simp only [hb]
        exact ih

theorem get?_erase (t : Table κ α) (k : κ) (x : κ) :
    (t.erase k).get? x = if x = k then none else t.get? x :=
  lookup_filter_ne k t.entries x

/-! ### Keys and size -/

theorem mem_keys_iff (t : Table κ α) (k : κ) : k ∈ t.keys ↔ t.contains k = true := by
  simp only [keys, contains, get?, List.lookup_isSome_iff, List.mem_map, beq_iff_eq]
  exact exists_congr fun e => and_congr_right fun _ => eq_comm

theorem mem_entries_of_get? {t : Table κ α} {k : κ} {v : α} (h : t.get? k = some v) :
    (k, v) ∈ t.entries := by
  obtain ⟨l₁, l₂, he, _⟩ := List.lookup_eq_some_iff.1 h
  rw [he]
  exact List.mem_append_right _ List.mem_cons_self

/-- The size is the length of any list without repetition of just the bound keys. -/
theorem size_eq_length {t : Table κ α} {ks : List κ} (hn : ks.Nodup)
    (hk : ∀ k, k ∈ ks ↔ t.contains k = true) : t.size = ks.length := by
  have hp : t.keys.Perm ks :=
    (List.perm_ext_iff_of_nodup t.nodup hn).2 fun k => (mem_keys_iff t k).trans (hk k).symm
  rw [← hp.length_eq, keys, List.length_map, size]

end Table

end AccountResolver
