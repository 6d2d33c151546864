import AccountResolver.Directory
import Mathlib.Data.List.Nodup

/-!
# Directories with the same accounts

Tables that answer every lookup alike have the same entries. Their order is all in
which two such directories can differ, and nothing that is asked of a directory
depends on it.
-/

namespace AccountResolver

namespace Table

variable {κ α : Type}

theorem entries_nodup (t : Table κ α) : t.entries.Nodup := t.nodup.of_map

variable [DecidableEq κ]

theorem get?_eq_some_iff (t : Table κ α) (k : κ) (v : α) :
    t.get? k = some v ↔ (k, v) ∈ t.entries := by
  refine ⟨mem_entries_of_get?, fun h => ?_⟩
  have hk : t.contains k = true := (mem_keys_iff t k).1 (List.mem_map_of_mem h)
  obtain ⟨w, hw⟩ := Option.isSome_iff_exists.1 hk
  have he : (k, v) = (k, w) :=
    List.inj_on_of_nodup_map t.nodup h (mem_entries_of_get? hw) rfl
  rw [hw, (Prod.mk.inj he).2]

theorem perm_iff_get? (t u : Table κ α) :
    t.entries.Perm u.entries ↔ ∀ k, t.get? k = u.get? k := by
  rw [List.perm_ext_iff_of_nodup t.entries_nodup u.entries_nodup]
  constructor
  · intro h k
    refine Option.ext fun v => ?_
    rw [get?_eq_some_iff, get?_eq_some_iff]
    exact h (k, v)
  · rintro h ⟨k, v⟩
    rw [← get?_eq_some_iff, ← get?_eq_some_iff, h k]

end Table

namespace Directory

/-- The same tokens under the same accounts. -/
def Same (d e : Directory) : Prop := d.entries.Perm e.entries

theorem same_iff (d e : Directory) : Same d e ↔ ∀ account, d.token? account = e.token? account :=
  Table.perm_iff_get? d e

theorem same_iff_tokens (d e : Directory) :
    Same d e ↔ ∀ account token, d.token? account = some token ↔ e.token? account = some token :=
  (same_iff d e).trans (forall_congr' fun _ => Option.ext_iff)

end Directory

end AccountResolver
