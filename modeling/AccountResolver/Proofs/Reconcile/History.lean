import AccountResolver.Lookup
import AccountResolver.Proofs.Subject
import AccountResolver.Reconcile
import Mathlib.Data.List.Dedup
import Mathlib.Data.List.Induction

/-!
# Histories of reconciles

What the directory answers after any history of reconciles, each with a fetch that
may have failed or yielded any snapshot: an account is known by the latest snapshot
that decides about it, and not known if that one carries a deletion marker.
-/

namespace AccountResolver.Reconcile

open Resource (Snapshot Fetched)

/-- The directory after a history of fetches, recorded one after the other. -/
def project (fs : List Fetched) : Directory := fs.foldl record Directory.empty

/-- The snapshots that a history of fetches yielded, the latest first. -/
def snapshots (fs : List Fetched) : List Snapshot := (fs.filterMap Except.toOption).reverse

/-- Whether a snapshot decides about an account: it carries the account, and a deletion
marker or the account's token. -/
def decides (account : String) (s : Snapshot) : Bool :=
  s.publicKey == account && (s.isDeleted || s.isPopulated)

/-- The latest snapshot of a history that decides about an account. -/
def latest? (fs : List Fetched) (account : String) : Option Snapshot :=
  (snapshots fs).find? (decides account)

/-- Recording the snapshot stores the token under the account. -/
def Stores (s : Snapshot) (account token : String) : Prop :=
  s.isDeleted = false ∧ s.isPopulated = true ∧ s.publicKey = account ∧ s.jwt = token

/-- The accounts of a history whose latest deciding snapshot carries no deletion marker. -/
def standing (fs : List Fetched) : List String :=
  ((snapshots fs).map Snapshot.publicKey).dedup.filter fun account =>
    (latest? fs account).any fun s => !s.isDeleted

theorem decides_iff (account : String) (s : Snapshot) :
    decides account s = true ↔
      s.publicKey = account ∧ (s.isDeleted = true ∨ s.isPopulated = true) := by
  simp only [decides, Bool.and_eq_true, beq_iff_eq, Bool.or_eq_true]

theorem mem_snapshots_iff (fs : List Fetched) (s : Snapshot) : s ∈ snapshots fs ↔ .ok s ∈ fs := by
  rw [snapshots, List.mem_reverse, List.mem_filterMap]
  constructor
  · rintro ⟨f, hf, hs⟩
    cases f with
    | error e => cases hs
    | ok y =>
      cases hs
      exact hf
  · intro h
    exact ⟨.ok s, h, rfl⟩

theorem isPopulated_iff (s : Snapshot) :
    s.isPopulated = true ↔ s.publicKey ≠ "" ∧ s.jwt ≠ "" := by
  simp [Snapshot.isPopulated]

theorem Stores.decides {s : Snapshot} {account token : String} (h : Stores s account token) :
    decides account s = true := by
  obtain ⟨_, hp, hk, _⟩ := h
  exact (decides_iff account s).2 ⟨hk, Or.inr hp⟩

theorem stores_of_decides {s : Snapshot} {account : String} (h : decides account s = true)
    (hd : s.isDeleted = false) : Stores s account s.jwt := by
  obtain ⟨hk, hd' | hp⟩ := (decides_iff account s).1 h
  · rw [hd] at hd'
    cases hd'
  · exact ⟨hd, hp, hk, rfl⟩

/-! ### One more fetch -/

theorem project_snoc (fs : List Fetched) (f : Fetched) :
    project (fs ++ [f]) = record (project fs) f := List.foldl_append

theorem snapshots_snoc_ok (fs : List Fetched) (s : Snapshot) :
    snapshots (fs ++ [.ok s]) = s :: snapshots fs := by
  simp only [snapshots, List.filterMap_append, List.reverse_append]
  rfl

theorem snapshots_snoc_error (fs : List Fetched) (e : Resource.FetchFailure) :
    snapshots (fs ++ [.error e]) = snapshots fs := by
  simp only [snapshots, List.filterMap_append, List.reverse_append]
  rfl

theorem latest?_snoc_ok (fs : List Fetched) (s : Snapshot) (account : String) :
    latest? (fs ++ [.ok s]) account =
      if decides account s then some s else latest? fs account := by
  simp only [latest?, snapshots_snoc_ok, List.find?_cons]
  cases decides account s <;> rfl

theorem latest?_snoc_error (fs : List Fetched) (e : Resource.FetchFailure) (account : String) :
    latest? (fs ++ [.error e]) account = latest? fs account := by
  rw [latest?, latest?, snapshots_snoc_error]

/-- What recording a snapshot does to the token of an account. -/
theorem token?_apply (d : Directory) (s : Snapshot) (account : String) :
    (apply d s).token? account =
      if decides account s then (if s.isDeleted then none else some s.jwt)
      else d.token? account := by
  by_cases hk : account = s.publicKey
  · subst hk
    by_cases hd : s.isDeleted = true
    · simp only [apply, decides, hd, if_true, Directory.token?_delete, Bool.true_or, Bool.and_true,
        BEq.rfl]
    · by_cases hp : s.isPopulated = true
      · simp only [apply, decides, hd, hp, Bool.false_eq_true, if_true, if_false,
          Directory.token?_put, Bool.or_true, Bool.and_true, BEq.rfl]
      · simp only [apply, decides, hd, hp, Bool.false_eq_true, if_false, Bool.or_false,
          Bool.and_false]
  · have hb : decides account s = false := by
      rw [decides, beq_eq_false_iff_ne.2 (Ne.symm hk), Bool.false_and]
    rw [hb, apply]
    split
    · rw [Directory.token?_delete, if_neg hk]
      rfl
    · split
      · rw [Directory.token?_put, if_neg hk]
        rfl
      · rfl

/-! ### The whole history -/

/-- What a snapshot that decides about an account makes of the account's token. -/
def decision (s : Snapshot) : Option String := if s.isDeleted then none else some s.jwt

/-- Whatever was known before, an account is known by the latest snapshot that decides about it,
and only where there is none it is known as before. -/
theorem token?_foldl_record (d : Directory) (fs : List Fetched) (account : String) :
    (fs.foldl record d).token? account =
      ((latest? fs account).map decision).getD (d.token? account) := by
  induction fs using List.reverseRecOn with
  | nil => rfl
  | append_singleton fs f ih =>
    rw [List.foldl_append]
    cases f with
    | error e =>
      rw [latest?_snoc_error]
      exact ih
    | ok s =>
      rw [latest?_snoc_ok]
      show (apply (fs.foldl record d) s).token? account = _
      rw [token?_apply, ih]
      by_cases h : decides account s = true
      · rw [if_pos h, if_pos h]
        rfl
      · rw [if_neg h, if_neg h]

/-- The directory knows an account by the latest snapshot that decides about it. -/
theorem token?_project (fs : List Fetched) (account : String) :
    (project fs).token? account =
      (latest? fs account).bind fun s => if s.isDeleted then none else some s.jwt := by
  have h : (project fs).token? account = ((latest? fs account).map decision).getD none :=
    token?_foldl_record Directory.empty fs account
  rw [h]
  cases latest? fs account <;> rfl

theorem decides_of_latest? {fs : List Fetched} {account : String} {s : Snapshot}
    (h : latest? fs account = some s) : decides account s = true := List.find?_some h

theorem mem_of_latest? {fs : List Fetched} {account : String} {s : Snapshot}
    (h : latest? fs account = some s) : s ∈ snapshots fs := List.mem_of_find?_eq_some h

theorem exists_latest?_of_mem {fs : List Fetched} {account : String} {s : Snapshot}
    (hs : s ∈ snapshots fs) (hd : decides account s = true) :
    ∃ z, latest? fs account = some z := by
  cases h : latest? fs account with
  | some z => exact ⟨z, rfl⟩
  | none => exact absurd hd (List.find?_eq_none.1 h s hs)

theorem token?_eq_some_iff (fs : List Fetched) (account token : String) :
    (project fs).token? account = some token ↔
      ∃ s, latest? fs account = some s ∧ s.isDeleted = false ∧ s.jwt = token := by
  rw [token?_project, Option.bind_eq_some_iff]
  refine exists_congr fun s => and_congr_right fun _ => ?_
  cases s.isDeleted <;> simp

theorem token?_eq_some_iff_stores (fs : List Fetched) (account token : String) :
    (project fs).token? account = some token ↔
      ∃ s, latest? fs account = some s ∧ Stores s account token := by
  rw [token?_eq_some_iff]
  constructor
  · rintro ⟨s, hs, hd, rfl⟩
    exact ⟨s, hs, stores_of_decides (decides_of_latest? hs) hd⟩
  · rintro ⟨s, hs, hd, _, _, ht⟩
    exact ⟨s, hs, hd, ht⟩

theorem nonempty_of_token? {fs : List Fetched} {account token : String}
    (h : (project fs).token? account = some token) : account ≠ "" ∧ token ≠ "" := by
  obtain ⟨s, _, _, hp, rfl, rfl⟩ := (token?_eq_some_iff_stores fs account token).1 h
  exact (isPopulated_iff s).1 hp

theorem contains_iff (fs : List Fetched) (account : String) :
    (project fs).contains account = true ↔
      ∃ s, latest? fs account = some s ∧ s.isDeleted = false := by
  show ((project fs).token? account).isSome = true ↔ _
  rw [Option.isSome_iff_exists]
  constructor
  · rintro ⟨token, h⟩
    obtain ⟨s, hs, hd, _⟩ := (token?_eq_some_iff fs account token).1 h
    exact ⟨s, hs, hd⟩
  · rintro ⟨s, hs, hd⟩
    exact ⟨s.jwt, (token?_eq_some_iff fs account s.jwt).2 ⟨s, hs, hd, rfl⟩⟩

theorem mem_standing_iff (fs : List Fetched) (account : String) :
    account ∈ standing fs ↔ (project fs).contains account = true := by
  rw [contains_iff]
  simp only [standing, List.mem_filter, List.mem_dedup, List.mem_map, Option.any_eq_true,
    Bool.not_eq_true']
  constructor
  · rintro ⟨_, s, hs, hd⟩
    exact ⟨s, hs, hd⟩
  · rintro ⟨s, hs, hd⟩
    have hk := ((decides_iff account s).1 (decides_of_latest? hs)).1
    exact ⟨⟨s, mem_of_latest? hs, hk⟩, s, hs, hd⟩

theorem size_project (fs : List Fetched) : (project fs).size = (standing fs).length :=
  Table.size_eq_length ((List.nodup_dedup _).filter _) (mem_standing_iff fs)

/-! ### Lookups -/

theorem resolve_lookup (d : Directory) {s id : String} (h : Subject.IsLookup s id) :
    Lookup.resolve d s = (d.token? id).getD "" := by
  rw [Lookup.resolve, (Subject.account?_eq_some_iff s id).2 h, Option.bind_some]

theorem resolve_malformed (d : Directory) {s : String} (h : ∀ id, ¬ Subject.IsLookup s id) :
    Lookup.resolve d s = "" := by
  have hn : Subject.account? s = none := by
    rw [Option.eq_none_iff_forall_ne_some]
    intro id hid
    exact h id ((Subject.account?_eq_some_iff s id).1 hid)
  rw [Lookup.resolve, hn]
  rfl

theorem resolve_eq_empty_iff (fs : List Fetched) (s : String) :
    Lookup.resolve (project fs) s = "" ↔
      ∀ id, Subject.IsLookup s id → (project fs).contains id = false := by
  constructor
  · intro h id hid
    rw [resolve_lookup _ hid] at h
    show ((project fs).token? id).isSome = false
    cases ht : (project fs).token? id with
    | none => rfl
    | some token =>
      rw [ht] at h
      exact absurd h (nonempty_of_token? ht).2
  · intro h
    by_cases hs : ∃ id, Subject.IsLookup s id
    · obtain ⟨id, hid⟩ := hs
      have ht : (project fs).token? id = none := by
        have hc : ((project fs).token? id).isSome = false := h id hid
        rwa [Option.isSome_eq_false_iff, Option.isNone_iff_eq_none] at hc
      rw [resolve_lookup _ hid, ht]
      rfl
    · exact resolve_malformed _ fun id hid => hs ⟨id, hid⟩

theorem bytes_eq_empty_iff (s : String) : s.toUTF8 = ByteArray.empty ↔ s = "" := by
  rw [← String.toByteArray_inj]
  rfl

/-- After any history of fetches, and for every text as a subject: the lookup of an account
is answered with the bytes of the token of the latest snapshot that decides about it, unless
that one carries a deletion marker; everything else is answered with no bytes. All known
accounts and tokens are non-empty, so that no bytes mean just that the subject is no lookup
or its account is not known; and the accounts known are those whose latest deciding snapshot
carries no deletion marker. -/
theorem lookups_answer_latest (fs : List Fetched) :
    (∀ s id x, Subject.IsLookup s id → latest? fs id = some x → x.isDeleted = false →
      (Lookup.resolve (project fs) s).toUTF8 = x.jwt.toUTF8) ∧
    (∀ s, (∀ id x, Subject.IsLookup s id → latest? fs id = some x → x.isDeleted = true) →
      (Lookup.resolve (project fs) s).toUTF8 = ByteArray.empty) ∧
    (∀ account token, (project fs).token? account = some token → account ≠ "" ∧ token ≠ "") ∧
    (∀ s, (Lookup.resolve (project fs) s).toUTF8 = ByteArray.empty ↔
      ∀ id, Subject.IsLookup s id → (project fs).contains id = false) ∧
    (project fs).size = (standing fs).length := by
  refine ⟨?_, ?_, fun account token => nonempty_of_token?, ?_, size_project fs⟩
  · intro s id x hs hx hd
    have ht : (project fs).token? id = some x.jwt :=
      (token?_eq_some_iff fs id x.jwt).2 ⟨x, hx, hd, rfl⟩
    rw [resolve_lookup _ hs, ht]
    rfl
  · intro s h
    rw [bytes_eq_empty_iff, resolve_eq_empty_iff]
    intro id hid
    rw [Bool.eq_false_iff]
    intro hc
    obtain ⟨x, hx, hd⟩ := (contains_iff fs id).1 hc
    rw [h id x hid hx] at hd
    cases hd
  · intro s
    rw [bytes_eq_empty_iff, resolve_eq_empty_iff]

end AccountResolver.Reconcile
