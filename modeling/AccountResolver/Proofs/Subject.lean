import AccountResolver.Proofs.Text.Split
import AccountResolver.Subject

/-!
# Lookup subjects

A lookup subject is what the builder makes of an account id, which is one token: not
empty and without a dot. Reading a subject finds the account id of just these, and they are just
the subjects that the pattern of the subscription delivers.
-/

namespace AccountResolver.Subject

/-- A text is the lookup subject of an account. -/
def IsLookup (s id : String) : Prop := s = lookup id ∧ id ≠ "" ∧ '.' ∉ id.toList

instance (s id : String) : Decidable (IsLookup s id) :=
  inferInstanceAs (Decidable (_ ∧ _ ∧ _))

theorem isToken_iff (id : List Char) : isToken id = true ↔ id ≠ [] ∧ '.' ∉ id := by
  simp [isToken]

theorem accountChars?_eq_some_iff (s id : List Char) :
    accountChars? s = some id ↔
      s = lookupHead.toList ++ (id ++ lookupTail.toList) ∧ id ≠ [] ∧ '.' ∉ id := by
  simp only [accountChars?, Option.bind_eq_bind, Option.bind_eq_some_iff,
    Text.stripStart_eq_some_iff, Text.stripEnd_eq_some_iff]
  constructor
  · rintro ⟨rest, rfl, id', rfl, h⟩
    by_cases ht : isToken id' = true
    · rw [if_pos ht] at h
      obtain rfl := Option.some.inj h
      exact ⟨rfl, (isToken_iff id').1 ht⟩
    · rw [if_neg ht] at h
      cases h
  · rintro ⟨rfl, ht⟩
    exact ⟨_, rfl, id, rfl, by rw [if_pos ((isToken_iff id).2 ht)]⟩

/-- The account id that is read from a subject is the one whose lookup subject it is. -/
theorem account?_eq_some_iff (s id : String) : account? s = some id ↔ IsLookup s id := by
  have hid : ∀ cs : List Char, String.ofList cs = id ↔ cs = id.toList := by
    intro cs
    rw [← String.toList_inj, String.toList_ofList]
  have hs : s = lookup id ↔
      s.toList = lookupHead.toList ++ (id.toList ++ lookupTail.toList) := by
    rw [← String.toList_inj, lookup, String.toList_append, String.toList_append,
      List.append_assoc]
  have hne : id ≠ "" ↔ id.toList ≠ [] := not_congr String.toList_eq_nil_iff.symm
  simp only [account?, Option.map_eq_some_iff, hid, accountChars?_eq_some_iff, IsLookup, hs, hne]
  constructor
  · rintro ⟨cs, h, rfl⟩
    exact h
  · intro h
    exact ⟨id.toList, h, rfl⟩

/-! ### Patterns -/

/-- The tokens of a subject, between its dots. -/
def tokens (s : String) : List String := (Text.splitAt '.' s.toList).map String.ofList

def wildcard : String := "*"

/- A subject has the tokens of the pattern, and in place of a wildcard the token `id`. -/
structure Delivers (pattern s id : String) : Prop where
  length : (tokens s).length = (tokens pattern).length
  token : ∀ (i : Nat) (t p : String), (tokens s)[i]? = some t → (tokens pattern)[i]? = some p →
    (p = wildcard → t = id ∧ t ≠ "") ∧ (p ≠ wildcard → t = p)

/-- A token of a pattern with `id` put in for the wildcard. -/
def fill (id p : String) : String := if p = wildcard then id else p

theorem tokens_eq_iff (s : String) (ts : List String) :
    tokens s = ts ↔ ts ≠ [] ∧ (∀ t ∈ ts, '.' ∉ t.toList) ∧
      s.toList = ['.'].intercalate (ts.map String.toList) := by
  have hmap : tokens s = ts ↔ Text.splitAt '.' s.toList = ts.map String.toList := by
    constructor
    · intro h
      rw [← h, tokens, List.map_map]
      exact (List.map_id'' (fun _ => String.toList_ofList) _).symm
    · intro h
      rw [tokens, h, List.map_map]
      exact List.map_id'' (fun _ => String.ofList_toList) ts
  rw [hmap, Text.splitAt_eq_iff]
  simp

theorem delivers_iff (pattern s id : String) :
    Delivers pattern s id ↔ tokens s = (tokens pattern).map (fill id) ∧
      (wildcard ∈ tokens pattern → id ≠ "") := by
  constructor
  · intro h
    have hget : ∀ (i : Nat) (p : String), (tokens pattern)[i]? = some p → ∃ t, (tokens s)[i]? = some t := by
      intro i p hp
      have hi : i < (tokens s).length := by
        rw [h.length]
        exact (List.getElem?_eq_some_iff.1 hp).1
      exact ⟨_, List.getElem?_eq_getElem hi⟩
    refine ⟨?_, ?_⟩
    · refine List.ext_getElem? fun i => ?_
      rw [List.getElem?_map]
      cases hp : (tokens pattern)[i]? with
      | none =>
        rw [List.getElem?_eq_none_iff, ← h.length] at hp
        exact List.getElem?_eq_none_iff.2 hp
      | some p =>
        obtain ⟨t, ht⟩ := hget i p hp
        obtain ⟨hwild, hfixed⟩ := h.token i t p ht hp
        rw [ht, Option.map_some, fill]
        split
        · next hw => rw [(hwild hw).1]
        · next hw => rw [hfixed hw]
    · intro hmem
      obtain ⟨i, hi⟩ := List.getElem?_of_mem hmem
      obtain ⟨t, ht⟩ := hget i wildcard hi
      obtain ⟨he, hne⟩ := (h.token i t wildcard ht hi).1 rfl
      rw [← he]
      exact hne
  · intro h
    obtain ⟨htokens, hne⟩ := h
    refine ⟨by rw [htokens, List.length_map], ?_⟩
    intro i t p ht hp
    rw [htokens, List.getElem?_map, hp, Option.map_some, Option.some.injEq] at ht
    subst ht
    refine ⟨?_, ?_⟩
    · intro hw
      rw [fill, if_pos hw]
      exact ⟨rfl, hne (hw ▸ List.mem_of_getElem? hp)⟩
    · intro hw
      rw [fill, if_neg hw]

theorem tokens_lookupPattern :
    tokens lookupPattern = ["$SYS", "REQ", "ACCOUNT", wildcard, "CLAIMS", "LOOKUP"] := by
  decide

/-- A subject has the tokens of the pattern, one of them filled in, just where it is built for
that token. -/
theorem tokens_eq_filled_iff (s id : String) :
    tokens s = (tokens lookupPattern).map (fill id) ↔ s = lookup id ∧ '.' ∉ id.toList := by
  have hfilled : (tokens lookupPattern).map (fill id) =
      ["$SYS", "REQ", "ACCOUNT", id, "CLAIMS", "LOOKUP"] := by
    rw [tokens_lookupPattern]
    rfl
  have htext : ['.'].intercalate
      (["$SYS", "REQ", "ACCOUNT", id, "CLAIMS", "LOOKUP"].map String.toList) =
      (lookup id).toList := by
    simp [lookup, lookupHead, lookupTail]
  rw [hfilled, tokens_eq_iff, htext, String.toList_inj]
  constructor
  · intro h
    obtain ⟨-, hfree, hs⟩ := h
    exact ⟨hs, hfree id (by simp)⟩
  · intro h
    obtain ⟨hs, hfree⟩ := h
    refine ⟨List.cons_ne_nil _ _, ?_, hs⟩
    simp only [List.forall_mem_cons]
    exact ⟨by decide, by decide, by decide, hfree, by decide, by decide, by simp⟩

theorem delivers_lookupPattern_iff (s id : String) :
    Delivers lookupPattern s id ↔ IsLookup s id := by
  have hmem : wildcard ∈ tokens lookupPattern := by
    rw [tokens_lookupPattern]
    simp
  rw [delivers_iff, tokens_eq_filled_iff]
  constructor
  · intro h
    obtain ⟨⟨hs, hfree⟩, hne⟩ := h
    exact ⟨hs, hne hmem, hfree⟩
  · intro h
    obtain ⟨hs, hne, hfree⟩ := h
    exact ⟨⟨hs, hfree⟩, fun _ => hne⟩

/-- Three descriptions of lookup subjects coincide for every text: the account id that is read
from it is the one for which it is built, provided that this is one token, and the one with which
the pattern of the subscription delivers it. A text without such an id has no account. -/
theorem lookup_subjects_coincide (s id : String) :
    (account? s = some id ↔ s = lookup id ∧ id ≠ "" ∧ '.' ∉ id.toList) ∧
    (account? s = some id ↔ Delivers lookupPattern s id) ∧
    (account? s = none ↔ ∀ other, ¬ Delivers lookupPattern s other) := by
  have hdelivers : ∀ other, account? s = some other ↔ Delivers lookupPattern s other := by
    intro other
    rw [account?_eq_some_iff, delivers_lookupPattern_iff]
  refine ⟨account?_eq_some_iff s id, hdelivers id, ?_⟩
  rw [Option.eq_none_iff_forall_ne_some]
  exact forall_congr' fun other => not_congr (hdelivers other)

/- The head and the tail of a lookup subject share a dot here, and the id holds a tail there. -/
example : account? "$SYS.REQ.ACCOUNT.CLAIMS.LOOKUP" = none ∧
    account? (lookup "A.CLAIMS.LOOKUP") = none := by decide

end AccountResolver.Subject
