import AccountResolver.Failure
import AccountResolver.Proofs.Json.Grammar
import AccountResolver.Resource.Decode

/-!
# Reading the members of an object

What a record holds after the members of an object have been read into it, one known member at a
time: nothing if the object has no member of that name, and else what its one value decodes to.
The order of the members does not matter, nor do the members that are not known.
-/

namespace AccountResolver.Resource.Decode

open Json (Leaf named Legible named_cons_self named_cons_ne)

variable {ρ α : Type}

/-- What the values of a member come to: nothing, or what the one value decodes to. -/
inductive Filled (decode : Json → Decoded α) : List Json → Option α → Prop
  | absent : Filled decode [] none
  | once {j : Json} {a : α} (h : decode j = .ok a) : Filled decode [j] (some a)

/- The members of one name put what `decode` gives where `get` finds it, and the others leave
what is there alone. -/
structure Fills (known : List (Member ρ)) (n : String) (get : ρ → Option α)
    (decode : Json → Decoded α) : Prop where
  mem : ∃ m ∈ known, m.name = n
  isSet : ∀ m ∈ known, m.name = n → ∀ r, m.isSet r = (get r).isSome
  own : ∀ m ∈ known, m.name = n → ∃ put : ρ → α → ρ,
    (∀ r j, m.set r j = (decode j).map (put r)) ∧ ∀ r a, get (put r a) = some a
  other : ∀ m ∈ known, m.name ≠ n → ∀ r j r', m.set r j = .ok r' → get r' = get r

/-! ### Names -/

theorem find?_known {known : List (Member ρ)} {n : String} {m : Member ρ}
    (h : known.find? (fun m => m.name == n) = some m) : m ∈ known ∧ m.name = n := by
  refine ⟨List.mem_of_find?_eq_some h, ?_⟩
  simpa using List.find?_some h

theorem ne_of_find?_none {known : List (Member ρ)} {n : String}
    (h : known.find? (fun m => m.name == n) = none) {m : Member ρ} (hm : m ∈ known) :
    n ≠ m.name := by
  have hno := List.find?_eq_none.1 h m hm
  rintro rfl
  simp at hno

/-! ### One member -/

theorem obstacle_of_passOver {j : Json} {u : Unit} (h : passOver j = .ok u) :
    j.obstacle = none := by
  unfold passOver at h
  split at h
  · next hj => exact hj
  · cases h

theorem members_cons {known : List (Member ρ)} {r r' : ρ} {k : Leaf String} {j : Json}
    {ms : List (Leaf String × Json)} (h : members known r ((k, j) :: ms) = .ok r') :
    ∃ n, k.content = .ok n ∧
      ((known.find? (fun m => m.name == n) = none ∧ j.obstacle = none ∧
          members known r ms = .ok r') ∨
        ∃ m r₁, known.find? (fun m => m.name == n) = some m ∧ m.isSet r = false ∧
          m.set r j = .ok r₁ ∧ members known r₁ ms = .ok r') := by
  rw [members] at h
  split at h
  · cases h
  · next n hn =>
    refine ⟨n, hn, ?_⟩
    split at h
    · next hfind =>
      obtain ⟨_, hpass, hrest⟩ := ok_of_bind h
      exact .inl ⟨hfind, obstacle_of_passOver hpass, hrest⟩
    · next m hfind =>
      split at h
      · cases h
      · next hset =>
        obtain ⟨r₁, hown, hrest⟩ := ok_of_bind h
        exact .inr ⟨m, r₁, hfind, by simpa using hset, hown, hrest⟩

/-! ### All members -/

/- The induction is on the members, with two cases for the record so far: a member that it holds
must not come again. -/
theorem filled_of_members {known : List (Member ρ)} {n : String} {get : ρ → Option α}
    {decode : Json → Decoded α} (hf : Fills known n get decode) {ms : List (Leaf String × Json)}
    {r r' : ρ} (h : members known r ms = .ok r') :
    (get r = none → Filled decode (named n ms) (get r')) ∧
      ∀ a, get r = some a → named n ms = [] ∧ get r' = some a := by
  induction ms generalizing r with
  | nil =>
    cases h
    exact ⟨fun hnone => hnone ▸ .absent, fun a ha => ⟨rfl, ha⟩⟩
  | cons p ms ih =>
    obtain ⟨k, j⟩ := p
    obtain ⟨k', hk, ⟨hfind, -, hrest⟩ | ⟨m, r₁, hfind, hset, hown, hrest⟩⟩ := members_cons h
    · obtain ⟨m, hm, rfl⟩ := hf.mem
      rw [named_cons_ne hk (ne_of_find?_none hfind hm)]
      exact ih hrest
    · obtain ⟨hm, rfl⟩ := find?_known hfind
      by_cases hn : m.name = n
      · have hnone : get r = none := by
          rw [hf.isSet m hm hn] at hset
          simpa using hset
        obtain ⟨put, hput, hget⟩ := hf.own m hm hn
        rw [hput] at hown
        obtain ⟨a, ha, rfl⟩ := ok_of_map hown
        obtain ⟨hempty, hstays⟩ := (ih hrest).2 a (hget r a)
        rw [hn] at hk
        rw [named_cons_self hk, hempty, hstays, hnone]
        exact ⟨fun _ => .once ha, fun a ha => by cases ha⟩
      · rw [named_cons_ne hk hn, ← hf.other m hm hn r j r₁ hown]
        exact ih hrest

/-- Whatever the record holds of a member so far, its values still to come can be read. -/
def Ready (known : List (Member ρ)) (r : ρ) (ms : List (Leaf String × Json)) (n : String) :
    Prop :=
  ∃ (α : Type) (get : ρ → Option α) (decode : Json → Decoded α), Fills known n get decode ∧
    ((get r = none ∧ ∃ v, Filled decode (named n ms) v) ∨
      ((get r).isSome = true ∧ named n ms = []))

theorem ready_of_filled {known : List (Member ρ)} {n : String} {get : ρ → Option α}
    {decode : Json → Decoded α} (hf : Fills known n get decode) {r : ρ} (hr : get r = none)
    {ms : List (Leaf String × Json)} {v : Option α} (h : Filled decode (named n ms) v) :
    Ready known r ms n :=
  ⟨α, get, decode, hf, .inl ⟨hr, v, h⟩⟩

/-- One member of the object is read, and the record stays ready for the others. -/
theorem ready_step {known : List (Member ρ)} {r : ρ} {k : Leaf String} {n : String} {j : Json}
    {ms : List (Leaf String × Json)} (hk : k.content = .ok n) {m : Member ρ} (hm : m ∈ known)
    (hn : m.name = n) (h : ∀ m ∈ known, Ready known r ((k, j) :: ms) m.name) :
    m.isSet r = false ∧ ∃ r₁, m.set r j = .ok r₁ ∧ ∀ m ∈ known, Ready known r₁ ms m.name := by
  subst hn
  obtain ⟨α, get, decode, hf, hready⟩ := h m hm
  rw [named_cons_self hk] at hready
  obtain ⟨hnone, v, hv⟩ | ⟨-, hempty⟩ := hready
  · cases hrest : named m.name ms with
    | cons j' js =>
      rw [hrest] at hv
      cases hv
    | nil =>
      rw [hrest] at hv
      cases hv with
      | @once _ a ha =>
        obtain ⟨put, hput, hget⟩ := hf.own m hm rfl
        have hset : m.set r j = .ok (put r a) := by
          rw [hput, ha]
          rfl
        refine ⟨by rw [hf.isSet m hm rfl, hnone]; rfl, put r a, hset, ?_⟩
        intro m' hm'
        by_cases hname : m'.name = m.name
        · rw [hname]
          exact ⟨α, get, decode, hf, .inr ⟨by rw [hget]; rfl, hrest⟩⟩
        · obtain ⟨α', get', decode', hf', hready'⟩ := h m' hm'
          rw [named_cons_ne hk (Ne.symm hname),
            ← hf'.other m hm (Ne.symm hname) r j (put r a) hset] at hready'
          exact ⟨α', get', decode', hf', hready'⟩
  · cases hempty

/-- The members that are not known can be passed over. -/
def PassesOver (known : List (Member ρ)) (ms : List (Leaf String × Json)) : Prop :=
  ∀ m ∈ ms, ∀ n, m.1.content = .ok n → (∀ k ∈ known, n ≠ k.name) → m.2.obstacle = none

theorem passesOver_of_obstacle {known : List (Member ρ)} {ms : List (Leaf String × Json)}
    (hp : Json.obstacleMembers ms = none) : PassesOver known ms := by
  induction ms with
  | nil =>
    intro m hm
    cases hm
  | cons p ms ih =>
    rw [Json.obstacleMembers, Option.or_eq_none_iff, Option.or_eq_none_iff] at hp
    obtain ⟨⟨-, hj⟩, hp'⟩ := hp
    intro m hm n hn hne
    rcases List.mem_cons.1 hm with he | hm
    · rw [he]
      exact hj
    · exact ih hp' m hm n hn hne

theorem members_ok {known : List (Member ρ)} {ms : List (Leaf String × Json)} {r : ρ}
    (hl : Legible ms) (hp : PassesOver known ms)
    (h : ∀ m ∈ known, Ready known r ms m.name) : ∃ r', members known r ms = .ok r' := by
  induction ms generalizing r with
  | nil => exact ⟨r, rfl⟩
  | cons p ms ih =>
    obtain ⟨k, j⟩ := p
    obtain ⟨n, hn⟩ := hl (k, j) List.mem_cons_self
    have hl' : Legible ms := fun m hm => hl m (List.mem_cons_of_mem _ hm)
    have hp' : PassesOver known ms := fun m hm => hp m (List.mem_cons_of_mem _ hm)
    rw [members, hn]
    simp only
    split
    · next hfind =>
      have hj : j.obstacle = none :=
        hp (k, j) List.mem_cons_self n hn fun m hm => ne_of_find?_none hfind hm
      have hrest : ∀ m ∈ known, Ready known r ms m.name := by
        intro m hm
        obtain ⟨α, get, decode, hf, hready⟩ := h m hm
        rw [named_cons_ne hn (ne_of_find?_none hfind hm)] at hready
        exact ⟨α, get, decode, hf, hready⟩
      obtain ⟨r', hr'⟩ := ih hl' hp' hrest
      refine ⟨r', ?_⟩
      rw [passOver, hj]
      exact hr'
    · next m hfind =>
      obtain ⟨hm, hname⟩ := find?_known hfind
      obtain ⟨hset, r₁, hown, hready⟩ := ready_step hn hm hname h
      obtain ⟨r', hr'⟩ := ih hl' hp' hready
      refine ⟨r', ?_⟩
      rw [if_neg (by simp [hset]), hown]
      exact hr'

/-- Where members have been read, each of them has a name, and the others were passed over. -/
theorem legible_of_members {known : List (Member ρ)} {ms : List (Leaf String × Json)} {r r' : ρ}
    (h : members known r ms = .ok r') : Legible ms ∧ PassesOver known ms := by
  induction ms generalizing r with
  | nil =>
    refine ⟨?_, ?_⟩
    · intro m hm
      cases hm
    · intro m hm
      cases hm
  | cons p ms ih =>
    obtain ⟨k, j⟩ := p
    obtain ⟨n, hn, hcases⟩ := members_cons h
    obtain ⟨r₁, hrest, hpass⟩ : ∃ r₁, members known r₁ ms = .ok r' ∧
        ((∀ m ∈ known, n ≠ m.name) → j.obstacle = none) := by
      rcases hcases with ⟨-, hj, hrest⟩ | ⟨m, r₁, hfind, -, -, hrest⟩
      · exact ⟨r, hrest, fun _ => hj⟩
      · obtain ⟨hm, hname⟩ := find?_known hfind
        exact ⟨r₁, hrest, fun hne => absurd hname.symm (hne m hm)⟩
    obtain ⟨hl, hp⟩ := ih hrest
    refine ⟨?_, ?_⟩
    · intro m hm
      rcases List.mem_cons.1 hm with he | hm
      · exact ⟨n, he ▸ hn⟩
      · exact hl m hm
    · intro m hm n' hn' hne
      rcases List.mem_cons.1 hm with he | hm
      · subst he
        obtain rfl : n = n' := Except.ok.inj (hn.symm.trans hn')
        exact hpass hne
      · exact hp m hm n' hn' hne

end AccountResolver.Resource.Decode
