import AccountResolver.Proofs.Json.Reading
import AccountResolver.Proofs.Json.Writing
import AccountResolver.Proofs.Kube.Exchange
import AccountResolver.Proofs.Resource.Members
import AccountResolver.Proofs.Text.Utf8
import AccountResolver.Proofs.Timestamp.Lenient
import AccountResolver.Proofs.Timestamp.Strict

/-!
# Texts that write an account

When the members of an object write an account, and when they cannot be those of one. Both are
said of the values under the known names, so that order, spelling and unknown members play no
part. A text of the first kind is read as exactly that account, one of the second kind is refused.
-/

namespace AccountResolver.Resource

open Decode (Filled Fills Ready)
open Json (Leaf named Legible IsText)
open Text (Glyph)

/-! ### Writing an account -/

/-- A JSON string that is an RFC 3339 date-time in UTC. -/
def IsTime (t : Timestamp) (j : Json) : Prop := ∃ s, IsText s j ∧ Timestamp.DateTime t 0 s.toList

/-- An optional member is left out or null where there is nothing to write. -/
inductive WritesOption {α : Type} (Is : α → Json → Prop) : Option α → List Json → Prop
  | absent : WritesOption Is none []
  | null : WritesOption Is none [.null]
  | given {a : α} {j : Json} (h : Is a j) : WritesOption Is (some a) [j]

/-- A text member may be left out where the text is empty. -/
inductive WritesText : String → List Json → Prop
  | absent : WritesText "" []
  | given {s : String} {j : Json} (h : IsText s j) : WritesText s [j]

structure WritesMetadata (a : Snapshot) (ms : List (Leaf String × Json)) : Prop where
  legible : Legible ms
  name : ∃ j, named "name" ms = [j] ∧ IsText a.name j
  ns : WritesOption IsText a.ns (named "namespace" ms)
  deletedAt : WritesOption IsTime a.deletedAt (named "deletionTimestamp" ms)

structure WritesStatus (a : Snapshot) (ms : List (Leaf String × Json)) : Prop where
  legible : Legible ms
  publicKey : WritesText a.publicKey (named "publicKey" ms)
  jwt : WritesText a.jwt (named "jwt" ms)

structure WritesAccount (a : Snapshot) (ms : List (Leaf String × Json)) : Prop where
  legible : Legible ms
  metadata : ∃ ms', named "metadata" ms = [.object ms' none] ∧ WritesMetadata a ms'
  status : (named "status" ms = [] ∧ a.publicKey = "" ∧ a.jwt = "") ∨
    ∃ ms', named "status" ms = [.object ms' none] ∧ WritesStatus a ms'

/-! ### Flaws -/

inductive FlawedMetadata (ms : List (Leaf String × Json)) : Prop
  | noName (h : named "name" ms = [])
  | twice {n : String} (hn : n ∈ ["name", "namespace", "deletionTimestamp"])
      (h : 2 ≤ (named n ms).length)
  | badName {j : Json} (hj : j ∈ named "name" ms) (h : ∀ s, ¬ IsText s j)
  | badTime {j : Json} (hj : j ∈ named "deletionTimestamp" ms) (hnull : j ≠ .null)
      (h : ∀ s, IsText s j → ¬ Timestamp.LenientDateTime s.toList)

inductive FlawedStatus (ms : List (Leaf String × Json)) : Prop
  | twice {n : String} (hn : n ∈ ["publicKey", "jwt"]) (h : 2 ≤ (named n ms).length)
  | badText {n : String} (hn : n ∈ ["publicKey", "jwt"]) {j : Json} (hj : j ∈ named n ms)
      (h : ∀ s, ¬ IsText s j)

inductive FlawedAccount (ms : List (Leaf String × Json)) : Prop
  | noMetadata (h : named "metadata" ms = [])
  | twice {n : String} (hn : n ∈ ["metadata", "status"]) (h : 2 ≤ (named n ms).length)
  | metadata {ms' : List (Leaf String × Json)} (hj : .object ms' none ∈ named "metadata" ms)
      (h : FlawedMetadata ms')
  | nullStatus (hj : .null ∈ named "status" ms)
  | status {ms' : List (Leaf String × Json)} (hj : .object ms' none ∈ named "status" ms)
      (h : FlawedStatus ms')

/-! ### Values -/

namespace Decode

theorem string_iff (expected : String) (j : Json) (s : String) :
    string expected j = .ok s ↔ IsText s j := by
  constructor
  · intro h
    cases j with
    | string leaf =>
      refine ⟨leaf, rfl, ?_⟩
      simp only [string] at h
      split at h
      · next s' hs =>
        cases h
        exact hs
      · cases h
    | _ => cases h
  · intro h
    obtain ⟨leaf, rfl, hs⟩ := h
    simp only [string, hs]

theorem text_iff (j : Json) (s : String) : text j = .ok s ↔ IsText s j := string_iff _ j s

theorem text?_some {j : Json} {s : String} (h : IsText s j) : text? j = .ok (some s) := by
  have htext := (text_iff j s).2 h
  obtain ⟨leaf, rfl, -⟩ := h
  simp [text?, htext, Except.map]

theorem time?_some {j : Json} {t : Timestamp} (h : IsTime t j) : time? j = .ok (some t) := by
  obtain ⟨s, hs, ht⟩ := h
  have hstring := (string_iff "an RFC 3339 formatted date and time string" j s).2 hs
  have hread : Timestamp.read s = .ok t := Timestamp.readChars_utc ht
  obtain ⟨leaf, rfl, -⟩ := hs
  simp [time?, hstring, hread, bind, Except.bind]

/-- Only null and strings of lenient form are taken for a time. -/
theorem lenient_of_time? {j : Json} {v : Option Timestamp} (h : time? j = .ok v) :
    j = .null ∨ ∃ s, IsText s j ∧ Timestamp.LenientDateTime s.toList := by
  cases j with
  | null => exact .inl rfl
  | _ =>
    obtain ⟨s, hs, h⟩ := ok_of_bind h
    refine .inr ⟨s, (string_iff _ _ s).1 hs, ?_⟩
    split at h
    · next t ht => exact Timestamp.lenient_of_readChars ht
    · cases h

/-! ### Known members -/

/-- A value that goes elsewhere leaves what `get` finds alone. -/
theorem get_of_map {ρ α β : Type} {get : ρ → Option α} {decode : Json → Decoded β}
    {put : ρ → β → ρ} (h : ∀ r b, get (put r b) = get r) (r : ρ) (j : Json) (r' : ρ)
    (hset : (decode j).map (put r) = .ok r') : get r' = get r := by
  obtain ⟨b, -, rfl⟩ := ok_of_map hset
  exact h r b

/- A member that has a place of its own in the record, and members that leave this place alone. -/
theorem fills_of_place {ρ α : Type} {known : List (Member ρ)} {n : String} {get : ρ → Option α}
    {decode : Json → Decoded α} (put : ρ → α → ρ) (hput : ∀ r a, get (put r a) = some a)
    (hmem : ∃ m ∈ known, m.name = n)
    (hknown : ∀ m ∈ known,
      m = ⟨n, fun r => (get r).isSome, fun r j => (decode j).map (put r)⟩ ∨
        m.name ≠ n ∧ ∀ r j r', m.set r j = .ok r' → get r' = get r) :
    Fills known n get decode := by
  refine ⟨hmem, ?_, ?_, ?_⟩
  · intro m hm hn r
    rcases hknown m hm with rfl | ⟨hne, -⟩
    · rfl
    · exact absurd hn hne
  · intro m hm hn
    rcases hknown m hm with rfl | ⟨hne, -⟩
    · exact ⟨put, fun _ _ => rfl, hput⟩
    · exact absurd hn hne
  · intro m hm hne
    rcases hknown m hm with rfl | ⟨-, hother⟩
    · exact absurd rfl hne
    · exact hother

theorem fills_name : Fills metadataMembers "name" Metadata.name text := by
  refine fills_of_place (fun r s => { r with name := some s }) (fun _ _ => rfl)
    (by simp [metadataMembers]) ?_
  simp only [metadataMembers, List.forall_mem_cons]
  exact ⟨.inl trivial, .inr ⟨by decide, get_of_map fun _ _ => rfl⟩,
    .inr ⟨by decide, get_of_map fun _ _ => rfl⟩, by simp⟩

theorem fills_namespace : Fills metadataMembers "namespace" Metadata.ns text? := by
  refine fills_of_place (fun r s => { r with ns := some s }) (fun _ _ => rfl)
    (by simp [metadataMembers]) ?_
  simp only [metadataMembers, List.forall_mem_cons]
  exact ⟨.inr ⟨by decide, get_of_map fun _ _ => rfl⟩, .inl trivial,
    .inr ⟨by decide, get_of_map fun _ _ => rfl⟩, by simp⟩

theorem fills_deletionTimestamp :
    Fills metadataMembers "deletionTimestamp" Metadata.deletedAt time? := by
  refine fills_of_place (fun r t => { r with deletedAt := some t }) (fun _ _ => rfl)
    (by simp [metadataMembers]) ?_
  simp only [metadataMembers, List.forall_mem_cons]
  exact ⟨.inr ⟨by decide, get_of_map fun _ _ => rfl⟩,
    .inr ⟨by decide, get_of_map fun _ _ => rfl⟩, .inl trivial, by simp⟩

theorem fills_publicKey : Fills statusMembers "publicKey" Status.publicKey text := by
  refine fills_of_place (fun r s => { r with publicKey := some s }) (fun _ _ => rfl)
    (by simp [statusMembers]) ?_
  simp only [statusMembers, List.forall_mem_cons]
  exact ⟨.inl trivial, .inr ⟨by decide, get_of_map fun _ _ => rfl⟩, by simp⟩

theorem fills_jwt : Fills statusMembers "jwt" Status.jwt text := by
  refine fills_of_place (fun r s => { r with jwt := some s }) (fun _ _ => rfl)
    (by simp [statusMembers]) ?_
  simp only [statusMembers, List.forall_mem_cons]
  exact ⟨.inr ⟨by decide, get_of_map fun _ _ => rfl⟩, .inl trivial, by simp⟩

theorem fills_metadata : Fills accountMembers "metadata" Parts.metadata metadata := by
  refine fills_of_place (fun r m => { r with metadata := some m }) (fun _ _ => rfl)
    (by simp [accountMembers]) ?_
  simp only [accountMembers, List.forall_mem_cons]
  exact ⟨.inl trivial, .inr ⟨by decide, get_of_map fun _ _ => rfl⟩, by simp⟩

theorem fills_status : Fills accountMembers "status" Parts.status status := by
  refine fills_of_place (fun r s => { r with status := some s }) (fun _ _ => rfl)
    (by simp [accountMembers]) ?_
  simp only [accountMembers, List.forall_mem_cons]
  exact ⟨.inr ⟨by decide, get_of_map fun _ _ => rfl⟩, .inl trivial, by simp⟩

/-! ### Written members are read -/

theorem filled_of_option {α : Type} {Is : α → Json → Prop} {decode : Json → Decoded (Option α)}
    (hnull : decode .null = .ok none) (hsome : ∀ {j a}, Is a j → decode j = .ok (some a))
    {o : Option α} {js : List Json} (h : WritesOption Is o js) :
    ∃ v, Filled decode js v ∧ v.getD none = o := by
  cases h with
  | absent => exact ⟨none, .absent, rfl⟩
  | null => exact ⟨some none, .once hnull, rfl⟩
  | given h => exact ⟨some (some _), .once (hsome h), rfl⟩

theorem filled_of_text {s : String} {js : List Json} (h : WritesText s js) :
    ∃ v, Filled text js v ∧ v.getD "" = s := by
  cases h with
  | absent => exact ⟨none, .absent, rfl⟩
  | given h => exact ⟨some s, .once ((text_iff _ s).2 h), rfl⟩

theorem filled_unique {α : Type} {decode : Json → Decoded α} {js : List Json} {v v' : Option α}
    (h : Filled decode js v) (h' : Filled decode js v') : v = v' := by
  cases h with
  | absent =>
    cases h'
    rfl
  | once h =>
    cases h' with
    | once h' =>
      rw [h] at h'
      rw [Except.ok.inj h']

/-- What a record holds at the end is what the values of the member come to. -/
theorem get_eq {ρ α : Type} {known : List (Member ρ)} {n : String} {get : ρ → Option α}
    {decode : Json → Decoded α} (hf : Fills known n get decode) {ms : List (Leaf String × Json)}
    {start r : ρ} (hr : members known start ms = .ok r) (hstart : get start = none)
    {v : Option α} (hv : Filled decode (named n ms) v) : get r = v :=
  filled_unique ((filled_of_members hf hr).1 hstart) hv

theorem record_object {ρ α : Type} {expected : String} {known : List (Member ρ)} {start r : ρ}
    {finishObject finishArray : ρ → Decoded α} {ms : List (Leaf String × Json)}
    (h : members known start ms = .ok r) :
    record expected known start finishObject finishArray (.object ms none) = finishObject r := by
  rw [record, h]
  rfl

theorem metadata_of_writes {a : Snapshot} {ms : List (Leaf String × Json)}
    (h : WritesMetadata a ms) (hp : Json.obstacleMembers ms = none) :
    metadata (.object ms none) = .ok (a.name, a.ns, a.deletedAt) := by
  obtain ⟨j, hj, hname⟩ := h.name
  have hname : Filled text (named "name" ms) (some a.name) := by
    rw [hj]
    exact .once ((text_iff j a.name).2 hname)
  obtain ⟨ns, hns, hnseq⟩ := filled_of_option (rfl : text? .null = .ok none) text?_some h.ns
  obtain ⟨del, hdel, hdeleq⟩ := filled_of_option (rfl : time? .null = .ok none) time?_some h.deletedAt
  obtain ⟨r, hr⟩ : ∃ r, members metadataMembers {} ms = .ok r := by
    refine members_ok h.legible (passesOver_of_obstacle hp) ?_
    simp only [metadataMembers, List.forall_mem_cons]
    exact ⟨ready_of_filled fills_name rfl hname, ready_of_filled fills_namespace rfl hns,
      ready_of_filled fills_deletionTimestamp rfl hdel, by simp⟩
  rw [metadata, record_object hr, finishMetadata, get_eq fills_name hr rfl hname]
  simp only [get_eq fills_namespace hr rfl hns, get_eq fills_deletionTimestamp hr rfl hdel, hnseq,
    hdeleq]

theorem status_of_writes {a : Snapshot} {ms : List (Leaf String × Json)}
    (h : WritesStatus a ms) (hp : Json.obstacleMembers ms = none) :
    status (.object ms none) = .ok (a.publicKey, a.jwt) := by
  obtain ⟨key, hkey, hkeyeq⟩ := filled_of_text h.publicKey
  obtain ⟨jwt, hjwt, hjwteq⟩ := filled_of_text h.jwt
  obtain ⟨r, hr⟩ : ∃ r, members statusMembers {} ms = .ok r := by
    refine members_ok h.legible (passesOver_of_obstacle hp) ?_
    simp only [statusMembers, List.forall_mem_cons]
    exact ⟨ready_of_filled fills_publicKey rfl hkey, ready_of_filled fills_jwt rfl hjwt, by simp⟩
  rw [status, record_object hr, finishStatus, get_eq fills_publicKey hr rfl hkey,
    get_eq fills_jwt hr rfl hjwt, hkeyeq, hjwteq]

/-- The value of a member that can be passed over can itself be passed over. -/
theorem obstacle_of_named {n : String} {ms : List (Leaf String × Json)}
    (hp : Json.obstacleMembers ms = none) {j : Json} (h : j ∈ named n ms) : j.obstacle = none := by
  induction ms with
  | nil => cases h
  | cons p ms ih =>
    obtain ⟨k, j'⟩ := p
    rw [Json.obstacleMembers, Option.or_eq_none_iff, Option.or_eq_none_iff] at hp
    obtain ⟨⟨-, hj⟩, hp'⟩ := hp
    obtain ⟨m, hm, hmj⟩ := List.mem_filterMap.1 h
    rcases List.mem_cons.1 hm with rfl | hm
    · simp only at hmj
      split at hmj
      · split at hmj
        · cases hmj
          exact hj
        · cases hmj
      · cases hmj
    · exact ih hp' (List.mem_filterMap.2 ⟨m, hm, hmj⟩)

theorem obstacle_members_of_named {n : String} {ms ms' : List (Leaf String × Json)}
    (hp : Json.obstacleMembers ms = none) (h : named n ms = [.object ms' none]) :
    Json.obstacleMembers ms' = none := by
  have hobject := obstacle_of_named hp (j := .object ms' none) (by rw [h]; simp)
  simpa [Json.obstacle] using hobject

theorem account_of_writes {a : Snapshot} {ms : List (Leaf String × Json)}
    (h : WritesAccount a ms) (hp : Json.obstacleMembers ms = none) :
    account (.object ms none) = .ok a := by
  obtain ⟨ms', hms', hmeta⟩ := h.metadata
  have hmeta : Filled metadata (named "metadata" ms) (some (a.name, a.ns, a.deletedAt)) := by
    rw [hms']
    exact .once (metadata_of_writes hmeta (obstacle_members_of_named hp hms'))
  obtain ⟨v, hv, hveq⟩ : ∃ v, Filled status (named "status" ms) v ∧
      v.getD ("", "") = (a.publicKey, a.jwt) := by
    rcases h.status with ⟨hempty, hkey, hjwt⟩ | ⟨ms'', hms'', hstatus⟩
    · rw [hempty, hkey, hjwt]
      exact ⟨none, .absent, rfl⟩
    · rw [hms'']
      exact ⟨_, .once (status_of_writes hstatus (obstacle_members_of_named hp hms'')), rfl⟩
  obtain ⟨r, hr⟩ : ∃ r, members accountMembers {} ms = .ok r := by
    refine members_ok h.legible (passesOver_of_obstacle hp) ?_
    simp only [accountMembers, List.forall_mem_cons]
    exact ⟨ready_of_filled fills_metadata rfl hmeta, ready_of_filled fills_status rfl hv, by simp⟩
  rw [account, record_object hr, finishAccount, get_eq fills_metadata hr rfl hmeta]
  simp only [get_eq fills_status hr rfl hv, hveq]

/-! ### Flawed members are refused -/

/-- What a known member of an object that was read comes to. -/
theorem filled_of_record {ρ β : Type} {expected : String} {known : List (Member ρ)} {start : ρ}
    {finishObject finishArray : ρ → Decoded β} {ms : List (Leaf String × Json)} {b : β}
    (h : record expected known start finishObject finishArray (.object ms none) = .ok b) :
    ∃ r, finishObject r = .ok b ∧ ∀ {α : Type} {n : String} {get : ρ → Option α}
      {decode : Json → Decoded α}, Fills known n get decode → get start = none →
      Filled decode (named n ms) (get r) := by
  obtain ⟨r, hr, hfinish⟩ := ok_of_bind h
  exact ⟨r, hfinish, fun hf hstart => (filled_of_members hf hr).1 hstart⟩

theorem length_of_filled {α : Type} {decode : Json → Decoded α} {js : List Json} {v : Option α}
    (h : Filled decode js v) : js.length < 2 := by
  cases h <;> simp

theorem ok_of_filled {α : Type} {decode : Json → Decoded α} {js : List Json} {v : Option α}
    (h : Filled decode js v) {j : Json} (hj : j ∈ js) : ∃ a, decode j = .ok a := by
  cases h with
  | absent => cases hj
  | once h =>
    rw [List.mem_singleton.1 hj]
    exact ⟨_, h⟩

theorem flawless_metadata {ms : List (Leaf String × Json)}
    {m : String × Option String × Option Timestamp} (h : metadata (.object ms none) = .ok m) :
    ¬ FlawedMetadata ms := by
  obtain ⟨r, hfinish, hfilled⟩ := filled_of_record h
  have hname := hfilled fills_name rfl
  have hns := hfilled fills_namespace rfl
  have htime := hfilled fills_deletionTimestamp rfl
  intro hflaw
  cases hflaw with
  | noName hno =>
    rw [hno] at hname
    have hnone : r.name = none := filled_unique hname .absent
    rw [finishMetadata, hnone] at hfinish
    cases hfinish
  | @twice n hn htwo =>
    simp only [List.mem_cons, List.not_mem_nil, or_false] at hn
    rcases hn with rfl | rfl | rfl
    · exact absurd (length_of_filled hname) (by omega)
    · exact absurd (length_of_filled hns) (by omega)
    · exact absurd (length_of_filled htime) (by omega)
  | badName hj hbad =>
    obtain ⟨s, hs⟩ := ok_of_filled hname hj
    exact hbad s ((text_iff _ s).1 hs)
  | badTime hj hnull hbad =>
    obtain ⟨t, ht⟩ := ok_of_filled htime hj
    rcases lenient_of_time? ht with hj' | ⟨s, hs, hlenient⟩
    · exact hnull hj'
    · exact hbad s hs hlenient

theorem flawless_status {ms : List (Leaf String × Json)} {s : String × String}
    (h : status (.object ms none) = .ok s) : ¬ FlawedStatus ms := by
  obtain ⟨r, -, hfilled⟩ := filled_of_record h
  have hkey := hfilled fills_publicKey rfl
  have hjwt := hfilled fills_jwt rfl
  intro hflaw
  cases hflaw with
  | twice hn htwo =>
    simp only [List.mem_cons, List.not_mem_nil, or_false] at hn
    rcases hn with rfl | rfl
    · exact absurd (length_of_filled hkey) (by omega)
    · exact absurd (length_of_filled hjwt) (by omega)
  | badText hn hj hbad =>
    simp only [List.mem_cons, List.not_mem_nil, or_false] at hn
    rcases hn with rfl | rfl
    · obtain ⟨t, ht⟩ := ok_of_filled hkey hj
      exact hbad t ((text_iff _ t).1 ht)
    · obtain ⟨t, ht⟩ := ok_of_filled hjwt hj
      exact hbad t ((text_iff _ t).1 ht)

theorem flawless_account {ms : List (Leaf String × Json)} {a : Snapshot}
    (h : account (.object ms none) = .ok a) : ¬ FlawedAccount ms := by
  obtain ⟨r, hfinish, hfilled⟩ := filled_of_record h
  have hmeta := hfilled fills_metadata rfl
  have hstatus := hfilled fills_status rfl
  intro hflaw
  cases hflaw with
  | noMetadata hno =>
    rw [hno] at hmeta
    have hnone : r.metadata = none := filled_unique hmeta .absent
    rw [finishAccount, hnone] at hfinish
    cases hfinish
  | twice hn htwo =>
    simp only [List.mem_cons, List.not_mem_nil, or_false] at hn
    rcases hn with rfl | rfl
    · exact absurd (length_of_filled hmeta) (by omega)
    · exact absurd (length_of_filled hstatus) (by omega)
  | metadata hj hbad =>
    obtain ⟨m, hm⟩ := ok_of_filled hmeta hj
    exact flawless_metadata hm hbad
  | nullStatus hj =>
    obtain ⟨s, hs⟩ := ok_of_filled hstatus hj
    cases hs
  | status hj hbad =>
    obtain ⟨s, hs⟩ := ok_of_filled hstatus hj
    exact flawless_status hs hbad

end Decode

/-! ### Whole texts -/

/- The bytes of a text in UTF-8, as they come in. -/
def readText (text : String) : Except Problem Snapshot :=
  Snapshot.read (Glyph.ofBytes text.toUTF8.data.toList)

theorem read_of_written {text : String} {j : Json} (h : Json.Written text j) :
    readText text = Decode.account j := by
  rw [readText, Glyph.ofBytes_toUTF8, Snapshot.read, Decode.whole, Json.read_of_written h]
  simp only
  cases hj : Decode.account j <;> rfl

/-- The members of a written object can all be passed over. -/
theorem obstacle_of_written {text : String} {ms : List (Leaf String × Json)}
    (h : Json.Written text (.object ms none)) : Json.obstacleMembers ms = none := by
  obtain ⟨w, t, v, -, -, ht, -⟩ := h
  simpa [Json.Passable, Json.obstacle] using Json.passable_of_spells ht

theorem read_of_writes {a : Snapshot} {text : String} {ms : List (Leaf String × Json)}
    (ht : Json.Written text (.object ms none)) (ha : WritesAccount a ms) :
    readText text = .ok a := by
  rw [read_of_written ht]
  exact Decode.account_of_writes ha (obstacle_of_written ht)

theorem refused_of_flawed {text : String} {ms : List (Leaf String × Json)}
    (ht : Json.Written text (.object ms none)) (hf : FlawedAccount ms) :
    ∃ p, readText text = .error p := by
  rw [read_of_written ht]
  cases hread : Decode.account (.object ms none) with
  | error p => exact ⟨p, rfl⟩
  | ok a => exact absurd hf (Decode.flawless_account hread)

/-- An answer of the API with a text that writes an account yields it. -/
theorem yields_of_writes {a : Snapshot} {text : String} {ms : List (Leaf String × Json)}
    (ht : Json.Written text (.object ms none)) (ha : WritesAccount a ms) {status : Nat}
    (hs : 200 ≤ status ∧ status < 300) :
    (Kube.Exchange.answered status text.toUTF8.data.toList).Yields a :=
  ⟨status, _, rfl, hs, read_of_writes ht ha⟩

/-- An answer with a flawed text is of no use, whatever its status. -/
theorem unusable_of_flawed {text : String} {ms : List (Leaf String × Json)}
    (ht : Json.Written text (.object ms none)) (hf : FlawedAccount ms) {status : Nat}
    (hs : status ≠ 404) : (Kube.Exchange.answered status text.toUTF8.data.toList).IsUnusable := by
  by_cases hok : 200 ≤ status ∧ status < 300
  · refine .inr ⟨hok, ?_⟩
    intro s hread
    obtain ⟨p, hp⟩ := refused_of_flawed ht hf
    rw [readText, hread] at hp
    cases hp
  · exact .inl ⟨hok, hs⟩

/-- Every text that writes an account is read as that account, and every flawed one is refused. -/
theorem account_texts :
    (∀ (a : Snapshot) (text : String) (ms : List (Leaf String × Json)),
      Json.Written text (.object ms none) → WritesAccount a ms →
        readText text = .ok a) ∧
    ∀ (text : String) (ms : List (Leaf String × Json)),
      Json.Written text (.object ms none) → FlawedAccount ms →
        ∃ p, readText text = .error p := by
  constructor
  · intro a text ms htext ha
    exact read_of_writes htext ha
  · intro text ms htext hflaw
    exact refused_of_flawed htext hflaw

/- An account in deletion, between white space. The name of its name is written with an escape, as
is the name itself, and the members `kind` and `spec` are of no interest. -/
def deletedText : String :=
  " \x7b\"kind\":\"Account\",\"spec\":\x7b\"tags\":[true, null]\x7d,\n" ++
  "\"metadata\":\x7b\"\\u006eame\" : \"\\u006eats\",\"namespace\":null," ++
  "\"deletionTimestamp\":\"2026-03-01T10:00:00.5Z\"\x7d," ++
  "\"status\":\x7b\"jwt\":\"t\",\"publicKey\":\"A\"\x7d\x7d\n"

def deletedMetadata : List (Leaf String × Json) :=
  [(⟨.ok "name", none⟩, .string ⟨.ok "nats", none⟩), (⟨.ok "namespace", none⟩, .null),
    (⟨.ok "deletionTimestamp", none⟩, .string ⟨.ok "2026-03-01T10:00:00.5Z", none⟩)]

def deletedStatus : List (Leaf String × Json) :=
  [(⟨.ok "jwt", none⟩, .string ⟨.ok "t", none⟩),
    (⟨.ok "publicKey", none⟩, .string ⟨.ok "A", none⟩)]

def deletedMembers : List (Leaf String × Json) :=
  [(⟨.ok "kind", none⟩, .string ⟨.ok "Account", none⟩),
    (⟨.ok "spec", none⟩, .object [(⟨.ok "tags", none⟩, .array [.bool true, .null] none)] none),
    (⟨.ok "metadata", none⟩, .object deletedMetadata none),
    (⟨.ok "status", none⟩, .object deletedStatus none)]

def deletedAccount : Snapshot :=
  { name := "nats", deletedAt := some ⟨⟨2026, 3, 1⟩, 10, 0, 0, 500000000⟩, publicKey := "A",
    jwt := "t" }

theorem written_deleted : Json.Written deletedText (.object deletedMembers none) := by
  have hspace : Json.Gap [' '] := by simp [Json.Gap]
  have hline : Json.Gap ['\n'] := by simp [Json.Gap]
  have hunit : Json.Unit16 ['0', '0', '6', 'e'] 'n'.toNat :=
    .digits Json.hexDigit_zero Json.hexDigit_zero (.inl rfl : Json.HexDigit '6' 6)
      (.inl rfl : Json.HexDigit 'e' 14)
  have hescaped : ∀ s : List Char, Json.SpellsString ('n' :: s) _ := fun s =>
    .cons (.unit hunit) (Json.spells_flatMap_writeChar s)
  have hkey : Json.Says _ (.ok "name") := .string (hescaped "ame".toList)
  have hvalue : Json.Says _ (.ok "nats") := .string (hescaped "ats".toList)
  have htime := Json.spells_memberText "deletionTimestamp"
    (Json.spells_quoted "2026-03-01T10:00:00.5Z")
  have hns := Json.spells_memberText_cons "namespace" .null htime
  have hname := Json.Spells.members Json.gap_nil hkey hspace hspace (.string hvalue) Json.gap_nil
    hns
  have hpublicKey := Json.spells_memberText "publicKey" (Json.spells_quoted "A")
  have hjwt := Json.spells_memberText_cons "jwt" (Json.spells_quoted "t") hpublicKey
  have hstatus := Json.spells_memberText "status" (.object hjwt)
  have hmetadata := Json.Spells.members hline (Json.says_writeChar "metadata") Json.gap_nil
    Json.gap_nil (.object hname) Json.gap_nil hstatus
  have hitems := Json.Spells.items Json.gap_nil .yes Json.gap_nil
    (.item hspace .null Json.gap_nil)
  have htags := Json.spells_memberText "tags" (.array hitems)
  have hspec := Json.spells_memberText_cons "spec" (.object htags) hmetadata
  have hkind := Json.spells_memberText_cons "kind" (Json.spells_quoted "Account") hspec
  exact ⟨[' '], _, ['\n'], by decide +kernel, hspace, .object hkind, hline⟩

theorem time_of_deleted :
    Timestamp.DateTime ⟨⟨2026, 3, 1⟩, 10, 0, 0, 500000000⟩ 0
      "2026-03-01T10:00:00.5Z".toList := by
  have hyear : Timestamp.Field 4 2026 ['2', '0', '2', '6'] := ⟨rfl, List.all_eq_true.1 rfl, rfl⟩
  have hmonth : Timestamp.Field 2 3 ['0', '3'] := ⟨rfl, List.all_eq_true.1 rfl, rfl⟩
  have hday : Timestamp.Field 2 1 ['0', '1'] := ⟨rfl, List.all_eq_true.1 rfl, rfl⟩
  have hhour : Timestamp.Field 2 10 ['1', '0'] := ⟨rfl, List.all_eq_true.1 rfl, rfl⟩
  have hzero : Timestamp.Field 2 0 ['0', '0'] := ⟨rfl, List.all_eq_true.1 rfl, rfl⟩
  have hhalf : Decimal.Digits ['5'] := ⟨List.cons_ne_nil _ _, List.all_eq_true.1 rfl⟩
  have hnano : Timestamp.SpellsNano 500000000 ['.', '5'] := .digits hhalf
  exact .parts hyear hmonth hday (.inl rfl) hhour hzero hzero hnano (.zulu (.inl rfl)) (by decide)

theorem writes_deleted : WritesAccount deletedAccount deletedMembers := by
  have hmetadata : WritesMetadata deletedAccount deletedMetadata := by
    refine ⟨by simp [Legible, deletedMetadata], ⟨_, rfl, _, rfl, rfl⟩, .null, ?_⟩
    exact .given ⟨_, ⟨_, rfl, rfl⟩, time_of_deleted⟩
  have hstatus : WritesStatus deletedAccount deletedStatus :=
    ⟨by simp [Legible, deletedStatus], .given ⟨_, rfl, rfl⟩, .given ⟨_, rfl, rfl⟩⟩
  exact ⟨by simp [Legible, deletedMembers], ⟨_, rfl, hmetadata⟩, .inr ⟨_, rfl, hstatus⟩⟩

theorem account_texts_named :
    readText deletedText = .ok deletedAccount ∧
      ∃ p, readText "\x7b\"status\":null\x7d" = .error p := by
  constructor
  · exact account_texts.1 _ _ _ written_deleted writes_deleted
  · have hstatus := Json.spells_memberText "status" .null
    apply account_texts.2 _ _ ⟨[], _, [], by decide +kernel, Json.gap_nil, .object hstatus,
      Json.gap_nil⟩
    exact .nullStatus (by simp [named])

/- An account whose deletion timestamp has a month of one digit. -/
def shortMonthText : String :=
  "\x7b\"metadata\":\x7b\"name\":\"a\",\"deletionTimestamp\":\"2026-3-1T10:00:00Z\"\x7d\x7d"

def shortMonthMetadata : List (Leaf String × Json) :=
  [(⟨.ok "name", none⟩, .string ⟨.ok "a", none⟩),
    (⟨.ok "deletionTimestamp", none⟩, .string ⟨.ok "2026-3-1T10:00:00Z", none⟩)]

theorem written_shortMonth :
    Json.Written shortMonthText
      (.object [(⟨.ok "metadata", none⟩, .object shortMonthMetadata none)] none) := by
  have htime := Json.spells_memberText "deletionTimestamp" (Json.spells_quoted "2026-3-1T10:00:00Z")
  have hname := Json.spells_memberText_cons "name" (Json.spells_quoted "a") htime
  have hmeta := Json.spells_memberText "metadata" (.object hname)
  exact ⟨[], _, [], by decide +kernel, Json.gap_nil, .object hmeta, Json.gap_nil⟩

/-- The month is no RFC 3339 month, and the account is read nevertheless. -/
theorem short_month_is_read :
    (∃ ms, Json.Written shortMonthText
      (.object [(⟨.ok "metadata", none⟩, .object ms none)] none) ∧
      named "deletionTimestamp" ms = [.string ⟨.ok "2026-3-1T10:00:00Z", none⟩]) ∧
    (∀ t offset, ¬ Timestamp.DateTime t offset "2026-3-1T10:00:00Z".toList) ∧
    readText shortMonthText =
      .ok { name := "a", deletedAt := some ⟨⟨2026, 3, 1⟩, 10, 0, 0, 0⟩ } := by
  refine ⟨⟨shortMonthMetadata, written_shortMonth, rfl⟩, ?_, ?_⟩
  · intro t offset h
    exact absurd (Timestamp.dash_after_month h) (by decide)
  · rw [read_of_written written_shortMonth]
    rfl

end AccountResolver.Resource
