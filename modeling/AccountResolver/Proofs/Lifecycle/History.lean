import AccountResolver.Lifecycle
import AccountResolver.Proofs.Machine

/-!
# The life of a connection

Runs begin and end, handles are offered to the gate and connections change what they say
about themselves, in any order and any number of times. All that the lifecycle tells of such
a history is the first handle that was offered, the latest beginning or end of a run, whether
the first offer came while that run was connecting, and what the first handle says now.
-/

namespace AccountResolver.Lifecycle

/-- What can happen. A run ends when its guard is dropped. -/
inductive Turn (η : Type) where
  | beginRun
  | endRun
  | offer (h : η)
  | report (h : η) (s : LinkStatus)

/-- The lifecycle, and what each handle says about its connection. -/
structure Watched (η : Type) where
  lifecycle : Lifecycle η
  status : η → LinkStatus

namespace Turn

variable {η : Type}

def offered? : Turn η → Option η
  | .offer h => some h
  | _ => none

/-- Of the turns that begin or end a run: whether it is an end. -/
def ends? : Turn η → Option Bool
  | .beginRun => some false
  | .endRun => some true
  | _ => none

def reported? [DecidableEq η] (h : η) : Turn η → Option LinkStatus
  | .report x s => if x = h then some s else none
  | _ => none

end Turn

variable {η : Type}

def offers (ts : List (Turn η)) : List η := ts.filterMap Turn.offered?

def bounds (ts : List (Turn η)) : List Bool := ts.filterMap Turn.ends?

section

variable [DecidableEq η]

/-- What a handle said last, or at the beginning. -/
def said (status : η → LinkStatus) (ts : List (Turn η)) (h : η) : LinkStatus :=
  (ts.filterMap (Turn.reported? h)).getLast?.getD (status h)

def watch (status : η → LinkStatus) : Watched η := ⟨fresh, status⟩

def turn (w : Watched η) : Turn η → Watched η
  | .beginRun => { w with lifecycle := w.lifecycle.beginRun }
  | .endRun => { w with lifecycle := w.lifecycle.endRun }
  | .offer h => { w with lifecycle := w.lifecycle.offer h }
  | .report h s => { w with status := fun x => if x = h then s else w.status x }

/-- An offer is told whether it opened the gate. -/
def answers (w : Watched η) : Turn η → List Bool
  | .offer _ => [w.lifecycle.isClosed]
  | _ => []

def machine : Machine (Watched η) (Turn η) Bool := ⟨turn, answers⟩

end

/-- The first offer came after the latest beginning of a run, which has not ended. -/
def Joined (ts : List (Turn η)) (h : η) : Prop :=
  ∃ pre mid post, ts = pre ++ .beginRun :: (mid ++ .offer h :: post) ∧
    offers pre = [] ∧ offers mid = [] ∧ bounds mid = [] ∧ bounds post = []

/-! ### One more turn -/

theorem offers_append (ts us : List (Turn η)) : offers (ts ++ us) = offers ts ++ offers us :=
  List.filterMap_append

theorem bounds_append (ts us : List (Turn η)) : bounds (ts ++ us) = bounds ts ++ bounds us :=
  List.filterMap_append

theorem bounds_snoc_quiet (ts : List (Turn η)) {t : Turn η} (ht : t.ends? = none) :
    bounds (ts ++ [t]) = bounds ts := by
  simp [bounds, ht]

theorem bounds_snoc_bound (ts : List (Turn η)) {t : Turn η} {ends : Bool}
    (ht : t.ends? = some ends) : bounds (ts ++ [t]) = bounds ts ++ [ends] := by
  simp [bounds, ht]

theorem said_snoc [DecidableEq η] (status : η → LinkStatus) (ts : List (Turn η)) (t : Turn η)
    (h : η) : said status (ts ++ [t]) h = (t.reported? h).getD (said status ts h) := by
  unfold said
  rw [List.filterMap_append]
  cases hr : t.reported? h with
  | none => simp [hr]
  | some s => simp [hr]

theorem exists_beginRun {ts : List (Turn η)} (h : (bounds ts).getLast? = some false) :
    ∃ pre mid, ts = pre ++ .beginRun :: mid ∧ bounds mid = [] := by
  induction ts using List.reverseRecOn with
  | nil => cases h
  | append_singleton ts t ih =>
    cases ht : t.ends? with
    | none =>
      rw [bounds_snoc_quiet ts ht] at h
      obtain ⟨pre, mid, rfl, hmid⟩ := ih h
      refine ⟨pre, mid ++ [t], by simp, ?_⟩
      rw [bounds_snoc_quiet mid ht, hmid]
    | some ends =>
      rw [bounds_snoc_bound ts ht, List.getLast?_concat] at h
      have hbegin : t = .beginRun := by
        cases h
        cases t <;> cases ht
        rfl
      exact ⟨ts, [], by rw [hbegin], rfl⟩

theorem offers_of_joined {ts : List (Turn η)} {h : η} (hj : Joined ts h) :
    (offers ts).head? = some h := by
  obtain ⟨pre, mid, post, rfl, hpre, hmid, _, _⟩ := hj
  have hsplit : offers (pre ++ Turn.beginRun :: (mid ++ Turn.offer h :: post)) =
      offers pre ++ (offers mid ++ h :: offers post) := by
    rw [offers_append]
    show offers pre ++ offers (mid ++ Turn.offer h :: post) = _
    rw [offers_append]
    rfl
  rw [hsplit, hpre, hmid]
  rfl

theorem bounds_of_joined {ts : List (Turn η)} {h : η} (hj : Joined ts h) :
    (bounds ts).getLast? = some false := by
  obtain ⟨pre, mid, post, rfl, _, _, hmid, hpost⟩ := hj
  have hsplit : bounds (pre ++ Turn.beginRun :: (mid ++ Turn.offer h :: post)) =
      bounds pre ++ false :: (bounds mid ++ bounds post) := by
    rw [bounds_append]
    show bounds pre ++ false :: bounds (mid ++ Turn.offer h :: post) = _
    rw [bounds_append]
    rfl
  rw [hsplit, hmid, hpost, List.append_nil, List.getLast?_concat]

/-- What was joined before a turn is joined after it, unless a run begins or ends with it. -/
theorem Joined.snoc {ts : List (Turn η)} {h : η} (hj : Joined ts h) {t : Turn η}
    (ht : t.ends? = none) : Joined (ts ++ [t]) h := by
  obtain ⟨pre, mid, post, rfl, hpre, hmid, hbmid, hbpost⟩ := hj
  refine ⟨pre, mid, post ++ [t], by simp, hpre, hmid, hbmid, ?_⟩
  rw [bounds_snoc_quiet post ht, hbpost]

theorem joined_offer {ts : List (Turn η)} (ho : offers ts = [])
    (hb : (bounds ts).getLast? = some false) (h : η) : Joined (ts ++ [.offer h]) h := by
  obtain ⟨pre, mid, rfl, hmid⟩ := exists_beginRun hb
  rw [offers_append, List.append_eq_nil_iff] at ho
  refine ⟨pre, mid, [], ?_, ho.1, ho.2, hmid, rfl⟩
  rw [List.append_assoc]
  rfl

theorem joined_snoc_cases {ts : List (Turn η)} {t : Turn η} {h : η} (hj : Joined (ts ++ [t]) h) :
    t.ends? = none ∧ (Joined ts h ∨
      t = .offer h ∧ offers ts = [] ∧ (bounds ts).getLast? = some false) := by
  obtain ⟨pre, mid, post, he, hpre, hmid, hbmid, hbpost⟩ := hj
  rw [← List.cons_append, ← List.append_assoc] at he
  rcases split_of_snoc_eq he with ⟨rfl, rfl, _⟩ | ⟨rest, rfl, rfl⟩
  · refine ⟨rfl, Or.inr ⟨rfl, ?_, ?_⟩⟩
    · rw [offers_append, hpre]
      exact hmid
    · rw [bounds_append]
      show (bounds pre ++ false :: bounds mid).getLast? = some false
      rw [hbmid, List.getLast?_concat]
  · rw [bounds_append, List.append_eq_nil_iff] at hbpost
    have ht : t.ends? = none := by
      cases ht : t.ends? with
      | none => rfl
      | some b => simp [bounds, ht] at hbpost
    refine ⟨ht, Or.inl ⟨pre, mid, rest, ?_, hpre, hmid, hbmid, hbpost.1⟩⟩
    rw [List.append_assoc, List.cons_append]

/-! ### The state after a history -/

/-- The lifecycle holds just what counts of a history. -/
structure Told (ts : List (Turn η)) (l : Lifecycle η) : Prop where
  gate : l.gate = (offers ts).head?
  idle : l.phase = .idle ↔ bounds ts = []
  exited : l.phase = .exited ↔ (bounds ts).getLast? = some true
  connecting : l.phase = .connecting → (bounds ts).getLast? = some false
  connected : l.phase = .connected ↔ ∃ h, Joined ts h

namespace Told

variable {ts : List (Turn η)} {l : Lifecycle η}

theorem fresh : Told ([] : List (Turn η)) fresh where
  gate := rfl
  idle := ⟨fun _ => rfl, fun _ => rfl⟩
  exited := by constructor <;> intro h <;> cases h
  connecting := by intro h; cases h
  connected := by
    constructor
    · intro h
      cases h
    · rintro ⟨h, pre, mid, post, he, _⟩
      simp at he

/-- Where a run begins or ends, the phase is all that changes. -/
theorem bound {t : Turn η} {ends : Bool} (h : Told ts l) (ht : t.ends? = some ends)
    (ho : t.offered? = none) {p : Phase} (hp : p = if ends then .exited else .connecting) :
    Told (ts ++ [t]) { l with phase := p } := by
  have hoffers : offers (ts ++ [t]) = offers ts := by simp [offers, ho]
  have hbounds := bounds_snoc_bound ts ht
  refine ⟨?_, ?_, ?_, ?_, ?_⟩
  · rw [hoffers]
    exact h.gate
  · rw [hbounds, hp]
    cases ends <;> simp
  · rw [hbounds, hp, List.getLast?_concat]
    cases ends <;> simp
  · rw [hbounds, hp, List.getLast?_concat]
    cases ends <;> simp
  · have hnone : ¬ ∃ x, Joined (ts ++ [t]) x := by
      rintro ⟨x, hj⟩
      have hquiet := (joined_snoc_cases hj).1
      rw [ht] at hquiet
      cases hquiet
    rw [hp]
    cases ends <;> simp [hnone]

/-- A turn that neither bounds a run nor opens the gate leaves everything as it is. -/
theorem quiet {t : Turn η} (h : Told ts l) (ht : t.ends? = none)
    (ho : (offers (ts ++ [t])).head? = (offers ts).head?)
    (hj : ∀ x, Joined (ts ++ [t]) x → Joined ts x) : Told (ts ++ [t]) l := by
  have hbounds := bounds_snoc_quiet ts ht
  refine ⟨?_, ?_, ?_, ?_, ?_⟩
  · rw [ho]
    exact h.gate
  · rw [hbounds]
    exact h.idle
  · rw [hbounds]
    exact h.exited
  · rw [hbounds]
    exact h.connecting
  · rw [h.connected]
    exact exists_congr fun x => ⟨fun hx => hx.snoc ht, hj x⟩

/-- The first offer moves a connecting run, and no other, to connected. -/
theorem opened (h : Told ts l) (hg : l.gate = none) (x : η) :
    Told (ts ++ [.offer x]) (l.offer x) := by
  have hnone : offers ts = [] := by
    rw [h.gate, List.head?_eq_none_iff] at hg
    exact hg
  have hoffers : offers (ts ++ [.offer x]) = [x] := by
    rw [offers_append, hnone]
    rfl
  have hbounds : bounds (ts ++ [.offer x]) = bounds ts := bounds_snoc_quiet ts rfl
  have hbefore : ¬ ∃ y, Joined ts y := by
    rintro ⟨y, hy⟩
    have hhead := offers_of_joined hy
    rw [hnone] at hhead
    cases hhead
  have hafter : (∃ y, Joined (ts ++ [.offer x]) y) ↔ (bounds ts).getLast? = some false := by
    constructor
    · rintro ⟨y, hy⟩
      rw [← hbounds]
      exact bounds_of_joined hy
    · intro hb
      exact ⟨x, joined_offer hnone hb x⟩
  have hoffer : l.offer x =
      { phase := if l.phase = .connecting then .connected else l.phase, gate := some x } := by
    simp only [Lifecycle.offer, hg]
  rw [hoffer]
  refine ⟨?_, ?_, ?_, ?_, ?_⟩
  · rw [hoffers]
    rfl
  · rw [hbounds, ← h.idle]
    cases l.phase <;> simp
  · rw [hbounds, ← h.exited]
    cases l.phase <;> simp
  · intro hc
    cases hp : l.phase <;> rw [hp] at hc <;> simp at hc
  · rw [hafter]
    have hphase := h.connected
    have hidle := h.idle
    have hexited := h.exited
    have hconnecting := h.connecting
    cases hp : l.phase with
    | idle =>
      rw [hp] at hidle
      simp [hidle.1 rfl]
    | connecting =>
      rw [hp] at hconnecting
      simp [hconnecting rfl]
    | connected =>
      rw [hp] at hphase
      exact absurd (hphase.1 rfl) hbefore
    | exited =>
      rw [hp] at hexited
      simp [hexited.1 rfl]

theorem offered (h : Told ts l) (x : η) : Told (ts ++ [.offer x]) (l.offer x) := by
  cases hg : l.gate with
  | none => exact h.opened hg x
  | some y =>
    have hsome : (offers ts).head? = some y := by rw [← h.gate, hg]
    have hoffer : l.offer x = l := by simp only [Lifecycle.offer, hg]
    rw [hoffer]
    refine h.quiet rfl ?_ ?_
    · rw [offers_append, List.head?_append, hsome]
      rfl
    · intro z hz
      rcases (joined_snoc_cases hz).2 with hz | ⟨_, hnone, _⟩
      · exact hz
      · rw [hnone] at hsome
        cases hsome

end Told

end AccountResolver.Lifecycle
