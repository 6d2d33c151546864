import AccountResolver.CommandLine.Read
import AccountResolver.Failure
import AccountResolver.Proofs.CommandLine.Values
import Mathlib.Data.List.TakeDrop

/-!
# Every configuration can be written

A configuration is written on the command line, one option after another in any order, and in
the environment. However it is written, reading gives it back: what is left out are unset
settings and defaults, and the environment does not matter where an argument is given.
-/

namespace AccountResolver.CommandLine

/-- Arguments that give settings of a configuration their values, in order. A value stands
behind an equals sign, or for itself if it does not begin with a dash. -/
inductive Gives (c : Config) : List Setting → List String → Prop
  | nothing : Gives c [] []
  | attached {s : Setting} {v : String} {ss : List Setting} {arguments : List String}
      (hv : written? c s = some v) (rest : Gives c ss arguments) :
      Gives c (s :: ss) (("--" ++ s.option ++ "=" ++ v) :: arguments)
  | separate {s : Setting} {v : String} {ss : List Setting} {arguments : List String}
      (hv : written? c s = some v) (hdash : v.toList.head? ≠ some '-')
      (rest : Gives c ss arguments) :
      Gives c (s :: ss) (("--" ++ s.option) :: v :: arguments)

/-- What the environment holds of the settings that no argument gives. A variable may be left
out where the value is the default. -/
structure Holds (c : Config) (given : List Setting) (e : Environment) : Prop where
  unset : ∀ s ∉ given, written? c s = none → e.value? s.variableName = none
  set : ∀ s ∉ given, ∀ v, written? c s = some v →
    e.value? s.variableName = some v ∨
      (e.value? s.variableName = none ∧ s.default? = some v)

/-! ### Single arguments -/

theorem option_chars (s : Setting) : s.option.toList ≠ [] ∧ ∀ c ∈ s.option.toList, c ≠ '=' := by
  cases s <;> simp [Setting.option]

theorem named?_option (s : Setting) : Setting.named? s.option = some s := by
  cases s <;> decide +kernel

theorem splitEquals_attached {o : List Char} (ho : ∀ c ∈ o, c ≠ '=') (v : List Char) :
    splitEquals (o ++ '=' :: v) = (o, some v) := by
  have htake : (o ++ '=' :: v).takeWhile (· ≠ '=') = o := by
    rw [List.takeWhile_append_of_pos (by simpa using ho)]
    simp
  have hdrop : (o ++ '=' :: v).dropWhile (· ≠ '=') = '=' :: v := by
    rw [List.dropWhile_append_of_pos (by simpa using ho)]
    simp
  rw [splitEquals, List.span_eq_takeWhile_dropWhile, htake, hdrop]

theorem splitEquals_alone {o : List Char} (ho : ∀ c ∈ o, c ≠ '=') :
    splitEquals o = (o, none) := by
  have htake : o.takeWhile (· ≠ '=') = o := List.takeWhile_eq_self_iff.2 (by simpa using ho)
  have hdrop : o.dropWhile (· ≠ '=') = [] := List.dropWhile_eq_nil_iff.2 (by simpa using ho)
  rw [splitEquals, List.span_eq_takeWhile_dropWhile, htake, hdrop]

theorem ofChars_dashes {rest : List Char} (h : rest ≠ []) :
    Argument.ofChars ('-' :: '-' :: rest) =
      .long (String.ofList (splitEquals rest).1) ((splitEquals rest).2.map String.ofList) := by
  cases rest with
  | nil => exact absurd rfl h
  | cons c cs => rfl

theorem ofChars_attached (s : Setting) (v : String) :
    Argument.ofChars ("--" ++ s.option ++ "=" ++ v).toList = .long s.option (some v) := by
  have hchars : ("--" ++ s.option ++ "=" ++ v).toList =
      '-' :: '-' :: (s.option.toList ++ '=' :: v.toList) := by
    simp [String.toList_append]
  rw [hchars, ofChars_dashes (by simp), splitEquals_attached (option_chars s).2]
  simp

theorem ofChars_alone (s : Setting) :
    Argument.ofChars ("--" ++ s.option).toList = .long s.option none := by
  have hchars : ("--" ++ s.option).toList = '-' :: '-' :: s.option.toList := by
    simp [String.toList_append]
  rw [hchars, ofChars_dashes (option_chars s).1, splitEquals_alone (option_chars s).2]
  simp

theorem ofChars_plain {v : String} (h : v.toList.head? ≠ some '-') :
    Argument.ofChars v.toList = .plain v := by
  have hv := String.ofList_toList (s := v)
  cases hchars : v.toList with
  | nil =>
    rw [hchars] at hv
    rw [Argument.ofChars.eq_def, ← hv]
  | cons c cs =>
    rw [hchars] at hv h
    have hc : c ≠ '-' := by simpa using h
    rw [Argument.ofChars.eq_def, ← hv]
    simp [hc]

/-! ### Readings -/

theorem give_part {c : Config} (hc : FilePaths c) {p : Setting → Bool} {s : Setting}
    (hp : p s = false) {v : String} (hv : written? c s = some v) :
    (part c p).give s v = .ok (part c fun x => decide (x = s) || p x) := by
  have hset : (part c p).isSet s = false := by rw [isSet_part, hp, Bool.false_and]
  rw [Draft.give, hset]
  exact set_part hc p hv

theorem long_attached {c : Config} (hc : FilePaths c) {p : Setting → Bool} {r : Reading}
    (hr : r.settle = .ok (part c p)) {s : Setting} (hp : p s = false) {v : String}
    (hv : written? c s = some v) :
    r.long s.option (some v) = .ok { draft := part c fun x => decide (x = s) || p x } := by
  have hgive := give_part hc hp hv
  rw [Reading.long, named?_option]
  simp only [hr, bind, Except.bind, hgive, Except.map]

theorem long_alone {c : Config} {p : Setting → Bool} {r : Reading}
    (hr : r.settle = .ok (part c p)) (s : Setting) :
    r.long s.option none = .ok { draft := part c p, pending := .wanting s } := by
  rw [Reading.long, named?_option]
  simp only [hr, bind, Except.bind]

theorem readArguments_long {r : Reading} {a name : String} {value : Option String}
    (h : Argument.ofChars a.toList = .long name value) (rest : List String) :
    readArguments r (a :: rest) = (r.long name value >>= fun r => readArguments r rest) := by
  rw [readArguments.eq_def]
  simp only [h]

theorem readArguments_plain {r : Reading} {a text : String}
    (h : Argument.ofChars a.toList = .plain text) (rest : List String) :
    readArguments r (a :: rest) = (r.plain text >>= fun r => readArguments r rest) := by
  rw [readArguments.eq_def]
  simp only [h]

theorem part_congr_at {c : Config} {p q : Setting → Bool} (s : Setting) (hs : p s = q s)
    (hother : ∀ x ≠ s, p x = q x) : part c p = part c q := by
  congr 1
  funext x
  by_cases hx : x = s
  · rw [hx, hs]
  · exact hother x hx

/-- The order of the settings does not matter for the part that they make up. -/
theorem part_cons {c : Config} {p : Setting → Bool} {s : Setting} {ss : List Setting} :
    (part c fun x => decide (x ∈ ss) || (decide (x = s) || p x)) =
      part c fun x => decide (x ∈ s :: ss) || p x :=
  part_congr_at s (by simp) fun x hx => by simp [hx]

theorem rest_not_given {s : Setting} {ss : List Setting} {p : Setting → Bool} (hnew : s ∉ ss)
    (hp : ∀ x ∈ s :: ss, p x = false) : ∀ x ∈ ss, (decide (x = s) || p x) = false := by
  intro x hx
  have hne : x ≠ s := fun he => hnew (he ▸ hx)
  simp [hne, hp x (List.mem_cons_of_mem _ hx)]

/- The reading is followed through what it settles to: a value held back until the next option
counts as given already. -/
theorem readArguments_gives {c : Config} (hc : FilePaths c) {ss : List Setting}
    {arguments : List String} (h : Gives c ss arguments) (hnodup : ss.Nodup) {p : Setting → Bool}
    (hp : ∀ s ∈ ss, p s = false) {r : Reading} (hr : r.settle = .ok (part c p)) :
    ∃ r', readArguments r arguments = .ok r' ∧
      r'.settle = .ok (part c fun x => decide (x ∈ ss) || p x) := by
  induction h generalizing p r with
  | nothing => exact ⟨r, rfl, by simpa using hr⟩
  | @attached s v ss arguments hv rest ih =>
    obtain ⟨hnew, hnodup⟩ := List.nodup_cons.1 hnodup
    have hrest := rest_not_given hnew hp
    obtain ⟨r', hread, hsettle⟩ := ih hnodup hrest
      (r := { draft := part c fun x => decide (x = s) || p x }) rfl
    rw [part_cons] at hsettle
    refine ⟨r', ?_, hsettle⟩
    rw [readArguments_long (ofChars_attached s v),
      long_attached hc hr (hp s List.mem_cons_self) hv]
    exact hread
  | @separate s v ss arguments hv hdash rest ih =>
    obtain ⟨hnew, hnodup⟩ := List.nodup_cons.1 hnodup
    have hrest := rest_not_given hnew hp
    have hgive := give_part hc (hp s List.mem_cons_self) hv
    obtain ⟨r', hread, hsettle⟩ := ih hnodup hrest
      (r := { draft := part c p, pending := .holding s v }) hgive
    rw [part_cons] at hsettle
    refine ⟨r', ?_, hsettle⟩
    have hvalue : readArguments { draft := part c p, pending := .wanting s } (v :: arguments) =
        .ok r' := by
      rw [readArguments_plain (ofChars_plain hdash)]
      exact hread
    rw [readArguments_long (ofChars_alone s), long_alone hr s]
    exact hvalue

/-! ### The environment -/

/-- The environment adds the settings that it holds to a part. -/
theorem complete_part {c : Config} (hc : FilePaths c) {e : Environment} {ss : List Setting}
    {p : Setting → Bool} (hp : ∀ s, p s = true → (written? c s).isSome = true)
    (he : ∀ s v, p s = false → e.value? s.variableName = some v → written? c s = some v) :
    (part c p).complete e ss =
      .ok (part c fun x => p x || (decide (x ∈ ss) && (e.value? x.variableName).isSome)) := by
  induction ss generalizing p with
  | nil => simp [Draft.complete]
  | cons s ss ih =>
    rw [Draft.complete, isSet_part]
    cases hps : p s with
    | true =>
      rw [hp s hps, Bool.true_and, if_pos rfl, ih hp he]
      exact congrArg _ (part_congr_at s (by simp [hps]) fun x hx => by simp [hx])
    | false =>
      rw [Bool.false_and, if_neg Bool.false_ne_true]
      cases hv : e.value? s.variableName with
      | none =>
        simp only
        rw [ih hp he]
        exact congrArg _ (part_congr_at s (by simp [hv]) fun x hx => by simp [hx])
      | some v =>
        have hwritten := he s v hps hv
        have hp' : ∀ x, (decide (x = s) || p x) = true → (written? c x).isSome = true := by
          intro x hx
          by_cases hxs : x = s
          · rw [hxs, hwritten]
            rfl
          · exact hp x (by simpa [hxs] using hx)
        have he' : ∀ x v, (decide (x = s) || p x) = false → e.value? x.variableName = some v →
            written? c x = some v := by
          intro x w hx
          rw [Bool.or_eq_false_iff] at hx
          exact he x w hx.2
        simp only [set_part hc p hwritten, bind, Except.bind]
        rw [ih hp' he']
        exact congrArg _ (part_congr_at s (by simp [hv]) fun x hx => by simp [hx])

/-! ### Whole command lines -/

theorem mem_all (s : Setting) : s ∈ Setting.all := by
  cases s <;> decide

theorem default?_of_unwritten {c : Config} {s : Setting} (h : written? c s = none) :
    s.default? = none := by
  cases s with
  | natsUrl => cases h
  | natsClientName => cases h
  | probeListen => cases h
  | resyncInterval => cases h
  | reconcileWorkers => cases h
  | logLevel => cases h
  | logFormat => cases h
  | _ => rfl

theorem written_of_gives {c : Config} {ss : List Setting} {arguments : List String}
    (h : Gives c ss arguments) {s : Setting} (hs : s ∈ ss) : (written? c s).isSome = true := by
  induction h with
  | nothing => cases hs
  | attached hv _ ih =>
    rcases List.mem_cons.1 hs with rfl | hs
    · rw [hv]
      rfl
    · exact ih hs
  | separate hv _ _ ih =>
    rcases List.mem_cons.1 hs with rfl | hs
    · rw [hv]
      rfl
    · exact ih hs

/-- Reading a written configuration gives it back. -/
theorem read_written {c : Config} (hc : FilePaths c) {given : List Setting} (hnodup : given.Nodup)
    {arguments : List String} (ha : Gives c given arguments) {e : Environment}
    (he : Holds c given e) : read arguments e = .ok c := by
  have hempty : ({} : Reading).settle = .ok (part c fun _ => false) := by
    simp [Reading.settle, part]
  obtain ⟨r, hread, hsettle⟩ := readArguments_gives hc ha hnodup (fun _ _ => rfl) hempty
  have hp : ∀ s, (decide (s ∈ given) || false) = true → (written? c s).isSome = true := by
    intro s hs
    exact written_of_gives ha (by simpa using hs)
  have henv : ∀ s v, (decide (s ∈ given) || false) = false → e.value? s.variableName = some v →
      written? c s = some v := by
    intro s v hs hv
    have hout : s ∉ given := by simpa using hs
    cases hw : written? c s with
    | none =>
      rw [he.unset s hout hw] at hv
      cases hv
    | some w =>
      rcases he.set s hout w hw with hset | ⟨hnone, -⟩
      · rw [hset] at hv
        exact hv
      · rw [hnone] at hv
        cases hv
  have hcomplete := @complete_part c hc e Setting.all _ hp henv
  have hfinish := finish_part (c := c) (p := fun x => (decide (x ∈ given) || false) ||
    (decide (x ∈ Setting.all) && (e.value? x.variableName).isSome)) (by
      intro s hs
      simp only [mem_all, decide_true, Bool.true_and, Bool.or_false, Bool.or_eq_false_iff,
        decide_eq_false_iff_not, Option.isSome_eq_false_iff, Option.isNone_iff_eq_none] at hs
      cases hw : written? c s with
      | none => exact (default?_of_unwritten hw).symm
      | some w =>
        rcases he.set s hs.1 w hw with hset | ⟨-, hdefault⟩
        · rw [hset] at hs
          cases hs.2
        · exact hdefault.symm)
  simp only [read, hread, hsettle, bind, Except.bind, hcomplete]
  exact hfinish

/- An empty text, a value that begins with a dash and holds an equals sign, an address with a
scope, and a variable that the arguments overrule. -/
def sample : Config where
  nats := { url := "", creds := "-a=b", clientName := defaultClientName }
  kube := { ns := some "x" }
  probeListen := .v6 (.ofGroups [1, 0, 0, 2]) 3 80
  resyncSeconds := defaultResyncInterval
  workers := 3
  logLevel := ""
  logFormat := .json

def sampleArguments : List String :=
  ["--log-level", "", "--nats-creds=-a=b", "--probe-listen", "[1:0:0:2::%3]:80"]

def sampleEnvironment : Environment :=
  Table.ofList [("NATS_URL", ""), ("NATS_CREDS", "c"), ("PROBE_LISTEN", "no address"),
    ("WATCH_NAMESPACE", "x"), ("RECONCILE_WORKERS", "3"), ("LOG_FORMAT", "json")]

theorem filePaths_sample : FilePaths sample := ⟨by decide, by decide, by decide⟩

theorem gives_sample :
    Gives sample [.logLevel, .natsCreds, .probeListen] sampleArguments := by
  have harguments : sampleArguments =
      ["--" ++ Setting.logLevel.option, "", "--" ++ Setting.natsCreds.option ++ "=" ++ "-a=b",
        "--" ++ Setting.probeListen.option, sample.probeListen.text] := by decide +kernel
  rw [harguments]
  exact .separate rfl (by decide) (.attached rfl (.separate rfl (by decide +kernel) .nothing))

theorem holds_sample : Holds sample [.logLevel, .natsCreds, .probeListen] sampleEnvironment := by
  constructor
  · intro s
    cases s <;> decide +kernel
  · intro s hs v hv
    rw [← hv]
    revert hs
    clear hv
    cases s <;> decide +kernel

theorem read_written_sample : read sampleArguments sampleEnvironment = .ok sample :=
  read_written filePaths_sample (by decide) gives_sample holds_sample

end AccountResolver.CommandLine
