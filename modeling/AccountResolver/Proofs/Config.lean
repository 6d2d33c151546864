import AccountResolver.Config
import AccountResolver.Nats.Options
import AccountResolver.Proofs.TlsPaths

/-!
# Configurations that pass the check

The check reports the first of four problems that a configuration has, in their fixed order. One
of them is a client certificate without its key or a key without its certificate: a configuration
that passes uses all the TLS material that it names.
-/

namespace AccountResolver

open Text (AllBlank Trimmed)
open TlsPaths (IsBlank Padded ofSettings)

/-! ### Options of the connection -/

theorem Nats.Options.build_eq_ok_iff (files : Files) (creds : String) (tls : TlsPaths)
    (name : String) (options : Nats.Options) :
    Nats.Options.build files creds tls name = .ok options ↔
      ∃ credentials, Nats.Credentials.load files creds = .ok credentials ∧
        options = ⟨name, credentials, tls.clientPair?, tls.rootCa?.toList⟩ := by
  have hadded : ∀ credentials,
      ((⟨name, credentials, none, []⟩ : Nats.Options).withClientPair tls).withRootCa tls =
        ⟨name, credentials, tls.clientPair?, tls.rootCa?.toList⟩ := by
    intro credentials
    unfold withClientPair withRootCa
    cases tls.clientPair? <;> cases tls.rootCa? <;> rfl
  unfold build
  cases Nats.Credentials.load files creds with
  | error f => simp
  | ok credentials => simp [hadded, eq_comm]

namespace NatsConfig

/- What is made of the TLS settings of a configuration, and used for its connection. -/
structure UsesTls (n : NatsConfig) : Prop where
  pair : ¬ IsBlank n.clientCert ∨ ¬ IsBlank n.clientKey →
    ∃ cert key, n.clientCert = some cert ∧ n.clientKey = some key ∧
      n.tls.clientPair? = some (Text.trim cert, Text.trim key)
  noPair : IsBlank n.clientCert → IsBlank n.clientKey → n.tls.clientPair? = none
  authority : ¬ IsBlank n.ca → ∃ ca, n.ca = some ca ∧ n.tls.rootCa? = some (Text.trim ca)
  noAuthority : IsBlank n.ca → n.tls.rootCa? = none
  options : ∀ files options, Nats.Options.build files n.creds n.tls n.clientName = .ok options ↔
    ∃ credentials, Nats.Credentials.load files n.creds = .ok credentials ∧
      options = ⟨n.clientName, credentials, n.tls.clientPair?, n.tls.rootCa?.toList⟩

/-- A pair that is not half is used as it is configured, and so is the authority. -/
theorem usesTls_of_not_half {n : NatsConfig} (h : ¬ n.tls.isHalf = true) : n.UsesTls := by
  have hboth : IsBlank n.clientCert ↔ IsBlank n.clientKey := by
    rw [tls, TlsPaths.isHalf_ofSettings, not_not] at h
    exact h
  refine ⟨?_, ?_, ?_, ?_, ?_⟩
  · intro hsome
    have hcert : ¬ IsBlank n.clientCert := by
      rw [hboth] at hsome ⊢
      exact or_self_iff.1 hsome
    obtain ⟨cert, hc, hgc⟩ := TlsPaths.given_of_not_isBlank hcert
    obtain ⟨key, hk, hgk⟩ := TlsPaths.given_of_not_isBlank (mt hboth.2 hcert)
    refine ⟨cert, key, hc, hk, ?_⟩
    simp [tls, ofSettings, TlsPaths.clientPair?, hgc, hgk]
  · intro hcert _
    have hgc := (TlsPaths.given_eq_none_iff n.clientCert).2 hcert
    simp [tls, ofSettings, TlsPaths.clientPair?, hgc]
  · intro hca
    obtain ⟨ca, hc, hgc⟩ := TlsPaths.given_of_not_isBlank hca
    exact ⟨ca, hc, hgc⟩
  · intro hca
    exact (TlsPaths.given_eq_none_iff n.ca).2 hca
  · intro files options
    exact Nats.Options.build_eq_ok_iff files n.creds n.tls n.clientName options

end NatsConfig

namespace Config

/-! ### The check -/

/-- The problems in the order in which they are looked for. -/
def Problem.order : List Problem := [.noCredentials, .halfClientPair, .noWorkers, .noInterval]

/-- A configuration has a problem. -/
def Has (c : Config) : Problem → Prop
  | .noCredentials => c.nats.creds = ""
  | .halfClientPair => ¬ (IsBlank c.nats.clientCert ↔ IsBlank c.nats.clientKey)
  | .noWorkers => c.workers.toNat < 1
  | .noInterval => c.resyncSeconds.toNat < 1

instance (c : Config) : (p : Problem) → Decidable (c.Has p)
  | .noCredentials => inferInstanceAs (Decidable (_ = _))
  | .halfClientPair => inferInstanceAs (Decidable (¬ (_ ↔ _)))
  | .noWorkers => inferInstanceAs (Decidable (_ < _))
  | .noInterval => inferInstanceAs (Decidable (_ < _))

theorem toNat_lt_one_iff (n : UInt64) : n.toNat < 1 ↔ n = 0 := by
  rw [Nat.lt_one_iff, ← UInt64.toNat_zero, UInt64.toNat_inj]

/-- The check finds the first problem. -/
theorem check_eq_find? (c : Config) :
    c.check =
      match Problem.order.find? fun p => decide (c.Has p) with
      | some p => .error p
      | none => .ok () := by
  have hhalf : c.nats.tls.isHalf = true ↔ c.Has .halfClientPair :=
    TlsPaths.isHalf_ofSettings _ _ _
  have hworkers : c.workers = 0 ↔ c.Has .noWorkers := (toNat_lt_one_iff _).symm
  have hinterval : c.resyncSeconds = 0 ↔ c.Has .noInterval := (toNat_lt_one_iff _).symm
  have hcreds : c.nats.creds = "" ↔ c.Has .noCredentials := Iff.rfl
  simp only [check, hcreds, hhalf, hworkers, hinterval, Problem.order, List.find?_cons]
  by_cases h₁ : c.Has .noCredentials
  · simp [h₁]
  · by_cases h₂ : c.Has .halfClientPair
    · simp [h₁, h₂]
    · by_cases h₃ : c.Has .noWorkers
      · simp [h₁, h₂, h₃]
      · by_cases h₄ : c.Has .noInterval <;> simp [h₁, h₂, h₃, h₄]

theorem check_eq_error_iff (c : Config) (p : Problem) :
    c.check = .error p ↔
      ∃ earlier later, Problem.order = earlier ++ p :: later ∧ c.Has p ∧
        ∀ r ∈ earlier, ¬ c.Has r := by
  have hfound : c.check = .error p ↔
      Problem.order.find? (fun p => decide (c.Has p)) = some p := by
    rw [check_eq_find?]
    cases Problem.order.find? fun p => decide (c.Has p) <;> simp
  rw [hfound, List.find?_eq_some_iff_append]
  constructor
  · intro h
    obtain ⟨hp, earlier, later, horder, hnone⟩ := h
    exact ⟨earlier, later, horder, of_decide_eq_true hp, fun r hr => by simpa using hnone r hr⟩
  · intro h
    obtain ⟨earlier, later, horder, hp, hnone⟩ := h
    exact ⟨decide_eq_true hp, earlier, later, horder, fun r hr => by simpa using hnone r hr⟩

theorem check_eq_ok_iff (c : Config) : c.check = .ok () ↔ ∀ p, ¬ c.Has p := by
  have hall : ∀ p, p ∈ Problem.order := by
    intro p
    cases p <;> decide
  have hnone : c.check = .ok () ↔ Problem.order.find? (fun p => decide (c.Has p)) = none := by
    rw [check_eq_find?]
    cases Problem.order.find? fun p => decide (c.Has p) <;> simp
  rw [hnone, List.find?_eq_none]
  constructor
  · intro h p hp
    exact h p (hall p) (decide_eq_true hp)
  · intro h p _ hp
    exact h p (of_decide_eq_true hp)

theorem forall_not_has_iff (c : Config) :
    (∀ p, ¬ c.Has p) ↔ c.nats.creds ≠ "" ∧
      (IsBlank c.nats.clientCert ↔ IsBlank c.nats.clientKey) ∧ 1 ≤ c.workers.toNat ∧
      1 ≤ c.resyncSeconds.toNat := by
  constructor
  · intro h
    exact ⟨h .noCredentials, not_not.1 (h .halfClientPair), Nat.le_of_not_lt (h .noWorkers),
      Nat.le_of_not_lt (h .noInterval)⟩
  · intro h p
    obtain ⟨hcreds, hpair, hworkers, hinterval⟩ := h
    cases p with
    | noCredentials => exact hcreds
    | halfClientPair => exact not_not.2 hpair
    | noWorkers => exact Nat.not_lt.2 hworkers
    | noInterval => exact Nat.not_lt.2 hinterval

theorem usesTls_of_check {c : Config} (h : c.check = .ok ()) : c.nats.UsesTls := by
  refine NatsConfig.usesTls_of_not_half ?_
  rw [NatsConfig.tls, TlsPaths.isHalf_ofSettings]
  exact (check_eq_ok_iff c).1 h .halfClientPair

/-- A configuration passes the check just where it has none of the four problems, and otherwise
the first of them is reported. What passes uses all the TLS material that it names, without the
white space around it. To trim a text is to take that white space away, and no more. Of any
settings at all, a half pair is not used, a path is not empty and has no white space at its ends,
white space around a setting does not count, and paths taken for settings again stay as they
are. -/
theorem tls_never_dropped :
    (∀ c : Config,
      (c.check = .ok () ↔ c.nats.creds ≠ "" ∧
        (IsBlank c.nats.clientCert ↔ IsBlank c.nats.clientKey) ∧ 1 ≤ c.workers.toNat ∧
        1 ≤ c.resyncSeconds.toNat) ∧
      (∀ p, c.check = .error p ↔
        ∃ earlier later, Problem.order = earlier ++ p :: later ∧ c.Has p ∧
          ∀ r ∈ earlier, ¬ c.Has r) ∧
      (c.check = .ok () → c.nats.UsesTls)) ∧
    (∀ s path : String, Text.trim s = path ↔
      (∃ before after, AllBlank before ∧ AllBlank after ∧
        s.toList = before ++ (path.toList ++ after)) ∧ Trimmed path.toList) ∧
    (∀ t : TlsPaths, t.isHalf = true → t.clientPair? = none) ∧
    ∀ clientCert clientKey ca : Option String,
      let t := ofSettings clientCert clientKey ca
      (∀ path, t.clientCert = some path ∨ t.clientKey = some path ∨ t.ca = some path →
        path ≠ "" ∧ Trimmed path.toList) ∧
      (∀ clientCert' clientKey' ca', Padded clientCert clientCert' → Padded clientKey clientKey' →
        Padded ca ca' → ofSettings clientCert' clientKey' ca' = t) ∧
      ofSettings t.clientCert t.clientKey t.ca = t := by
  refine ⟨?_, Text.trim_eq_iff, fun t => TlsPaths.clientPair?_eq_none_of_isHalf, ?_⟩
  · intro c
    exact ⟨(check_eq_ok_iff c).trans (forall_not_has_iff c), check_eq_error_iff c, usesTls_of_check⟩
  · intro clientCert clientKey ca t
    refine ⟨?_, ?_, ?_⟩
    · intro path hpath
      rcases hpath with h | h | h <;> exact TlsPaths.trimmed_of_given h
    · intro clientCert' clientKey' ca' hcert hkey hca
      simp only [t, ofSettings, TlsPaths.given_of_padded hcert, TlsPaths.given_of_padded hkey,
        TlsPaths.given_of_padded hca]
    · simp only [t, ofSettings, TlsPaths.given_given]

/- A configuration with white space around the paths of its pair, and a blank authority. -/
def paddedPair : Config where
  nats :=
    { url := "nats://127.0.0.1:4222", creds := "/etc/nats/resolver.creds",
      clientCert := some " /tls/tls.crt", clientKey := some "/tls/tls.key\n", ca := some " ",
      clientName := "nats-account-resolver" }
  kube := {}
  probeListen := .v4 ⟨0, 0, 0, 0⟩ 8081
  resyncSeconds := 600
  workers := 2
  logLevel := "info"
  logFormat := .text

theorem tls_never_dropped_padded :
    paddedPair.check = .ok () ∧
      paddedPair.nats.tls.clientPair? = some ("/tls/tls.crt", "/tls/tls.key") ∧
      paddedPair.nats.tls.rootCa? = none ∧
      (ofSettings (some "/tls/tls.crt") (some "\t") none).clientPair? = none ∧
      ofSettings none none (some "\u3000/tls/ca.crt ") = ofSettings none none (some "/tls/ca.crt") := by
  obtain ⟨hconfigs, -, hhalf, hsettings⟩ := tls_never_dropped
  obtain ⟨hok, -, huses⟩ := hconfigs paddedPair
  have hcheck : paddedPair.check = .ok () := hok.2 (by decide)
  refine ⟨hcheck, ?_, (huses hcheck).noAuthority (by decide), hhalf _ (by decide), ?_⟩
  · obtain ⟨cert, key, hcert, hkey, hpair⟩ := (huses hcheck).pair (Or.inl (by decide))
    rw [hpair, ← Option.some.inj hcert, ← Option.some.inj hkey]
    decide
  · obtain ⟨-, hpadded, -⟩ := hsettings none none (some "/tls/ca.crt")
    have hca : Padded (some "/tls/ca.crt") (some "\u3000/tls/ca.crt ") :=
      @Padded.given "/tls/ca.crt" ['\u3000'] [' '] (by decide) (by decide)
    exact hpadded none none _ .absent .absent hca

end Config

end AccountResolver
