import AccountResolver.CommandLine.Setting
import AccountResolver.Proofs.Network.SocketAddress

/-!
# Values of settings

Every configuration can be written setting by setting: texts as they are, numbers in decimal,
addresses in their printed form. A draft takes each written value for what it stands for.
-/

namespace AccountResolver.CommandLine

/-! ### Numbers -/

theorem le_foldl_digits (n : Nat) (ds : List Char) :
    n ≤ ds.foldl (fun n c => 10 * n + Decimal.digitValue c) n := by
  induction ds generalizing n with
  | nil => exact Nat.le_refl n
  | cons c ds ih =>
    have hstep := ih (10 * n + Decimal.digitValue c)
    rw [List.foldl_cons]
    omega

theorem readDigits_ok {ds : List Char} (hds : ∀ c ∈ ds, Decimal.isDigit c = true) {n : Nat}
    (hlt : ds.foldl (fun n c => 10 * n + Decimal.digitValue c) n < UInt64.size) :
    readDigits n ds = .ok (ds.foldl (fun n c => 10 * n + Decimal.digitValue c) n) := by
  induction ds generalizing n with
  | nil => rfl
  | cons c ds ih =>
    have hc := hds c List.mem_cons_self
    have hrest := ih (n := 10 * n + Decimal.digitValue c)
      (fun x hx => hds x (List.mem_cons_of_mem _ hx)) hlt
    have hstep : 10 * n + Decimal.digitValue c < UInt64.size :=
      Nat.lt_of_le_of_lt (le_foldl_digits _ ds) hlt
    rw [readDigits, if_pos hc, if_pos hstep, hrest]
    rfl

theorem readNumber_chars (n : UInt64) : readNumber (Decimal.chars n.toNat) = .ok n := by
  have hdigits := Decimal.digits_chars n.toNat
  have hvalue : (Decimal.chars n.toNat).foldl (fun n c => 10 * n + Decimal.digitValue c) 0 =
      n.toNat := Decimal.value_chars n.toNat
  have hread := readDigits_ok hdigits.2 (n := 0) (by rw [hvalue]; exact n.toNat_lt_size)
  rw [hvalue] at hread
  obtain ⟨hne, hall⟩ := hdigits
  cases hchars : Decimal.chars n.toNat with
  | nil => exact absurd hchars hne
  | cons c cs =>
    rw [hchars] at hread hall
    have hplus : c ≠ '+' := by
      rintro rfl
      exact absurd (hall '+' List.mem_cons_self) (by decide)
    rw [readNumber.eq_def]
    simp [hplus, hread, Except.map]

theorem number_text (s : Setting) (n : UInt64) :
    Draft.number s (Decimal.text n.toNat) = .ok n := by
  rw [Draft.number, Decimal.text, String.toList_ofList, readNumber_chars]

theorem decimalText_injective {n m : UInt64} (h : Decimal.text n.toNat = Decimal.text m.toNat) :
    n = m := by
  have hn := number_text .resyncInterval n
  rw [h, number_text] at hn
  exact (Except.ok.inj hn).symm

/-! ### Other values -/

theorem address_text (s : Setting) (x : Network.SocketAddress) :
    Draft.address s x.text = .ok x := by
  have hread := Network.SocketAddress.ofString?_text x
  unfold Draft.address
  split
  · next y hy =>
    rw [hread] at hy
    cases hy
    rfl
  · next hnone =>
    rw [hread] at hnone
    cases hnone

theorem format_name (s : Setting) (f : LogFormat) : Draft.format s f.name = .ok f := by
  cases f <;> rfl

theorem path_ok (s : Setting) {value : String} (h : value ≠ "") :
    Draft.path s value = .ok value := if_neg h

/-! ### Written configurations -/

/-- How a configuration's value of a setting is written; none where the setting is not set. -/
def written? (c : Config) : Setting → Option String
  | .natsUrl => some c.nats.url
  | .natsCreds => some c.nats.creds
  | .natsClientCert => c.nats.clientCert
  | .natsClientKey => c.nats.clientKey
  | .natsCa => c.nats.ca
  | .natsClientName => some c.nats.clientName
  | .kubeApiUrl => c.kube.apiUrl
  | .kubeTokenFile => c.kube.tokenFile
  | .kubeCaFile => c.kube.caFile
  | .watchNamespace => c.kube.ns
  | .probeListen => some c.probeListen.text
  | .resyncInterval => some (Decimal.text c.resyncSeconds.toNat)
  | .reconcileWorkers => some (Decimal.text c.workers.toNat)
  | .logLevel => some c.logLevel
  | .logFormat => some c.logFormat.name

/-- The paths to files are not empty. -/
structure FilePaths (c : Config) : Prop where
  creds : c.nats.creds ≠ ""
  tokenFile : c.kube.tokenFile ≠ some ""
  caFile : c.kube.caFile ≠ some ""

/-- The part of a configuration that some settings make up, as a draft. -/
def part (c : Config) (p : Setting → Bool) : Draft where
  natsUrl := if p .natsUrl then some c.nats.url else none
  natsCreds := if p .natsCreds then some c.nats.creds else none
  natsClientCert := if p .natsClientCert then c.nats.clientCert else none
  natsClientKey := if p .natsClientKey then c.nats.clientKey else none
  natsCa := if p .natsCa then c.nats.ca else none
  natsClientName := if p .natsClientName then some c.nats.clientName else none
  kubeApiUrl := if p .kubeApiUrl then c.kube.apiUrl else none
  kubeTokenFile := if p .kubeTokenFile then c.kube.tokenFile else none
  kubeCaFile := if p .kubeCaFile then c.kube.caFile else none
  watchNamespace := if p .watchNamespace then c.kube.ns else none
  probeListen := if p .probeListen then some c.probeListen else none
  resyncInterval := if p .resyncInterval then some c.resyncSeconds else none
  reconcileWorkers := if p .reconcileWorkers then some c.workers else none
  logLevel := if p .logLevel then some c.logLevel else none
  logFormat := if p .logFormat then some c.logFormat else none

theorem isSet_part (c : Config) (p : Setting → Bool) (s : Setting) :
    (part c p).isSet s = (p s && (written? c s).isSome) := by
  cases s <;> simp only [Draft.isSet, part, written?] <;> split <;> simp [*]

/-- A written value adds its setting to the part. -/
theorem set_part {c : Config} (hc : FilePaths c) (p : Setting → Bool) {s : Setting} {v : String}
    (hv : written? c s = some v) :
    (part c p).set s v = .ok (part c fun x => decide (x = s) || p x) := by
  cases s with
  | natsCreds =>
    cases hv
    simp [Draft.set, part, path_ok _ hc.creds, Except.map]
  | kubeTokenFile =>
    have hne : v ≠ "" := by
      rintro rfl
      exact hc.tokenFile hv
    simp only [written?] at hv
    simp [Draft.set, part, path_ok _ hne, Except.map, hv]
  | kubeCaFile =>
    have hne : v ≠ "" := by
      rintro rfl
      exact hc.caFile hv
    simp only [written?] at hv
    simp [Draft.set, part, path_ok _ hne, Except.map, hv]
  | probeListen =>
    cases hv
    simp [Draft.set, part, address_text, Except.map]
  | resyncInterval =>
    cases hv
    simp [Draft.set, part, number_text, Except.map]
  | reconcileWorkers =>
    cases hv
    simp [Draft.set, part, number_text, Except.map]
  | logFormat =>
    cases hv
    simp [Draft.set, part, format_name, Except.map]
  | _ =>
    simp only [written?, Option.some.injEq] at hv
    simp [Draft.set, part, hv]

/-! ### Defaults -/

theorem getD_part {α : Type} {b : Bool} {x d : α} (h : b = false → x = d) :
    (if b then some x else none).getD d = x := by
  cases b with
  | true => rfl
  | false => exact (h rfl).symm

theorem option_part {α : Type} {b : Bool} {o : Option α} (h : b = false → o = none) :
    (if b then o else none) = o := by
  cases b with
  | true => rfl
  | false => exact (h rfl).symm

theorem logFormat_name_injective {f g : LogFormat} (h : f.name = g.name) : f = g := by
  have hf := format_name .logFormat f
  rw [h, format_name] at hf
  exact (Except.ok.inj hf).symm

/-- A part is all of a configuration when what it leaves out is the default. -/
theorem finish_part {c : Config} {p : Setting → Bool}
    (h : ∀ s, p s = false → written? c s = s.default?) : (part c p).finish = .ok c := by
  have hcreds : (part c p).natsCreds = some c.nats.creds := by
    cases hp : p .natsCreds with
    | true => simp [part, hp]
    | false => cases h .natsCreds hp
  have hurl : p .natsUrl = false → c.nats.url = defaultNatsUrl :=
    fun hp => Option.some.inj (h .natsUrl hp)
  have hname : p .natsClientName = false → c.nats.clientName = defaultClientName :=
    fun hp => Option.some.inj (h .natsClientName hp)
  have hlisten : p .probeListen = false → c.probeListen = defaultProbeListen :=
    fun hp => Network.SocketAddress.text_injective (Option.some.inj (h .probeListen hp))
  have hresync : p .resyncInterval = false → c.resyncSeconds = defaultResyncInterval :=
    fun hp => decimalText_injective (Option.some.inj (h .resyncInterval hp))
  have hworkers : p .reconcileWorkers = false → c.workers = defaultWorkers :=
    fun hp => decimalText_injective (Option.some.inj (h .reconcileWorkers hp))
  have hlevel : p .logLevel = false → c.logLevel = defaultLogLevel :=
    fun hp => Option.some.inj (h .logLevel hp)
  have hformat : p .logFormat = false → c.logFormat = defaultLogFormat :=
    fun hp => logFormat_name_injective (Option.some.inj (h .logFormat hp))
  have hcert : p .natsClientCert = false → c.nats.clientCert = none := h .natsClientCert
  have hkey : p .natsClientKey = false → c.nats.clientKey = none := h .natsClientKey
  have hca : p .natsCa = false → c.nats.ca = none := h .natsCa
  have hapi : p .kubeApiUrl = false → c.kube.apiUrl = none := h .kubeApiUrl
  have htoken : p .kubeTokenFile = false → c.kube.tokenFile = none := h .kubeTokenFile
  have hbundle : p .kubeCaFile = false → c.kube.caFile = none := h .kubeCaFile
  have hns : p .watchNamespace = false → c.kube.ns = none := h .watchNamespace
  rw [Draft.finish, hcreds]
  simp only [part, getD_part hurl, getD_part hname, getD_part hlisten, getD_part hresync,
    getD_part hworkers, getD_part hlevel, getD_part hformat, option_part hcert, option_part hkey,
    option_part hca, option_part hapi, option_part htoken, option_part hbundle, option_part hns]

end AccountResolver.CommandLine
