import AccountResolver.Proofs.Text.Decimal
import AccountResolver.Proofs.Text.Trim
import AccountResolver.Timestamp.Read

/-!
# RFC 3339 date-times

The form that the standard gives: fields of fixed width, marks between them, an optional
fraction of a second and a zone. The reader takes every such text with zone `Z` for the point in
time that it names.
-/

namespace AccountResolver.Timestamp

/-- A field of fixed width whose digits are worth `n`. -/
def Field (width n : Nat) (ds : List Char) : Prop :=
  ds.length = width ∧ (∀ c ∈ ds, Decimal.isDigit c = true) ∧ Decimal.value ds = n

/- Digits beyond the ninth are finer than a nanosecond. -/
inductive SpellsNano : Nat → List Char → Prop
  | none : SpellsNano 0 []
  | digits {ds : List Char} (h : Decimal.Digits ds) :
      SpellsNano (Decimal.value (ds.take 9) * Nat.pow 10 (9 - (ds.take 9).length)) ('.' :: ds)

/-- A zone, as its offset from UTC in minutes. -/
inductive SpellsZone : Int → List Char → Prop
  | zulu {z : Char} (h : z = 'Z' ∨ z = 'z') : SpellsZone 0 [z]
  | ahead {hours minutes : Nat} {hs ms : List Char} (hh : Field 2 hours hs) (hlt : hours < 24)
      (hm : Field 2 minutes ms) (hmt : minutes < 60) :
      SpellsZone (hours * 60 + minutes) ('+' :: (hs ++ ':' :: ms))
  | behind {hours minutes : Nat} {hs ms : List Char} (hh : Field 2 hours hs) (hlt : hours < 24)
      (hm : Field 2 minutes ms) (hmt : minutes < 60) :
      SpellsZone (-(hours * 60 + minutes)) ('-' :: (hs ++ ':' :: ms))

/-- A date-time, as the local date and time that it names and the offset of its zone. -/
inductive DateTime : Timestamp → Int → List Char → Prop
  | parts {y mo d h mi s nano : Nat} {offset : Int} {ys mos ds hs mis ss f z : List Char}
      {sep : Char} (year : Field 4 y ys) (month : Field 2 mo mos) (day : Field 2 d ds)
      (separator : sep = 'T' ∨ sep = 't') (hour : Field 2 h hs) (minute : Field 2 mi mis)
      (second : Field 2 s ss) (fraction : SpellsNano nano f) (zone : SpellsZone offset z)
      (valid : Valid ⟨⟨y, mo, d⟩, h, mi, s, nano⟩) :
      DateTime ⟨⟨y, mo, d⟩, h, mi, s, nano⟩ offset
        (ys ++ '-' :: (mos ++ '-' :: (ds ++ sep :: (hs ++ ':' :: (mis ++ ':' ::
          (ss ++ (f ++ z)))))))

/-- A month has two digits: the dash after it stands in the eighth place. -/
theorem dash_after_month {t : Timestamp} {offset : Int} {s : List Char}
    (h : DateTime t offset s) : s[7]? = some '-' := by
  cases h with
  | parts year month => simp [List.getElem?_append, year.1, month.1]

/-! ### Numbers and marks -/

theorem isBlank_of_digit {c : Char} (h : Decimal.isDigit c = true) : Text.isBlank c = false := by
  rw [Decimal.isDigit_iff] at h
  simp [Text.isBlank, Text.blankRanges]
  omega

theorem dropBlank_digits {ds : List Char} (h : Decimal.Digits ds) (s : List Char) :
    Text.dropBlank (ds ++ s) = ds ++ s := by
  obtain ⟨hne, hall⟩ := h
  cases ds with
  | nil => exact absurd rfl hne
  | cons d ds => exact Text.dropBlank_cons (isBlank_of_digit (hall d List.mem_cons_self)) _

theorem takeWhile_digits {ds s : List Char} (hds : ∀ c ∈ ds, Decimal.isDigit c = true) :
    (ds ++ s).takeWhile Decimal.isDigit = ds ++ s.takeWhile Decimal.isDigit :=
  List.takeWhile_append_of_pos hds

theorem takeWhile_noDigit {s : List Char} (h : Decimal.NoDigit id s) :
    s.takeWhile Decimal.isDigit = [] := by
  cases s with
  | nil => rfl
  | cons c r => rw [List.takeWhile_cons, if_neg (by simp [h c r rfl])]

theorem lt_numberBound {ds : List Char} (hds : ∀ c ∈ ds, Decimal.isDigit c = true)
    (hlen : ds.length ≤ 18) : Decimal.value ds < numberBound := by
  have hvalue := Decimal.value_lt ds hds
  have hpow : Nat.pow 10 ds.length ≤ Nat.pow 10 18 := Nat.pow_le_pow_right (by decide) hlen
  have hbound : Nat.pow 10 18 ≤ numberBound := by decide
  omega

theorem readNumber_append {width : Nat} (hwidth : width ≤ 18) {ds s : List Char}
    (hds : Decimal.Digits ds) (hend : width ≤ ds.length ∨ Decimal.NoDigit id s) :
    readNumber (some width) (ds ++ s) =
      .ok (Decimal.value (ds.take width), ds.drop width ++ s) := by
  obtain ⟨hne, hall⟩ := hds
  have hrun : ((ds ++ s).takeWhile Decimal.isDigit).take width = ds.take width := by
    rw [takeWhile_digits hall]
    rcases hend with hle | hend
    · exact List.take_append_of_le_length hle
    · rw [takeWhile_noDigit hend, List.append_nil]
  have hdrop : (ds ++ s).drop (ds.take width).length = ds.drop width ++ s := by
    rw [List.length_take, List.drop_append_of_le_length (Nat.min_le_right _ _)]
    congr 1
    rcases Nat.le_total width ds.length with hle | hle
    · rw [Nat.min_eq_left hle]
    · rw [Nat.min_eq_right hle, List.drop_length, List.drop_eq_nil_of_le hle]
  have hlt : Decimal.value (ds.take width) < numberBound := by
    apply lt_numberBound
    · exact fun c hc => hall c (List.mem_of_mem_take hc)
    · rw [List.length_take]
      omega
  cases ds with
  | nil => exact absurd rfl hne
  | cons d ds =>
    have hd := hall d List.mem_cons_self
    rw [List.cons_append] at *
    rw [readNumber, if_pos hd]
    simp only [hrun, hdrop, hlt, if_true]

theorem digits_of_field {width n : Nat} {ds : List Char} (h : Field width n ds)
    (hpos : 0 < width) : Decimal.Digits ds := by
  obtain ⟨hlen, hall, -⟩ := h
  refine ⟨?_, hall⟩
  rintro rfl
  rw [List.length_nil] at hlen
  omega

theorem readNumber_field {width n : Nat} {ds : List Char} (h : Field width n ds)
    (hpos : 0 < width) (hwidth : width ≤ 18) (s : List Char) :
    readNumber (some width) (ds ++ s) = .ok (n, s) := by
  have hread := readNumber_append hwidth (digits_of_field h hpos) (s := s)
    (.inl (Nat.le_of_eq h.1.symm))
  obtain ⟨rfl, -, rfl⟩ := h
  rw [hread, List.take_length, List.drop_length]
  rfl

theorem readField_append {n lo hi : Nat} {ds : List Char} (h : Field 2 n ds) (hlo : lo ≤ n)
    (hhi : n ≤ hi) (s : List Char) : readField 2 lo hi (ds ++ s) = .ok (n, s) := by
  have hdigits := digits_of_field h (by decide)
  have hnumber := readNumber_field h (by decide) (by decide) s
  rw [readField, dropBlank_digits hdigits, hnumber]
  simp [bind, Except.bind, hlo, hhi]

theorem readYear_append {y : Nat} {ys : List Char} (h : Field 4 y ys) (s : List Char) :
    readYear (ys ++ s) = .ok ((y : Int), s) := by
  have hlt : y < Nat.pow 10 4 := by
    rw [← h.2.2, ← h.1]
    exact Decimal.value_lt ys h.2.1
  have hten : Nat.pow 10 4 = 10000 := by decide
  have htwo : (Nat.pow 2 31 : Int) = 2147483648 := by decide
  have hnumber := readNumber_field h (by decide) (by decide) s
  have hblank := dropBlank_digits (digits_of_field h (by decide)) s
  obtain ⟨hne, hall⟩ := digits_of_field h (by decide)
  cases ys with
  | nil => exact absurd rfl hne
  | cons d ds =>
    have hd := hall d List.mem_cons_self
    have hminus : d ≠ '-' := by rintro rfl; exact absurd hd (by decide)
    have hplus : d ≠ '+' := by rintro rfl; exact absurd hd (by decide)
    rw [List.cons_append] at hblank hnumber
    rw [List.cons_append, readYear, hblank]
    simp [hminus, hplus, hnumber, bind, Except.bind, Except.map]
    omega

theorem readMark_self {mark : Char} (h : Text.isBlank mark = false) (s : List Char) :
    readMark mark (mark :: s) = .ok s := by
  rw [readMark, Text.dropBlank_cons h]
  exact if_pos rfl

theorem readSeparator_self {sep : Char} (h : sep = 'T' ∨ sep = 't') (s : List Char) :
    readSeparator (sep :: s) = .ok s := by
  rcases h with rfl | rfl <;> rfl

theorem readFraction_append {nano : Nat} {f : List Char} (hf : SpellsNano nano f)
    {s : List Char} (hs : Decimal.NoDigit id s) (hpoint : ∀ r, s ≠ '.' :: r) :
    readFraction (f ++ s) = .ok (nano, s) := by
  cases hf with
  | none =>
    rw [List.nil_append, readFraction.eq_def]
    split
    · next r => exact absurd rfl (hpoint r)
    · rfl
  | @digits ds h =>
    have hnumber : readNumber (some 9) (ds ++ s) = _ := readNumber_append (by decide) h (.inr hs)
    have hlen : (ds ++ s).length - (ds.drop 9 ++ s).length = (ds.take 9).length := by
      simp only [List.length_append, List.length_drop, List.length_take]
      omega
    have hrest : (ds.drop 9 ++ s).dropWhile Decimal.isDigit = s := by
      rw [List.dropWhile_append_of_pos fun c hc => h.2 c (List.mem_of_mem_drop hc)]
      cases s with
      | nil => rfl
      | cons c r => rw [List.dropWhile_cons, if_neg (by simp [hs c r rfl])]
    rw [List.cons_append, readFraction, hnumber]
    simp only [bind, Except.bind, hlen, hrest]

theorem zone_head {offset : Int} {z : List Char} (h : SpellsZone offset z) :
    ∃ c r, z = c :: r ∧ Text.isBlank c = false ∧ Decimal.isDigit c = false ∧ c ≠ '.' := by
  cases h with
  | zulu h =>
    rcases h with rfl | rfl
    · exact ⟨'Z', [], rfl, by decide⟩
    · exact ⟨'z', [], rfl, by decide⟩
  | ahead => exact ⟨'+', _, rfl, by decide⟩
  | behind => exact ⟨'-', _, rfl, by decide⟩

theorem readOffsetAmount_fields {hours minutes : Nat} {hs ms : List Char}
    (hh : Field 2 hours hs) (hm : Field 2 minutes ms) (hlt : minutes < 60) :
    readOffsetAmount (hs ++ ':' :: ms) = .ok (hours * 60 + minutes, []) := by
  obtain ⟨hhlen, hhall, hhvalue⟩ := hh
  obtain ⟨hmlen, hmall, hmvalue⟩ := hm
  rcases hs with _ | ⟨a, _ | ⟨b, _ | ⟨_, _⟩⟩⟩ <;> cases hhlen
  rcases ms with _ | ⟨c, _ | ⟨d, _ | ⟨_, _⟩⟩⟩ <;> cases hmlen
  have ha := hhall a (by simp)
  have hb := hhall b (by simp)
  have hc := hmall c (by simp)
  have hd := hmall d (by simp)
  have htens : Decimal.digitValue c ≤ 5 := by
    have hvalue : 10 * (10 * 0 + Decimal.digitValue c) + Decimal.digitValue d = minutes := hmvalue
    omega
  have hcolon : c ≠ ':' := by rintro rfl; exact absurd hc (by decide)
  have hblank := isBlank_of_digit hc
  simp [readOffsetAmount, ha, hb, hc, hd, htens, hcolon, hblank, hhvalue, hmvalue, bind,
    Except.bind]

theorem readOffset_zone {offset : Int} {z : List Char} (h : SpellsZone offset z) :
    readOffset z = .ok (offset, []) := by
  cases h with
  | zulu h => rcases h with rfl | rfl <;> rfl
  | @ahead _ _ hs ms hh hlt hm hmt =>
    have hutc : startsUtc ('+' :: (hs ++ ':' :: ms)) = false := rfl
    rw [readOffset, hutc]
    simp [readOffsetAmount_fields hh hm hmt, Except.map]
  | @behind _ _ hs ms hh hlt hm hmt =>
    have hutc : startsUtc ('-' :: (hs ++ ':' :: ms)) = false := rfl
    rw [readOffset, hutc]
    simp [readOffsetAmount_fields hh hm hmt, Except.map]

/-! ### Whole texts -/

theorem ofLocal_utc {t : Timestamp} (h : t.Valid) :
    ofLocal t.date t.hour t.minute t.second t.nano 0 = .ok t := by
  obtain ⟨hdate, hhour, hminute, -, -⟩ := h
  have hday : toUtc t.date (t.hour * 60 + t.minute) 0 = (t.date, t.hour * 60 + t.minute) := by
    unfold toUtc
    simp only
    split
    · omega
    · split
      · omega
      · congr 1
  have hh : (t.hour * 60 + t.minute) / 60 = t.hour := by omega
  have hm : (t.hour * 60 + t.minute) % 60 = t.minute := by omega
  simp [ofLocal, hdate, hday, hh, hm]

/-- The reader takes every date-time apart, and moves it to UTC. -/
theorem readChars_dateTime {t : Timestamp} {offset : Int} {s : List Char}
    (h : DateTime t offset s) :
    readChars s = ofLocal t.date t.hour t.minute t.second t.nano offset := by
  cases h with
  | @parts y mo d h mi sec nano _ ys mos ds hs mis ss f z sep year month day separator hour minute
      second fraction zone valid =>
    obtain ⟨hdate, hhour, hminute, hsecond, -⟩ := valid
    simp only [Date.exists?, Bool.and_eq_true, decide_eq_true_eq] at hdate
    obtain ⟨⟨⟨⟨-, hmo⟩, hmo'⟩, hd⟩, hd'⟩ := hdate
    have hdays : d ≤ 31 := by
      have hmonth : Date.daysIn y mo ≤ 31 := by
        unfold Date.daysIn
        split <;> (try split) <;> omega
      omega
    have hdash : Text.isBlank '-' = false := by decide
    have hcolon : Text.isBlank ':' = false := by decide
    have hoffset := readOffset_zone zone
    obtain ⟨c, r, rfl, hblank, hdigit, hpoint⟩ := zone_head zone
    have hfraction : readFraction (f ++ c :: r) = .ok (nano, c :: r) := by
      apply readFraction_append fraction
      · intro c' r' hc
        cases hc
        exact hdigit
      · intro r' hc
        cases hc
        exact hpoint rfl
    have hend : Text.dropBlank [] = [] := rfl
    simp only [readChars, readYear_append year, readMark_self hdash, readMark_self hcolon,
      readField_append month hmo hmo', readField_append day hd hdays,
      readSeparator_self separator, readField_append hour (Nat.zero_le h) (Nat.le_of_lt_succ hhour),
      readField_append minute (Nat.zero_le mi) (Nat.le_of_lt_succ hminute),
      readField_append second (Nat.zero_le sec) hsecond, hfraction, Text.dropBlank_cons hblank,
      hoffset, hend, bind, Except.bind]
    exact if_neg (by simp)

/-- A date-time in UTC is read as the point in time that it names. -/
theorem readChars_utc {t : Timestamp} {s : List Char} (h : DateTime t 0 s) :
    readChars s = .ok t := by
  have hvalid : t.Valid := by
    cases h with
    | parts _ _ _ _ _ _ _ _ _ valid => exact valid
  rw [readChars_dateTime h, ofLocal_utc hvalid]

end AccountResolver.Timestamp
