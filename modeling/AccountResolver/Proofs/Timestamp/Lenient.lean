import AccountResolver.Failure
import AccountResolver.Proofs.Text.Decimal
import AccountResolver.Proofs.Text.Trim
import AccountResolver.Timestamp.Read
import Mathlib.Data.List.TakeWhile

/-!
# Date-times in lenient form

What the reader takes beyond RFC 3339: numbers shorter than their field, signed years, white
space around the parts, a blank for `T`, and offsets written as `UTC`, with U+2212 or without a
colon. Everything that the reader takes has this form, and names a day of the calendar and an
offset of less than a day.
-/

namespace AccountResolver.Timestamp

open Text (AllBlank)

/-- One digit or more after white space, `width` of them at most. -/
inductive LenientField (width : Nat) : Nat → List Char → Prop
  | digits {b ds : List Char} (hb : AllBlank b) (h : Decimal.Digits ds) (hlen : ds.length ≤ width) :
      LenientField width (Decimal.value ds) (b ++ ds)

inductive LenientYear : Int → List Char → Prop
  | plain {n : Nat} {t : List Char} (h : LenientField 4 n t) : LenientYear n t
  | plus {b ds : List Char} (hb : AllBlank b) (h : Decimal.Digits ds) :
      LenientYear (Decimal.value ds) (b ++ '+' :: ds)
  | minus {b ds : List Char} (hb : AllBlank b) (h : Decimal.Digits ds) :
      LenientYear (-(Decimal.value ds : Int)) (b ++ '-' :: ds)

/-- A mark after white space. -/
inductive LenientMark (mark : Char) : List Char → Prop
  | mark {b : List Char} (hb : AllBlank b) : LenientMark mark (b ++ [mark])

inductive LenientFraction : List Char → Prop
  | none : LenientFraction []
  | digits {ds : List Char} (h : Decimal.Digits ds) : LenientFraction ('.' :: ds)

/-- Two digits of hours and two of minutes, with colons and white space between them. -/
inductive LenientAmount : Nat → List Char → Prop
  | digits {hs g ms : List Char} (hh : Decimal.Digits hs) (hlen : hs.length = 2)
      (hg : ∀ c ∈ g, c = ':' ∨ Text.isBlank c = true) (hm : Decimal.Digits ms)
      (hmlen : ms.length = 2) (hlt : Decimal.value ms < 60) :
      LenientAmount (Decimal.value hs * 60 + Decimal.value ms) (hs ++ (g ++ ms))

inductive LenientZone : Int → List Char → Prop
  | utc {u : List Char} (h : u.map Char.toUpper = "UTC".toList) : LenientZone 0 u
  | zulu {z : Char} (h : z = 'Z' ∨ z = 'z') : LenientZone 0 [z]
  | ahead {n : Nat} {t : List Char} (h : LenientAmount n t) : LenientZone n ('+' :: t)
  | behind {n : Nat} {sign : Char} {t : List Char} (hs : sign = '-' ∨ sign = '\u2212')
      (h : LenientAmount n t) : LenientZone (-(n : Int)) (sign :: t)

inductive LenientDateTime : List Char → Prop
  | parts {y offset : Int} {mo d h mi s : Nat}
      {ys m₁ mos m₂ ds hs m₃ mis m₄ ss f b z e : List Char} {sep : Char}
      (year : LenientYear y ys) (dash : LenientMark '-' m₁) (month : LenientField 2 mo mos)
      (dash' : LenientMark '-' m₂) (day : LenientField 2 d ds)
      (separator : sep = 'T' ∨ sep = 't' ∨ sep = ' ') (hour : LenientField 2 h hs)
      (colon : LenientMark ':' m₃) (minute : LenientField 2 mi mis) (colon' : LenientMark ':' m₄)
      (second : LenientField 2 s ss) (fraction : LenientFraction f) (hb : AllBlank b)
      (zone : LenientZone offset z) (he : AllBlank e) (date : Date.exists? ⟨y, mo, d⟩ = true)
      (time : h < 24 ∧ mi < 60 ∧ s ≤ 60) (less : -1440 < offset ∧ offset < 1440) :
      LenientDateTime (ys ++ (m₁ ++ (mos ++ (m₂ ++ (ds ++ sep :: (hs ++ (m₃ ++ (mis ++ (m₄ ++
        (ss ++ (f ++ (b ++ (z ++ e)))))))))))))

/-! ### Parts -/

theorem digits_of_readNumber {width : Option Nat} {s r : List Char} {n : Nat}
    (hpos : width ≠ some 0) (h : readNumber width s = .ok (n, r)) :
    ∃ ds, s = ds ++ r ∧ Decimal.Digits ds ∧ n = Decimal.value ds ∧
      ∀ w, width = some w → ds.length ≤ w := by
  cases s with
  | nil => cases h
  | cons c s =>
    rw [readNumber] at h
    split at h
    · next hc =>
      -- the digits read are a prefix of the run of digits, and so of the text
      have hprefix : ∀ ds, ds <+: (c :: s).takeWhile Decimal.isDigit → ds ≠ [] →
          (if Decimal.value ds < numberBound then
              Except.ok (Decimal.value ds, (c :: s).drop ds.length)
            else .error Fault.outOfRange) = .ok (n, r) →
          c :: s = ds ++ r ∧ Decimal.Digits ds ∧ n = Decimal.value ds := by
        intro ds hds hne hread
        obtain ⟨t, ht⟩ := hds.trans (List.takeWhile_prefix _)
        have hres := (ok_of_guard hread).2
        have hall : ∀ x ∈ ds, Decimal.isDigit x = true :=
          fun x hx => List.mem_takeWhile_imp (hds.subset hx)
        rw [← ht, List.drop_left, Prod.mk.injEq] at hres
        obtain ⟨rfl, rfl⟩ := hres
        exact ⟨ht.symm, ⟨hne, hall⟩, rfl⟩
      have hrun : (c :: s).takeWhile Decimal.isDigit = c :: s.takeWhile Decimal.isDigit := by
        rw [List.takeWhile_cons, if_pos hc]
      cases width with
      | none =>
        have hread := hprefix _ (List.prefix_refl _) (by rw [hrun]; simp) h
        exact ⟨_, hread.1, hread.2.1, hread.2.2, by simp⟩
      | some w =>
        have hne : ((c :: s).takeWhile Decimal.isDigit).take w ≠ [] := by
          rw [hrun]
          cases w with
          | zero => exact absurd rfl hpos
          | succ w => simp
        have hread := hprefix _ (List.take_prefix _ _) hne h
        refine ⟨_, hread.1, hread.2.1, hread.2.2, ?_⟩
        intro w' hw'
        cases hw'
        exact List.length_take_le _ _
    · cases h

theorem lenient_of_readField {width lo hi : Nat} {s r : List Char} {n : Nat} (hpos : 0 < width)
    (h : readField width lo hi s = .ok (n, r)) :
    ∃ t, s = t ++ r ∧ LenientField width n t ∧ lo ≤ n ∧ n ≤ hi := by
  obtain ⟨⟨m, rest⟩, hnumber, hguard⟩ := ok_of_bind h
  obtain ⟨hrange, hres⟩ := ok_of_guard hguard
  obtain ⟨rfl, rfl⟩ := Prod.mk.injEq .. ▸ hres
  have hwidth : some width ≠ some 0 := by
    intro hw
    cases hw
    exact absurd hpos (Nat.lt_irrefl 0)
  obtain ⟨ds, hds, hdigits, rfl, hlen⟩ := digits_of_readNumber hwidth hnumber
  obtain ⟨b, hb, hs⟩ := Text.exists_blanks_dropBlank s
  refine ⟨b ++ ds, ?_, .digits hb hdigits (hlen width rfl), hrange⟩
  rw [hs, hds, List.append_assoc]

theorem lenient_of_readMark {mark : Char} {s r : List Char} (h : readMark mark s = .ok r) :
    ∃ t, s = t ++ r ∧ LenientMark mark t := by
  obtain ⟨b, hb, hs⟩ := Text.exists_blanks_dropBlank s
  rw [readMark] at h
  split at h
  · cases h
  · next c rest hrest =>
    obtain ⟨rfl, rfl⟩ := ok_of_guard h
    refine ⟨b ++ [c], ?_, .mark hb⟩
    rw [hs, hrest, List.append_assoc]
    rfl

theorem lenient_of_readYear {s r : List Char} {y : Int} (h : readYear s = .ok (y, r)) :
    ∃ t, s = t ++ r ∧ LenientYear y t := by
  obtain ⟨b, hb, hs⟩ := Text.exists_blanks_dropBlank s
  rw [readYear.eq_def] at h
  split at h
  · next r' hr =>
    obtain ⟨p, hmap, hrange⟩ := ok_of_bind h
    obtain ⟨⟨n, rest⟩, hnumber, rfl⟩ := ok_of_map hmap
    cases (ok_of_guard hrange).2
    obtain ⟨ds, rfl, hdigits, rfl, -⟩ := digits_of_readNumber (by simp) hnumber
    refine ⟨b ++ '-' :: ds, ?_, .minus hb hdigits⟩
    rw [hs, hr, List.append_assoc]
    rfl
  · next r' hr =>
    obtain ⟨p, hmap, hrange⟩ := ok_of_bind h
    obtain ⟨⟨n, rest⟩, hnumber, rfl⟩ := ok_of_map hmap
    cases (ok_of_guard hrange).2
    obtain ⟨ds, rfl, hdigits, rfl, -⟩ := digits_of_readNumber (by simp) hnumber
    refine ⟨b ++ '+' :: ds, ?_, .plus hb hdigits⟩
    rw [hs, hr, List.append_assoc]
    rfl
  · obtain ⟨p, hmap, hrange⟩ := ok_of_bind h
    obtain ⟨⟨n, rest⟩, hnumber, rfl⟩ := ok_of_map hmap
    cases (ok_of_guard hrange).2
    obtain ⟨ds, hds, hdigits, rfl, hlen⟩ := digits_of_readNumber (by simp) hnumber
    refine ⟨b ++ ds, ?_, .plain (.digits hb hdigits (hlen 4 rfl))⟩
    rw [hs, hds, List.append_assoc]

theorem lenient_of_readSeparator {s r : List Char} (h : readSeparator s = .ok r) :
    ∃ c, s = c :: r ∧ (c = 'T' ∨ c = 't' ∨ c = ' ') := by
  cases s with
  | nil => cases h
  | cons c s =>
    obtain ⟨hc, rfl⟩ := ok_of_guard h
    exact ⟨c, rfl, hc⟩

theorem lenient_of_readFraction {s r : List Char} {nano : Nat}
    (h : readFraction s = .ok (nano, r)) : ∃ t, s = t ++ r ∧ LenientFraction t := by
  rw [readFraction.eq_def] at h
  split at h
  · next rest =>
    obtain ⟨⟨n, after⟩, hnumber, hres⟩ := ok_of_bind h
    obtain ⟨ds, rfl, ⟨hne, hall⟩, -, -⟩ := digits_of_readNumber (by simp) hnumber
    cases hres
    refine ⟨'.' :: (ds ++ after.takeWhile Decimal.isDigit), ?_, .digits ⟨by simp [hne], ?_⟩⟩
    · simp [List.takeWhile_append_dropWhile]
    · intro c hc
      rcases List.mem_append.1 hc with hc | hc
      · exact hall c hc
      · exact List.mem_takeWhile_imp hc
  · cases h
    exact ⟨[], rfl, .none⟩

theorem digits_two {a b : Char} (h : Decimal.isDigit a = true ∧ Decimal.isDigit b = true) :
    Decimal.Digits [a, b] := by
  refine ⟨by simp, ?_⟩
  intro c hc
  rcases List.mem_cons.1 hc with rfl | hc
  · exact h.1
  · rw [List.mem_singleton.1 hc]
    exact h.2

/-- Two digits of minutes are fewer than sixty if the first is at most five. -/
theorem value_lt_sixty {c d : Char} (hc : Decimal.digitValue c ≤ 5)
    (hd : Decimal.isDigit d = true) : Decimal.value [c, d] < 60 := by
  have hdigit := (Decimal.isDigit_iff d).1 hd
  have hvalue : Decimal.value [c, d] = 10 * (10 * 0 + Decimal.digitValue c) +
    Decimal.digitValue d := rfl
  have hunits : Decimal.digitValue d ≤ 9 := by
    unfold Decimal.digitValue
    omega
  omega

theorem gap_split (s : List Char) :
    ∃ g, (∀ c ∈ g, c = ':' ∨ Text.isBlank c = true) ∧
      s = g ++ s.dropWhile fun c => c == ':' || Text.isBlank c := by
  refine ⟨s.takeWhile fun c => c == ':' || Text.isBlank c, ?_,
    (List.takeWhile_append_dropWhile).symm⟩
  intro c hc
  simpa using List.mem_takeWhile_imp hc

theorem lenient_of_readOffsetAmount {s r : List Char} {n : Nat}
    (h : readOffsetAmount s = .ok (n, r)) : ∃ t, s = t ++ r ∧ LenientAmount n t := by
  rw [readOffsetAmount.eq_def] at h
  split at h
  · next a b rest =>
    split at h
    · next hab =>
      obtain ⟨p, hp, hminutes⟩ := ok_of_bind h
      cases hp
      obtain ⟨g, hg, hsplit⟩ := gap_split rest
      simp only at hminutes
      split at hminutes
      · next c d after hafter =>
        split at hminutes
        · next hcd =>
          obtain ⟨hlt, hres⟩ := ok_of_guard hminutes
          cases hres
          refine ⟨[a, b] ++ (g ++ [c, d]), ?_, .digits (digits_two hab) rfl hg (digits_two hcd) rfl
            (value_lt_sixty hlt hcd.2)⟩
          rw [hafter] at hsplit
          rw [hsplit]
          simp
        · cases hminutes
      · split at hminutes <;> cases hminutes
    · obtain ⟨_, hp, -⟩ := ok_of_bind h
      cases hp
  · split at h
    · obtain ⟨_, hp, -⟩ := ok_of_bind h
      cases hp
    · obtain ⟨_, hp, -⟩ := ok_of_bind h
      cases hp

theorem lenient_of_readOffset {s r : List Char} {offset : Int}
    (h : readOffset s = .ok (offset, r)) : ∃ t, s = t ++ r ∧ LenientZone offset t := by
  rw [readOffset.eq_def] at h
  split at h
  · next hutc =>
    cases h
    refine ⟨s.take 3, (List.take_append_drop 3 s).symm, .utc ?_⟩
    simpa [startsUtc] using hutc
  · cases s with
    | nil => cases h
    | cons c s =>
      simp only at h
      split at h
      · next hc =>
        cases h
        exact ⟨[c], rfl, .zulu hc⟩
      · split at h
        · next hc =>
          obtain ⟨⟨n, rest⟩, hamount, hres⟩ := ok_of_map h
          obtain ⟨t, rfl, ht⟩ := lenient_of_readOffsetAmount hamount
          cases hres
          exact ⟨c :: t, rfl, hc ▸ .ahead ht⟩
        · split at h
          · next hc =>
            obtain ⟨⟨n, rest⟩, hamount, hres⟩ := ok_of_map h
            obtain ⟨t, rfl, ht⟩ := lenient_of_readOffsetAmount hamount
            cases hres
            exact ⟨c :: t, rfl, .behind hc ht⟩
          · cases h

/-! ### Whole texts -/

theorem exists_of_ofLocal {date : Date} {hour minute second nano : Nat} {offset : Int}
    {t : Timestamp} (h : ofLocal date hour minute second nano offset = .ok t) :
    date.exists? = true ∧ -1440 < offset ∧ offset < 1440 := by
  rw [ofLocal] at h
  split at h
  · cases h
  · next hdate =>
    split at h
    · cases h
    · next hoffset =>
      rw [Bool.not_eq_false] at hdate
      exact ⟨hdate, by omega, by omega⟩

/-- Whatever is read as a point in time has the lenient form. -/
theorem lenient_of_readChars {s : List Char} {t : Timestamp} (h : readChars s = .ok t) :
    LenientDateTime s := by
  obtain ⟨⟨y, s₁⟩, hyear, h⟩ := ok_of_bind h
  obtain ⟨s₂, hdash, h⟩ := ok_of_bind h
  obtain ⟨⟨mo, s₃⟩, hmonth, h⟩ := ok_of_bind h
  obtain ⟨s₄, hdash', h⟩ := ok_of_bind h
  obtain ⟨⟨d, s₅⟩, hday, h⟩ := ok_of_bind h
  obtain ⟨s₆, hseparator, h⟩ := ok_of_bind h
  obtain ⟨⟨hr, s₇⟩, hhour, h⟩ := ok_of_bind h
  obtain ⟨s₈, hcolon, h⟩ := ok_of_bind h
  obtain ⟨⟨mi, s₉⟩, hminute, h⟩ := ok_of_bind h
  obtain ⟨s₁₀, hcolon', h⟩ := ok_of_bind h
  obtain ⟨⟨sec, s₁₁⟩, hsecond, h⟩ := ok_of_bind h
  obtain ⟨⟨nano, s₁₂⟩, hfraction, h⟩ := ok_of_bind h
  obtain ⟨⟨offset, s₁₃⟩, hoffset, h⟩ := ok_of_bind h
  simp only at hdash hdash' hseparator hcolon hcolon' hsecond hfraction hoffset h
  split at h
  · cases h
  · next hend =>
    obtain ⟨date, less⟩ := exists_of_ofLocal h
    rw [Decidable.not_not] at hend
    obtain ⟨ys, rfl, year⟩ := lenient_of_readYear hyear
    obtain ⟨m₁, rfl, dash⟩ := lenient_of_readMark hdash
    obtain ⟨mos, rfl, month, -, -⟩ := lenient_of_readField (by decide) hmonth
    obtain ⟨m₂, rfl, dash'⟩ := lenient_of_readMark hdash'
    obtain ⟨ds, rfl, day, -, -⟩ := lenient_of_readField (by decide) hday
    obtain ⟨sep, rfl, separator⟩ := lenient_of_readSeparator hseparator
    obtain ⟨hs, rfl, hour, -, hlt⟩ := lenient_of_readField (by decide) hhour
    obtain ⟨m₃, rfl, colon⟩ := lenient_of_readMark hcolon
    obtain ⟨mis, rfl, minute, -, hmi⟩ := lenient_of_readField (by decide) hminute
    obtain ⟨m₄, rfl, colon'⟩ := lenient_of_readMark hcolon'
    obtain ⟨ss, rfl, second, -, hsec⟩ := lenient_of_readField (by decide) hsecond
    obtain ⟨f, rfl, fraction⟩ := lenient_of_readFraction hfraction
    obtain ⟨b, hb, hs₁₂⟩ := Text.exists_blanks_dropBlank s₁₂
    obtain ⟨z, hz, zone⟩ := lenient_of_readOffset hoffset
    obtain ⟨e, he, hs₁₃⟩ := Text.exists_blanks_dropBlank s₁₃
    rw [hend, List.append_nil] at hs₁₃
    rw [hs₁₂, hz, hs₁₃]
    exact .parts year dash month dash' day separator hour colon minute colon' second fraction hb
      zone he date ⟨by omega, by omega, hsec⟩ less

end AccountResolver.Timestamp
