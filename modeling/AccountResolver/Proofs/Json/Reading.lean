import AccountResolver.Json.Read
import AccountResolver.Proofs.Json.Numbers
import Mathlib.Data.List.DropRight

/-!
# Reading spelled texts

The reader builds from every text the tree that it spells, and in such a tree nothing keeps a
reader from passing over a value. Both go by induction on the spelling, with one motive for each
form: values, items and members.
-/

namespace AccountResolver.Json

open Text (Glyph)

/-! ### White space -/

theorem isSpace_of_gap {w : List Char} (hw : Gap w) {c : Char} (hc : c ∈ w) :
    isSpace (.char c) = true := by
  rcases hw c hc with rfl | rfl | rfl | rfl <;> rfl

theorem skipSpace_gap {w : List Char} (hw : Gap w) (s : List Glyph) :
    skipSpace (glyphs w ++ s) = skipSpace s := by
  induction w with
  | nil => rfl
  | cons c w ih =>
    have hc := isSpace_of_gap hw List.mem_cons_self
    have hrest := ih fun x hx => hw x (List.mem_cons_of_mem _ hx)
    rw [glyphs_cons, List.cons_append, skipSpace, List.dropWhile_cons, if_pos hc]
    exact hrest

theorem skipSpace_mark {c : Char} (h : isSpace (.char c) = false) (s : List Glyph) :
    skipSpace (.char c :: s) = .char c :: s := by
  rw [skipSpace, List.dropWhile_cons, if_neg (by simp [h])]

theorem skipSpace_skipSpace (s : List Glyph) : skipSpace (skipSpace s) = skipSpace s :=
  List.dropWhile_idempotent isSpace s

theorem readValue_skipSpace (fuel : Nat) (s : List Glyph) :
    readValue fuel (skipSpace s) = readValue fuel s := by
  cases fuel with
  | zero => rfl
  | succ fuel => rw [readValue, readValue, skipSpace_skipSpace]

theorem readItems_skipSpace (fuel : Nat) (s : List Glyph) :
    readItems fuel (skipSpace s) = readItems fuel s := by
  cases fuel with
  | zero => rfl
  | succ fuel => rw [readItems, readItems, readValue_skipSpace]

theorem readMembers_skipSpace (fuel : Nat) (s : List Glyph) :
    readMembers fuel (skipSpace s) = readMembers fuel s := by
  cases fuel with
  | zero => rfl
  | succ fuel => rw [readMembers, readMembers, skipSpace_skipSpace]

theorem readValue_gap {w : List Char} (hw : Gap w) (fuel : Nat) (s : List Glyph) :
    readValue fuel (glyphs w ++ s) = readValue fuel s := by
  rw [← readValue_skipSpace, skipSpace_gap hw, readValue_skipSpace]

/-- What comes after the gap behind a value does not go on the value either. -/
theorem ends_gap {w : List Char} (hw : Gap w) {s : List Glyph} (h : Numeral.Ends s) :
    Numeral.Ends (glyphs w ++ s) := by
  cases w with
  | nil => exact h
  | cons c w =>
    apply Numeral.ends_cons
    rcases hw c List.mem_cons_self with rfl | rfl | rfl | rfl <;> decide

/-! ### Beginnings -/

/-- What begins a number. -/
def NumberMark (c : Char) : Prop := c = '-' ∨ Decimal.isDigit c = true

theorem number_head {n : Numeral} {t : List Char} (h : SpellsNumber n t) :
    ∃ c u, t = c :: u ∧ NumberMark c := by
  cases h with
  | @parts negative whole f x fraction exponent hw hf hx =>
    cases negative with
    | true => exact ⟨'-', _, rfl, .inl rfl⟩
    | false =>
      obtain ⟨⟨hne, hall⟩, _⟩ := hw
      cases whole with
      | nil => exact absurd rfl hne
      | cons d ds => exact ⟨d, _, rfl, .inr (hall d List.mem_cons_self)⟩

/-- A number begins as nothing else does. -/
theorem ne_of_numberMark {c d : Char} (hc : NumberMark c)
    (hd : (d == '-' || Decimal.isDigit d) = false) : c ≠ d := by
  rintro rfl
  rcases hc with rfl | hc
  · cases hd
  · rw [hc, Bool.or_true] at hd
    cases hd

theorem isSpace_of_numberMark {c : Char} (hc : NumberMark c) : isSpace (.char c) = false := by
  have hblank : c ≠ ' ' := ne_of_numberMark hc (by decide)
  have hline : c ≠ '\n' := ne_of_numberMark hc (by decide)
  have htab : c ≠ '\t' := ne_of_numberMark hc (by decide)
  have hreturn : c ≠ '\r' := ne_of_numberMark hc (by decide)
  simp [isSpace, hblank, hline, htab, hreturn]

theorem value_head {j : Json} {t : List Char} (h : Spells (.value j) t) :
    ∃ c u, t = c :: u ∧ isSpace (.char c) = false ∧ c ≠ ']' := by
  cases h with
  | null => exact ⟨'n', _, rfl, by decide⟩
  | yes => exact ⟨'t', _, rfl, by decide⟩
  | no => exact ⟨'f', _, rfl, by decide⟩
  | number h =>
    obtain ⟨c, u, rfl, hc⟩ := number_head h
    exact ⟨c, u, rfl, isSpace_of_numberMark hc, ne_of_numberMark hc (by decide)⟩
  | string => exact ⟨'"', _, rfl, by decide⟩
  | noItems => exact ⟨'[', _, rfl, by decide⟩
  | array => exact ⟨'[', _, rfl, by decide⟩
  | noMembers => exact ⟨'\x7b', _, rfl, by decide⟩
  | object => exact ⟨'\x7b', _, rfl, by decide⟩

theorem items_head {js : List Json} {t : List Char} (h : Spells (.items js) t)
    (s : List Glyph) :
    ∃ c r, skipSpace (glyphs t ++ s) = .char c :: r ∧ c ≠ ']' := by
  have hvalue : ∀ {j : Json} {w t v : List Char}, Gap w → Spells (.value j) t →
      ∃ c r, skipSpace (glyphs (w ++ (t ++ v)) ++ s) = .char c :: r ∧ c ≠ ']' := by
    intro j w t v hw h
    obtain ⟨c, u, rfl, hc, hne⟩ := value_head h
    refine ⟨c, glyphs (u ++ v) ++ s, ?_, hne⟩
    rw [glyphs_append, List.append_assoc, skipSpace_gap hw]
    exact skipSpace_mark hc _
  cases h with
  | item hw h hv => exact hvalue hw h
  | items hw h hv hs => exact hvalue hw h

theorem members_head {ms : List (Leaf String × Json)} {t : List Char}
    (h : Spells (.members ms) t) (s : List Glyph) :
    ∃ r, skipSpace (glyphs t ++ s) = .char '"' :: r := by
  cases h with
  | member hw =>
    rw [glyphs_append, List.append_assoc, skipSpace_gap hw]
    exact ⟨_, skipSpace_mark (by decide) _⟩
  | members hw =>
    rw [glyphs_append, List.append_assoc, skipSpace_gap hw]
    exact ⟨_, skipSpace_mark (by decide) _⟩

/-! ### Values -/

theorem readWord_append (w : List Char) (s : List Glyph) :
    readWord w (glyphs w ++ s) = .ok s := by
  induction w with
  | nil => rfl
  | cons c w ih => rw [glyphs_cons, List.cons_append, readWord, if_pos rfl, ih]

theorem keyword_append (j : Json) (word : String) (s : List Glyph) :
    keyword j word (glyphs word.toList ++ s) = (j, some s) := by
  rw [keyword, readWord_append]

/-- The reader takes a part of a text for what it is, and stops where the part ends. Two units
of fuel for each character are enough. -/
def Reads : Form → List Char → Prop
  | .value j, t => ∀ fuel s, 2 * t.length ≤ fuel → Numeral.Ends s →
      readValue fuel (glyphs t ++ s) = (j, some s)
  | .items js, t => ∀ fuel s, 2 * t.length + 1 ≤ fuel →
      readItems fuel (glyphs t ++ .char ']' :: s) = (js, none, some s)
  | .members ms, t => ∀ fuel s, 2 * t.length + 1 ≤ fuel →
      readMembers fuel (glyphs t ++ .char '\x7d' :: s) = (ms, none, some s)

theorem fuel_succ {fuel n : Nat} (h : 2 * (n + 1) ≤ fuel) :
    ∃ f, fuel = f + 1 ∧ 2 * n + 1 ≤ f :=
  ⟨fuel - 1, by omega, by omega⟩

theorem reads_null : Reads (.value .null) "null".toList := by
  intro fuel s hfuel hs
  obtain ⟨fuel, rfl, -⟩ := fuel_succ hfuel
  rw [readValue]
  exact keyword_append .null "ull" s

theorem reads_yes : Reads (.value (.bool true)) "true".toList := by
  intro fuel s hfuel hs
  obtain ⟨fuel, rfl, -⟩ := fuel_succ hfuel
  rw [readValue]
  exact keyword_append (.bool true) "rue" s

theorem reads_no : Reads (.value (.bool false)) "false".toList := by
  intro fuel s hfuel hs
  obtain ⟨fuel, rfl, -⟩ := fuel_succ hfuel
  rw [readValue]
  exact keyword_append (.bool false) "alse" s

theorem reads_number {n : Numeral} {t : List Char} (h : SpellsNumber n t) :
    Reads (.value (.number ⟨n.value, none⟩)) t := by
  intro fuel s hfuel hs
  have hread := Numeral.read_number h hs
  obtain ⟨c, u, rfl, hc⟩ := number_head h
  obtain ⟨fuel, rfl, -⟩ := fuel_succ hfuel
  have hquote : c ≠ '"' := ne_of_numberMark hc (by decide)
  have hbrace : c ≠ '\x7b' := ne_of_numberMark hc (by decide)
  have hbracket : c ≠ '[' := ne_of_numberMark hc (by decide)
  have hn : c ≠ 'n' := ne_of_numberMark hc (by decide)
  have ht : c ≠ 't' := ne_of_numberMark hc (by decide)
  have hf : c ≠ 'f' := ne_of_numberMark hc (by decide)
  rw [glyphs_cons, List.cons_append] at hread ⊢
  rw [readValue, skipSpace_mark (isSpace_of_numberMark hc)]
  simp only [hquote, hbrace, hbracket, hn, ht, hf, if_false]
  rw [hread]
  exact if_pos hc

theorem reads_string {t : List Char} {content : Except Fault String} (h : Says t content) :
    Reads (.value (.string ⟨content, none⟩)) ('"' :: (t ++ ['"'])) := by
  intro fuel s hfuel hs
  obtain ⟨fuel, rfl, -⟩ := fuel_succ hfuel
  have hread := Quoted.read_token h s
  rw [glyphs_cons, List.cons_append, readValue, skipSpace_mark (by decide)]
  simp [glyphs_append, glyphs_cons, glyphs_nil, hread]

/-! ### Arrays and objects -/

theorem reads_noItems {w : List Char} (hw : Gap w) :
    Reads (.value (.array [] none)) ('[' :: (w ++ [']'])) := by
  intro fuel s hfuel hs
  obtain ⟨fuel, rfl, -⟩ := fuel_succ hfuel
  have hskip : skipSpace (glyphs (w ++ [']']) ++ s) = .char ']' :: s := by
    rw [glyphs_append, List.append_assoc, skipSpace_gap hw]
    exact skipSpace_mark (by decide) s
  rw [glyphs_cons, List.cons_append, readValue, skipSpace_mark (by decide)]
  simp [hskip]

theorem reads_array {js : List Json} {t : List Char} (h : Spells (.items js) t)
    (ih : Reads (.items js) t) : Reads (.value (.array js none)) ('[' :: (t ++ [']'])) := by
  intro fuel s hfuel hs
  obtain ⟨fuel, rfl, hlen⟩ := fuel_succ hfuel
  obtain ⟨c, r, hskip, hc⟩ := items_head h (.char ']' :: s)
  have hitems := ih fuel s (by rw [List.length_append] at hlen; omega)
  rw [← readItems_skipSpace, hskip] at hitems
  rw [glyphs_cons, List.cons_append, readValue, skipSpace_mark (by decide)]
  simp [glyphs_append, glyphs_cons, glyphs_nil, hskip, hc, hitems]

theorem reads_noMembers {w : List Char} (hw : Gap w) :
    Reads (.value (.object [] none)) ('\x7b' :: (w ++ ['\x7d'])) := by
  intro fuel s hfuel hs
  obtain ⟨fuel, rfl, -⟩ := fuel_succ hfuel
  have hskip : skipSpace (glyphs (w ++ ['\x7d']) ++ s) = .char '\x7d' :: s := by
    rw [glyphs_append, List.append_assoc, skipSpace_gap hw]
    exact skipSpace_mark (by decide) s
  rw [glyphs_cons, List.cons_append, readValue, skipSpace_mark (by decide)]
  simp [hskip]

theorem reads_object {ms : List (Leaf String × Json)} {t : List Char}
    (h : Spells (.members ms) t) (ih : Reads (.members ms) t) :
    Reads (.value (.object ms none)) ('\x7b' :: (t ++ ['\x7d'])) := by
  intro fuel s hfuel hs
  obtain ⟨fuel, rfl, hlen⟩ := fuel_succ hfuel
  obtain ⟨r, hskip⟩ := members_head h (.char '\x7d' :: s)
  have hmembers := ih fuel s (by rw [List.length_append] at hlen; omega)
  rw [← readMembers_skipSpace, hskip] at hmembers
  rw [glyphs_cons, List.cons_append, readValue, skipSpace_mark (by decide)]
  simp [glyphs_append, glyphs_cons, glyphs_nil, hskip, hmembers]

/-! ### Items -/

/-- An item with the white space around it, up to the mark behind it. -/
theorem readValue_item {j : Json} {w t v : List Char} (hw : Gap w)
    (ih : Reads (.value j) t) (hv : Gap v) {fuel : Nat} (hfuel : 2 * t.length ≤ fuel)
    {s : List Glyph} (hs : Numeral.Ends s) :
    readValue fuel (glyphs (w ++ (t ++ v)) ++ s) = (j, some (glyphs v ++ s)) := by
  rw [glyphs_append, List.append_assoc, readValue_gap hw, glyphs_append, List.append_assoc]
  exact ih fuel (glyphs v ++ s) hfuel (ends_gap hv hs)

theorem skipSpace_gap_mark {v : List Char} (hv : Gap v) {c : Char}
    (hc : isSpace (.char c) = false) (s : List Glyph) :
    skipSpace (glyphs v ++ .char c :: s) = .char c :: s := by
  rw [skipSpace_gap hv, skipSpace_mark hc]

theorem reads_item {j : Json} {w t v : List Char} (hw : Gap w) (ih : Reads (.value j) t)
    (hv : Gap v) : Reads (.items [j]) (w ++ (t ++ v)) := by
  intro fuel s hfuel
  cases fuel with
  | zero => omega
  | succ fuel =>
    have hlen : 2 * t.length ≤ fuel := by
      simp only [List.length_append] at hfuel
      omega
    have hends : Numeral.Ends (.char ']' :: s) := Numeral.ends_cons (by decide) s
    have hvalue := readValue_item hw ih hv hlen hends
    rw [readItems, hvalue]
    simp only [skipSpace_gap_mark hv (c := ']') (by decide), if_true]

theorem reads_items {j : Json} {js : List Json} {w t v u : List Char} (hw : Gap w)
    (ih : Reads (.value j) t) (hv : Gap v) (ihs : Reads (.items js) u) :
    Reads (.items (j :: js)) (w ++ (t ++ (v ++ ',' :: u))) := by
  intro fuel s hfuel
  cases fuel with
  | zero => omega
  | succ fuel =>
    simp only [List.length_append, List.length_cons] at hfuel
    have hlen : 2 * t.length ≤ fuel := by omega
    have hends : Numeral.Ends (.char ',' :: (glyphs u ++ .char ']' :: s)) :=
      Numeral.ends_cons (by decide) _
    have hvalue := readValue_item hw ih hv hlen hends
    have hitems := ihs fuel s (by omega)
    have htext : glyphs (w ++ (t ++ (v ++ ',' :: u))) ++ .char ']' :: s =
        glyphs (w ++ (t ++ v)) ++ .char ',' :: (glyphs u ++ .char ']' :: s) := by
      simp [glyphs]
    rw [readItems, htext, hvalue]
    simp [skipSpace_gap_mark hv (c := ',') (by decide), hitems]

/-! ### Members -/

/-- A member with the white space around it, up to the mark behind it. -/
def memberChars (w k x y t v : List Char) : List Char :=
  w ++ '"' :: (k ++ '"' :: (x ++ ':' :: (y ++ (t ++ v))))

theorem readMembers_member {content : Except Fault String} {j : Json} {w k x y t v : List Char}
    (hw : Gap w) (hk : Says k content) (hx : Gap x) (hy : Gap y) (ih : Reads (.value j) t)
    (hv : Gap v) {fuel : Nat} (hfuel : 2 * t.length ≤ fuel) {c : Char} {s : List Glyph}
    (hs : Numeral.Ends (.char c :: s)) (hc : isSpace (.char c) = false) :
    readMembers (fuel + 1) (glyphs (memberChars w k x y t v) ++ .char c :: s) =
      if c = '\x7d' then ([(⟨content, none⟩, j)], none, some s)
      else if c = ',' then
        let (members, fault, after) := readMembers fuel s
        ((⟨content, none⟩, j) :: members, fault, after)
      else ([(⟨content, none⟩, j)], some .malformed, none) := by
  have hvalue := readValue_item hy ih hv hfuel hs
  have htext : glyphs (memberChars w k x y t v) ++ .char c :: s =
      glyphs w ++ .char '"' :: (glyphs k ++ .char '"' :: (glyphs x ++ .char ':' ::
        (glyphs (y ++ (t ++ v)) ++ .char c :: s))) := by
    simp [glyphs, memberChars]
  rw [readMembers, htext, skipSpace_gap_mark hw (by decide)]
  simp [Quoted.read_token hk, skipSpace_gap_mark hx (c := ':') (by decide), hvalue,
    skipSpace_gap_mark hv hc]

theorem reads_member {content : Except Fault String} {j : Json} {w k x y t v : List Char}
    (hw : Gap w) (hk : Says k content) (hx : Gap x) (hy : Gap y) (ih : Reads (.value j) t)
    (hv : Gap v) : Reads (.members [(⟨content, none⟩, j)]) (memberChars w k x y t v) := by
  intro fuel s hfuel
  cases fuel with
  | zero => omega
  | succ fuel =>
    have hlen : 2 * t.length ≤ fuel := by
      simp only [memberChars, List.length_append, List.length_cons] at hfuel
      omega
    rw [readMembers_member hw hk hx hy ih hv hlen (Numeral.ends_cons (by decide) s) (by decide),
      if_pos rfl]

theorem reads_members {content : Except Fault String} {j : Json}
    {ms : List (Leaf String × Json)} {w k x y t v u : List Char} (hw : Gap w)
    (hk : Says k content) (hx : Gap x) (hy : Gap y) (ih : Reads (.value j) t) (hv : Gap v)
    (ihs : Reads (.members ms) u) :
    Reads (.members ((⟨content, none⟩, j) :: ms))
      (w ++ '"' :: (k ++ '"' :: (x ++ ':' :: (y ++ (t ++ (v ++ ',' :: u)))))) := by
  intro fuel s hfuel
  cases fuel with
  | zero => omega
  | succ fuel =>
    simp only [List.length_append, List.length_cons] at hfuel
    have htext : glyphs (w ++ '"' :: (k ++ '"' :: (x ++ ':' :: (y ++ (t ++ (v ++ ',' :: u)))))) ++
        .char '\x7d' :: s =
        glyphs (memberChars w k x y t v) ++ .char ',' :: (glyphs u ++ .char '\x7d' :: s) := by
      simp [glyphs, memberChars]
    have hmembers := ihs fuel s (by omega)
    rw [htext, readMembers_member hw hk hx hy ih hv (by omega) (Numeral.ends_cons (by decide) _)
      (by decide)]
    simp [hmembers]

/-! ### Whole texts -/

theorem reads_of_spells {f : Form} {t : List Char} (h : Spells f t) : Reads f t := by
  induction h with
  | null => exact reads_null
  | yes => exact reads_yes
  | no => exact reads_no
  | number h => exact reads_number h
  | string h => exact reads_string h
  | noItems hw => exact reads_noItems hw
  | array h ih => exact reads_array h ih
  | noMembers hw => exact reads_noMembers hw
  | object h ih => exact reads_object h ih
  | item hw _ hv ih => exact reads_item hw ih hv
  | items hw _ hv _ ih ihs => exact reads_items hw ih hv ihs
  | member hw hk hx hy _ hv ih => exact reads_member hw hk hx hy ih hv
  | members hw hk hx hy _ hv _ ih ihs => exact reads_members hw hk hx hy ih hv ihs

theorem skipSpace_of_gap {v : List Char} (hv : Gap v) : skipSpace (glyphs v) = [] := by
  have h := skipSpace_gap hv []
  rwa [List.append_nil] at h

/-- A written text is read as the value that it spells, to its end. -/
theorem read_of_written {text : String} {j : Json} (h : Written text j) :
    read (Glyph.ofString text) = (j, none) := by
  obtain ⟨w, t, v, htext, hw, ht, hv⟩ := h
  have hglyphs : Glyph.ofString text = glyphs (w ++ (t ++ v)) ++ [] := by
    rw [List.append_nil, ← htext]
    rfl
  have hlen : 2 * t.length ≤ 2 * (Glyph.ofString text).length + 2 := by
    simp [hglyphs, glyphs]
    omega
  have hvalue := readValue_item hw (reads_of_spells ht) hv hlen Numeral.ends_nil
  rw [← hglyphs] at hvalue
  rw [read, hvalue]
  simp [skipSpace_of_gap hv]

/-! ### Passing over -/

/-- Nothing keeps a reader from passing over this part of a text. -/
def Passable : Form → Prop
  | .value j => j.obstacle = none
  | .items js => obstacleItems js = none
  | .members ms => obstacleMembers ms = none

theorem passable_of_spells {f : Form} {t : List Char} (h : Spells f t) : Passable f := by
  induction h with
  | null => rfl
  | yes => rfl
  | no => rfl
  | number _ => rfl
  | string _ => rfl
  | noItems _ => rfl
  | array _ ih => simpa [Passable, obstacle] using ih
  | noMembers _ => rfl
  | object _ ih => simpa [Passable, obstacle] using ih
  | item _ _ _ ih => simpa [Passable, obstacleItems] using ih
  | items _ _ _ _ ih ihs => simpa [Passable, obstacleItems] using ⟨ih, ihs⟩
  | member _ _ _ _ _ _ ih => simpa [Passable, obstacleMembers] using ih
  | members _ _ _ _ _ _ _ ih ihs => simpa [Passable, obstacleMembers] using ⟨ih, ihs⟩

end AccountResolver.Json
