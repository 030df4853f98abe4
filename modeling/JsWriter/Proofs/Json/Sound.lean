import JsWriter.Proofs.Json.Reads
import JsWriter.Proofs.Results

/-!
# Only spellings are read

The other direction of reading: when a value is read, what was taken off the text is a spelling of that
value behind blanks, so nothing but JSON is ever read. Each reading function has a lemma about what it
takes.

* `Json.Text.next_sound`, `Json.Text.body_sound`: the characters of a string, raw or escaped.
* `Numeral.read_sound`: numerals.
* `Json.reader_sound`: values, with room for the lists and objects in them; by induction on the room,
  for lists and objects along with their items and members.
* `Json.hasText_of_run`, `Json.HasText.unique`: whole texts, which have at most one value.
-/
namespace JsWriter

open Json (AreBlanks IsSeparator)

/-! ## Blanks and separators -/

namespace Json

theorem AreBlanks.append {a b : List Char} (ha : AreBlanks a) (hb : AreBlanks b) :
    AreBlanks (a ++ b) := by
  intro c hc
  rcases List.mem_append.mp hc with hc | hc
  · exact ha c hc
  · exact hb c hc

theorem IsSeparator.append_blanks {first : Bool} {separator blanks : List Char}
    (hs : IsSeparator first separator) (hb : AreBlanks blanks) :
    IsSeparator first (separator ++ blanks) := by
  cases first with
  | true => exact AreBlanks.append hs hb
  | false =>
    obtain ⟨before, after, hbefore, hafter, rfl⟩ := hs
    exact ⟨before, after ++ blanks, hbefore, hafter.append hb, by simp⟩

end Json

namespace Reader

variable {first : Bool} {c : Char} {s r : List Char}

theorem areBlanks_takeWhile (s : List Char) : AreBlanks (s.takeWhile isBlank) := by
  intro c hc
  exact (isBlank_eq_true_iff c).mp (List.all_eq_true.mp List.all_takeWhile c hc)

/-- What `skipBlanks` leaves stands behind blanks. -/
theorem eq_append_skipBlanks (s : List Char) :
    ∃ blanks, AreBlanks blanks ∧ s = blanks ++ skipBlanks s :=
  ⟨s.takeWhile isBlank, areBlanks_takeWhile s, List.takeWhile_append_dropWhile.symm⟩

theorem isBlank_of_skipBlanks_eq (h : skipBlanks s = c :: r) : isBlank c = false := by
  have := List.head?_dropWhile_not isBlank s
  rw [skipBlanks] at h
  simpa [h] using this

theorem nextElement_eq_end (h : nextElement first s = .ok (false, r)) :
    ∃ blanks, AreBlanks blanks ∧ s = blanks ++ ']' :: r := by
  obtain ⟨blanks, hb, hs⟩ := eq_append_skipBlanks s
  unfold nextElement at h
  split at h
  · cases h
  · rename_i heq
    cases h
    exact ⟨blanks, hb, by rw [← heq, ← hs]⟩
  · split at h
    · cases h
    · split at h
      · split at h <;> cases h
      · cases h

/-- An element that follows stands behind a separator; it begins with neither a blank nor a closing
bracket. -/
theorem nextElement_eq_more (h : nextElement first s = .ok (true, r)) :
    ∃ separator c t, IsSeparator first separator ∧ isBlank c = false ∧ c ≠ ']' ∧ r = c :: t ∧
      s = separator ++ r := by
  obtain ⟨blanks, hb, hs⟩ := eq_append_skipBlanks s
  unfold nextElement at h
  split at h
  · cases h
  · cases h
  · rename_i c t bracket heq
    rw [heq] at hs
    split at h
    · rename_i hf
      cases h
      subst hf
      exact ⟨blanks, c, t, hb, isBlank_of_skipBlanks_eq heq, bracket, rfl, hs⟩
    · rename_i hf
      obtain rfl := Bool.eq_false_iff.mpr hf
      obtain ⟨more, hm, ht⟩ := eq_append_skipBlanks t
      split at h
      · rename_i hc
        subst hc
        split at h
        · cases h
        · cases h
        · rename_i notEnd notBracket
          cases h
          cases hr : skipBlanks t with
          | nil => exact absurd hr notEnd
          | cons d u =>
            refine ⟨blanks ++ ',' :: more, d, u, ⟨blanks, more, hb, hm, rfl⟩,
              isBlank_of_skipBlanks_eq hr, fun hd => notBracket _ (hd ▸ hr), rfl, ?_⟩
            rw [hs, List.append_assoc, List.cons_append, ← hr, ← ht]
      · cases h

theorem colon_eq_ok (h : colon s = .ok r) : ∃ blanks, AreBlanks blanks ∧ s = blanks ++ ':' :: r := by
  obtain ⟨blanks, hb, hs⟩ := eq_append_skipBlanks s
  unfold colon at h
  split at h
  · cases h
  · rename_i heq
    cases h
    exact ⟨blanks, hb, by rw [← heq, ← hs]⟩
  · cases h

end Reader

/-! ## Strings -/

namespace Json.Text

variable {s r : List Char}

/-- A character from a range of characters, counted from the first. -/
theorem eq_ofNat_of_range {low high c : Char} (h : low ≤ c ∧ c ≤ high) :
    c = Char.ofNat (low.toNat + (c.toNat - low.toNat)) ∧
      c.toNat - low.toNat ≤ high.toNat - low.toNat := by
  have hl : low.toNat ≤ c.toNat := UInt32.le_iff_toNat_le.mp h.1
  have hh : c.toNat ≤ high.toNat := UInt32.le_iff_toNat_le.mp h.2
  refine ⟨?_, by omega⟩
  rw [show low.toNat + (c.toNat - low.toNat) = c.toNat by omega, Char.ofNat_toNat]

theorem hexDigit?_sound {c : Char} {value : Nat} (h : hexDigit? c = some value) :
    value < 0x10 ∧ IsHexDigit value c := by
  have decimal : ∀ n ≤ 9, Char.ofNat (48 + n) = n.digitChar := by decide
  have lower : ∀ n ≤ 5, Char.ofNat (97 + n) = (n + 10).digitChar := by decide
  have upper : ∀ n ≤ 5, Char.ofNat (65 + n) = (n + 10).digitChar.toUpper := by decide
  unfold hexDigit? at h
  split at h
  · rename_i hc
    obtain ⟨eq, le⟩ := eq_ofNat_of_range hc
    obtain rfl := Option.some.inj h
    exact ⟨Nat.lt_of_le_of_lt le (by decide), .inl (eq.trans (decimal _ le))⟩
  · split at h
    · rename_i hc
      obtain ⟨eq, le⟩ := eq_ofNat_of_range hc
      obtain rfl := Option.some.inj h
      exact ⟨Nat.add_lt_add_right (Nat.lt_succ_of_le le) 10, .inl (eq.trans (lower _ le))⟩
    · split at h
      · rename_i hc
        obtain ⟨eq, le⟩ := eq_ofNat_of_range hc
        obtain rfl := Option.some.inj h
        exact ⟨Nat.add_lt_add_right (Nat.lt_succ_of_le le) 10, .inr (eq.trans (upper _ le))⟩
      · cases h

theorem hex4_sound {value : Nat} (h : hex4 s = .ok (value, r)) :
    value < 0x10000 ∧ ∃ digits, IsHex4 value digits ∧ s = digits ++ r := by
  unfold hex4 at h
  split at h
  · rename_i a b c d t
    split at h
    · rename_i x y z w ha hb hc hd
      obtain ⟨la, da⟩ := hexDigit?_sound ha
      obtain ⟨lb, db⟩ := hexDigit?_sound hb
      obtain ⟨lc, dc⟩ := hexDigit?_sound hc
      obtain ⟨ld, dd⟩ := hexDigit?_sound hd
      obtain ⟨rfl, rfl⟩ := Prod.mk.inj (Except.ok.inj h)
      refine ⟨by omega, [a, b, c, d], ⟨a, b, c, d, rfl, ?_, ?_, ?_, ?_⟩, rfl⟩
      · rwa [show (((x * 16 + y) * 16 + z) * 16 + w) / 0x1000 = x by omega]
      · rwa [show (((x * 16 + y) * 16 + z) * 16 + w) / 0x100 % 0x10 = y by omega]
      · rwa [show (((x * 16 + y) * 16 + z) * 16 + w) / 0x10 % 0x10 = z by omega]
      · rwa [show (((x * 16 + y) * 16 + z) * 16 + w) % 0x10 = w by omega]
    · cases h
  · split at h <;> cases h

theorem toNat_ofNat {n : Nat} (h : n < 0xD800 ∨ 0xDFFF < n ∧ n < 0x110000) :
    (Char.ofNat n).toNat = n := by
  rw [Char.ofNat, dif_pos h]
  rfl

/-- A pair of surrogates stands for the character that is split into them. -/
theorem joinPair_sound {high low : Nat} (hh : IsHigh high) (hl : IsLow low) :
    0xFFFF < (joinPair high low).toNat ∧ surrogates (joinPair high low) = (high, low) := by
  unfold IsHigh at hh
  unfold IsLow at hl
  have value : (joinPair high low).toNat = 0x10000 + (high - 0xD800) * 0x400 + (low - 0xDC00) :=
    toNat_ofNat (by omega)
  refine ⟨by omega, ?_⟩
  simp only [surrogates, value, Prod.mk.injEq]
  omega

theorem lowHalf_sound {high : Nat} {c : Char} (hh : IsHigh high) (h : lowHalf high s = .ok (c, r)) :
    0xFFFF < c.toNat ∧ (surrogates c).1 = high ∧
      ∃ digits, IsHex4 (surrogates c).2 digits ∧ s = '\\' :: 'u' :: (digits ++ r) := by
  unfold lowHalf at h
  split at h
  case h_3 t =>
    obtain ⟨⟨low, u⟩, h4, hj⟩ := bind_eq_ok_iff.mp h
    obtain ⟨-, digits, hd, rfl⟩ := hex4_sound h4
    dsimp only at hj
    split at hj
    · rename_i hl
      obtain ⟨rfl, rfl⟩ := Prod.mk.inj (Except.ok.inj hj)
      obtain ⟨large, halves⟩ := joinPair_sound hh hl
      rw [halves]
      exact ⟨large, rfl, digits, hd, rfl⟩
    · cases hj
  all_goals cases h

theorem unicodeEscape_sound {c : Char} (h : unicodeEscape s = .ok (c, r)) :
    ∃ text, CharSpeltAs c ('\\' :: 'u' :: text) ∧ s = text ++ r := by
  obtain ⟨⟨unit, t⟩, h4, hu⟩ := bind_eq_ok_iff.mp h
  obtain ⟨lt, digits, hd, rfl⟩ := hex4_sound h4
  dsimp only at hu
  split at hu
  · cases hu
  · rename_i notLow
    split at hu
    · rename_i hh
      obtain ⟨large, rfl, more, hm, rfl⟩ := lowHalf_sound hh hu
      exact ⟨digits ++ '\\' :: 'u' :: more, .pair digits more large hd hm, by simp⟩
    · rename_i notHigh
      obtain ⟨rfl, rfl⟩ := Prod.mk.inj (Except.ok.inj hu)
      unfold IsHigh at notHigh
      unfold IsLow at notLow
      have value : (Char.ofNat unit).toNat = unit := toNat_ofNat (by omega)
      exact ⟨digits, .unit digits (by omega) (by rwa [value]), rfl⟩

theorem shortEscape?_sound {letter c : Char} (h : shortEscape? letter = some c) :
    (c, letter) ∈ shortEscapes := by
  unfold shortEscape? at h
  split at h <;> cases h <;> decide

theorem escape_sound {c : Char} (h : escape s = .ok (c, r)) :
    ∃ text, CharSpeltAs c ('\\' :: text) ∧ s = text ++ r := by
  unfold escape at h
  split at h
  · cases h
  · rename_i t
    obtain ⟨text, ht, rfl⟩ := unicodeEscape_sound h
    exact ⟨'u' :: text, ht, rfl⟩
  · rename_i letter t _
    split at h
    · rename_i d hd
      obtain ⟨rfl, rfl⟩ := Prod.mk.inj (Except.ok.inj h)
      exact ⟨[letter], .short letter (shortEscape?_sound hd), rfl⟩
    · cases h

theorem next_eq_end (h : next s = .ok (none, r)) : s = '"' :: r := by
  unfold next at h
  split at h
  · cases h
  · cases h
    rfl
  · obtain ⟨p, -, hp⟩ := map_eq_ok_iff.mp h
    cases hp
  · split at h <;> cases h

theorem next_sound {c : Char} (h : next s = .ok (some c, r)) :
    ∃ text, CharSpeltAs c text ∧ s = text ++ r := by
  unfold next at h
  split at h
  · cases h
  · cases h
  · rename_i t
    obtain ⟨⟨d, u⟩, he, hp⟩ := map_eq_ok_iff.mp h
    cases hp
    obtain ⟨text, ht, rfl⟩ := escape_sound he
    exact ⟨'\\' :: text, ht, rfl⟩
  · rename_i d t quote backslash
    split at h
    · cases h
    · rename_i low
      cases h
      refine ⟨[c], .raw ?_ quote backslash, rfl⟩
      apply Nat.le_of_not_lt
      intro hlt
      exact low (UInt32.lt_iff_toNat_lt.mpr hlt)

theorem body_sound {start t : String} (h : body start s = .ok (t, r)) :
    ∃ cs inside, CharsSpeltAs cs inside ∧ t = start ++ String.ofList cs ∧
      s = inside ++ '"' :: r := by
  fun_induction body start s with
  | case1 => cases h
  | case2 start s r' hn =>
    cases h
    exact ⟨[], [], .nil, by simp, next_eq_end hn⟩
  | case3 start s c r' hn ih =>
    obtain ⟨cs, inside, hc, rfl, rfl⟩ := ih h
    obtain ⟨text, ht, rfl⟩ := next_sound hn
    refine ⟨c :: cs, text ++ inside, .cons ht hc, ?_, by simp⟩
    rw [String.ofList_cons, ← String.append_assoc, String.append_singleton]

/-- A string that was read is spelt between its quotes. -/
theorem body_empty_sound {t : String} (h : body "" s = .ok (t, r)) :
    ∃ text, SpeltAs t ('"' :: text) ∧ s = text ++ r := by
  obtain ⟨cs, inside, hc, rfl, rfl⟩ := body_sound h
  refine ⟨inside ++ ['"'], ⟨inside, ?_, rfl⟩, by simp⟩
  simpa using hc

end Json.Text

/-! ## Keys -/

namespace Reader

variable {first : Bool} {s r : List Char}

theorem nextKey_eq_end (h : nextKey first s = .ok (none, r)) :
    ∃ blanks, AreBlanks blanks ∧ s = blanks ++ '\x7d' :: r := by
  have noKey : ∀ t, key t ≠ .ok (none, r) := by
    intro t hk
    obtain ⟨p, -, hp⟩ := map_eq_ok_iff.mp hk
    cases hp
  obtain ⟨blanks, hb, hs⟩ := eq_append_skipBlanks s
  unfold nextKey at h
  split at h
  · cases h
  · rename_i heq
    cases h
    exact ⟨blanks, hb, by rw [← heq, ← hs]⟩
  · split at h
    · split at h
      · exact absurd h (noKey _)
      · cases h
    · split at h
      · split at h
        · cases h
        · exact absurd h (noKey _)
        · cases h
        · cases h
      · cases h

theorem nextKey_eq_more {name : String} (h : nextKey first s = .ok (some name, r)) :
    ∃ separator text, IsSeparator first separator ∧ Json.Text.SpeltAs name text ∧
      s = separator ++ (text ++ r) := by
  have quoted : ∀ t, key t = .ok (some name, r) →
      ∃ text, Json.Text.SpeltAs name text ∧ '"' :: t = text ++ r := by
    intro t hk
    obtain ⟨p, hb, hp⟩ := map_eq_ok_iff.mp hk
    cases hp
    obtain ⟨text, ht, rfl⟩ := Json.Text.body_empty_sound hb
    exact ⟨'"' :: text, ht, rfl⟩
  obtain ⟨blanks, hb, hs⟩ := eq_append_skipBlanks s
  unfold nextKey at h
  split at h
  · cases h
  · cases h
  · rename_i c t brace heq
    rw [heq] at hs
    split at h
    · rename_i hf
      subst hf
      split at h
      · rename_i hc
        subst hc
        obtain ⟨text, ht, he⟩ := quoted t h
        exact ⟨blanks, text, hb, ht, by rw [hs, he]⟩
      · cases h
    · rename_i hf
      obtain rfl := Bool.eq_false_iff.mpr hf
      obtain ⟨more, hm, ht⟩ := eq_append_skipBlanks t
      split at h
      · rename_i hc
        subst hc
        split at h
        · cases h
        · rename_i u hu
          obtain ⟨text, hk, he⟩ := quoted u h
          refine ⟨blanks ++ ',' :: more, text, ⟨blanks, more, hb, hm, rfl⟩, hk, ?_⟩
          rw [hs, List.append_assoc, List.cons_append, ← he, ← hu, ← ht]
        · cases h
        · cases h
      · cases h

end Reader

/-! ## Numbers -/

namespace Numeral

variable {atEnd : Cause} {s r ds : List Char}

theorem eq_append_of_span {rest : List Char} (h : span s = (ds, rest)) :
    s = ds ++ rest ∧ ∀ d ∈ ds, d.isDigit := by
  obtain ⟨rfl, rfl⟩ := Prod.mk.inj h
  exact ⟨List.takeWhile_append_dropWhile.symm, List.all_eq_true.mp List.all_takeWhile⟩

theorem digits_sound (h : digits atEnd s = .ok (ds, r)) : IsDigits ds ∧ s = ds ++ r := by
  unfold digits at h
  split at h
  · cases h
  · rename_i c t
    split at h
    · rename_i hc
      obtain ⟨eq, hd⟩ := eq_append_of_span (Except.ok.inj h)
      refine ⟨⟨?_, hd⟩, eq⟩
      rintro rfl
      obtain ⟨hw, -⟩ := Prod.mk.inj (Except.ok.inj h)
      rw [List.takeWhile_cons_of_pos hc] at hw
      cases hw
    · cases h

theorem readWhole_sound (h : readWhole atEnd s = .ok (ds, r)) :
    WholeSpeltAs ds ds ∧ s = ds ++ r := by
  unfold readWhole at h
  split at h
  · split at h
    · cases h
    · cases h
      exact ⟨⟨rfl, .inl rfl⟩, rfl⟩
  · rename_i t notZero
    obtain ⟨hd, rfl⟩ := digits_sound h
    obtain ⟨d, rest, rfl, -⟩ := hd.head
    refine ⟨⟨rfl, ?_⟩, rfl⟩
    by_cases hz : d = '0'
    · -- A zero that another character follows has been dealt with before.
      subst hz
      cases rest with
      | nil => exact .inl rfl
      | cons e rest => exact absurd rfl (notZero e (rest ++ r))
    · refine .inr ⟨hd, ?_⟩
      intro he
      exact hz (Option.some.inj he)

theorem readFraction_sound (h : readFraction atEnd s = .ok (ds, r)) :
    ∃ text, FractionSpeltAs ds text ∧ s = text ++ r := by
  unfold readFraction at h
  split at h
  · obtain ⟨hd, rfl⟩ := digits_sound h
    exact ⟨'.' :: ds, .inr ⟨hd, rfl⟩, rfl⟩
  · cases h
    exact ⟨[], .inl ⟨rfl, rfl⟩, rfl⟩

theorem readPower_sound {negative : Bool} (h : readPower atEnd s = .ok ((negative, ds), r)) :
    ∃ sign, (if negative then sign = ['-'] else sign = ['+'] ∨ sign = []) ∧ IsDigits ds ∧
      s = sign ++ (ds ++ r) := by
  unfold readPower at h
  split at h
  · obtain ⟨p, hd, hp⟩ := map_eq_ok_iff.mp h
    cases hp
    obtain ⟨isDigits, rfl⟩ := digits_sound hd
    exact ⟨['-'], rfl, isDigits, rfl⟩
  · obtain ⟨p, hd, hp⟩ := map_eq_ok_iff.mp h
    cases hp
    obtain ⟨isDigits, rfl⟩ := digits_sound hd
    exact ⟨['+'], .inl rfl, isDigits, rfl⟩
  · obtain ⟨p, hd, hp⟩ := map_eq_ok_iff.mp h
    cases hp
    obtain ⟨isDigits, rfl⟩ := digits_sound hd
    exact ⟨[], .inr rfl, isDigits, rfl⟩

theorem readExponent_sound {exponent : Option (Bool × List Char)}
    (h : readExponent atEnd s = .ok (exponent, r)) :
    ∃ text, ExponentSpeltAs exponent text ∧ s = text ++ r := by
  unfold readExponent at h
  split at h
  · obtain ⟨⟨⟨negative, ds⟩, t⟩, hp, he⟩ := map_eq_ok_iff.mp h
    cases he
    obtain ⟨sign, hs, hd, rfl⟩ := readPower_sound hp
    exact ⟨'e' :: sign ++ ds, ⟨'e', sign, .inl rfl, hs, hd, rfl⟩, by simp⟩
  · obtain ⟨⟨⟨negative, ds⟩, t⟩, hp, he⟩ := map_eq_ok_iff.mp h
    cases he
    obtain ⟨sign, hs, hd, rfl⟩ := readPower_sound hp
    exact ⟨'E' :: sign ++ ds, ⟨'E', sign, .inr rfl, hs, hd, rfl⟩, by simp⟩
  · cases h
    exact ⟨[], rfl, rfl⟩

theorem readUnsigned_sound {negative : Bool} {n : Numeral} {sign : List Char}
    (hs : SignSpeltAs negative sign) (h : readUnsigned atEnd negative s = .ok (n, r)) :
    ∃ text, n.SpeltAs text ∧ sign ++ s = text ++ r := by
  obtain ⟨⟨whole, s₁⟩, hw, h⟩ := bind_eq_ok_iff.mp h
  obtain ⟨⟨fraction, s₂⟩, hf, h⟩ := bind_eq_ok_iff.mp h
  obtain ⟨⟨exponent, s₃⟩, he, h⟩ := bind_eq_ok_iff.mp h
  obtain ⟨rfl, rfl⟩ := Prod.mk.inj (Except.ok.inj h)
  obtain ⟨sw, rfl⟩ := readWhole_sound hw
  obtain ⟨ft, sf, rfl⟩ := readFraction_sound hf
  obtain ⟨et, se, rfl⟩ := readExponent_sound he
  exact ⟨sign ++ (whole ++ (ft ++ et)), ⟨sign, whole, ft, et, hs, sw, sf, se, rfl⟩, by simp⟩

theorem read_sound {n : Numeral} (h : read atEnd s = .ok (n, r)) :
    ∃ text, n.SpeltAs text ∧ s = text ++ r := by
  have minus : SignSpeltAs true ['-'] := rfl
  have nothing : SignSpeltAs false [] := rfl
  unfold read at h
  split at h
  · exact readUnsigned_sound minus h
  · exact readUnsigned_sound nothing h

end Numeral

theorem Number.read_sound {number : Number} {s r : List Char}
    (h : Number.read s = .ok (number, r)) : ∃ text, number.SpeltAs text ∧ s = text ++ r := by
  obtain ⟨⟨n, t⟩, hn, hv⟩ := bind_eq_ok_iff.mp h
  obtain ⟨text, spelt, rfl⟩ := Numeral.read_sound hn
  dsimp only at hv
  split at hv
  · rename_i value hv'
    obtain ⟨rfl, rfl⟩ := Prod.mk.inj (Except.ok.inj hv)
    exact ⟨text, ⟨n, hv', spelt⟩, rfl⟩
  · cases hv

/-! ## Values -/

theorem Json.word_sound {spelling s r : List Char} (h : Json.word spelling s = .ok r) :
    s = spelling ++ r := by
  fun_induction Json.word spelling s with
  | case1 s => exact Except.ok.inj h
  | case2 => cases h
  | case3 cs d t ih => rw [List.cons_append, ← ih h]
  | case4 => cases h

/-- The first token of a value: a whole scalar, or an opening bracket. -/
def Shape.TokenSpeltAs : Shape → List Char → Prop
  | .scalar value, text => value.SpeltAs text
  | .list, text => text = ['[']
  | .object, text => text = ['\x7b']

theorem Shape.readToken_sound {shape : Shape} {s r : List Char}
    (h : Shape.readToken s = .ok (shape, r)) : ∃ text, shape.TokenSpeltAs text ∧ s = text ++ r := by
  unfold Shape.readToken at h
  split at h
  · cases h
  · cases h
    exact ⟨['['], rfl, rfl⟩
  · cases h
    exact ⟨['\x7b'], rfl, rfl⟩
  · obtain ⟨⟨t, u⟩, hb, hp⟩ := map_eq_ok_iff.mp h
    cases hp
    obtain ⟨text, spelt, rfl⟩ := Json.Text.body_empty_sound hb
    exact ⟨'"' :: text, spelt, rfl⟩
  · obtain ⟨t, hw, hp⟩ := map_eq_ok_iff.mp h
    cases hp
    exact ⟨_, rfl, congrArg _ (Json.word_sound hw)⟩
  · obtain ⟨t, hw, hp⟩ := map_eq_ok_iff.mp h
    cases hp
    exact ⟨_, rfl, congrArg _ (Json.word_sound hw)⟩
  · obtain ⟨t, hw, hp⟩ := map_eq_ok_iff.mp h
    cases hp
    exact ⟨_, rfl, congrArg _ (Json.word_sound hw)⟩
  · split at h
    · obtain ⟨⟨n, t⟩, hn, hp⟩ := map_eq_ok_iff.mp h
      cases hp
      exact Number.read_sound hn
    · cases h

theorem Shape.read_sound {shape : Shape} {s r : List Char} (h : Shape.read s = .ok (shape, r)) :
    ∃ blanks text, AreBlanks blanks ∧ shape.TokenSpeltAs text ∧ s = blanks ++ (text ++ r) := by
  obtain ⟨blanks, hb, hs⟩ := Reader.eq_append_skipBlanks s
  obtain ⟨text, ht, he⟩ := Shape.readToken_sound h
  exact ⟨blanks, text, hb, ht, by rw [← he, ← hs]⟩

namespace Json

/-- What was read of a text is a spelling of the value, nested no deeper than there is room for. -/
def Sound (room : Nat) (s : List Char) (json : Json) (r : List Char) : Prop :=
  ∃ blanks text, AreBlanks blanks ∧ json.SpeltAs text ∧ json.depth ≤ room ∧
    s = blanks ++ (text ++ r)

variable {room : Nat}

theorem foldElements_sound
    (ih : ∀ {s r json}, (reader room).run s = .ok (json, r) → Sound room s json r)
    {first : Bool} {found last : List Json} {s r : List Char}
    (h : Reader.foldElements (fun found => (reader room).map (· :: found)) first found s =
      .ok (last, r)) :
    ∃ items text, ItemsSpeltAs first items text ∧ itemsDepth items ≤ room ∧
      last = items.reverse ++ found ∧ s = text ++ r := by
  fun_induction Reader.foldElements (fun found => (reader room).map (· :: found)) first found s with
  | case1 => cases h
  | case2 first found s r' hn =>
    cases h
    obtain ⟨blanks, hb, rfl⟩ := Reader.nextElement_eq_end hn
    exact ⟨[], blanks ++ [']'], ⟨blanks, hb, rfl⟩, Nat.zero_le _, rfl, by simp⟩
  | case3 => cases h
  | case4 first found s s₁ hn next s₂ hi ih' =>
    obtain ⟨items, text, ht, hd, rfl, rfl⟩ := ih' h
    obtain ⟨separator, c, t, hs, -, -, -, rfl⟩ := Reader.nextElement_eq_more hn
    rw [Reader.map_run] at hi
    obtain ⟨⟨json, u⟩, hr, hp⟩ := map_eq_ok_iff.mp hi
    cases hp
    obtain ⟨blanks, a, hb, ha, hj, he⟩ := ih hr
    refine ⟨json :: items, separator ++ blanks ++ (a ++ text),
      ⟨separator ++ blanks, a, text, hs.append_blanks hb, ha, ht, rfl⟩, ?_, by simp, ?_⟩
    · rw [itemsDepth]
      omega
    · rw [he]
      simp

theorem foldMembers_sound
    (ih : ∀ {s r json}, (reader room).run s = .ok (json, r) → Sound room s json r)
    {first : Bool} {found last : List (String × Json)} {s r : List Char}
    (h : Reader.foldMembers (ε := Fault)
      (fun found key => .ok ((reader room).map fun value => (key, value) :: found)) first found s =
      .ok (last, r)) :
    ∃ members text, MembersSpeltAs first members text ∧ membersDepth members ≤ room ∧
      last = members.reverse ++ found ∧ s = text ++ r := by
  fun_induction Reader.foldMembers (ε := Fault)
      (fun found key => .ok ((reader room).map fun value => (key, value) :: found)) first found s with
  | case1 => cases h
  | case2 first found s r' hn =>
    cases h
    obtain ⟨blanks, hb, rfl⟩ := Reader.nextKey_eq_end hn
    exact ⟨[], blanks ++ ['\x7d'], ⟨blanks, hb, rfl⟩, Nat.zero_le _, rfl, by simp⟩
  | case3 => cases h
  | case4 => cases h
  | case5 => cases h
  | case6 first found s key s₁ hn value hv s₂ hc next s₃ hi ih' =>
    obtain ⟨members, text, ht, hd, rfl, rfl⟩ := ih' h
    obtain ⟨separator, name, hs, hk, rfl⟩ := Reader.nextKey_eq_more hn
    obtain ⟨before, hb, rfl⟩ := Reader.colon_eq_ok hc
    cases hv
    rw [Reader.map_run] at hi
    obtain ⟨⟨json, u⟩, hr, hp⟩ := map_eq_ok_iff.mp hi
    cases hp
    obtain ⟨after, a, ha, hj, hjd, rfl⟩ := ih hr
    refine ⟨(key, json) :: members, _,
      ⟨separator, name, before, after, a, text, hs, hk, hb, ha, hj, ht, rfl⟩, ?_, by simp, by simp⟩
    rw [membersDepth]
    omega

/-- **A value that was read** is spelt by what was read of the text, behind blanks. -/
theorem reader_sound (room : Nat) {s r : List Char} {json : Json}
    (h : (reader room).run s = .ok (json, r)) : Sound room s json r := by
  induction room generalizing s r json with
  | zero =>
    unfold reader Shape.reader at h
    dsimp only at h
    split at h
    · cases h
    · rename_i value t hs
      obtain ⟨rfl, rfl⟩ := Prod.mk.inj (Except.ok.inj h)
      obtain ⟨blanks, text, hb, ht, rfl⟩ := Shape.read_sound hs
      exact ⟨blanks, text, hb, ht, Nat.zero_le _, rfl⟩
    · cases h
    · cases h
  | succ room ih =>
    unfold reader Shape.reader at h
    dsimp only at h
    split at h
    · cases h
    · rename_i value t hs
      obtain ⟨rfl, rfl⟩ := Prod.mk.inj (Except.ok.inj h)
      obtain ⟨blanks, text, hb, ht, rfl⟩ := Shape.read_sound hs
      exact ⟨blanks, text, hb, ht, Nat.zero_le _, rfl⟩
    · rename_i t hs
      obtain ⟨blanks, text, hb, rfl, rfl⟩ := Shape.read_sound hs
      simp only [JsWriter.Json.items, Reader.map_run] at h
      obtain ⟨p, hm, hp⟩ := map_eq_ok_iff.mp h
      obtain ⟨q, hf, hq⟩ := map_eq_ok_iff.mp hm
      cases hq
      cases hp
      obtain ⟨items, inside, hi, hd, hl, rfl⟩ := foldElements_sound ih hf
      refine ⟨blanks, '[' :: inside, hb, ⟨inside, ?_, rfl⟩, ?_, by simp⟩
      · rw [hl]
        simpa using hi
      · rw [hl, depth]
        simpa using hd
    · rename_i t hs
      obtain ⟨blanks, text, hb, rfl, rfl⟩ := Shape.read_sound hs
      simp only [JsWriter.Json.members, Reader.map_run] at h
      obtain ⟨p, hm, hp⟩ := map_eq_ok_iff.mp h
      obtain ⟨q, hf, hq⟩ := map_eq_ok_iff.mp hm
      cases hq
      cases hp
      obtain ⟨members, inside, hi, hd, hl, rfl⟩ := foldMembers_sound ih hf
      refine ⟨blanks, '\x7b' :: inside, hb, ⟨inside, ?_, rfl⟩, ?_, by simp⟩
      · rw [hl]
        simpa using hi
      · rw [hl, depth]
        simpa using hd

/-! ## Whole texts -/

/-- A text of which a value is read and blanks are left has the value. -/
theorem hasText_of_run {text : String} {json : Json} {r : List Char}
    (h : (reader room).run text.toList = .ok (json, r)) (hr : AreBlanks r) :
    json.HasText text ∧ json.depth ≤ room := by
  obtain ⟨blanks, value, hb, hv, hd, ht⟩ := reader_sound room h
  exact ⟨⟨blanks, value, r, hb, hv, hr, ht⟩, hd⟩

/-- A text has at most one value. -/
theorem HasText.unique {text : String} {a b : Json} (ha : a.HasText text) (hb : b.HasText text) :
    a = b := by
  -- With room for both, both are what is read.
  obtain ⟨_, -, ra⟩ := reader_run_text ha (Nat.le_max_left a.depth b.depth)
  obtain ⟨_, -, rb⟩ := reader_run_text hb (Nat.le_max_right a.depth b.depth)
  rw [ra] at rb
  exact (Prod.mk.inj (Except.ok.inj rb)).1

end Json

/-- Nothing but blanks is left where a text ends well. -/
theorem Reader.areBlanks_of_finish {s : List Char} (h : Reader.finish s = .ok ()) : AreBlanks s := by
  obtain ⟨blanks, hb, hs⟩ := Reader.eq_append_skipBlanks s
  unfold Reader.finish at h
  split at h
  · rename_i heq
    rw [heq, List.append_nil] at hs
    rwa [hs]
  · cases h

end JsWriter
