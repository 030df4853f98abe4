import JsWriter.Json.Value
import JsWriter.Proofs.Json.Spelling

/-!
# Every spelling is read

A text that spells a value is read as that value, whatever comes after it:

* `Json.Text.body_append`: the characters of a string up to its closing quote, raw or escaped.
* `Numeral.read_append`: numerals. What comes next must not go on with one (`Numeral.Ends`); what may
  come after a value in a text never does.
* `Json.reader_append`: values, by recursion over the value, for lists and objects along with their
  items and members.
-/
namespace JsWriter

open Json (AreBlanks IsSeparator)

/-! ## Blanks and separators -/

namespace Reader

variable {first : Bool} {c : Char} {blanks separator s : List Char}

theorem isBlank_eq_true_iff (c : Char) :
    isBlank c = true ↔ c = ' ' ∨ c = '\t' ∨ c = '\n' ∨ c = '\r' := by
  simp [isBlank, or_assoc]

theorem skipBlanks_append (hb : AreBlanks blanks) (s : List Char) :
    skipBlanks (blanks ++ s) = skipBlanks s :=
  List.dropWhile_append_of_pos fun c hc => (isBlank_eq_true_iff c).mpr (hb c hc)

theorem skipBlanks_cons (hc : isBlank c = false) (s : List Char) :
    skipBlanks (c :: s) = c :: s :=
  List.dropWhile_cons_of_neg (by simp [hc])

theorem skipBlanks_append_cons (hb : AreBlanks blanks) (hc : isBlank c = false) (s : List Char) :
    skipBlanks (blanks ++ c :: s) = c :: s := by
  rw [skipBlanks_append hb, skipBlanks_cons hc]

theorem nextElement_end (hb : AreBlanks blanks) (s : List Char) :
    nextElement first (blanks ++ ']' :: s) = .ok (false, s) := by
  rw [nextElement, skipBlanks_append_cons hb rfl]
  rfl

theorem nextElement_more (hs : IsSeparator first separator) (hc : isBlank c = false) (hne : c ≠ ']')
    (s : List Char) : nextElement first (separator ++ c :: s) = .ok (true, c :: s) := by
  cases first with
  | true =>
    rw [nextElement, skipBlanks_append_cons hs hc]
    simp
  | false =>
    obtain ⟨before, after, hb, ha, rfl⟩ := hs
    rw [nextElement, List.append_assoc, List.cons_append, skipBlanks_append_cons hb rfl]
    simp [skipBlanks_append_cons ha hc, hne]

theorem nextKey_end (hb : AreBlanks blanks) (s : List Char) :
    nextKey first (blanks ++ '\x7d' :: s) = .ok (none, s) := by
  rw [nextKey, skipBlanks_append_cons hb rfl]
  rfl

theorem nextKey_more (hs : IsSeparator first separator) (s : List Char) :
    nextKey first (separator ++ '"' :: s) = key s := by
  cases first with
  | true =>
    rw [nextKey, skipBlanks_append_cons hs rfl]
    simp
  | false =>
    obtain ⟨before, after, hb, ha, rfl⟩ := hs
    rw [nextKey, List.append_assoc, List.cons_append, skipBlanks_append_cons hb rfl]
    simp [skipBlanks_append_cons ha (show isBlank '"' = false from rfl)]

theorem colon_append (hb : AreBlanks blanks) (s : List Char) : colon (blanks ++ ':' :: s) = .ok s := by
  rw [colon, skipBlanks_append_cons hb rfl]
  rfl

end Reader

/-! ## Strings -/

namespace Json.Text

theorem hexDigit?_eq_some {value : Nat} {digit : Char} (hv : value < 0x10)
    (h : IsHexDigit value digit) : hexDigit? digit = some value := by
  have all : ∀ n < 0x10, hexDigit? n.digitChar = some n ∧ hexDigit? n.digitChar.toUpper = some n := by
    decide
  rcases h with rfl | rfl
  · exact (all value hv).1
  · exact (all value hv).2

theorem hex4_append {value : Nat} {digits : List Char} (hv : value < 0x10000)
    (h : IsHex4 value digits) (s : List Char) : hex4 (digits ++ s) = .ok (value, s) := by
  obtain ⟨a, b, c, d, rfl, ha, hb, hc, hd⟩ := h
  have sum : ((value / 0x1000 * 16 + value / 0x100 % 0x10) * 16 + value / 0x10 % 0x10) * 16 +
      value % 0x10 = value := by omega
  simp only [hex4, List.cons_append, List.nil_append, hexDigit?_eq_some (by omega) ha,
    hexDigit?_eq_some (by omega) hb, hexDigit?_eq_some (by omega) hc,
    hexDigit?_eq_some (by omega) hd, sum]

/-- No character is a surrogate. -/
theorem not_surrogate (c : Char) : ¬ IsHigh c.toNat ∧ ¬ IsLow c.toNat := by
  have hc : c.toNat < 0xD800 ∨ 0xDFFF < c.toNat ∧ c.toNat < 0x110000 := c.valid
  unfold IsHigh IsLow
  omega

theorem toNat_lt (c : Char) : c.toNat < 0x110000 := by
  have hc : c.toNat < 0xD800 ∨ 0xDFFF < c.toNat ∧ c.toNat < 0x110000 := c.valid
  omega

theorem surrogates_isHigh (c : Char) : IsHigh (surrogates c).1 := by
  have := toNat_lt c
  simp only [IsHigh, surrogates]
  omega

theorem surrogates_isLow (c : Char) : IsLow (surrogates c).2 := by
  simp only [IsLow, surrogates]
  omega

theorem joinPair_surrogates {c : Char} (hc : 0xFFFF < c.toNat) :
    joinPair (surrogates c).1 (surrogates c).2 = c := by
  have sum : 0x10000 + ((surrogates c).1 - 0xD800) * 0x400 + ((surrogates c).2 - 0xDC00) =
      c.toNat := by
    simp only [surrogates]
    omega
  rw [joinPair, sum, Char.ofNat_toNat]

theorem unicodeEscape_unit {c : Char} {digits : List Char} (hc : c.toNat ≤ 0xFFFF)
    (h : IsHex4 c.toNat digits) (s : List Char) : unicodeEscape (digits ++ s) = .ok (c, s) := by
  obtain ⟨hh, hl⟩ := not_surrogate c
  simp [unicodeEscape, hex4_append (by omega) h, bind, Except.bind, hh, hl]

theorem unicodeEscape_pair {c : Char} {high low : List Char} (hc : 0xFFFF < c.toNat)
    (hh : IsHex4 (surrogates c).1 high) (hl : IsHex4 (surrogates c).2 low) (s : List Char) :
    unicodeEscape (high ++ ('\\' :: 'u' :: (low ++ s))) = .ok (c, s) := by
  have isHigh := surrogates_isHigh c
  have isLow := surrogates_isLow c
  have notLow : ¬ IsLow (surrogates c).1 := by
    unfold IsHigh at isHigh
    unfold IsLow
    omega
  have lowHalf_eq : lowHalf (surrogates c).1 ('\\' :: 'u' :: (low ++ s)) = .ok (c, s) := by
    simp [lowHalf, hex4_append (by unfold IsLow at isLow; omega) hl, bind, Except.bind, isLow,
      joinPair_surrogates hc]
  simp [unicodeEscape, hex4_append (by unfold IsHigh at isHigh; omega) hh, bind, Except.bind, notLow,
    isHigh, lowHalf_eq]

theorem shortEscape?_of_mem {c letter : Char} (h : (c, letter) ∈ shortEscapes) :
    letter ≠ 'u' ∧ shortEscape? letter = some c := by
  have all : ∀ escape ∈ shortEscapes, escape.2 ≠ 'u' ∧ shortEscape? escape.2 = some escape.1 := by
    decide
  exact all (c, letter) h

theorem escape_short {c letter : Char} (h : (c, letter) ∈ shortEscapes) (s : List Char) :
    escape (letter :: s) = .ok (c, s) := by
  obtain ⟨unicode, short⟩ := shortEscape?_of_mem h
  rw [escape, short]
  exact unicode

theorem next_append {c : Char} {text : List Char} (h : CharSpeltAs c text) (s : List Char) :
    next (text ++ s) = .ok (some c, s) := by
  cases h with
  | raw low quote backslash =>
    have : ¬ c < ' ' := fun h => Nat.not_lt.mpr low (UInt32.lt_iff_toNat_lt.mp h)
    simp [next, this]
  | short letter h => simp [next, escape_short h, Except.map]
  | unit digits hc h => simp [next, escape, unicodeEscape_unit hc h, Except.map]
  | pair high low hc hh hl => simp [next, escape, unicodeEscape_pair hc hh hl, Except.map]

theorem body_append {cs text : List Char} (h : CharsSpeltAs cs text) (start : String)
    (s : List Char) : body start (text ++ '"' :: s) = .ok (start ++ String.ofList cs, s) := by
  induction h generalizing start with
  | nil => simp [body_eq, next]
  | @cons c cs a b hc _ ih =>
    rw [body_eq, List.append_assoc, next_append hc]
    simp only [ih, String.ofList_cons, ← String.append_assoc, String.append_singleton]

end Json.Text

/-! ## Numbers -/

namespace Numeral

variable {atEnd : Cause} {ds text s : List Char}

/-- What comes next doesn't go on with a numeral. -/
def Ends (s : List Char) : Prop :=
  ∀ c ∈ s.head?, c.isDigit = false ∧ c ≠ '.' ∧ c ≠ 'e' ∧ c ≠ 'E'

theorem ends_cons {c : Char} (hc : c.isDigit = false ∧ c ≠ '.' ∧ c ≠ 'e' ∧ c ≠ 'E')
    (s : List Char) : Ends (c :: s) := by
  intro d hd
  obtain rfl : c = d := by simpa using hd
  exact hc

theorem ends_blanks_append {blanks : List Char} (hb : AreBlanks blanks) (hs : Ends s) :
    Ends (blanks ++ s) := by
  cases blanks with
  | nil => exact hs
  | cons b blanks =>
    refine ends_cons ?_ _
    rcases hb b (by simp) with rfl | rfl | rfl | rfl <;> decide

theorem ends_blanks {blanks : List Char} (hb : AreBlanks blanks) : Ends blanks := by
  simpa using ends_blanks_append hb (show Ends [] by simp [Ends])

theorem ends_separator_append {separator : List Char} (hs : IsSeparator false separator)
    (s : List Char) : Ends (separator ++ s) := by
  obtain ⟨before, after, hb, -, rfl⟩ := hs
  rw [List.append_assoc, List.cons_append]
  exact ends_blanks_append hb (ends_cons (by decide) _)

theorem span_append (hd : ∀ d ∈ ds, d.isDigit) (hs : ∀ c ∈ s.head?, c.isDigit = false) :
    span (ds ++ s) = (ds, s) := by
  have stop : s.takeWhile Char.isDigit = [] ∧ s.dropWhile Char.isDigit = s := by
    cases s with
    | nil => exact ⟨rfl, rfl⟩
    | cons c s => simp [hs c rfl]
  rw [span, List.takeWhile_append_of_pos hd, List.dropWhile_append_of_pos hd, stop.1, stop.2,
    List.append_nil]

theorem IsDigits.head (hd : IsDigits ds) :
    ∃ d rest, ds = d :: rest ∧ d.isDigit ∧ d ≠ '-' ∧ d ≠ '+' := by
  obtain ⟨hne, hd⟩ := hd
  cases ds with
  | nil => exact absurd rfl hne
  | cons d rest =>
    have := hd d (by simp)
    refine ⟨d, rest, rfl, this, ?_, ?_⟩ <;> rintro rfl <;> cases this

theorem digits_append (hd : IsDigits ds) (hs : ∀ c ∈ s.head?, c.isDigit = false) :
    digits atEnd (ds ++ s) = .ok (ds, s) := by
  have parts := span_append hd.2 hs
  obtain ⟨d, rest, rfl, digit, -⟩ := hd.head
  rw [List.cons_append] at parts ⊢
  rw [digits, if_pos digit, parts]

theorem readWhole_append (hw : WholeSpeltAs ds text) (hs : ∀ c ∈ s.head?, c.isDigit = false) :
    readWhole atEnd (text ++ s) = .ok (ds, s) := by
  obtain ⟨rfl, rfl | ⟨hd, hz⟩⟩ := hw
  · cases s with
    | nil => rfl
    | cons c s => simp [readWhole, hs c rfl]
  · rw [readWhole, digits_append hd hs]
    intro c r h
    cases text with
    | nil => exact hd.1 rfl
    | cons d ds => simp_all

theorem readFraction_append (hf : FractionSpeltAs ds text)
    (hs : ∀ c ∈ s.head?, c.isDigit = false ∧ c ≠ '.') :
    readFraction atEnd (text ++ s) = .ok (ds, s) := by
  obtain ⟨rfl, rfl⟩ | ⟨hd, rfl⟩ := hf
  · cases s with
    | nil => rfl
    | cons c s => simp [readFraction, (hs c rfl).2]
  · exact digits_append hd fun c hc => (hs c hc).1

theorem readPower_append {negative : Bool} {sign : List Char}
    (hsign : if negative then sign = ['-'] else sign = ['+'] ∨ sign = []) (hd : IsDigits ds)
    (hs : ∀ c ∈ s.head?, c.isDigit = false) :
    readPower atEnd (sign ++ (ds ++ s)) = .ok ((negative, ds), s) := by
  have digits_eq : digits atEnd (ds ++ s) = .ok (ds, s) := digits_append hd hs
  cases negative with
  | true =>
    obtain rfl : sign = ['-'] := hsign
    simp [readPower, digits_eq, Except.map]
  | false =>
    rcases hsign with rfl | rfl
    · simp [readPower, digits_eq, Except.map]
    · obtain ⟨d, rest, rfl, -, minus, plus⟩ := hd.head
      simp_all [readPower, Except.map]

theorem readExponent_append {exponent : Option (Bool × List Char)}
    (he : ExponentSpeltAs exponent text) (hs : Ends s) :
    readExponent atEnd (text ++ s) = .ok (exponent, s) := by
  cases exponent with
  | none =>
    obtain rfl : text = [] := he
    cases s with
    | nil => rfl
    | cons c s => simp [readExponent, (hs c rfl).2.2]
  | some power =>
    obtain ⟨negative, ds⟩ := power
    obtain ⟨mark, sign, hm, hsign, hd, rfl⟩ := he
    have power_eq : readPower atEnd (sign ++ (ds ++ s)) = .ok ((negative, ds), s) :=
      readPower_append hsign hd fun c hc => (hs c hc).1
    rcases hm with rfl | rfl <;> simp [readExponent, power_eq, Except.map]

/-- After the fraction comes an exponent or the end of the numeral. -/
theorem head_exponent {exponent : Option (Bool × List Char)} (he : ExponentSpeltAs exponent text)
    (hs : Ends s) : ∀ c ∈ (text ++ s).head?, c.isDigit = false ∧ c ≠ '.' := by
  intro c hc
  cases exponent with
  | none =>
    obtain rfl : text = [] := he
    exact ⟨(hs c hc).1, (hs c hc).2.1⟩
  | some power =>
    obtain ⟨mark, sign, hm, -, -, rfl⟩ := he
    obtain rfl : mark = c := by simpa using hc
    rcases hm with rfl | rfl <;> decide

/-- After the whole part comes a point or what may follow the fraction. -/
theorem head_fraction (hf : FractionSpeltAs ds text)
    (hs : ∀ c ∈ s.head?, c.isDigit = false ∧ c ≠ '.') :
    ∀ c ∈ (text ++ s).head?, c.isDigit = false := by
  intro c hc
  obtain ⟨-, rfl⟩ | ⟨-, rfl⟩ := hf
  · exact (hs c hc).1
  · obtain rfl : '.' = c := by simpa using hc
    decide

theorem WholeSpeltAs.head (hw : WholeSpeltAs ds text) :
    ∃ d rest, text = d :: rest ∧ d.isDigit ∧ d ≠ '-' := by
  obtain ⟨rfl, rfl | ⟨hd, -⟩⟩ := hw
  · exact ⟨'0', [], rfl, rfl, by decide⟩
  · obtain ⟨d, rest, rfl, digit, minus, -⟩ := hd.head
    exact ⟨d, rest, rfl, digit, minus⟩

theorem read_append {n : Numeral} (hn : n.SpeltAs text) (hs : Ends s) :
    read atEnd (text ++ s) = .ok (n, s) := by
  obtain ⟨negative, ds, fs, power⟩ := n
  obtain ⟨sign, whole, fraction, exponent, hsign, hw, hf, he, rfl⟩ := hn
  have unsigned (negative : Bool) :
      readUnsigned atEnd negative (whole ++ (fraction ++ (exponent ++ s))) =
        .ok (⟨negative, ds, fs, power⟩, s) := by
    have afterFraction := head_exponent he hs
    simp [readUnsigned, readWhole_append hw (head_fraction hf afterFraction),
      readFraction_append hf afterFraction, readExponent_append he hs, bind, Except.bind]
  cases negative with
  | true =>
    obtain rfl : sign = ['-'] := hsign
    simp [read, unsigned]
  | false =>
    obtain rfl : sign = [] := hsign
    obtain ⟨d, rest, rfl, -, minus⟩ := hw.head
    simp_all [read]

end Numeral

theorem Number.SpeltAs.head {number : Number} {text : List Char} (h : number.SpeltAs text) :
    ∃ c rest, text = c :: rest ∧ (c = '-' ∨ c.isDigit) := by
  obtain ⟨⟨negative, ds, fs, power⟩, -, sign, whole, fraction, exponent, hsign, hw, -, -, rfl⟩ := h
  cases negative with
  | true =>
    obtain rfl : sign = ['-'] := hsign
    exact ⟨'-', _, rfl, .inl rfl⟩
  | false =>
    obtain rfl : sign = [] := hsign
    obtain ⟨d, rest, rfl, digit, -⟩ := hw.head
    exact ⟨d, _, rfl, .inr digit⟩

/-- What a number begins with is no blank, and no other value begins with it. -/
theorem Number.first_ne {c : Char} (hc : c = '-' ∨ c.isDigit) :
    Reader.isBlank c = false ∧ c ≠ ']' ∧ c ≠ '[' ∧ c ≠ '\x7b' ∧ c ≠ '"' ∧ c ≠ 'n' ∧ c ≠ 't' ∧ c ≠ 'f' := by
  refine ⟨Bool.eq_false_iff.mpr fun hb => ?_, ?_, ?_, ?_, ?_, ?_, ?_, ?_⟩
  · rcases (Reader.isBlank_eq_true_iff c).mp hb with rfl | rfl | rfl | rfl <;> revert hc <;> decide
  all_goals
    rintro rfl
    revert hc
    decide

theorem Number.read_append {number : Number} {text s : List Char} (h : number.SpeltAs text)
    (hs : Numeral.Ends s) : Number.read (text ++ s) = .ok (number, s) := by
  obtain ⟨numeral, hn, ht⟩ := h
  simp [Number.read, Numeral.read_append ht hs, hn, bind, Except.bind]

/-! ## Values without parts -/

theorem Json.word_append (spelling s : List Char) : Json.word spelling (spelling ++ s) = .ok s := by
  induction spelling with
  | nil => simp [Json.word]
  | cons c spelling ih => simp [Json.word, ih]

theorem Shape.readToken_append {value : Scalar} {text s : List Char} (h : value.SpeltAs text)
    (hs : Numeral.Ends s) : readToken (text ++ s) = .ok (.scalar value, s) := by
  cases value with
  | null =>
    obtain rfl : text = _ := h
    exact congrArg (Except.map _) (Json.word_append ['u', 'l', 'l'] s)
  | bool value =>
    cases value with
    | true =>
      obtain rfl : text = _ := h
      exact congrArg (Except.map _) (Json.word_append ['r', 'u', 'e'] s)
    | false =>
      obtain rfl : text = _ := h
      exact congrArg (Except.map _) (Json.word_append ['a', 'l', 's', 'e'] s)
  | number value =>
    have value_eq := Number.read_append h hs
    obtain ⟨c, rest, rfl, hc⟩ := h.head
    obtain ⟨-, -, other⟩ := Number.first_ne hc
    rw [List.cons_append] at value_eq ⊢
    simp [readToken, other, hc, value_eq, Except.map]
  | string value =>
    obtain ⟨inside, hi, rfl⟩ := h
    have := Json.Text.body_append hi "" s
    simp [readToken, this, Except.map]

/-! ## Values -/

theorem Reader.map_run {ε α β : Type} [OfFault ε] (reader : Reader ε α) (f : α → β) (s : List Char) :
    (reader.map f).run s = (reader.run s).map fun (a, r) => (f a, r) := by
  simp only [Reader.map, Reader.andThen]
  cases reader.run s <;> rfl

/-- The first character of a value is neither a blank nor a closing bracket. -/
theorem Json.SpeltAs.head {json : Json} {text : List Char} (h : json.SpeltAs text) :
    ∃ c rest, text = c :: rest ∧ Reader.isBlank c = false ∧ c ≠ ']' := by
  rcases json with value | items | members
  · rcases value with _ | value | value | value
    · exact ⟨'n', _, h, rfl, by decide⟩
    · cases value with
      | true => exact ⟨'t', _, h, rfl, by decide⟩
      | false => exact ⟨'f', _, h, rfl, by decide⟩
    · obtain ⟨c, rest, rfl, hc⟩ := Number.SpeltAs.head h
      obtain ⟨blank, bracket, -⟩ := Number.first_ne hc
      exact ⟨c, rest, rfl, blank, bracket⟩
    · obtain ⟨inside, -, rfl⟩ := h
      exact ⟨'"', _, rfl, rfl, by decide⟩
  · obtain ⟨inside, -, rfl⟩ := h
    exact ⟨'[', _, rfl, rfl, by decide⟩
  · obtain ⟨inside, -, rfl⟩ := h
    exact ⟨'\x7b', _, rfl, rfl, by decide⟩

/-- A scalar is read with the first token. -/
theorem Shape.read_scalar {value : Scalar} {blanks text s : List Char} (hb : AreBlanks blanks)
    (ht : value.SpeltAs text) (hs : Numeral.Ends s) :
    Shape.read (blanks ++ (text ++ s)) = .ok (.scalar value, s) := by
  obtain ⟨c, rest, rfl, hc, -⟩ := Json.SpeltAs.head (show (Json.scalar value).SpeltAs text from ht)
  have token := readToken_append ht hs
  rw [read, Reader.skipBlanks_append hb, List.cons_append, Reader.skipBlanks_cons hc]
  exact token

theorem Shape.read_list {blanks : List Char} (hb : AreBlanks blanks) (s : List Char) :
    Shape.read (blanks ++ '[' :: s) = .ok (.list, s) := by
  rw [Shape.read, Reader.skipBlanks_append hb]
  rfl

theorem Shape.read_object {blanks : List Char} (hb : AreBlanks blanks) (s : List Char) :
    Shape.read (blanks ++ '\x7b' :: s) = .ok (.object, s) := by
  rw [Shape.read, Reader.skipBlanks_append hb]
  rfl

namespace Json

theorem ItemsSpeltAs.ends {items : List Json} {text : List Char}
    (h : ItemsSpeltAs false items text) (s : List Char) : Numeral.Ends (text ++ s) := by
  cases items with
  | nil =>
    obtain ⟨blanks, hb, rfl⟩ := h
    rw [List.append_assoc]
    exact Numeral.ends_blanks_append hb (Numeral.ends_cons (by decide) _)
  | cons item items =>
    obtain ⟨separator, a, b, hs, -, -, rfl⟩ := h
    rw [List.append_assoc]
    exact Numeral.ends_separator_append hs _

theorem MembersSpeltAs.ends {members : List (String × Json)} {text : List Char}
    (h : MembersSpeltAs false members text) (s : List Char) : Numeral.Ends (text ++ s) := by
  cases members with
  | nil =>
    obtain ⟨blanks, hb, rfl⟩ := h
    rw [List.append_assoc]
    exact Numeral.ends_blanks_append hb (Numeral.ends_cons (by decide) _)
  | cons member members =>
    obtain ⟨separator, name, before, after, a, b, hs, -, -, -, -, -, rfl⟩ := h
    rw [List.append_assoc]
    exact Numeral.ends_separator_append hs _

mutual
/-- **A value.** Blanks before it are passed over. -/
theorem reader_append : ∀ (json : Json) (room : Nat) {blanks text s : List Char}, AreBlanks blanks →
    json.SpeltAs text → json.depth ≤ room → Numeral.Ends s →
      (reader room).run (blanks ++ (text ++ s)) = .ok (json, s)
  | .scalar value, room, blanks, text, s, hb, ht, _, hs => by
    cases room <;> simp only [reader, Shape.reader, Shape.read_scalar hb ht hs] <;> rfl
  | .list items, room, blanks, text, s, hb, ht, hd, _ => by
    obtain ⟨inside, hi, rfl⟩ := ht
    rw [depth] at hd
    obtain ⟨room, rfl⟩ := Nat.exists_eq_add_of_le' (Nat.le_trans (Nat.le_add_left 1 _) hd)
    have inner := foldElements_append items room true [] s hi (by omega)
    simp [reader, Shape.reader, Shape.read_list hb, JsWriter.Json.items, Reader.map_run,
      Reader.elements, inner, Except.map]
  | .object members, room, blanks, text, s, hb, ht, hd, _ => by
    obtain ⟨inside, hi, rfl⟩ := ht
    rw [depth] at hd
    obtain ⟨room, rfl⟩ := Nat.exists_eq_add_of_le' (Nat.le_trans (Nat.le_add_left 1 _) hd)
    have inner := foldMembers_append members room true [] s hi (by omega)
    simp [reader, Shape.reader, Shape.read_object hb, JsWriter.Json.members, Reader.map_run,
      Reader.members, inner, Except.map]

/-- The items of a list come on top of those already found. -/
theorem foldElements_append : ∀ (items : List Json) (room : Nat) (first : Bool)
    (found : List Json) {text : List Char} (s : List Char), ItemsSpeltAs first items text →
      itemsDepth items ≤ room →
      Reader.foldElements (fun found => (reader room).map (· :: found)) first found (text ++ s) =
        .ok (items.reverse ++ found, s)
  | [], room, first, found, text, s, ht, _ => by
    obtain ⟨blanks, hb, rfl⟩ := ht
    rw [Reader.foldElements_eq, List.append_assoc]
    simp [Reader.nextElement_end hb]
  | item :: items, room, first, found, text, s, ht, hd => by
    obtain ⟨separator, a, b, hs, ha, hb, rfl⟩ := ht
    rw [itemsDepth] at hd
    have nothing : AreBlanks [] := by simp [AreBlanks]
    have one := reader_append item room nothing ha (by omega) (hb.ends s)
    have more := foldElements_append items room false (item :: found) s hb (by omega)
    -- Whether an item follows is seen from its first character.
    obtain ⟨c, rest, rfl, hc, bracket⟩ := ha.head
    simp only [List.append_assoc, List.cons_append, List.nil_append] at one ⊢
    rw [Reader.foldElements_eq, Reader.nextElement_more hs hc bracket]
    simp [Reader.map_run, one, Except.map, more]

/-- The members of an object come on top of those already found. -/
theorem foldMembers_append : ∀ (members : List (String × Json)) (room : Nat) (first : Bool)
    (found : List (String × Json)) {text : List Char} (s : List Char),
      MembersSpeltAs first members text → membersDepth members ≤ room →
      Reader.foldMembers (ε := Fault)
        (fun found key => .ok ((reader room).map fun value => (key, value) :: found)) first found
          (text ++ s) = .ok (members.reverse ++ found, s)
  | [], room, first, found, text, s, ht, _ => by
    obtain ⟨blanks, hb, rfl⟩ := ht
    rw [Reader.foldMembers_eq, List.append_assoc]
    simp [Reader.nextKey_end hb]
  | (key, value) :: members, room, first, found, text, s, ht, hd => by
    obtain ⟨separator, name, before, after, a, b, hs, ⟨inside, hn, rfl⟩, hbefore, hafter, ha, hb,
      rfl⟩ := ht
    rw [membersDepth] at hd
    have one := reader_append value room hafter ha (by omega) (hb.ends s)
    have more := foldMembers_append members room false ((key, value) :: found) s hb (by omega)
    simp only [List.append_assoc, List.cons_append, List.nil_append]
    rw [Reader.foldMembers_eq, Reader.nextKey_more hs, Reader.key, Text.body_append hn]
    simp [Except.map, Reader.colon_append hbefore, Reader.map_run, one, more]
end

/-- Reading a text of a value gives the value and leaves blanks. -/
theorem reader_run_text {text : String} {json : Json} (ht : json.HasText text) {room : Nat}
    (hd : json.depth ≤ room) :
    ∃ after, AreBlanks after ∧ (reader room).run text.toList = .ok (json, after) := by
  obtain ⟨before, value, after, hb, hv, ha, ht⟩ := ht
  exact ⟨after, ha, by rw [ht, reader_append json room hb hv hd (Numeral.ends_blanks ha)]⟩

end Json

theorem Reader.finish_blanks {blanks : List Char} (hb : AreBlanks blanks) :
    finish blanks = .ok () := by
  have skipped := skipBlanks_append hb []
  rw [List.append_nil] at skipped
  rw [finish, skipped]
  rfl

end JsWriter
