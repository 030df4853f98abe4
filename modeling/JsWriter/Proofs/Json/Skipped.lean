import JsWriter.Json.Skip
import JsWriter.Proofs.Json.Reads

/-!
# Every spelling is passed over

A text that spells a value is passed over as a whole, whatever the value and however deeply it is nested.
Where a list or an object opens, its bracket goes on a stack, so what is passed over is stated by what is
left to be done: the brackets that were open before still are.

* `Skip.text_append`: a string up to its closing quote.
* `Skip.value_append`: values, by recursion over the value along with what is left of a list or an object
  after its first element.
-/
namespace JsWriter.Skip

open Json (AreBlanks ItemsSpeltAs MembersSpeltAs)
open Json.Text (CharSpeltAs CharsSpeltAs IsHex4 shortEscapes surrogates)

variable {blanks inside s r : List Char}

/-! ## Strings -/

/-- An escape in a string. -/
theorem text_escape (h : escape s = .ok r) : text ('\\' :: s) = text r := by
  rw [text]
  split <;> simp_all

theorem escape_short {c letter : Char} (h : (c, letter) ∈ shortEscapes) (s : List Char) :
    escape (letter :: s) = .ok s := by
  obtain ⟨unicode, short⟩ := Json.Text.shortEscape?_of_mem h
  rw [escape, short]
  exact unicode

theorem escape_hex4 {value : Nat} {digits : List Char} (hv : value < 0x10000)
    (h : IsHex4 value digits) (s : List Char) : escape ('u' :: (digits ++ s)) = .ok s := by
  simp [escape, Json.Text.hex4_append hv h, Except.map]

/-- A pair of surrogates is passed over as two escapes. -/
theorem text_char {c : Char} {spelling : List Char} (h : CharSpeltAs c spelling) (s : List Char) :
    text (spelling ++ s) = text s := by
  cases h with
  | raw low quote backslash =>
    have visible : ¬ c < ' ' := fun h => Nat.not_lt.mpr low (UInt32.lt_iff_toNat_lt.mp h)
    rw [List.singleton_append, text]
    · rw [if_neg visible]
    · exact quote
    · exact backslash
  | short letter h => exact text_escape (escape_short h s)
  | unit digits hc h => exact text_escape (escape_hex4 (by omega) h s)
  | pair high low hc hh hl =>
    have isHigh := Json.Text.surrogates_isHigh c
    have isLow := Json.Text.surrogates_isLow c
    unfold Json.Text.IsHigh at isHigh
    unfold Json.Text.IsLow at isLow
    simp only [List.cons_append, List.append_assoc]
    rw [text_escape (escape_hex4 (by omega) hh _), text_escape (escape_hex4 (by omega) hl _)]

theorem text_append {cs inside : List Char} (h : CharsSpeltAs cs inside) (s : List Char) :
    text (inside ++ '"' :: s) = .ok s := by
  induction h with
  | nil => simp [text]
  | cons hc _ ih => rw [List.append_assoc, text_char hc, ih]

theorem key_append {name : String} {text before : List Char} (hb : AreBlanks blanks)
    (hn : Json.Text.SpeltAs name text) (hbefore : AreBlanks before) (s : List Char) :
    key (blanks ++ (text ++ (before ++ ':' :: s))) = .ok s := by
  obtain ⟨inside, hi, rfl⟩ := hn
  simp only [List.append_assoc, List.cons_append, List.nil_append]
  rw [key, Reader.skipBlanks_append_cons hb rfl]
  simp [text_append hi, Except.bind, Reader.colon_append hbefore]

/-! ## Tokens -/

theorem token_scalar {value : Scalar} {text : List Char} (hb : AreBlanks blanks)
    (h : value.SpeltAs text) (hs : Numeral.Ends s) : token (blanks ++ (text ++ s)) = .ok (none, s) := by
  rw [token, Reader.skipBlanks_append hb]
  cases value with
  | null =>
    obtain rfl : text = _ := h
    exact congrArg (Except.map _) (Json.word_append ['u', 'l', 'l'] s)
  | bool value =>
    cases value with
    | true =>
      obtain rfl : text = _ := h
      exact congrArg (Except.map _) (Json.word_append ['r', 'u', 'e'] s)
    | false =>
      obtain rfl : text = _ := h
      exact congrArg (Except.map _) (Json.word_append ['a', 'l', 's', 'e'] s)
  | number value =>
    obtain ⟨c, rest, rfl, hc⟩ := Number.SpeltAs.head h
    obtain ⟨blank, -, other⟩ := Number.first_ne hc
    obtain ⟨numeral, -, hn⟩ := h
    have numeral_eq : Numeral.read .badNumber _ = _ := Numeral.read_append hn hs
    rw [List.cons_append] at numeral_eq ⊢
    simp [Reader.skipBlanks_cons blank, scalar, other, hc, numeral_eq, Except.map]
  | string value =>
    obtain ⟨inside, hi, rfl⟩ := h
    simp [Reader.skipBlanks_cons, Reader.isBlank, scalar, text_append hi, Except.map]

theorem token_list_empty (hb : AreBlanks blanks) (hi : AreBlanks inside) (s : List Char) :
    token (blanks ++ '[' :: (inside ++ ']' :: s)) = .ok (none, s) := by
  rw [token, Reader.skipBlanks_append_cons hb rfl]
  simp [Reader.skipBlanks_append_cons hi, Reader.isBlank]

theorem token_list {c : Char} (hb : AreBlanks blanks) (hi : AreBlanks inside)
    (hc : Reader.isBlank c = false) (hne : c ≠ ']') (s : List Char) :
    token (blanks ++ '[' :: (inside ++ c :: s)) = .ok (some .list, c :: s) := by
  rw [token, Reader.skipBlanks_append_cons hb rfl]
  simp [Reader.skipBlanks_append_cons hi hc, hne]

theorem token_object_empty (hb : AreBlanks blanks) (hi : AreBlanks inside) (s : List Char) :
    token (blanks ++ '\x7b' :: (inside ++ '\x7d' :: s)) = .ok (none, s) := by
  rw [token, Reader.skipBlanks_append_cons hb rfl]
  simp [Reader.skipBlanks_append_cons hi, Reader.isBlank]

theorem token_object {name : String} {text before : List Char} (hb : AreBlanks blanks)
    (hi : AreBlanks inside) (hn : Json.Text.SpeltAs name text) (hbefore : AreBlanks before)
    (s : List Char) :
    token (blanks ++ '\x7b' :: (inside ++ (text ++ (before ++ ':' :: s)))) = .ok (some .object, s) := by
  have key_eq := key_append Json.areBlanks_nil hn hbefore s
  obtain ⟨characters, -, rfl⟩ := hn
  simp only [List.append_assoc, List.cons_append, List.nil_append] at key_eq ⊢
  rw [token, Reader.skipBlanks_append_cons hb rfl]
  simp [Reader.skipBlanks_append_cons hi, Reader.isBlank, key_eq, Except.map]

theorem separator_end (hb : AreBlanks blanks) (s : List Char) :
    separator .list (blanks ++ ']' :: s) = .ok (false, s) := by
  simp [separator, Reader.skipBlanks_append_cons hb, Reader.isBlank]

theorem separator_end_object (hb : AreBlanks blanks) (s : List Char) :
    separator .object (blanks ++ '\x7d' :: s) = .ok (false, s) := by
  simp [separator, Reader.skipBlanks_append_cons hb, Reader.isBlank]

theorem separator_more (hb : AreBlanks blanks) (s : List Char) :
    separator .list (blanks ++ ',' :: s) = .ok (true, s) := by
  simp [separator, Reader.skipBlanks_append_cons hb, Reader.isBlank]

theorem separator_more_object (hb : AreBlanks blanks) (h : key s = .ok r) :
    separator .object (blanks ++ ',' :: s) = .ok (true, r) := by
  simp [separator, Reader.skipBlanks_append_cons hb, Reader.isBlank, h, Except.map]

/-! ## Values -/

section Opened

variable {opened : List Bracket} {bracket : Bracket}

theorem value_of_token (h : token s = .ok (none, r)) : value opened s = close opened r := by
  rw [value]
  split <;> simp_all

theorem value_of_opening (h : token s = .ok (some bracket, r)) :
    value opened s = value (bracket :: opened) r := by
  rw [value]
  split <;> simp_all

theorem close_of_end (h : separator bracket s = .ok (false, r)) :
    close (bracket :: opened) s = close opened r := by
  rw [close]
  split <;> simp_all

theorem close_of_more (h : separator bracket s = .ok (true, r)) :
    close (bracket :: opened) s = value (bracket :: opened) r := by
  rw [close]
  split <;> simp_all

end Opened

mutual
/-- **A value.** What was open before it is still to be closed. -/
theorem value_append : ∀ (json : Json) (opened : List Bracket) {blanks text s : List Char},
    AreBlanks blanks → json.SpeltAs text → Numeral.Ends s →
      value opened (blanks ++ (text ++ s)) = close opened s
  | .scalar value, opened, blanks, text, s, hb, ht, hs => value_of_token (token_scalar hb ht hs)
  | .list [], opened, blanks, text, s, hb, ht, _ => by
    obtain ⟨_, ⟨inside, hi, rfl⟩, rfl⟩ := ht
    simpa using value_of_token (token_list_empty hb hi s)
  | .list (item :: items), opened, blanks, text, s, hb, ht, _ => by
    obtain ⟨_, ⟨inside, a, b, hi, ha, hb', rfl⟩, rfl⟩ := ht
    have one := value_append item (.list :: opened) Json.areBlanks_nil ha (hb'.ends s)
    -- The token takes the blanks before the first item along, so the item stands at the front.
    obtain ⟨c, rest, rfl, hc, bracket⟩ := ha.head
    simp only [List.append_assoc, List.cons_append, List.nil_append] at one ⊢
    rw [value_of_opening (token_list hb hi hc bracket _), one, items_append items opened s hb']
  | .object [], opened, blanks, text, s, hb, ht, _ => by
    obtain ⟨_, ⟨inside, hi, rfl⟩, rfl⟩ := ht
    simpa using value_of_token (token_object_empty hb hi s)
  | .object ((key, json) :: members), opened, blanks, text, s, hb, ht, _ => by
    obtain ⟨_, ⟨inside, name, before, after, a, b, hi, hn, hbefore, hafter, ha, hb', rfl⟩, rfl⟩ := ht
    have one := value_append json (.object :: opened) hafter ha (hb'.ends s)
    simp only [List.append_assoc, List.cons_append] at one ⊢
    rw [value_of_opening (token_object hb hi hn hbefore _), one, members_append members opened s hb']

/-- The further items of a list, up to its closing bracket. -/
theorem items_append : ∀ (items : List Json) (opened : List Bracket) {text : List Char} (s : List Char),
    ItemsSpeltAs false items text → close (.list :: opened) (text ++ s) = close opened s
  | [], opened, text, s, ht => by
    obtain ⟨blanks, hb, rfl⟩ := ht
    simpa using close_of_end (separator_end hb s)
  | item :: items, opened, text, s, ht => by
    obtain ⟨_, a, b, ⟨before, after, hbefore, hafter, rfl⟩, ha, hb, rfl⟩ := ht
    have one := value_append item (.list :: opened) hafter ha (hb.ends s)
    simp only [List.append_assoc, List.cons_append]
    rw [close_of_more (separator_more hbefore _), one, items_append items opened s hb]

/-- The further members of an object, up to its closing brace. -/
theorem members_append : ∀ (members : List (String × Json)) (opened : List Bracket) {text : List Char}
    (s : List Char), MembersSpeltAs false members text →
      close (.object :: opened) (text ++ s) = close opened s
  | [], opened, text, s, ht => by
    obtain ⟨blanks, hb, rfl⟩ := ht
    simpa using close_of_end (separator_end_object hb s)
  | (key, json) :: members, opened, text, s, ht => by
    obtain ⟨_, name, before, after, a, b, ⟨front, back, hfront, hback, rfl⟩, hn, hbefore, hafter, ha,
      hb, rfl⟩ := ht
    have one := value_append json (.object :: opened) hafter ha (hb.ends s)
    have next := separator_more_object hfront (key_append hback hn hbefore (after ++ (a ++ (b ++ s))))
    simp only [List.append_assoc, List.cons_append]
    rw [close_of_more next, one, members_append members opened s hb]
end

/-- A value of any depth is passed over. -/
theorem reader_append {json : Json} {text : List Char} (hb : AreBlanks blanks)
    (ht : json.SpeltAs text) (hs : Numeral.Ends s) :
    reader.run (blanks ++ (text ++ s)) = .ok ((), s) := by
  simp [reader, value_append json [] hb ht hs, close, Except.map]

end JsWriter.Skip
