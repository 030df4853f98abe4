import JsWriter.Json.Basic

/-!
# Strings of a JSON text

`Text.next` reads one character of a string, spelt raw or by an escape, or the closing quote. A
character above U+FFFF may be escaped as a surrogate pair; half a pair is a fault. `Text.body` reads
up to the closing quote.
-/
namespace JsWriter.Json.Text

def hexDigit? (c : Char) : Option Nat :=
  if '0' ≤ c ∧ c ≤ '9' then some (c.toNat - '0'.toNat)
  else if 'a' ≤ c ∧ c ≤ 'f' then some (c.toNat - 'a'.toNat + 10)
  else if 'A' ≤ c ∧ c ≤ 'F' then some (c.toNat - 'A'.toNat + 10)
  else none

def byteLength (s : List Char) : Nat :=
  (String.ofList s).utf8ByteSize

/-- The value of four hexadecimal digits. With fewer than four bytes left the string has no end. -/
def hex4 (s : List Char) : Except Fault (Nat × List Char) :=
  match s with
  | a :: b :: c :: d :: r =>
    match hexDigit? a, hexDigit? b, hexDigit? c, hexDigit? d with
    | some a, some b, some c, some d => .ok (((a * 16 + b) * 16 + c) * 16 + d, r)
    | _, _, _, _ => .error ⟨.badEscape, s, 4⟩
  | s => if byteLength s < 4 then Fault.here .endInString [] else .error ⟨.badEscape, s, 4⟩

/-- The first half of a surrogate pair. -/
def IsHigh (unit : Nat) : Prop := 0xD800 ≤ unit ∧ unit ≤ 0xDBFF

/-- The second half of a surrogate pair. -/
def IsLow (unit : Nat) : Prop := 0xDC00 ≤ unit ∧ unit ≤ 0xDFFF

instance (unit : Nat) : Decidable (IsHigh unit) := inferInstanceAs (Decidable (_ ∧ _))
instance (unit : Nat) : Decidable (IsLow unit) := inferInstanceAs (Decidable (_ ∧ _))

/-- The character above U+FFFF that a surrogate pair stands for. -/
def joinPair (high low : Nat) : Char :=
  Char.ofNat (0x10000 + (high - 0xD800) * 0x400 + (low - 0xDC00))

/-- The second half of a pair, with its `\u`. -/
def lowHalf (high : Nat) (s : List Char) : Except Fault (Char × List Char) :=
  match s with
  | [] => Fault.here .endInString []
  | '\\' :: [] => Fault.here .endInString []
  | '\\' :: 'u' :: r => do
    let (low, r) ← hex4 r
    if IsLow low then .ok (joinPair high low, r) else Fault.here .loneSurrogate r
  | '\\' :: r => Fault.next .brokenPair r
  | s => Fault.next .brokenPair s

/-- The character of a `\u` escape, whose digits come next. -/
def unicodeEscape (s : List Char) : Except Fault (Char × List Char) := do
  let (unit, r) ← hex4 s
  if IsLow unit then Fault.here .loneSurrogate r
  else if IsHigh unit then lowHalf unit r
  else .ok (Char.ofNat unit, r)

def shortEscape? : Char → Option Char
  | '"' => some '"'
  | '\\' => some '\\'
  | '/' => some '/'
  | 'b' => some '\x08'
  | 'f' => some '\x0c'
  | 'n' => some '\n'
  | 'r' => some '\r'
  | 't' => some '\t'
  | _ => none

/-- The character of an escape, after its backslash. -/
def escape (s : List Char) : Except Fault (Char × List Char) :=
  match s with
  | [] => Fault.here .endInString []
  | 'u' :: r => unicodeEscape r
  | c :: r =>
    match shortEscape? c with
    | some c => .ok (c, r)
    | none => Fault.next .badEscape (c :: r)

/-- The next character of a string, or nothing at its closing quote. -/
def next (s : List Char) : Except Fault (Option Char × List Char) :=
  match s with
  | [] => Fault.here .endInString []
  | '"' :: r => .ok (none, r)
  | '\\' :: r => (escape r).map fun (c, r) => (some c, r)
  | c :: r => if c < ' ' then Fault.next .controlCharacter (c :: r) else .ok (some c, r)

/-! ## Every step shortens the text -/

theorem hex4_length {s r : List Char} {n : Nat} (h : hex4 s = .ok (n, r)) : r.length < s.length := by
  unfold hex4 at h
  split at h
  · split at h
    · simp only [Except.ok.injEq, Prod.mk.injEq] at h
      obtain ⟨_, rfl⟩ := h
      simp only [List.length_cons]; omega
    · cases h
  · split at h <;> cases h

theorem lowHalf_length {high : Nat} {s r : List Char} {c : Char} (h : lowHalf high s = .ok (c, r)) :
    r.length < s.length := by
  unfold lowHalf at h
  split at h
  case h_3 t =>
    cases h' : hex4 t with
    | error f => simp [h', bind, Except.bind] at h
    | ok p =>
      have := hex4_length (s := t) (r := p.2) (n := p.1) (by simp [h'])
      simp only [h', bind, Except.bind] at h
      split at h
      · simp only [Except.ok.injEq, Prod.mk.injEq] at h
        obtain ⟨_, rfl⟩ := h
        simp only [List.length_cons]; omega
      · cases h
  all_goals cases h

theorem unicodeEscape_length {s r : List Char} {c : Char} (h : unicodeEscape s = .ok (c, r)) :
    r.length < s.length := by
  unfold unicodeEscape at h
  cases h' : hex4 s with
  | error f => simp [h', bind, Except.bind] at h
  | ok p =>
    have h4 := hex4_length (s := s) (r := p.2) (n := p.1) (by simp [h'])
    simp only [h', bind, Except.bind] at h
    split at h
    · cases h
    · split at h
      · have := lowHalf_length h; omega
      · simp only [Except.ok.injEq, Prod.mk.injEq] at h
        obtain ⟨_, rfl⟩ := h
        exact h4

theorem escape_length {s r : List Char} {c : Char} (h : escape s = .ok (c, r)) :
    r.length < s.length := by
  unfold escape at h
  split at h
  · cases h
  · have := unicodeEscape_length h; simp; omega
  · split at h <;> cases h
    simp

theorem next_length {s r : List Char} {c : Option Char} (h : next s = .ok (c, r)) :
    r.length < s.length := by
  unfold next at h
  split at h
  · cases h
  · cases h; simp
  · rename_i t
    cases h' : escape t with
    | error f => simp [h', Except.map] at h
    | ok p =>
      have := escape_length (s := t) (r := p.2) (c := p.1) (by simp [h'])
      simp only [h', Except.map] at h
      cases h; simp; omega
  · split at h <;> cases h
    simp

/-- The rest of a string up to its closing quote; `start` is what was read of it. -/
def body (start : String) (s : List Char) : Except Fault (String × List Char) :=
  match _h : next s with
  | .error fault => .error fault
  | .ok (none, r) => .ok (start, r)
  | .ok (some c, r) => body (start.push c) r
termination_by s.length
decreasing_by exact next_length _h

/-- One round of `body`. -/
theorem body_eq (start : String) (s : List Char) :
    body start s =
      match next s with
      | .error fault => .error fault
      | .ok (none, r) => .ok (start, r)
      | .ok (some c, r) => body (start.push c) r := by
  rw [body]
  split <;> simp_all

theorem body_length (start : String) (s : List Char) {t : String} {r : List Char}
    (h : body start s = .ok (t, r)) : r.length < s.length := by
  fun_induction body start s with
  | case1 => cases h
  | case2 s start r' h' => cases h; exact next_length h'
  | case3 s start c r' h' ih => have := ih h; have := next_length h'; omega

end JsWriter.Json.Text
