import JsWriter.Json.Value

/-!
# Values that are passed over

A value of no interest is passed over without being built. Less is asked of it than of one that is
read: its lists and objects may be nested without bound, its numbers may be of any size, and a
`\u` escape may be half of a pair.
-/
namespace JsWriter.Skip

/-- What is open around the place where reading goes on, innermost first. -/
inductive Bracket where
  | list
  | object
  deriving DecidableEq, Repr

/-- An escape, after its backslash. -/
def escape (s : List Char) : Except Fault (List Char) :=
  match s with
  | [] => Fault.here .endInString []
  | 'u' :: r => (Json.Text.hex4 r).map fun (_, r) => r
  | c :: r =>
    match Json.Text.shortEscape? c with
    | some _ => .ok r
    | none => Fault.next .badEscape (c :: r)

theorem escape_length {s r : List Char} (h : escape s = .ok r) : r.length < s.length := by
  unfold escape at h
  split at h
  · cases h
  · rename_i t
    cases h' : Json.Text.hex4 t with
    | error f => simp [h', Except.map] at h
    | ok p =>
      have := Json.Text.hex4_length (s := t) (n := p.1) (r := p.2) h'
      simp only [h', Except.map] at h
      cases h; simp only [List.length_cons]; omega
  · split at h <;> cases h
    simp

/-- The rest after the closing quote of a string. -/
def text (s : List Char) : Except Fault (List Char) :=
  match s with
  | [] => Fault.here .endInString []
  | '"' :: r => .ok r
  | '\\' :: r =>
    match _h : escape r with
    | .error fault => .error fault
    | .ok r => text r
  | c :: r => if c < ' ' then Fault.here .controlCharacter (c :: r) else text r
termination_by s.length
decreasing_by
  · have := escape_length _h; simp only [List.length_cons]; omega
  · simp

theorem text_length (s : List Char) {r : List Char} (h : text s = .ok r) :
    r.length < s.length := by
  fun_induction text s with
  | case1 => cases h
  | case2 => cases h; simp
  | case3 => cases h
  | case4 t u h' ih =>
    have := ih h; have := escape_length h'; simp only [List.length_cons]; omega
  | case5 => cases h
  | case6 c t _ _ _ ih => have := ih h; simp only [List.length_cons]; omega

/-- The key of a member and its colon. -/
def key (s : List Char) : Except Fault (List Char) :=
  match Reader.skipBlanks s with
  | [] => Fault.here .endInObject []
  | '"' :: r => (text r).bind Reader.colon
  | r => Fault.next .keyNotString r

theorem key_length {s r : List Char} (h : key s = .ok r) : r.length < s.length := by
  have hs := Reader.skipBlanks_length s
  unfold key at h
  split at h
  · cases h
  · rename_i t heq
    rw [heq] at hs
    simp only [List.length_cons] at hs
    cases h' : text t with
    | error f => simp [h', Except.bind] at h
    | ok u =>
      have := text_length t h'
      simp only [h', Except.bind] at h
      have := Reader.colon_length h
      omega
  · cases h

/-- A value without parts, whose first character is `c`. -/
def scalar (c : Char) (r : List Char) : Except Fault (List Char) :=
  match c with
  | '"' => text r
  | 'n' => Json.word ['u', 'l', 'l'] r
  | 't' => Json.word ['r', 'u', 'e'] r
  | 'f' => Json.word ['a', 'l', 's', 'e'] r
  | c =>
    if c = '-' ∨ c.isDigit then (Numeral.read .badNumber (c :: r)).map fun (_, r) => r
    else Fault.next .noValue (c :: r)

theorem scalar_length {c : Char} {s r : List Char} (h : scalar c s = .ok r) :
    r.length ≤ s.length := by
  unfold scalar at h
  split at h
  · exact Nat.le_of_lt (text_length s h)
  · exact Json.word_length h
  · exact Json.word_length h
  · exact Json.word_length h
  · split at h
    · cases h' : Numeral.read .badNumber (c :: s) with
      | error f => simp [h', Except.map] at h
      | ok p =>
        have := Numeral.read_length (n := p.1) (r := p.2) h'
        simp only [h', Except.map] at h
        cases h
        simp only [List.length_cons] at this
        omega
    · cases h

/-- A scalar or an empty list or object; or else what was opened, and the rest from its first
element or from its first member's value on. -/
def token (s : List Char) : Except Fault (Option Bracket × List Char) :=
  match Reader.skipBlanks s with
  | [] => Fault.here .endInValue []
  | '[' :: r =>
    match Reader.skipBlanks r with
    | [] => Fault.here .endInList []
    | ']' :: r => .ok (none, r)
    | r => .ok (some .list, r)
  | '\x7b' :: r =>
    match Reader.skipBlanks r with
    | [] => Fault.here .endInObject []
    | '\x7d' :: r => .ok (none, r)
    | r => (key r).map fun r => (some .object, r)
  | c :: r => (scalar c r).map fun r => (none, r)

theorem token_length {s r : List Char} {bracket : Option Bracket}
    (h : token s = .ok (bracket, r)) : r.length < s.length := by
  have hs := Reader.skipBlanks_length s
  unfold token at h
  split at h
  · cases h
  · rename_i t heq
    have ht := Reader.skipBlanks_length t
    rw [heq] at hs
    simp only [List.length_cons] at hs
    split at h
    · cases h
    · rename_i heq'; cases h; rw [heq'] at ht; simp only [List.length_cons] at ht; omega
    · cases h; omega
  · rename_i t heq
    have ht := Reader.skipBlanks_length t
    rw [heq] at hs
    simp only [List.length_cons] at hs
    split at h
    · cases h
    · rename_i heq'; cases h; rw [heq'] at ht; simp only [List.length_cons] at ht; omega
    · cases h' : key (Reader.skipBlanks t) with
      | error f => simp [h', Except.map] at h
      | ok u =>
        have := key_length h'
        simp only [h', Except.map] at h
        cases h; omega
  · rename_i c t _ _ heq
    rw [heq] at hs
    simp only [List.length_cons] at hs
    cases h' : scalar c t with
    | error f => simp [h', Except.map] at h
    | ok u =>
      have := scalar_length h'
      simp only [h', Except.map] at h
      cases h; omega

/-- After a value inside a bracket: whether another value follows there, and the rest from it on;
otherwise the rest after the closing bracket. -/
def separator (bracket : Bracket) (s : List Char) : Except Fault (Bool × List Char) :=
  match bracket, Reader.skipBlanks s with
  | .list, [] => Fault.here .endInList []
  | .list, ']' :: r => .ok (false, r)
  | .list, ',' :: r => .ok (true, r)
  | .list, r => Fault.next .noListSeparator r
  | .object, [] => Fault.here .endInObject []
  | .object, '\x7d' :: r => .ok (false, r)
  | .object, ',' :: r => (key r).map fun r => (true, r)
  | .object, r => Fault.next .noObjectSeparator r

theorem separator_length {bracket : Bracket} {s r : List Char} {more : Bool}
    (h : separator bracket s = .ok (more, r)) : r.length < s.length := by
  have hs := Reader.skipBlanks_length s
  unfold separator at h
  split at h
  · cases h
  · rename_i heq; cases h; rw [heq] at hs; simp only [List.length_cons] at hs; omega
  · rename_i heq; cases h; rw [heq] at hs; simp only [List.length_cons] at hs; omega
  · cases h
  · cases h
  · rename_i heq; cases h; rw [heq] at hs; simp only [List.length_cons] at hs; omega
  · rename_i t heq
    rw [heq] at hs
    simp only [List.length_cons] at hs
    cases h' : key t with
    | error f => simp [h', Except.map] at h
    | ok u =>
      have := key_length h'
      simp only [h', Except.map] at h
      cases h; omega
  · cases h

mutual
/-- The rest after a value and after the closing brackets of all that is open around it. -/
def value (opened : List Bracket) (s : List Char) : Except Fault (List Char) :=
  match _h : token s with
  | .error fault => .error fault
  | .ok (none, r) => close opened r
  | .ok (some bracket, r) => value (bracket :: opened) r
termination_by s.length
decreasing_by all_goals exact token_length _h

/-- The rest after the closing brackets of all that is open. -/
def close (opened : List Bracket) (s : List Char) : Except Fault (List Char) :=
  match opened with
  | [] => .ok s
  | bracket :: opened =>
    match _h : separator bracket s with
    | .error fault => .error fault
    | .ok (false, r) => close opened r
    | .ok (true, r) => value (bracket :: opened) r
termination_by s.length
decreasing_by all_goals exact separator_length _h
end

/-- Closing brackets takes nothing only when none is open. -/
theorem close_length (n : Nat) (opened : List Bracket) (s : List Char) (hn : s.length ≤ n)
    {r : List Char} :
    (value opened s = .ok r → r.length < s.length) ∧
      (close opened s = .ok r → r.length ≤ s.length) := by
  induction n generalizing opened s with
  | zero =>
    have hs : s = [] := List.eq_nil_of_length_eq_zero (Nat.le_zero.mp hn)
    subst hs
    constructor
    · intro h
      rw [value] at h
      split at h
      · cases h
      · rename_i h'; have := token_length h'; simp at this
      · rename_i h'; have := token_length h'; simp at this
    · intro h
      unfold close at h
      split at h
      · cases h; exact Nat.le_refl _
      · split at h
        · cases h
        · rename_i h'; have := separator_length h'; simp at this
        · rename_i h'; have := separator_length h'; simp at this
  | succ n ih =>
    constructor
    · intro h
      rw [value] at h
      split at h
      · cases h
      · rename_i r' h'
        have := token_length h'
        have := (ih opened r' (by omega)).2 h
        omega
      · rename_i bracket r' h'
        have := token_length h'
        have := (ih (bracket :: opened) r' (by omega)).1 h
        omega
    · intro h
      unfold close at h
      split at h
      · cases h; exact Nat.le_refl _
      · rename_i bracket opened
        split at h
        · cases h
        · rename_i r' h'
          have := separator_length h'
          have := (ih opened r' (by omega)).2 h
          omega
        · rename_i r' h'
          have := separator_length h'
          have := (ih (bracket :: opened) r' (by omega)).1 h
          omega

def reader : Reader Fault Unit where
  run s := (value [] s).map fun r => ((), r)
  shortens {s _ r} h := by
    cases h' : value [] s with
    | error f => simp [h', Except.map] at h
    | ok u =>
      simp only [h', Except.map] at h
      cases h
      exact (close_length s.length [] s (Nat.le_refl _)).1 h'

end JsWriter.Skip
