import JsWriter.Json.Text

/-!
# Readers of JSON texts

A reader takes a value off the front of a text and leaves the rest, which is shorter: so reading one
thing after another ends. `Reader.elements` reads the elements of a list and `Reader.members` the
members of an object, each by folding over a state; what is read may depend on the state, and for a
member on its key, which is judged before the colon is looked at. The state makes the same loop serve
for collecting values and for filling in fields.
-/
namespace JsWriter

/-- Errors that a fault of the text is one of. -/
class OfFault (ε : Type) where
  ofFault : Fault → ε

instance : OfFault Fault := ⟨id⟩

/-- A value taken off the front of a text: the rest is shorter. -/
structure Reader (ε α : Type) where
  run : List Char → Except ε (α × List Char)
  shortens : ∀ {s a r}, run s = .ok (a, r) → r.length < s.length

namespace Reader

variable {ε α σ : Type} [OfFault ε]

/-- A fault as one of the errors. -/
def lift : Except Fault α → Except ε α
  | .ok a => .ok a
  | .error fault => .error (OfFault.ofFault fault)

/-! ## Between the tokens -/

/-- Space, tab, line feed and carriage return may stand between tokens. -/
def isBlank (c : Char) : Bool := c = ' ' || c = '\t' || c = '\n' || c = '\r'

def skipBlanks (s : List Char) : List Char := s.dropWhile isBlank

theorem skipBlanks_length (s : List Char) : (skipBlanks s).length ≤ s.length :=
  (List.dropWhile_sublist isBlank).length_le

/-- After the opening bracket of a list (`first`) or one of its elements: whether an element follows,
which then begins the rest, or else the rest after the closing bracket. -/
def nextElement (first : Bool) (s : List Char) : Except Fault (Bool × List Char) :=
  match skipBlanks s with
  | [] => Fault.here .endInList []
  | ']' :: r => .ok (false, r)
  | c :: r =>
    if first then .ok (true, c :: r)
    else if c = ',' then
      match skipBlanks r with
      | [] => Fault.here .endInValue []
      | ']' :: r => Fault.next .trailingComma (']' :: r)
      | r => .ok (true, r)
    else Fault.next .noListSeparator (c :: r)

/-- The key of a member whose opening quote has been read. -/
def key (s : List Char) : Except Fault (Option String × List Char) :=
  (Json.Text.body "" s).map fun (key, r) => (some key, r)

/-- After the opening brace of an object (`first`) or one of its members: the key of the next member,
or nothing and the rest after the closing brace. -/
def nextKey (first : Bool) (s : List Char) : Except Fault (Option String × List Char) :=
  match skipBlanks s with
  | [] => Fault.here .endInObject []
  | '\x7d' :: r => .ok (none, r)
  | c :: r =>
    if first then
      if c = '"' then key r else Fault.next .keyNotString (c :: r)
    else if c = ',' then
      match skipBlanks r with
      | [] => Fault.here .endInValue []
      | '"' :: r => key r
      | '\x7d' :: r => Fault.next .trailingComma ('\x7d' :: r)
      | r => Fault.next .keyNotString r
    else Fault.next .noObjectSeparator (c :: r)

/-- The rest after the colon between a key and its value. -/
def colon (s : List Char) : Except Fault (List Char) :=
  match skipBlanks s with
  | [] => Fault.here .endInObject []
  | ':' :: r => .ok r
  | r => Fault.next .noColon r

/-! ## Every step shortens the text -/

theorem nextElement_length {first more : Bool} {s r : List Char}
    (h : nextElement first s = .ok (more, r)) :
    r.length ≤ s.length ∧ (more = false → r.length < s.length) := by
  have hs := skipBlanks_length s
  unfold nextElement at h
  split at h
  · cases h
  · rename_i heq; cases h; rw [heq] at hs; simp at hs; simp; omega
  · rename_i c t _ heq
    rw [heq] at hs
    have ht := skipBlanks_length t
    simp only [List.length_cons] at hs
    split at h
    · cases h; simp; omega
    · split at h
      · split at h
        · cases h
        · cases h
        · cases h; simp; omega
      · cases h

theorem key_length {s r : List Char} {k : Option String} (h : key s = .ok (k, r)) :
    r.length < s.length := by
  unfold key at h
  cases h' : Json.Text.body "" s with
  | error f => simp [h', Except.map] at h
  | ok p =>
    have := Json.Text.body_length "" s h'
    simp only [h', Except.map] at h
    cases h; exact this

theorem nextKey_length {first : Bool} {s r : List Char} {k : Option String}
    (h : nextKey first s = .ok (k, r)) : r.length < s.length := by
  have hs := skipBlanks_length s
  unfold nextKey at h
  split at h
  · cases h
  · rename_i heq; cases h; rw [heq] at hs; simp at hs; omega
  · rename_i c t _ heq
    rw [heq] at hs
    have ht := skipBlanks_length t
    simp only [List.length_cons] at hs
    split at h
    · split at h
      · have := key_length h; omega
      · cases h
    · split at h
      · split at h
        · cases h
        · rename_i heq'; rw [heq'] at ht; simp at ht; have := key_length h; omega
        · cases h
        · cases h
      · cases h

theorem colon_length {s r : List Char} (h : colon s = .ok r) : r.length < s.length := by
  have hs := skipBlanks_length s
  unfold colon at h
  split at h
  · cases h
  · rename_i heq; cases h; rw [heq] at hs; simp at hs; omega
  · cases h

/-! ## Lists and objects -/

/-- The elements of a list up to its closing bracket, folded into a state. -/
def foldElements (item : σ → Reader ε σ) (first : Bool) (state : σ) (s : List Char) :
    Except ε (σ × List Char) :=
  match _h : nextElement first s with
  | .error fault => .error (OfFault.ofFault fault)
  | .ok (false, r) => .ok (state, r)
  | .ok (true, r) =>
    match _h' : (item state).run r with
    | .error e => .error e
    | .ok (next, r) => foldElements item false next r
termination_by s.length
decreasing_by
  have := (nextElement_length _h).1
  have := (item state).shortens _h'
  omega

/-- The members of an object up to its closing brace, folded into a state. -/
def foldMembers (member : σ → String → Except ε (Reader ε σ)) (first : Bool) (state : σ)
    (s : List Char) : Except ε (σ × List Char) :=
  match _h : nextKey first s with
  | .error fault => .error (OfFault.ofFault fault)
  | .ok (none, r) => .ok (state, r)
  | .ok (some key, r) =>
    match member state key with
    | .error e => .error e
    | .ok value =>
      match _h' : colon r with
      | .error fault => .error (OfFault.ofFault fault)
      | .ok r =>
        match _h'' : value.run r with
        | .error e => .error e
        | .ok (next, r) => foldMembers member false next r
termination_by s.length
decreasing_by
  have := nextKey_length _h
  have := colon_length _h'
  have := value.shortens _h''
  omega

/-- One round of `foldElements`. -/
theorem foldElements_eq (item : σ → Reader ε σ) (first : Bool) (state : σ) (s : List Char) :
    foldElements item first state s =
      match nextElement first s with
      | .error fault => .error (OfFault.ofFault fault)
      | .ok (false, r) => .ok (state, r)
      | .ok (true, r) =>
        match (item state).run r with
        | .error e => .error e
        | .ok (next, r) => foldElements item false next r := by
  rw [foldElements]
  split <;> simp_all
  split <;> simp_all

/-- One round of `foldMembers`. -/
theorem foldMembers_eq (member : σ → String → Except ε (Reader ε σ)) (first : Bool) (state : σ)
    (s : List Char) :
    foldMembers member first state s =
      match nextKey first s with
      | .error fault => .error (OfFault.ofFault fault)
      | .ok (none, r) => .ok (state, r)
      | .ok (some key, r) =>
        match member state key with
        | .error e => .error e
        | .ok value =>
          match colon r with
          | .error fault => .error (OfFault.ofFault fault)
          | .ok r =>
            match value.run r with
            | .error e => .error e
            | .ok (next, r) => foldMembers member false next r := by
  rw [foldMembers]
  split
  · simp_all
  · simp_all
  · rename_i h
    simp only [h]
    cases member state _ with
    | error e => rfl
    | ok value =>
      simp only
      split
      · simp_all
      · rename_i h'
        simp only [h']
        split <;> simp_all

theorem foldElements_length (item : σ → Reader ε σ) (first : Bool) (state : σ) (s : List Char)
    {a : σ} {r : List Char} (h : foldElements item first state s = .ok (a, r)) :
    r.length < s.length := by
  fun_induction foldElements item first state s with
  | case1 => cases h
  | case2 first state s r' h' => cases h; exact (nextElement_length h').2 rfl
  | case3 => cases h
  | case4 first state s r' h' state' r'' h'' ih =>
    have := ih h; have := (nextElement_length h').1; have := (item state).shortens h''; omega

theorem foldMembers_length (member : σ → String → Except ε (Reader ε σ)) (first : Bool) (state : σ)
    (s : List Char) {a : σ} {r : List Char} (h : foldMembers member first state s = .ok (a, r)) :
    r.length < s.length := by
  fun_induction foldMembers member first state s with
  | case1 => cases h
  | case2 first state s r' h' => cases h; exact nextKey_length h'
  | case3 => cases h
  | case4 => cases h
  | case5 => cases h
  | case6 first state s key r1 h1 value _ r2 h2 state' r3 h3 ih =>
    have := ih h; have := nextKey_length h1; have := colon_length h2
    have := value.shortens h3; omega

def elements (item : σ → Reader ε σ) (state : σ) : Reader ε σ where
  run := foldElements item true state
  shortens := foldElements_length item true state _

def members (member : σ → String → Except ε (Reader ε σ)) (state : σ) : Reader ε σ where
  run := foldMembers member true state
  shortens := foldMembers_length member true state _

/-- A reader whose result is looked into before reading goes on. -/
def andThen {β : Type} (reader : Reader ε α) (f : α → Except ε β) : Reader ε β where
  run s :=
    match reader.run s with
    | .error e => .error e
    | .ok (a, r) => (f a).map fun b => (b, r)
  shortens {s b r} h := by
    split at h
    · cases h
    · rename_i a t h'
      cases hb : f a with
      | error e => simp [hb, Except.map] at h
      | ok c =>
        simp only [hb, Except.map] at h
        cases h; exact reader.shortens h'

def map {β : Type} (f : α → β) (reader : Reader ε α) : Reader ε β :=
  reader.andThen fun a => .ok (f a)

/-- A reader whose only errors are faults. -/
def ofFaults (reader : Reader Fault α) : Reader ε α where
  run s := lift (reader.run s)
  shortens {s a r} h := by
    cases h' : reader.run s with
    | error e => simp [h', lift] at h
    | ok p =>
      simp only [h', lift] at h
      cases h; exact reader.shortens h'

/-- A reader that refuses every text. -/
def refuse (error : List Char → ε) : Reader ε α where
  run s := .error (error s)
  shortens h := by cases h

/-- A list or an object, whose bracket has just been read, lies too deep. -/
def tooDeep : Reader ε α :=
  refuse fun r => OfFault.ofFault ⟨.tooDeep, r, 0⟩

/-- Nothing but blanks may follow. -/
def finish (s : List Char) : Except Fault Unit :=
  match skipBlanks s with
  | [] => .ok ()
  | r => Fault.next .trailingCharacters r

/-- A whole text: one value, and blanks around it. -/
def whole (reader : Reader ε α) (s : List Char) : Except ε α :=
  match reader.run s with
  | .error e => .error e
  | .ok (a, r) => (lift (finish r)).map fun _ => a

end Reader
end JsWriter
