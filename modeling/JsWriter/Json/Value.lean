import JsWriter.Json.Numeral
import JsWriter.Json.Reader

/-!
# JSON values of a text

`Shape.read` reads the first token of a value: a whole scalar, or an opening bracket. `Json.reader`
reads a whole value with a bounded nesting of lists and objects; `Json.depthLimit` is the bound for a
text.
-/
namespace JsWriter

/-- The rest of a word that must be spelt out. -/
def Json.word (spelling : List Char) (s : List Char) : Except Fault (List Char) :=
  match spelling, s with
  | [], s => .ok s
  | _ :: _, [] => Fault.here .endInValue []
  | c :: cs, d :: r => if c = d then word cs r else Fault.next .misspeltWord (d :: r)

theorem Json.word_length {spelling s r : List Char} (h : Json.word spelling s = .ok r) :
    r.length ≤ s.length := by
  fun_induction Json.word spelling s with
  | case1 => cases h; exact Nat.le_refl _
  | case2 => cases h
  | case3 cs d t ih => have := ih h; simp only [List.length_cons]; omega
  | case4 => cases h

namespace Shape

/-- The shape of the value at the front of a text without blanks: scalars are read completely, lists
and objects up to the opening bracket. -/
def readToken (s : List Char) : Except Fault (Shape × List Char) :=
  match s with
  | [] => Fault.here .endInValue []
  | '[' :: r => .ok (.list, r)
  | '\x7b' :: r => .ok (.object, r)
  | '"' :: r => (Json.Text.body "" r).map fun (t, r) => (.scalar (.string t), r)
  | 'n' :: r => (Json.word ['u', 'l', 'l'] r).map fun r => (.scalar .null, r)
  | 't' :: r => (Json.word ['r', 'u', 'e'] r).map fun r => (.scalar (.bool true), r)
  | 'f' :: r => (Json.word ['a', 'l', 's', 'e'] r).map fun r => (.scalar (.bool false), r)
  | c :: r =>
    if c = '-' ∨ c.isDigit then
      (Number.read (c :: r)).map fun (n, r) => (.scalar (.number n), r)
    else Fault.next .noValue (c :: r)

def read (s : List Char) : Except Fault (Shape × List Char) :=
  readToken (Reader.skipBlanks s)

theorem readToken_length {s r : List Char} {shape : Shape}
    (h : readToken s = .ok (shape, r)) : r.length < s.length := by
  have words : ∀ {spelling t : List Char} {found : Shape},
      (Json.word spelling t).map (fun r => (found, r)) = .ok (shape, r) → r.length ≤ t.length := by
    intro spelling t found h
    cases h' : Json.word spelling t with
    | error f => simp [h', Except.map] at h
    | ok p =>
      have := Json.word_length h'
      simp only [h', Except.map] at h
      cases h; exact this
  unfold readToken at h
  split at h
  · cases h
  · cases h; simp
  · cases h; simp
  · rename_i t
    cases h' : Json.Text.body "" t with
    | error f => simp [h', Except.map] at h
    | ok p =>
      have := Json.Text.body_length "" t h'
      simp only [h', Except.map] at h
      cases h; simp only [List.length_cons]; omega
  · have := words h; simp only [List.length_cons]; omega
  · have := words h; simp only [List.length_cons]; omega
  · have := words h; simp only [List.length_cons]; omega
  · rename_i c t _ _ _ _ _ _
    split at h
    · cases h' : Number.read (c :: t) with
      | error f => simp [h', Except.map] at h
      | ok p =>
        have := Number.read_length (n := p.1) (r := p.2) h'
        simp only [h', Except.map] at h
        cases h; exact this
    · cases h

theorem read_length {s r : List Char} {shape : Shape} (h : read s = .ok (shape, r)) :
    r.length < s.length := by
  have := readToken_length h
  have := Reader.skipBlanks_length s
  omega

/-- A reader that goes on as the first token of a value tells. -/
def reader {ε α : Type} [OfFault ε] (scalar : Scalar → Except ε α) (list object : Reader ε α) :
    Reader ε α where
  run s :=
    match read s with
    | .error fault => .error (OfFault.ofFault fault)
    | .ok (.scalar value, r) => (scalar value).map fun a => (a, r)
    | .ok (.list, r) => list.run r
    | .ok (.object, r) => object.run r
  shortens {s a r} h := by
    split at h
    · cases h
    · rename_i value t hs
      cases h' : scalar value with
      | error e => simp [h', Except.map] at h
      | ok b =>
        simp only [h', Except.map] at h
        cases h; exact read_length hs
    · rename_i hs; have := read_length hs; have := list.shortens h; omega
    · rename_i hs; have := read_length hs; have := object.shortens h; omega

end Shape

namespace Json

/-- How deeply lists and objects may be nested in a text. -/
def depthLimit : Nat := 127

def items (item : Reader Fault Json) : Reader Fault (List Json) :=
  (Reader.elements (fun items => item.map (· :: items)) []).map List.reverse

def members (value : Reader Fault Json) : Reader Fault (List (String × Json)) :=
  (Reader.members (fun members key => .ok (value.map fun v => (key, v) :: members)) []).map
    List.reverse

/-- A value in which lists and objects are nested at most `room` deep. -/
def reader : (room : Nat) → Reader Fault Json
  | 0 => Shape.reader (fun value => .ok (.scalar value)) .tooDeep .tooDeep
  | room + 1 =>
    Shape.reader (fun value => .ok (.scalar value)) ((items (reader room)).map .list)
      ((members (reader room)).map .object)

end Json
end JsWriter
