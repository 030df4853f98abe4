/-!
# Balanced texts

A text is balanced when its round, square and curly brackets, read as plain characters, are nested: each
closes what was opened last (`Nested`). Reading a text with a stack of the brackets that are due
(`Brackets.read`) decides that.

* `Balanced.read_eq`: a balanced text leaves every stack as it found it.
* `balanced_iff_read`: a text is balanced exactly when it leaves the empty stack empty.
* `Balanced.append`, `Brackets.read_append`: texts in a row.
-/
namespace JsWriter

namespace Brackets

/-- The bracket that closes what a character opens. -/
def closing? : Char → Option Char
  | '(' => some ')'
  | '[' => some ']'
  | '\x7b' => some '\x7d'
  | _ => none

/-- The character closes what another one opens. -/
def closes (c : Char) : Bool := c = ')' || c = ']' || c = '\x7d'

/-- The brackets that are due after one more character, the next one on top. -/
def meet (due : List Char) (c : Char) : Option (List Char) :=
  match closing? c with
  | some closer => some (closer :: due)
  | none => if closes c then (if due.head? = some c then some due.tail else none) else some due

/-- The brackets that are due after a text, unless one closes that isn't due. -/
def read (due : List Char) (text : String) : Option (List Char) := text.toList.foldlM meet due

end Brackets

open Brackets

/-- Brackets are nested: they come in pairs, between which brackets are nested again. -/
inductive Nested : List Char → Prop
  | nil : Nested []
  | plain {c : Char} {cs : List Char} :
    closing? c = none → closes c = false → Nested cs → Nested (c :: cs)
  | pair {opener closer : Char} {inner rest : List Char} :
    closing? opener = some closer → Nested inner → Nested rest →
    Nested (opener :: (inner ++ closer :: rest))

theorem Nested.append {a b : List Char} (ha : Nested a) (hb : Nested b) : Nested (a ++ b) := by
  induction ha with
  | nil => exact hb
  | plain hn hc _ ih => exact .plain hn hc ih
  | @pair opener closer inner rest ho hi _ _ ih =>
    have h : Nested (opener :: (inner ++ closer :: (rest ++ b))) := .pair ho hi ih
    simpa [List.append_assoc] using h

namespace Brackets

theorem meet_opener {opener closer : Char} (h : closing? opener = some closer) (due : List Char) :
    meet due opener = some (closer :: due) := by
  simp [meet, h]

theorem meet_closer {opener closer : Char} (h : closing? opener = some closer) (due : List Char) :
    meet (closer :: due) closer = some due := by
  unfold closing? at h
  split at h <;> cases h <;> rfl

theorem meet_plain {c : Char} (hn : closing? c = none) (hc : closes c = false) (due : List Char) :
    meet due c = some due := by
  simp [meet, hn, hc]

end Brackets

/-- What was due before a nested text is due behind it. -/
theorem Nested.foldlM_meet {cs : List Char} (h : Nested cs) (due : List Char) :
    cs.foldlM meet due = some due := by
  induction h generalizing due with
  | nil => rfl
  | plain hn hc _ ih => rw [List.foldlM_cons, meet_plain hn hc]; exact ih due
  | pair ho _ _ inner rest =>
    rw [List.foldlM_cons, meet_opener ho]
    show List.foldlM meet _ _ = _
    rw [List.foldlM_append, inner]
    show List.foldlM meet _ _ = _
    rw [List.foldlM_cons, meet_closer ho]
    exact rest due

/-- The text closes all that is due, in order, and between that it is nested. -/
def Brackets.Settles : (due : List Char) → List Char → Prop
  | [], cs => Nested cs
  | closer :: due, cs => ∃ inner rest, cs = inner ++ closer :: rest ∧ Nested inner ∧ Settles due rest

theorem Brackets.Settles.behind {due front cs : List Char} (hf : Nested front) (h : Settles due cs) :
    Settles due (front ++ cs) := by
  cases due with
  | nil => exact hf.append h
  | cons closer due =>
    obtain ⟨inner, rest, rfl, hi, hr⟩ := h
    exact ⟨front ++ inner, rest, by rw [List.append_assoc], hf.append hi, hr⟩

/-- A text after which nothing is due has closed what was due before. -/
theorem Brackets.settles_of_foldlM_meet {due cs : List Char} (h : cs.foldlM meet due = some []) :
    Settles due cs := by
  induction cs generalizing due with
  | nil =>
    obtain rfl : due = [] := Option.some.inj h
    exact .nil
  | cons c cs ih =>
    rw [List.foldlM_cons] at h
    obtain ⟨next, hm, h⟩ := Option.bind_eq_some_iff.mp h
    have settled := ih h
    unfold meet at hm
    split at hm
    · rename_i closer ho
      obtain rfl := Option.some.inj hm
      obtain ⟨inner, rest, rfl, hi, hr⟩ := settled
      have front : Nested (c :: (inner ++ [closer])) := .pair ho hi .nil
      simpa using hr.behind front
    · rename_i hn
      split at hm
      · split at hm
        · rename_i hd
          obtain rfl := Option.some.inj hm
          cases due with
          | nil => cases hd
          | cons top due =>
            obtain rfl := Option.some.inj hd
            exact ⟨[], cs, rfl, .nil, settled⟩
        · cases hm
      · rename_i hc
        obtain rfl := Option.some.inj hm
        exact settled.behind (.plain hn (by simpa using hc) .nil)

def Balanced (text : String) : Prop := Nested text.toList

/-- **Reading decides.** A text is balanced exactly when nothing is due after it. -/
theorem balanced_iff_read (text : String) : Balanced text ↔ read [] text = some [] :=
  ⟨fun h => h.foldlM_meet [], fun h => settles_of_foldlM_meet h⟩

instance (text : String) : Decidable (Balanced text) := decidable_of_iff _ (balanced_iff_read text).symm

/-- Pairs that overlap aren't nested. -/
example : Balanced "f([1], \x7b\x7d)" ∧ ¬ Balanced "([)]" := by decide

namespace Balanced

variable {a b : String}

theorem read_eq (h : Balanced a) (due : List Char) : read due a = some due :=
  h.foldlM_meet due

theorem append (ha : Balanced a) (hb : Balanced b) : Balanced (a ++ b) := by
  unfold Balanced
  rw [String.toList_append]
  exact Nested.append ha hb

end Balanced

theorem Brackets.read_append (due : List Char) (a b : String) :
    read due (a ++ b) = (read due a).bind fun due => read due b := by
  rw [read, String.toList_append, List.foldlM_append]
  rfl

end JsWriter
