import JsWriter.Builder.Scope

/-!
# Edits of a buffer

An `Edit` is a call that changes a buffer: a text goes in front, or it goes behind, as a line feed does.
The two ends know nothing of each other, so that of a run of edits only two rows of texts count:
`Edit.fronts`, those that go in front, and `Edit.backs`, those that go behind. `Edit.around` puts both
rows around a text.

* `TextBuffer.text_run`: a run of edits puts its texts around what the buffer holds.
* `TextBuffer.run_congr`: runs with the same two rows of texts do the same.
* `TextBuffer.size_run`, `TextBuffer.isEmpty_run_iff`: every text counts with its bytes.
* `Scope.finalize_eq_run`: a nested scope is rendered by edits of its code, in any order.
* `edits_grow_both_ends`: all that can be seen of a buffer after a run of edits.
-/
namespace JsWriter

/-- A change of a buffer. A value that is put there counts by the text that it is shown as. -/
inductive Edit where
  | append (text : String)
  | prepend (text : String)
  | newline
  deriving DecidableEq, Repr

namespace Edit

def text : Edit → String
  | append text => text
  | prepend text => text
  | newline => "\n"

/-- The number of bytes that edits add, those of all their texts together. -/
def sizeAll : List Edit → Nat
  | [] => 0
  | edit :: edits => edit.text.utf8ByteSize + sizeAll edits

/-- The texts that edits put in front, in the order of the edits. -/
def fronts : List Edit → List String
  | [] => []
  | append _ :: edits => fronts edits
  | prepend text :: edits => text :: fronts edits
  | newline :: edits => fronts edits

/-- The texts that edits put behind, in the order of the edits. -/
def backs : List Edit → List String
  | [] => []
  | append text :: edits => text :: backs edits
  | prepend _ :: edits => backs edits
  | newline :: edits => "\n" :: backs edits

/-- A text between what edits put in front, the last edit first, and what they put behind. -/
def around (edits : List Edit) (start : String) : String :=
  String.join (fronts edits).reverse ++ start ++ String.join (backs edits)

theorem around_nil (start : String) : around [] start = start := by
  simp [around, fronts, backs]

/-- The texts of later edits go around those of earlier ones. -/
theorem around_cons (edit : Edit) (edits : List Edit) (start : String) :
    around (edit :: edits) start = around edits (around [edit] start) := by
  cases edit <;> simp [around, fronts, backs, String.append_assoc]

/-- Only the two rows of texts count. -/
theorem around_congr {edits others : List Edit} (hf : fronts edits = fronts others)
    (hb : backs edits = backs others) (start : String) : around edits start = around others start := by
  rw [around, around, hf, hb]

end Edit

/-! ## Runs -/

namespace TextBuffer

def perform (buffer : TextBuffer) : Edit → TextBuffer
  | .append text => buffer.append text
  | .prepend text => buffer.prepend text
  | .newline => buffer.newline

def run (buffer : TextBuffer) : (edits : List Edit) → TextBuffer
  | [] => buffer
  | edit :: edits => (buffer.perform edit).run edits

variable (buffer : TextBuffer)

/-- **One edit.** It puts its text around what the buffer holds, at one end. -/
theorem text_perform (edit : Edit) : (buffer.perform edit).text = Edit.around [edit] buffer.text := by
  cases edit <;> simp [perform, Edit.around, Edit.fronts, Edit.backs]

/-- **A run of edits.** It puts its texts around what the buffer holds. -/
theorem text_run (edits : List Edit) : (buffer.run edits).text = Edit.around edits buffer.text := by
  -- Each edit is part of what the later ones go around, so the start of the run can't be held fixed.
  induction edits generalizing buffer with
  | nil => rw [run, Edit.around_nil]
  | cons edit edits ih =>
    calc ((buffer.perform edit).run edits).text
        = Edit.around edits (buffer.perform edit).text := ih _
      _ = Edit.around edits (Edit.around [edit] buffer.text) := by rw [text_perform]
      _ = Edit.around (edit :: edits) buffer.text := (Edit.around_cons edit edits _).symm

/-- How the edits at one end lie between those at the other has no influence. -/
theorem run_congr {edits others : List Edit} (hf : Edit.fronts edits = Edit.fronts others)
    (hb : Edit.backs edits = Edit.backs others) : buffer.run edits = buffer.run others := by
  ext1
  rw [text_run, text_run, Edit.around_congr hf hb]

/-! ## Sizes -/

theorem size_perform (edit : Edit) :
    (buffer.perform edit).size = buffer.size + edit.text.utf8ByteSize := by
  cases edit <;> simp [perform, size, Edit.text, String.utf8ByteSize_append, Nat.add_comm]

theorem size_run (edits : List Edit) :
    (buffer.run edits).size = buffer.size + Edit.sizeAll edits := by
  induction edits generalizing buffer with
  | nil => rfl
  | cons edit edits ih => rw [run, ih, size_perform, Edit.sizeAll, Nat.add_assoc]

theorem isEmpty_perform_iff (edit : Edit) :
    (buffer.perform edit).isEmpty = true ↔ buffer.isEmpty = true ∧ edit.text = "" := by
  cases edit <;> simp [perform, isEmpty, Edit.text, and_comm]

/-- A buffer is empty as long as it gets nothing but empty texts. -/
theorem isEmpty_run_iff (edits : List Edit) :
    (buffer.run edits).isEmpty = true ↔
      buffer.isEmpty = true ∧ ∀ edit ∈ edits, edit.text = "" := by
  induction edits generalizing buffer with
  | nil => simp [run]
  | cons edit edits ih => rw [run, ih, isEmpty_perform_iff, List.forall_mem_cons, and_assoc]

/-! ## What a buffer shows -/

/-- What can be got out of a buffer is one text, whichever way it is asked for. -/
structure Shows (content : String) : Prop where
  text : buffer.text = content
  render : buffer.render = content
  shown : toString buffer = content
  intoString : buffer.intoString = content

theorem shows_of_text {content : String} (h : buffer.text = content) : buffer.Shows content :=
  ⟨h, h, h, h⟩

end TextBuffer

/-! ## The rendering of a nested scope -/

/-- **Wrapping.** Edits that put the head of a call in front and its tail behind render a nested scope,
whatever its code is and in whatever order they are made. -/
theorem Scope.finalize_eq_run (parent : Scope) (args : Option String) (body : TextBuffer)
    {edits : List Edit}
    (hf : Edit.fronts edits = ["(function(" ++ args.getD "" ++ ") \x7b\n"])
    (hb : Edit.backs edits = ["\x7d)(", args.getD "", ")", "\n"]) :
    (nested parent args body).finalize = (body.run edits).text := by
  rw [TextBuffer.text_run, Edit.around, hf, hb, finalize_nested, call]
  simp [String.append_assoc]

/-! ## All of it -/

/-- **A buffer grows at both ends.** After a run of edits it holds the texts put in front, the last one
first, then its start, then the texts put behind, the first one first, and that is what it shows. How
the edits at one end lie between those at the other has no influence. The size is that of the start and
of all texts; there is nothing exactly when all of these are empty; and two buffers are equal exactly
when what they hold is. -/
theorem edits_grow_both_ends (buffer : TextBuffer) (edits : List Edit) :
    (buffer.run edits).Shows
      (String.join (Edit.fronts edits).reverse ++ buffer.text ++ String.join (Edit.backs edits)) ∧
    (∀ others, Edit.fronts others = Edit.fronts edits → Edit.backs others = Edit.backs edits →
      buffer.run others = buffer.run edits) ∧
    (buffer.run edits).size = buffer.text.utf8ByteSize + Edit.sizeAll edits ∧
    ((buffer.run edits).isEmpty = true ↔ buffer.text = "" ∧ ∀ edit ∈ edits, edit.text = "") ∧
    ∀ other others, buffer.run edits = TextBuffer.run other others ↔
      Edit.around edits buffer.text = Edit.around others other.text := by
  refine ⟨?_, ?_, buffer.size_run edits, ?_, ?_⟩
  · exact TextBuffer.shows_of_text _ (buffer.text_run edits)
  · intro others hf hb
    exact buffer.run_congr hf hb
  · rw [TextBuffer.isEmpty_run_iff, TextBuffer.isEmpty, String.isEmpty_iff]
  · intro other others
    rw [TextBuffer.ext_iff, TextBuffer.text_run, TextBuffer.text_run]

/-- Two ways to put the same texts around letters of two and three bytes. -/
theorem edits_grow_both_ends_interleaved :
    Edit.fronts [.prepend "b", .append "ü", .prepend "a", .newline] = ["b", "a"] ∧
    Edit.backs [.prepend "b", .append "ü", .prepend "a", .newline] = ["ü", "\n"] ∧
    (TextBuffer.run ⟨"…"⟩ [.prepend "b", .append "ü", .prepend "a", .newline]).Shows "ab…ü\n" ∧
    TextBuffer.run ⟨"…"⟩ [.append "ü", .append "\n", .prepend "b", .prepend "a"] =
      TextBuffer.run ⟨"…"⟩ [.prepend "b", .append "ü", .prepend "a", .newline] ∧
    (TextBuffer.run ⟨"…"⟩ [.prepend "b", .append "ü", .prepend "a", .newline]).size = 8 := by
  obtain ⟨shows, interleaving, size, -, -⟩ :=
    edits_grow_both_ends ⟨"…"⟩ [.prepend "b", .append "ü", .prepend "a", .newline]
  exact ⟨rfl, rfl, shows, interleaving _ rfl rfl, size⟩

end JsWriter
