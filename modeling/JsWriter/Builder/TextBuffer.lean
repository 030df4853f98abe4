import JsWriter.Number.Decimal

/-!
# Text buffers

A buffer is a text that grows at both ends. Whatever the order of the calls, its content is what was
put in front, the start, and what was put behind: `text_append`, `text_prepend`, `text_newline`. The
content can be looked at (`text`, for `as_str`), copied out (`render`), shown (`toString`, for `fmt`) or
taken (`intoString`, for `into_string`). The values that a call takes are those of `Piece`, each as its
text.
-/
namespace JsWriter

/-- A text under construction. -/
structure TextBuffer where
  text : String
  deriving DecidableEq, Repr, Inhabited

namespace TextBuffer

def empty : TextBuffer := ⟨""⟩

def append (buffer : TextBuffer) (piece : String) : TextBuffer := ⟨buffer.text ++ piece⟩

def prepend (buffer : TextBuffer) (piece : String) : TextBuffer := ⟨piece ++ buffer.text⟩

def newline (buffer : TextBuffer) : TextBuffer := buffer.append "\n"

/-- The content as it is now; unlike after `intoString` the buffer can go on. -/
def render (buffer : TextBuffer) : String := buffer.text

def intoString (buffer : TextBuffer) : String := buffer.text

/-- The number of bytes, not of characters (`len`). -/
def size (buffer : TextBuffer) : Nat := buffer.text.utf8ByteSize

def isEmpty (buffer : TextBuffer) : Bool := buffer.text.isEmpty

instance : ToString TextBuffer := ⟨text⟩

@[simp] theorem text_empty : empty.text = "" := rfl

@[simp] theorem text_append (buffer : TextBuffer) (piece : String) :
    (buffer.append piece).text = buffer.text ++ piece := rfl

@[simp] theorem text_prepend (buffer : TextBuffer) (piece : String) :
    (buffer.prepend piece).text = piece ++ buffer.text := rfl

@[simp] theorem text_newline (buffer : TextBuffer) : buffer.newline.text = buffer.text ++ "\n" := rfl

@[ext] theorem ext {a b : TextBuffer} (h : a.text = b.text) : a = b := by
  cases a; cases b; simp_all

end TextBuffer

/-! ## Pieces of code -/

/-- A value that can be written as code. -/
inductive Piece where
  | text (text : String)
  | bool (value : Bool)
  | int (value : Int)
  | float (value : Binary64)
  | char (value : Char)
  deriving DecidableEq, Repr

namespace Piece

/-- Floating-point numbers in code: the fewest digits, a half going up, never an exponent, and no
`.0` behind whole numbers. -/
def floatLayout : FloatLayout := ⟨none, false, .up⟩

def toText : Piece → String
  | text t => t
  | bool b => if b then "true" else "false"
  | int n => toString n
  | float x => floatLayout.text x
  | char c => String.singleton c

end Piece

end JsWriter
