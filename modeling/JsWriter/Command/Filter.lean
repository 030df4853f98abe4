import JsWriter.Builder.Log
import JsWriter.Number.Decimal
import JsWriter.Pattern.WellFormed

/-!
# Log filters

A setting says which events reach the log. It is a list of directives between commas. For an event the
directive with the narrowest area decides, and of two for the same area the later one. A missing
setting, an empty one and one with a directive that can't be understood let no event through.

A directive says from which level on the events of an area reach a log. It is spelt as a level, as an
area, of which everything is let through, or as an area, an equals sign and a level. An area is the
beginning of a target, the name of a value in brackets and braces, `[{depth}]`, or both. Brackets can
also ask for a span of time, by its name or by what a value looks like; no event is in such an area.
-/
namespace JsWriter

/-- Which events a directive is about. -/
inductive Area where
  /-- Those whose target begins with a text and that have a value of a name, if one is given. -/
  | events (target : String) (value : Option String)
  /-- None: it is about spans of time. -/
  | spans
  deriving DecidableEq, Repr

namespace Area

def everywhere : Area := events "" none

def contains (area : Area) (event : Event) : Bool :=
  match area with
  | events target value =>
    target.toList.isPrefixOf event.target.toList && value.all event.names.contains
  | spans => false

/-- Whether an area counts as at least as narrow as another that has an event in common with it. The
longer target is narrower; of two for the same target it is one that names a value, and of two that do
the one with the later name in the alphabet. -/
def refines : Area → Area → Bool
  | events target value, events target' value' =>
    if target.length = target'.length then
      match value, value' with
      | _, none => true
      | none, some _ => false
      | some name, some name' => decide (name' ≤ name)
    else decide (target'.length < target.length)
  | _, _ => false

end Area

/-- Lets through events of `level` and above in an area; none without a level. -/
structure Directive where
  area : Area
  level : Option Level
  deriving DecidableEq, Repr

namespace Directive

/-- Whether the directive lets an event of its area through. -/
def admits (directive : Directive) (event : Event) : Bool :=
  match directive.level with
  | none => false
  | some level => decide (level.rank ≤ event.level.rank)

/-! ## Levels -/

/-- The level that a number from zero to five stands for, the quietest first; zero is none at all. -/
def levelOfNumber? : Nat → Option (Option Level)
  | 0 => some none
  | 1 => some (some .error)
  | 2 => some (some .warn)
  | 3 => some (some .info)
  | 4 => some (some .debug)
  | 5 => some (some .trace)
  | _ => none

/-- The number that a text of digits spells, with or without a plus sign. -/
def number? (cs : List Char) : Option Nat :=
  let digits := if cs.head? = some '+' then cs.tail else cs
  if digits ≠ [] ∧ digits.all Char.isDigit then some (Decimal.ofDigits digits) else none

/-- The level that a word names in any case, or a number; `off` is none at all. -/
def levelOfText? (text : String) : Option (Option Level) :=
  match text.toLower with
  | "trace" => some (some .trace)
  | "debug" => some (some .debug)
  | "info" => some (some .info)
  | "warn" => some (some .warn)
  | "error" => some (some .error)
  | "off" => some none
  | _ => (number? text.toList).bind levelOfNumber?

/-! ## Values -/

/-- Whether a value can be asked for: by a number or by a pattern. -/
def isSought (cs : List Char) : Bool :=
  (Binary64.ofText? (String.ofList cs)).isSome || Pattern.isWellFormed cs

/-- The name of a value, and whether the value is asked for by what it looks like, after an equals
sign. What comes after a second one doesn't count. -/
def value? (cs : List Char) : Option (String × Bool) :=
  let name := String.ofList (cs.takeWhile (· ≠ '='))
  match cs.dropWhile (· ≠ '=') with
  | [] => some (name, false)
  | _ :: sought => if isSought (sought.takeWhile (· ≠ '=')) then some (name, true) else none

end Directive

/-! ## Reading -/

/-- The text of a directive, and the blanks around it. -/
structure DirectiveText where
  before : List Char
  text : List Char
  after : List Char
  deriving DecidableEq, Repr

namespace DirectiveText

/-- Divides a text from the blanks around it. -/
def ofList (cs : List Char) : DirectiveText :=
  let reversed := (cs.dropWhile Blank.contains).reverse
  { before := cs.takeWhile Blank.contains
    text := (reversed.dropWhile Blank.contains).reverse
    after := (reversed.takeWhile Blank.contains).reverse }

def size (cs : List Char) : Nat := (String.ofList cs).utf8ByteSize

/-- A part of the text that comes after `skipped`. Its place is counted without the blanks before the
text, but from the first of them on, so that with blanks the part begins and ends too early. -/
def part? (spelling : DirectiveText) (skipped part : List Char) : Option (List Char) :=
  if spelling.before = [] then some part
  else
    let bytes := (String.ofList (spelling.before ++ spelling.text)).toUTF8
    let first := size skipped
    (String.fromUTF8? (bytes.extract first (first + size part))).map String.toList

/-- The directive for an area that a level or nothing follows. Blanks after the text belong to the
level, and no level can be understood when there are some before it. -/
def leveled? (spelling : DirectiveText) (area : Area) : (rest : List Char) → Option Directive
  | [] => some ⟨area, some .trace⟩
  | '=' :: level =>
    if spelling.before ≠ [] then none
    else
      match level ++ spelling.after with
      | [] => some ⟨area, some .trace⟩
      | level => (Directive.levelOfText? (String.ofList level)).map fun level => ⟨area, level⟩
  | _ => none

/-- The directive whose area has brackets after a target: a span's name, or a value in braces, or
both. -/
def bracketed? (spelling : DirectiveText) (target rest : List Char) : Option Directive :=
  let isSpan (c : Char) := c ≠ ']' && c ≠ '\x7b'
  let span := rest.takeWhile isSpan
  match rest.dropWhile isSpan with
  | [] => none
  | ']' :: rest => spelling.leveled? .spans rest
  | _ :: rest =>
    let value := rest.takeWhile (· ≠ '\x7d')
    match rest.dropWhile (· ≠ '\x7d') with
    | _ :: ']' :: rest => do
      let read ← spelling.part? [] target
      let (name, isSought) ← Directive.value? (← spelling.part? (target ++ '[' :: span ++ ['\x7b']) value)
      let area := if span = [] ∧ !isSought then .events (String.ofList read) (some name) else .spans
      if value = [] then none else spelling.leveled? area rest
    | _ => none

def opens (c : Char) : Bool :=
  c ∈ "[-:_".toList || Alphabetic.contains c || Numeric.contains c

/-- The directive for a level or a target that stands alone. -/
def alone (cs : List Char) : Directive :=
  let target := String.ofList cs
  match Directive.levelOfText? target with
  | some level => ⟨.everywhere, level⟩
  | none => ⟨.events target none, some .trace⟩

def directive? (cs : List Char) : Option Directive :=
  let spelling := ofList cs
  let isTarget (c : Char) := c ≠ '=' && c ≠ '['
  let target := spelling.text.takeWhile isTarget
  if !(spelling.text.head?.any opens) then none
  else
    match spelling.text.dropWhile isTarget with
    | [] => some (alone cs)
    | '[' :: rest => spelling.bracketed? target rest
    | rest => spelling.leveled? (.events (String.ofList target) none) rest

end DirectiveText

/-- The directive that a text spells, if it can be understood. -/
def Directive.ofText? (cs : List Char) : Option Directive := DirectiveText.directive? cs

/-! ## Filters -/

/-- Directives in the order of the setting. -/
structure LogFilter where
  directives : List Directive
  deriving DecidableEq, Repr

namespace LogFilter

def silent : LogFilter := ⟨[]⟩

/-- The filter that a text spells, if each of its directives can be understood. -/
def ofText? (text : String) : Option LogFilter :=
  (((text.toList.splitOn ',').filter (· ≠ [])).mapM Directive.ofText?).map LogFilter.mk

def ofSetting (setting : Option String) : LogFilter :=
  (setting.bind ofText?).getD silent

/-- The directive that decides about an event: `found`, or one of the list that comes after it. -/
def deciding (event : Event) (found : Option Directive) : List Directive → Option Directive
  | [] => found
  | directive :: rest =>
    if directive.area.contains event ∧ (found.all fun best => directive.area.refines best.area) then
      deciding event (some directive) rest
    else deciding event found rest

def passes (filter : LogFilter) (event : Event) : Bool :=
  (deciding event none filter.directives).any fun directive => directive.admits event

/-- The log of a list of events: a line for each event that is let through. -/
def log (filter : LogFilter) (events : List Event) : String :=
  String.join ((events.filter filter.passes).map fun event => event.line ++ "\n")

end LogFilter

end JsWriter
