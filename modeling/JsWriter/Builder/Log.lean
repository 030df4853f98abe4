import JsWriter.Text.Quoted

/-!
# Events

What writing code reports while it goes on: scopes that open and close, clauses and functions that are
written, scripts that are rendered. An event has a level, the area it comes from, a message and named
values; `Event.line` is its line in a log. `Log α` is a value of `α` together with the events that came
on the way to it, in their order.
-/
namespace JsWriter

/-- How important an event is, the least important first. -/
inductive Level where
  | trace
  | debug
  | info
  | warn
  | error
  deriving DecidableEq, Repr

namespace Level

def rank : Level → Nat
  | trace => 0
  | debug => 1
  | info => 2
  | warn => 3
  | error => 4

def name : Level → String
  | trace => "TRACE"
  | debug => "DEBUG"
  | info => "INFO"
  | warn => "WARN"
  | error => "ERROR"

end Level

/-- What a clause of a conditional begins with. -/
inductive Keyword where
  | initial
  | further
  deriving DecidableEq, Repr

/-- How the keyword is written (`as_str`). -/
def Keyword.text : Keyword → String
  | initial => "if"
  | further => "else if"

/-- What happens while code is written. -/
inductive Event where
  /-- A script with so many statements on its top level is about to be rendered. -/
  | rendering (statements : Nat)
  /-- A scope opens at a depth. -/
  | opening (depth : Nat) (args : Option String)
  /-- A scope closes, and its rendering has so many bytes. -/
  | closing (depth : Nat) (args : Option String) (size : Nat)
  /-- A clause is written. -/
  | clause (keyword : Keyword) (condition : String)
  /-- The block for when no condition holds is written. -/
  | otherwise
  /-- A function is written. -/
  | function (header : String)
  deriving DecidableEq, Repr

namespace Event

def level : Event → Level
  | rendering _ => .debug
  | opening .. => .trace
  | closing .. => .debug
  | clause .. => .trace
  | otherwise => .trace
  | function _ => .trace

/-- The area the event comes from. -/
def target : Event → String
  | rendering _ => "jsb::script"
  | opening .. => "jsb::scope"
  | closing .. => "jsb::scope"
  | clause .. => "jsb::conditional"
  | otherwise => "jsb::conditional"
  | function _ => "jsb::function"

def message : Event → String
  | rendering _ => "rendering build script"
  | opening .. => "opening scope"
  | closing .. => "closing scope"
  | clause .. => "writing clause"
  | otherwise => "writing else clause"
  | function _ => "writing function"

/-- A value of an event. -/
inductive Value where
  | count (n : Nat)
  | optional (text : Option String)
  | quoted (text : String)
  | plain (text : String)
  deriving DecidableEq, Repr

def Value.text : Value → String
  | count n => toString n
  | optional text => Quoted.option text
  | quoted text => Quoted.text text
  | plain text => text

/-- The named values of the event, in the order in which they are reported. -/
def values : Event → List (String × Value)
  | rendering statements => [("statements", .count statements)]
  | opening depth args => [("depth", .count depth), ("args", .optional args)]
  | closing depth args size =>
    [("depth", .count depth), ("args", .optional args), ("len", .count size)]
  | clause keyword condition =>
    [("keyword", .quoted keyword.text), ("condition", .plain condition)]
  | otherwise => []
  | function header => [("header", .plain header)]

/-- The names of what an event reports; the message has one too. -/
def names (event : Event) : List String :=
  "message" :: event.values.map Prod.fst

/-- The event as a line of a log, without the line feed. -/
def line (event : Event) : String :=
  String.join (event.level.name :: " " :: event.target :: ": " :: event.message ::
    event.values.map fun (name, value) => " " ++ name ++ "=" ++ value.text)

end Event

/-! ## Values with a log -/

/-- A value and the events on the way to it. -/
structure Log (α : Type) where
  events : List Event
  value : α

namespace Log

variable {α β : Type}

def emit (event : Event) : Log Unit := ⟨[event], ()⟩

instance : Monad Log where
  pure a := ⟨[], a⟩
  bind x f := ⟨x.events ++ (f x.value).events, (f x.value).value⟩

@[simp] theorem events_pure (a : α) : (pure a : Log α).events = [] := rfl

@[simp] theorem value_pure (a : α) : (pure a : Log α).value = a := rfl

@[simp] theorem events_bind (x : Log α) (f : α → Log β) :
    (x >>= f).events = x.events ++ (f x.value).events := rfl

@[simp] theorem value_bind (x : Log α) (f : α → Log β) : (x >>= f).value = (f x.value).value := rfl

@[simp] theorem events_map (f : α → β) (x : Log α) : (f <$> x).events = x.events :=
  List.append_nil _

@[simp] theorem value_map (f : α → β) (x : Log α) : (f <$> x).value = f x.value := rfl

@[simp] theorem events_emit (event : Event) : (emit event).events = [event] := rfl

@[ext] theorem ext {x y : Log α} (he : x.events = y.events) (hv : x.value = y.value) : x = y := by
  cases x; cases y; simp_all

instance : LawfulMonad Log :=
  LawfulMonad.mk' Log (fun _ => by ext1 <;> simp) (fun _ _ => by ext1 <;> simp)
    (fun _ _ _ => by ext1 <;> simp)

end Log

end JsWriter
