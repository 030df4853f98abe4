import JsWriter.Pattern.Bracket
import JsWriter.Text.CharClass

/-!
# Well-formed patterns

`Pattern.isWellFormed` tells whether a text is a pattern. The text is read part by part; what is open
at some place, groups and brackets, is kept in a `State`, together with the depth of every part that
is complete. A pattern may be 250 levels deep.
-/
namespace JsWriter.Pattern

/-- A group that is still open, or the whole pattern. -/
structure Group where
  /-- The modes to come back to. -/
  outside : Modes
  /-- The depths of the finished branches, the last one first. -/
  branches : List Nat
  /-- The depths of the parts of the branch, the last one first; a switch of modes has none. -/
  parts : List (Option Nat)
  deriving DecidableEq, Repr

namespace Group

def opened (outside : Modes) : Group := ⟨outside, [], []⟩

def add (group : Group) (depth : Nat) : Group :=
  { group with parts := some depth :: group.parts }

def branch (group : Group) : Group :=
  ⟨group.outside, Pattern.depth (group.parts.map (·.getD 0)) :: group.branches, []⟩

def depth (group : Group) : Nat := Pattern.depth group.branch.branches

end Group

/-- What is open at a place of a pattern. -/
structure State where
  modes : Modes
  /-- The innermost group. -/
  group : Group
  /-- The groups around it, from the inside out. -/
  around : List Group
  /-- The open brackets, from the inside out. -/
  brackets : List Bracket
  /-- The names of groups so far. -/
  names : List String
  deriving DecidableEq, Repr

namespace State

def initial : State := ⟨.initial, .opened .initial, [], [], []⟩

/-- Adds a complete part to the innermost group. -/
def add (state : State) (depth : Nat) : State :=
  { state with group := state.group.add depth }

/-- Opens a group with modes of its own. -/
def enter (state : State) (modes : Modes) : State :=
  { state with
    modes := modes
    group := .opened state.modes
    around := state.group :: state.around }

def leave? (state : State) : Option State :=
  match state.around with
  | [] => none
  | group :: around =>
    some { state with
      modes := state.group.outside
      group := group.add (state.group.depth + 1)
      around := around }

def repeat? (state : State) : Option State :=
  match state.group.parts with
  | some depth :: parts =>
    some { state with group := { state.group with parts := some (depth + 1) :: parts } }
  | _ => none

def isName : List Char → Bool
  | [] => false
  | c :: r =>
    (c = '_' || Alphabetic.contains c) &&
      r.all fun c => c ∈ "_.[]".toList || Alphabetic.contains c || Numeric.contains c

/-- Opens a group whose name comes next. -/
def enterNamed? (state : State) (r : List Char) : Option (State × List Char) :=
  let name := r.takeWhile (· ≠ '>')
  match r.dropWhile (· ≠ '>') with
  | _ :: rest =>
    if isName name ∧ String.ofList name ∉ state.names then
      some (({ state with names := String.ofList name :: state.names }).enter state.modes, rest)
    else none
  | [] => none

/-- Opens a group with switches, or switches for the rest of the group around. -/
def enterSwitched? (state : State) (r : List Char) : Option (State × List Char) :=
  let isSwitch (c : Char) := c ≠ ':' && c ≠ ')'
  let switches := r.takeWhile isSwitch
  let modes := state.modes.switch switches
  if !Modes.areSwitches switches then none
  else
    match r.dropWhile isSwitch with
    | [] => none
    | ':' :: rest => some (state.enter modes, rest)
    | _ :: rest =>
      if switches = [] then none
      else
        let group := { state.group with parts := none :: state.group.parts }
        some ({ state with modes := modes, group := group }, rest)

/-- Opens a group, after its parenthesis. -/
def enter? (state : State) (r : List Char) : Option (State × List Char) :=
  match state.modes.skip r with
  | '?' :: 'P' :: '<' :: r => enterNamed? state r
  | '?' :: '<' :: r => enterNamed? state r
  | '?' :: r => enterSwitched? state r
  | r => some (state.enter state.modes, r)

/-- Reads the part that begins with a character, outside of brackets. -/
def part? (state : State) (c : Char) (r : List Char) : Option (State × List Char) :=
  match c with
  | '(' => state.enter? r
  | ')' => state.leave?.map fun state => (state, r)
  | '|' => some ({ state with group := state.group.branch }, r)
  | '[' =>
    (Bracket.start? state.modes r).map fun (bracket, r) =>
      ({ state with brackets := [bracket] }, r)
  | '{' => none
  | '.' => if state.modes.wide then some (state.add 0, r) else none
  | '^' => some (state.add 0, r)
  | '$' => some (state.add 0, r)
  | c =>
    if c = '?' ∨ c = '*' ∨ c = '+' then
      state.repeat?.map fun state => (state, if r.head? = some '?' then r.tail else r)
    else
      (Atom.next state.modes c r).bind fun (atom, r) =>
        if atom.stands state.modes then some (state.add 0, r) else none

def close (state : State) (bracket : Bracket) : List Bracket → State
  | [] => { state with brackets := [] }.add (bracket.depth + 1)
  | outer :: rest => { state with brackets := outer.add (bracket.depth + 1) :: rest }

/-- Reads the part that begins with a character, in a bracket with others around it. -/
def member? (state : State) (bracket : Bracket) (around : List Bracket) (c : Char) (r : List Char) :
    Option (State × List Char) :=
  let modes := state.modes
  let resume (bracket : Bracket) : State := { state with brackets := bracket :: around }
  let inner := { bracket with opening := false }
  let first := bracket.opening && decide (bracket.members = [])
  if (bracket.opening && c = '-') || (first && c = ']') then
    if (Atom.char c false).isMember modes then
      some (resume { bracket.add 0 with opening := c = '-' }, r)
    else none
  else if c = ']' then some (state.close bracket around, r)
  else if c = '[' then
    match Bracket.named? r with
    | some (negated, r) =>
      if if modes.wide then modes.caseless else negated then none else some (resume (inner.add 0), r)
    | none =>
      (Bracket.start? modes r).map fun (new, r) =>
        ({ state with brackets := new :: inner :: around }, r)
  else
    match Bracket.operator? c r with
    | some r => some (resume ⟨some bracket.depth, [], false⟩, r)
    | none => (Bracket.member? modes c r).map fun r => (resume (inner.add 0), r)

def next? (state : State) (c : Char) (r : List Char) : Option (State × List Char) :=
  match state.brackets with
  | [] => state.part? c r
  | bracket :: around => state.member? bracket around c r

/-- Reads a pattern to its end. Every part takes at least one character. -/
def finish? (state : State) (s : List Char) : Option State :=
  match state.modes.skip s with
  | [] => some state
  | c :: r =>
    match state.next? c r with
    | none => none
    | some (state, rest) => if _h : rest.length < s.length then finish? state rest else none
termination_by s.length

end State

def depthLimit : Nat := 250

/-- Whether a text is a pattern: it can be read to its end, where nothing is open any more. -/
def isWellFormed (s : List Char) : Bool :=
  (State.initial.finish? s).any fun state =>
    state.around.isEmpty && state.brackets.isEmpty && decide (state.group.depth ≤ depthLimit)

end JsWriter.Pattern
