import JsWriter.Pattern.Atom

/-!
# Brackets of a pattern

A bracket is a set of characters: members, ranges of them, named sets of ASCII, further brackets, and
operators between sets. An open bracket keeps the depth of each member.
-/
namespace JsWriter.Pattern

/-- How deep a row of parts is: a single part adds no level, more are a level of their own. -/
def depth : List Nat → Nat
  | [] => 0
  | [n] => n
  | ns => ns.foldl max 0 + 1

/-- A bracket that is still open. -/
structure Bracket where
  /-- The depth of what stands left of the last operator. -/
  left : Option Nat
  /-- The depths of the members since then, the last one first. -/
  members : List Nat
  /-- Nothing but hyphens came so far. They are members here, and so is a closing bracket in the
  first place. -/
  opening : Bool
  deriving DecidableEq, Repr

namespace Bracket

def add (bracket : Bracket) (depth : Nat) : Bracket :=
  { bracket with members := depth :: bracket.members }

def depth (bracket : Bracket) : Nat :=
  match bracket.left with
  | none => Pattern.depth bracket.members
  | some left => max left (Pattern.depth bracket.members) + 1

/-- What follows an operator between sets, if one begins with a character. -/
def operator? : Char → List Char → Option (List Char)
  | '&', '&' :: r => some r
  | '-', '-' :: r => some r
  | '~', '~' :: r => some r
  | _, _ => none

def names : List String :=
  ["alnum", "alpha", "ascii", "blank", "cntrl", "digit", "graph", "lower", "print", "punct", "space",
    "upper", "word", "xdigit"]

/-- What follows a named set, after its opening bracket, and whether the set is negated. -/
def named? : List Char → Option (Bool × List Char)
  | ':' :: r =>
    let negated := decide (r.head? = some '^')
    let r := if negated then r.tail else r
    match r.dropWhile (· ≠ ':') with
    | ':' :: ']' :: rest =>
      if String.ofList (r.takeWhile (· ≠ ':')) ∈ names then some (negated, rest) else none
    | _ => none
  | _ => none

/-- What follows a member that begins with a character, or a range of them. -/
def member? (modes : Modes) (c : Char) (r : List Char) : Option (List Char) := do
  let (first, r) ← Atom.next modes c r
  let r := modes.skip r
  let single := if first.isMember modes then some r else none
  match r with
  | '-' :: s =>
    match modes.skip s with
    | [] => none
    | ']' :: _ => single
    | '-' :: _ => single
    | c :: s =>
      let (last, s) ← Atom.next modes c s
      match first, last with
      | .char a _, .char b _ =>
        if a ≤ b ∧ first.isMember modes ∧ last.isMember modes then some s else none
      | _, _ => none
  | _ => single

/-- A bracket that has just opened, and what follows; a circumflex at its start negates it. -/
def start? (modes : Modes) (r : List Char) : Option (Bracket × List Char) :=
  match modes.skip r with
  | '^' :: r => if modes.wide then some (⟨none, [], true⟩, r) else none
  | r => some (⟨none, [], true⟩, r)

end Bracket
end JsWriter.Pattern
