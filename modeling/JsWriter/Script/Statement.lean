/-!
# Build scripts

A build script says which statements of JavaScript to write, and in which order. Conditions, names,
values and headers are pieces of JavaScript that are taken as they are. `Op` names the kinds of
statements under which a script asks for them.
-/
namespace JsWriter

mutual
/-- One step of a build script. -/
inductive Statement where
  /-- A declaration, with or without a first value. -/
  | var (name : String) (value : Option String)
  /-- An assignment of `value` to `name`. -/
  | assign (name value : String)
  /-- Text as it is. -/
  | raw (text : String)
  /-- Text with a line feed behind it. -/
  | line (text : String)
  /-- A function that is called at once, with its parameters passed under their own names. -/
  | scope (args : Option String) (body : List Statement)
  /-- A chain of conditions, and what to do when none holds. -/
  | cond (branches : List Branch) (otherwise : Option (List Statement))
  /-- A function declaration. -/
  | function (header : String) (body : List Statement)

/-- A condition with what to do when it holds. -/
structure Branch where
  condition : String
  body : List Statement
end

instance : Inhabited Statement := ⟨.raw ""⟩
instance : Inhabited Branch := ⟨"", []⟩

/-- A build script: bare statements, or a document that holds them. -/
inductive Script where
  | statements (statements : List Statement)
  | document (statements : List Statement)
  deriving Inhabited

/-- The statements of a script, whichever its form (`statements`). -/
def Script.body : Script → List Statement
  | statements ss => ss
  | document ss => ss

/-! ## Kinds of statements -/

/-- The kinds of statements. -/
inductive Op where
  | var
  | assign
  | raw
  | line
  | scope
  | cond
  | function
  deriving DecidableEq, Repr

namespace Op

/-- All kinds, in the order in which they are counted. -/
def all : List Op := [var, assign, raw, line, scope, cond, function]

/-- The name under which a script asks for the kind. -/
def name : Op → String
  | var => "var"
  | assign => "assign"
  | raw => "raw"
  | line => "line"
  | scope => "scope"
  | cond => "if"
  | function => "function"

def title : Op → String
  | var => "Var"
  | assign => "Assign"
  | raw => "Raw"
  | line => "Line"
  | scope => "Scope"
  | cond => "If"
  | function => "Function"

def ofName? (name : String) : Option Op :=
  all.find? fun op => op.name = name

end Op

/-- What has fields: a statement of some kind, or a branch. -/
inductive Record where
  | statement (op : Op)
  | branch
  deriving DecidableEq, Repr

namespace Record

def arity : Record → Nat
  | statement .raw => 1
  | statement .line => 1
  | statement _ => 2
  | branch => 2

def title : Record → String
  | statement op => "struct variant Statement::" ++ op.title
  | branch => "struct Branch"

end Record

end JsWriter
