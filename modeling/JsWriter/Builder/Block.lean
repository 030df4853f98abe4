import JsWriter.Builder.Scope

/-!
# Conditionals and functions

A conditional is written one step late: a clause waits until the chain goes on or ends, and only then
does it go to the owner of the chain. A block is a scope of its own, from which only its rendering is
taken.

Names: `Clause.writeTo` is `write_into`, `FunctionDecl.writeTo` is `render_into`, and the calls of a chain
are `if_block`, `else_if`, `else_block` and `end_if`.
-/
namespace JsWriter

/-- A condition and the block for when it holds. -/
structure Clause where
  keyword : Keyword
  condition : String
  block : Scope
  deriving DecidableEq, Repr

/-- A chain of conditions: the scope that owns it, and its last clause, which isn't written yet. -/
structure IfChain where
  owner : Scope
  pending : Clause
  deriving DecidableEq, Repr

/-- A chain whose clauses are written, with the block for when none of them holds. -/
structure ElseChain where
  owner : Scope
  block : Scope
  deriving DecidableEq, Repr

/-- A function declaration that no scope holds yet. -/
structure FunctionDecl where
  header : String
  body : Scope
  deriving DecidableEq, Repr

/-- Writes the clause to a scope (`write_into`). It is reported before its block is rendered. -/
def Clause.writeTo (clause : Clause) (owner : Scope) : Log Scope := do
  Log.emit (.clause clause.keyword clause.condition)
  pure (owner.appendBlock (clause.keyword.text ++ " (" ++ clause.condition ++ ")") clause.block)

/-- The code that a clause comes to. -/
def Clause.text (clause : Clause) : String :=
  clause.keyword.text ++ " (" ++ clause.condition ++ ") \x7b\n" ++ clause.block.finalize ++
    "\n\x7d\n"

theorem Clause.writeTo_eq (clause : Clause) (owner : Scope) :
    clause.writeTo owner =
      ⟨[.clause clause.keyword clause.condition], owner.append clause.text⟩ := by
  ext1
  · rfl
  · simp [writeTo, text, Scope.appendBlock_eq, String.append_assoc]

namespace IfChain

/-- Goes on with another clause (`else_if`); only now the last one is written. -/
def elseIf (chain : IfChain) (condition : String) (block : Scope) : Log IfChain := do
  let owner ← chain.pending.writeTo chain.owner
  pure ⟨owner, ⟨.further, condition, block⟩⟩

/-- Goes on with the block for when none of the conditions holds (`else_block`). -/
def elseBlock (chain : IfChain) (block : Scope) : Log ElseChain := do
  let owner ← chain.pending.writeTo chain.owner
  pure ⟨owner, block⟩

def endIf (chain : IfChain) : Log Scope :=
  chain.pending.writeTo chain.owner

end IfChain

/-- Writes the block and gives the owner back (`end_if`). -/
def ElseChain.endIf (chain : ElseChain) : Log Scope := do
  Log.emit .otherwise
  pure (chain.owner.appendBlock "else" chain.block)

def FunctionDecl.writeTo (decl : FunctionDecl) (owner : Scope) : Log Scope := do
  Log.emit (.function decl.header)
  pure (owner.appendBlock ("function " ++ decl.header) decl.body)

/-- The code that a declaration comes to. -/
def FunctionDecl.text (decl : FunctionDecl) : String :=
  "function " ++ decl.header ++ " \x7b\n" ++ decl.body.finalize ++ "\n\x7d\n"

namespace Scope

def ifBlock (scope : Scope) (condition : String) (block : Scope) : IfChain :=
  ⟨scope, ⟨.initial, condition, block⟩⟩

/-- A chain of one clause, begun and ended (`if_then`). -/
def ifThen (scope : Scope) (condition : String) (block : Scope) : Log Scope :=
  (scope.ifBlock condition block).endIf

def declareFunction (scope : Scope) (header : String) (body : Scope) : Log Scope :=
  (⟨header, body⟩ : FunctionDecl).writeTo scope

end Scope

/-! ## What is reported and written -/

namespace IfChain

theorem elseIf_eq (chain : IfChain) (condition : String) (block : Scope) :
    chain.elseIf condition block =
      ⟨[.clause chain.pending.keyword chain.pending.condition],
        ⟨chain.owner.append chain.pending.text, ⟨.further, condition, block⟩⟩⟩ := by
  rw [elseIf, Clause.writeTo_eq]
  rfl

theorem elseBlock_eq (chain : IfChain) (block : Scope) :
    chain.elseBlock block =
      ⟨[.clause chain.pending.keyword chain.pending.condition],
        ⟨chain.owner.append chain.pending.text, block⟩⟩ := by
  rw [elseBlock, Clause.writeTo_eq]
  rfl

theorem endIf_eq (chain : IfChain) :
    chain.endIf =
      ⟨[.clause chain.pending.keyword chain.pending.condition],
        chain.owner.append chain.pending.text⟩ :=
  Clause.writeTo_eq chain.pending chain.owner

end IfChain

theorem ElseChain.endIf_eq (chain : ElseChain) :
    chain.endIf =
      ⟨[.otherwise], chain.owner.append ("else \x7b\n" ++ chain.block.finalize ++ "\n\x7d\n")⟩ := by
  rw [endIf, Scope.appendBlock_eq]
  rfl

theorem FunctionDecl.writeTo_eq (decl : FunctionDecl) (owner : Scope) :
    decl.writeTo owner = ⟨[.function decl.header], owner.append decl.text⟩ := by
  rw [writeTo, Scope.appendBlock_eq]
  rfl

end JsWriter
