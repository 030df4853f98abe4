import JsWriter.Proofs.Replay.Reference
import JsWriter.Script.Replay

/-!
# Replaying is what the script means

`Replay.ofMarks` is a replay that reports the events of a list of marks and, unless there is a stop
mark, ends with a value. `Replay.ofMarks_bind`: one after the other, two of them report the marks of
both.

* `Statement.replayAll_eq`: replaying statements in any scope reports their marks at the depth of the
  scope and appends their code to it. So it changes nothing else, at whatever depth it starts.
* `replayAll_writes_text`: without empty conditionals the replay succeeds, and what it writes is the
  code of the statements.
* `build_reports_marks`: the events of every replay, also of one that fails.
-/
namespace JsWriter

namespace Replay

variable {α β : Type}

/-- Reports the events before the first stop mark; ends there, or with a value. -/
def ofMarks (marks : List Mark) (value : α) : Replay α :=
  ExceptT.mk ⟨Mark.events marks, if .stop ∈ marks then .error .emptyConditional else .ok value⟩

theorem ofLog_eq (log : Log α) : ofLog log = ofMarks (log.events.map .event) log.value := by
  have hs : Mark.stop ∉ log.events.map .event := by simp
  have he : Mark.events (log.events.map .event) = log.events := by
    induction log.events with
    | nil => rfl
    | cons e events ih => simp only [List.map_cons, Mark.events, ih]
  apply Log.ext
  · simp only [ofMarks, ExceptT.mk, he]
    exact Log.events_map _ _
  · simp only [ofMarks, ExceptT.mk, hs, if_false]
    rfl

/-- **One after the other.** The marks of both, and the last value. -/
theorem ofMarks_bind {marks more : List Mark} {a : α} {b : β} {f : α → Replay β}
    (h : f a = ofMarks more b) : ofMarks marks a >>= f = ofMarks (marks ++ more) b := by
  by_cases hs : .stop ∈ marks
  · apply Log.ext
    · simp [ofMarks, bind, ExceptT.bind, ExceptT.mk, ExceptT.bindCont, hs,
        Mark.events_append_of_stop hs]
    · simp [ofMarks, bind, ExceptT.bind, ExceptT.mk, ExceptT.bindCont, hs]
  · apply Log.ext
    · simp [ofMarks, bind, ExceptT.bind, ExceptT.mk, ExceptT.bindCont, hs, Mark.events_append hs, h]
    · simp [ofMarks, bind, ExceptT.bind, ExceptT.mk, ExceptT.bindCont, hs, h]

/-! ## One step -/

theorem openScope_eq (scope : Scope) (args : Option String) :
    ofLog (scope.openScope args) =
      ofMarks [.event (.opening (scope.depth + 1) args)] (.nested scope args .empty) := by
  rw [ofLog_eq]; rfl

/-- A scope that was opened here can be closed here. -/
theorem closeStep_nested (parent : Scope) (args : Option String) (text : String) :
    ((Scope.nested parent args .empty).append text).closeStep =
      ofMarks [.event (.closing (parent.depth + 1) args (Scope.call args text).utf8ByteSize)]
        (parent.append (Scope.call args text)) := by
  have hc : ((Scope.nested parent args .empty).append text).finalize = Scope.call args text :=
    Scope.finalize_nested parent args ⟨"" ++ text⟩ |>.trans (by simp)
  have hd : ((Scope.nested parent args .empty).append text).depth = parent.depth + 1 := by
    simp [Scope.append, Scope.depth]
  unfold Scope.closeStep Scope.close
  simp only [Scope.append, Scope.modify] at hc hd ⊢
  rw [ofLog_eq, hc, hd]
  rfl

theorem writeTo_eq (clause : Clause) (owner : Scope) :
    ofLog (clause.writeTo owner) =
      ofMarks [.event (.clause clause.keyword clause.condition)] (owner.append clause.text) := by
  rw [ofLog_eq, Clause.writeTo_eq]; rfl

/-- The clause that was pending is written, the new one is pending. -/
theorem elseIf_eq (chain : IfChain) (condition : String) (block : Scope) :
    ofLog (chain.elseIf condition block) =
      ofMarks [.event (.clause chain.pending.keyword chain.pending.condition)]
        ⟨chain.owner.append chain.pending.text, ⟨.further, condition, block⟩⟩ := by
  rw [ofLog_eq, IfChain.elseIf_eq]; rfl

theorem elseBlock_eq (chain : IfChain) (block : Scope) :
    ofLog (chain.elseBlock block) =
      ofMarks [.event (.clause chain.pending.keyword chain.pending.condition)]
        ⟨chain.owner.append chain.pending.text, block⟩ := by
  rw [ofLog_eq, IfChain.elseBlock_eq]; rfl

theorem endIf_eq (chain : ElseChain) :
    ofLog chain.endIf = ofMarks [.event .otherwise]
      (chain.owner.append ("else \x7b\n" ++ chain.block.finalize ++ "\n\x7d\n")) := by
  rw [ofLog_eq, ElseChain.endIf_eq]; rfl

theorem declareFunction_eq (scope : Scope) (header : String) (block : Scope) :
    ofLog (scope.declareFunction header block) =
      ofMarks [.event (.function header)] (scope.append
        ("function " ++ header ++ " \x7b\n" ++ block.finalize ++ "\n\x7d\n")) := by
  rw [ofLog_eq, Scope.declareFunction, FunctionDecl.writeTo_eq]; rfl

end Replay

/-! ## Statements -/

theorem Scope.finalize_empty_append (text : String) : (Scope.empty.append text).finalize = text := by
  simp [empty, append, modify, finalize]

/-- A branch is the clause whose block holds its code. -/
theorem Branch.textAll_cons (keyword : Keyword) (condition : String) (body : List Statement)
    (branches : List Branch) :
    Branch.textAll keyword (⟨condition, body⟩ :: branches) =
      Clause.text ⟨keyword, condition, Scope.empty.append (Statement.textAll body)⟩ ++
        Branch.textAll .further branches := by
  rw [Branch.textAll, Clause.text, Scope.finalize_empty_append]

open Replay (ofMarks ofMarks_bind)

mutual
/-- **A statement.** It reports its marks and appends its code. -/
theorem Statement.replay_eq (scope : Scope) : ∀ statement : Statement,
    Statement.replay scope statement =
      ofMarks (statement.marks scope.depth) (scope.append statement.text)
  | .var name none => by
    rw [Statement.replay, Scope.declareVar_eq]; rfl
  | .var name (some value) => by
    rw [Statement.replay, Scope.declareVarWith_eq]; rfl
  | .assign name value => by
    rw [Statement.replay, Assignment.to_eq]; rfl
  | .raw text => rfl
  | .line text => by
    rw [Statement.replay, Scope.appendLine_eq]; rfl
  | .scope args body => by
    rw [Statement.replay, Replay.openScope_eq]
    refine ofMarks_bind ?_
    rw [Statement.replayAll_eq (.nested scope args .empty) body]
    exact ofMarks_bind (Replay.closeStep_nested scope args _)
  | .cond [] none => by
    rw [Statement.replay]; rfl
  | .cond [] (some _) => by
    rw [Statement.replay]; rfl
  | .cond (⟨condition, body⟩ :: branches) none => by
    rw [Statement.replay, Statement.replayAll_eq .empty body]
    refine ofMarks_bind ?_
    refine (Branch.replayAll_bind _ none "" (fun chain => ?_) _ branches).trans ?_
    · rw [String.append_empty]
      exact Replay.writeTo_eq chain.pending chain.owner
    · rw [Statement.text, Branch.textAll_cons, String.append_empty]
      rfl
  | .cond (⟨condition, body⟩ :: branches) (some block) => by
    rw [Statement.replay, Statement.replayAll_eq .empty body]
    refine ofMarks_bind ?_
    refine (Branch.replayAll_bind _ (some (Statement.marksAll 0 block))
      ("else \x7b\n" ++ Statement.textAll block ++ "\n\x7d\n") (fun chain => ?_) _ branches).trans ?_
    · dsimp only
      rw [Statement.replayAll_eq .empty block]
      refine ofMarks_bind ?_
      rw [Replay.elseBlock_eq]
      refine @ofMarks_bind _ _ _ [.event .otherwise] _ _ _ ?_
      rw [Replay.endIf_eq, Scope.append_append, Scope.finalize_empty_append]
    · rw [Statement.text, Branch.textAll_cons]
      simp only [String.append_assoc]
      rfl
  | .function header body => by
    rw [Statement.replay, Statement.replayAll_eq .empty body]
    refine ofMarks_bind ?_
    rw [Replay.declareFunction_eq, Scope.finalize_empty_append]
    rfl

/-- **Statements.** Replaying them in a scope reports their marks and appends their code. -/
theorem Statement.replayAll_eq (scope : Scope) : ∀ statements : List Statement,
    Statement.replayAll scope statements =
      ofMarks (Statement.marksAll scope.depth statements)
        (scope.append (Statement.textAll statements))
  | [] => by rw [Statement.replayAll, Statement.textAll, Scope.append_empty]; rfl
  | statement :: statements => by
    rw [Statement.replayAll, Statement.replay_eq scope statement]
    refine ofMarks_bind ?_
    rw [Statement.replayAll_eq (scope.append statement.text) statements, Scope.append_append]
    simp only [Scope.append, Scope.depth_modify]
    rfl

/-- **Branches.** What ends a chain, `finish`, comes after the last clause; it adds a text behind
that clause. With the branches before it, every clause is reported and written in its turn. -/
theorem Branch.replayAll_bind (finish : IfChain → Replay Scope) (otherwise : Option (List Mark))
    (tail : String)
    (hf : ∀ chain, finish chain =
      ofMarks (Branch.marksAll (.clause chain.pending.keyword chain.pending.condition) otherwise [])
        (chain.owner.append (chain.pending.text ++ tail)))
    (chain : IfChain) : ∀ branches : List Branch,
    Branch.replayAll chain branches >>= finish =
      ofMarks
        (Branch.marksAll (.clause chain.pending.keyword chain.pending.condition) otherwise branches)
        (chain.owner.append (chain.pending.text ++ (Branch.textAll .further branches ++ tail)))
  | [] => by
    rw [Branch.replayAll, pure_bind, hf, Branch.textAll, String.empty_append]
  | ⟨condition, body⟩ :: branches => by
    rw [Branch.replayAll, bind_assoc, Statement.replayAll_eq .empty body]
    refine ofMarks_bind ?_
    rw [bind_assoc, Replay.elseIf_eq]
    refine @ofMarks_bind _ _ [_] _ _ _ _ ?_
    rw [Branch.replayAll_bind finish otherwise tail hf _ branches, Scope.append_append,
      Branch.textAll_cons, String.append_assoc]
end

/-! ## Whole scripts -/

namespace Replay

variable {α : Type} {marks : List Mark}

theorem events_ofMarks (a : α) : (ofMarks marks a).events = Mark.events marks := rfl

theorem result_ofMarks (h : .stop ∉ marks) (a : α) : (ofMarks marks a).result = .ok a :=
  if_neg h

theorem result_ofMarks_of_stop (h : .stop ∈ marks) (a : α) :
    (ofMarks marks a).result = .error .emptyConditional :=
  if_pos h

end Replay

theorem Statement.build_eq (statements : List Statement) :
    Statement.build statements =
      ofMarks (Statement.marksAll 0 statements)
        (Scope.empty.append (Statement.textAll statements)) :=
  Statement.replayAll_eq .empty statements

/-- Rendering a text that reads as a script reports how long the script is and then what building
its statements reports; it ends as building ends. -/
theorem render_of_read {text : String} {script : Script} (h : Script.read text = .ok script) :
    (render text).events =
        .rendering script.body.length :: (Statement.build script.body).events ∧
      (render text).value =
        ((Statement.build script.body).result.map Scope.finalize).mapError .replay := by
  simp [render, h, Script.render, Replay.events, Replay.result]

/-- **What a script writes.** Without empty conditionals, replaying statements in a scope of any
depth succeeds and appends their code to it; its parameters and all scopes around it stay. So
building and rendering give exactly the code. -/
theorem replayAll_writes_text (statements : List Statement)
    (h : Statement.AllBranched statements) :
    (∀ scope : Scope, ∃ result, (Statement.replayAll scope statements).result = .ok result ∧
      result.args = scope.args ∧ result.parent? = scope.parent? ∧
      result.body = scope.body ++ Statement.textAll statements) ∧
    (∃ root, (Statement.build statements).result = .ok root ∧
      root.finalize = Statement.textAll statements) ∧
    ∀ text script, Script.read text = .ok script → script.body = statements →
      (render text).value = .ok (Statement.textAll statements) := by
  have hs (depth : Nat) := Statement.stop_notMem_marksAll depth h
  have hb : (Statement.build statements).result =
      .ok (Scope.empty.append (Statement.textAll statements)) := by
    rw [Statement.build_eq, Replay.result_ofMarks (hs 0)]
  refine ⟨fun scope => ?_, ⟨_, hb, Scope.finalize_empty_append _⟩, ?_⟩
  · refine ⟨scope.append (Statement.textAll statements), ?_, ?_, ?_, ?_⟩
    · rw [Statement.replayAll_eq, Replay.result_ofMarks (hs scope.depth)]
    · exact Scope.args_modify _ scope
    · exact Scope.parent?_modify _ scope
    · simp [Scope.body, Scope.append]
  · intro text script hr hbody
    rw [(render_of_read hr).2, hbody, hb]
    exact congrArg Except.ok (Scope.finalize_empty_append _)

/-- A chain in a scope, replayed inside a scope that was opened with `x`. -/
theorem replayAll_writes_text_inside :
    ∃ result,
      (Statement.replayAll (.nested (.root ⟨"a"⟩) (some "x") ⟨"b"⟩)
        [.scope none [.cond [⟨"p", [.raw "f();"]⟩, ⟨"q", [.function "g()" []]⟩]
          (some [.line "h();"])]]).result = .ok result ∧
      result.args = some "x" ∧ result.parent? = some (.root ⟨"a"⟩) ∧
      result.body =
        "b(function() \x7b\nif (p) \x7b\nf();\n\x7d\nelse if (q) \x7b\nfunction g() \x7b\n\n\x7d\n\n\x7d\n" ++
          "else \x7b\nh();\n\n\x7d\n\x7d)()\n" :=
  (replayAll_writes_text _
    (by simp [Statement.AllBranched, Statement.Branched, Branch.AllBranched])).1 _

end JsWriter
