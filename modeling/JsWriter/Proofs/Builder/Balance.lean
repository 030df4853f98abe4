import JsWriter.Proofs.Builder.Runs
import JsWriter.Proofs.Text.Brackets

/-!
# Builders keep brackets balanced

A wrapper opens brackets in one piece and closes them in another, so no piece of it is balanced, but
what a whole call writes is, if the texts that were handed in are.

A caller can have many things in hand: scopes, and assignments, chains and declarations that hold
scopes. `Item.Makes` is one call, which makes something from things in hand and from texts; `Item.Run`
is calls one after another. Nothing leaves the hand, so the runs in which everything is used once are
among these.

* `Scope.AllBalanced`: the code and the parameters of a scope and of those around it are balanced.
* `Call.text_balanced`: what a call on a scope writes.
* `Item.Makes.allBalanced`: one call.
* `Item.Run.allBalanced`: a run.
-/
namespace JsWriter

open Brackets

/-! ## Texts -/

/-- The call of a function, with code inside and parameters in two places. -/
theorem Scope.call_balanced {args : Option String} {body : String} (ha : Balanced (args.getD ""))
    (hb : Balanced body) : Balanced (call args body) := by
  have opened (due) : read due "(function(" = some (')' :: ')' :: due) := rfl
  have begun (due) : read (')' :: due) ") \x7b\n" = some ('\x7d' :: due) := rfl
  have ended (due) : read ('\x7d' :: ')' :: due) "\x7d)(" = some (')' :: due) := rfl
  have closed (due) : read (')' :: due) ")\n" = some due := rfl
  rw [balanced_iff_read]
  simp only [call, read_append, Option.bind_some, opened, begun, ended, closed, ha.read_eq, hb.read_eq]

/-- Code in braces behind an opener. -/
theorem Balanced.inBraces {opener code : String} (ho : Balanced opener) (hc : Balanced code) :
    Balanced (opener ++ " \x7b\n" ++ code ++ "\n\x7d\n") := by
  have opened (due) : read due " \x7b\n" = some ('\x7d' :: due) := rfl
  have closed (due) : read ('\x7d' :: due) "\n\x7d\n" = some due := rfl
  rw [balanced_iff_read]
  simp only [read_append, Option.bind_some, opened, closed, ho.read_eq, hc.read_eq]

/-- A condition in brackets behind a keyword. -/
theorem Balanced.opener (word : String) {condition : String} (hw : read [] word = some [')'])
    (hc : Balanced condition) : Balanced (word ++ condition ++ ")") := by
  have closed : read [')'] ")" = some [] := rfl
  rw [balanced_iff_read]
  simp only [read_append, Option.bind_some, hw, hc.read_eq, closed]

theorem Balanced.declaration {name : String} (h : Balanced name) : Balanced ("var " ++ name ++ ";\n") :=
  (append (by decide) h).append (by decide)

theorem Balanced.initialised {name value : String} (hn : Balanced name) (hv : Balanced value) :
    Balanced ("var " ++ name ++ " = " ++ value ++ ";\n") :=
  (((append (by decide) hn).append (by decide)).append hv).append (by decide)

theorem Balanced.assigned {name value : String} (hn : Balanced name) (hv : Balanced value) :
    Balanced (name ++ " = " ++ value ++ ";\n") :=
  ((hn.append (by decide)).append hv).append (by decide)

theorem Balanced.line {text : String} (h : Balanced text) : Balanced (text ++ "\n") :=
  h.append (by decide)

/-! ## Scopes -/

namespace Scope

/-- The scope and those around it, innermost first. -/
def enclosing : Scope → List Scope
  | root body => [root body]
  | nested parent args body => nested parent args body :: parent.enclosing

/-- The code and the parameters of the scope and of those around it are balanced. -/
def AllBalanced (scope : Scope) : Prop :=
  ∀ frame ∈ scope.frames, Balanced frame.text ∧ Balanced (frame.args.getD "")

theorem allBalanced_root (body : TextBuffer) : (root body).AllBalanced ↔ Balanced body.text := by
  have none_balanced : Balanced "" := by decide
  simp [AllBalanced, frames, none_balanced]

theorem allBalanced_nested (parent : Scope) (args : Option String) (body : TextBuffer) :
    (nested parent args body).AllBalanced ↔
      (Balanced body.text ∧ Balanced (args.getD "")) ∧ parent.AllBalanced := by
  simp [AllBalanced, frames]

namespace AllBalanced

variable {scope : Scope}

theorem append (h : scope.AllBalanced) {text : String} (ht : Balanced text) :
    (scope.append text).AllBalanced := by
  cases scope with
  | root body =>
    rw [allBalanced_root] at h
    exact (allBalanced_root _).mpr (h.append ht)
  | nested parent args body =>
    rw [allBalanced_nested] at h
    exact (allBalanced_nested ..).mpr ⟨⟨h.1.1.append ht, h.1.2⟩, h.2⟩

theorem openScope (h : scope.AllBalanced) {args : Option String} (ha : Balanced (args.getD "")) :
    (scope.openScope args).value.AllBalanced :=
  (allBalanced_nested ..).mpr ⟨⟨by decide, ha⟩, h⟩

theorem finalize (h : scope.AllBalanced) : Balanced scope.finalize := by
  cases scope with
  | root body => exact (allBalanced_root body).mp h
  | nested parent args body =>
    obtain ⟨⟨hb, ha⟩, -⟩ := (allBalanced_nested ..).mp h
    rw [finalize_nested]
    exact call_balanced ha hb

theorem close (h : scope.AllBalanced) {step : Log Scope} (hs : scope.close = .ok step) :
    step.value.AllBalanced := by
  cases scope with
  | root body => cases hs
  | nested parent args body =>
    obtain rfl := Except.ok.inj hs
    exact append ((allBalanced_nested ..).mp h).2 h.finalize

/-- A scope around is balanced as well. -/
theorem of_enclosing (h : scope.AllBalanced) {outer : Scope} (ho : outer ∈ scope.enclosing) :
    outer.AllBalanced := by
  induction scope with
  | root body =>
    obtain rfl := List.mem_singleton.mp ho
    exact h
  | nested parent args body ih =>
    rcases List.mem_cons.mp ho with rfl | ho
    · exact h
    · exact ih ((allBalanced_nested ..).mp h).2 ho

end AllBalanced
end Scope

/-! ## Calls on a scope -/

namespace Call

/-- The texts that are handed in with a call, those of its blocks apart. -/
def texts : Call → List String
  | declareVar name => [name]
  | declareVarWith name value => [name, value]
  | assign value name => [value, name]
  | append text => [text]
  | appendLine text => [text]
  | openScope args => args.toList
  | close => []
  | chain condition _ more _ => condition :: more.map Prod.fst
  | ifThen condition _ => [condition]
  | declareFunction header _ => [header]
  | writeFunction decl => [decl.header]

def blocks : Call → List Scope
  | chain _ block more otherwise => block :: (more.map Prod.snd ++ otherwise.toList)
  | ifThen _ block => [block]
  | declareFunction _ body => [body]
  | writeFunction decl => [decl.body]
  | _ => []

end Call

/-! ## What a call writes -/

theorem Clause.text_balanced {clause : Clause} (hc : Balanced clause.condition)
    (hb : clause.block.AllBalanced) : Balanced clause.text := by
  have keyword : read [] (clause.keyword.text ++ " (") = some [')'] := by
    cases clause.keyword <;> rfl
  have braces := Balanced.inBraces (.opener _ keyword hc) hb.finalize
  simpa [text, String.append_assoc] using braces

theorem Clause.textAll_balanced {clauses : List Clause}
    (h : ∀ clause ∈ clauses, Balanced clause.condition ∧ clause.block.AllBalanced) :
    Balanced (textAll clauses) := by
  induction clauses with
  | nil => decide
  | cons clause clauses ih =>
    obtain ⟨hc, hb⟩ := h clause List.mem_cons_self
    rw [textAll_cons]
    exact (text_balanced hc hb).append (ih fun other ho => h other (List.mem_cons_of_mem _ ho))

theorem ElseChain.text_balanced {otherwise : Option Scope}
    (h : ∀ block ∈ otherwise, block.AllBalanced) : Balanced (text otherwise) := by
  cases otherwise with
  | none => decide
  | some block =>
    have else_balanced : Balanced "else" := by decide
    exact else_balanced.inBraces (h block rfl).finalize

theorem FunctionDecl.text_balanced {decl : FunctionDecl} (hh : Balanced decl.header)
    (hb : decl.body.AllBalanced) : Balanced decl.text :=
  .inBraces (.append (by decide) hh) hb.finalize

namespace Call

/-- **What a call writes.** It is balanced when the texts and the blocks that are handed in are. -/
theorem text_balanced (call : Call) (ht : ∀ text ∈ call.texts, Balanced text)
    (hb : ∀ block ∈ call.blocks, block.AllBalanced) : Balanced call.text := by
  cases call with
  | declareVar name => exact .declaration (ht name (by simp [texts]))
  | declareVarWith name value =>
    exact .initialised (ht name (by simp [texts])) (ht value (by simp [texts]))
  | assign value name => exact .assigned (ht name (by simp [texts])) (ht value (by simp [texts]))
  | append text => exact ht text (by simp [texts])
  | appendLine text => exact .line (ht text (by simp [texts]))
  | openScope args =>
    show Balanced ""
    decide
  | close => decide
  | chain condition block more otherwise =>
    have clauses : Balanced (Clause.textAll (Clause.inOrder condition block more)) := by
      refine Clause.textAll_balanced fun clause hm => ?_
      rcases List.mem_cons.mp hm with rfl | hm
      · exact ⟨ht condition (by simp [texts]), hb block (by simp [blocks])⟩
      · obtain ⟨further, behind, rfl⟩ := List.mem_map.mp hm
        refine ⟨ht _ (List.mem_cons_of_mem _ (List.mem_map_of_mem behind)), hb _ ?_⟩
        exact List.mem_cons_of_mem _ (List.mem_append_left _ (List.mem_map_of_mem behind))
    refine clauses.append (ElseChain.text_balanced fun block hm => hb _ ?_)
    exact List.mem_cons_of_mem _ (List.mem_append_right _ (Option.mem_toList.mpr hm))
  | ifThen condition block =>
    exact Clause.text_balanced (ht condition (by simp [texts])) (hb block (by simp [blocks]))
  | declareFunction header body =>
    exact FunctionDecl.text_balanced (ht header (by simp [texts])) (hb body (by simp [blocks]))
  | writeFunction decl =>
    exact FunctionDecl.text_balanced (ht decl.header (by simp [texts]))
      (hb decl.body (by simp [blocks]))

end Call

/-- A call keeps a scope balanced. -/
theorem Scope.AllBalanced.perform {scope : Scope} (h : scope.AllBalanced) {call : Call}
    (ht : ∀ text ∈ call.texts, Balanced text) (hb : ∀ block ∈ call.blocks, block.AllBalanced)
    {step : Log Scope} (hs : scope.perform call = .ok step) : step.value.AllBalanced := by
  rcases call.opens_or_closes_or_writes with ⟨args, rfl⟩ | rfl | hw
  · obtain rfl := Except.ok.inj hs
    refine h.openScope ?_
    cases args with
    | none => decide
    | some args => exact ht args (by simp [Call.texts])
  · exact h.close hs
  · have written := Scope.perform_write hw scope
    rw [hs] at written
    rw [show step.value = scope.append call.text from Except.ok.inj written]
    exact h.append (call.text_balanced ht hb)

/-! ## Many things in hand -/

/-- Something that a caller has in hand: a scope, or what holds a scope until it is finished. -/
inductive Item where
  | scope (scope : Scope)
  | assignment (assignment : Assignment)
  | ifChain (chain : IfChain)
  | elseChain (chain : ElseChain)
  | function (decl : FunctionDecl)
  deriving DecidableEq, Repr

namespace Item

def scopes : Item → List Scope
  | scope held => [held]
  | assignment pending => [pending.scope]
  | ifChain chain => [chain.owner, chain.pending.block]
  | elseChain chain => [chain.owner, chain.block]
  | function decl => [decl.body]

/-- The texts in an item that no scope holds yet. -/
def texts : Item → List String
  | scope _ => []
  | assignment pending => [pending.value]
  | ifChain chain => [chain.pending.condition]
  | elseChain _ => []
  | function decl => [decl.header]

/-- A call makes an item from texts and from what is in hand. -/
inductive Makes (hand : List Item) : (texts : List String) → Item → Prop
  | empty : Makes hand [] (scope .empty)
  | ofText (text : String) : Makes hand [text] (scope (.ofText text))
  | call {owner : Scope} {call : Call} {step : Log Scope} :
    scope owner ∈ hand → (∀ block ∈ call.blocks, scope block ∈ hand) →
    owner.perform call = .ok step → Makes hand call.texts (scope step.value)
  | assign {owner : Scope} (value : String) :
    scope owner ∈ hand → Makes hand [value] (assignment (owner.assign value))
  | assignTo {pending : Assignment} (name : String) :
    assignment pending ∈ hand → Makes hand [name] (scope (pending.to name))
  | ifBlock {owner block : Scope} (condition : String) :
    scope owner ∈ hand → scope block ∈ hand →
    Makes hand [condition] (ifChain (owner.ifBlock condition block))
  | elseIf {chain : IfChain} {block : Scope} (condition : String) :
    ifChain chain ∈ hand → scope block ∈ hand →
    Makes hand [condition] (ifChain (chain.elseIf condition block).value)
  | elseBlock {chain : IfChain} {block : Scope} :
    ifChain chain ∈ hand → scope block ∈ hand → Makes hand [] (elseChain (chain.elseBlock block).value)
  | endIf {chain : IfChain} : ifChain chain ∈ hand → Makes hand [] (scope chain.endIf.value)
  | endElse {chain : ElseChain} : elseChain chain ∈ hand → Makes hand [] (scope chain.endIf.value)
  | declare {body : Scope} (header : String) :
    scope body ∈ hand → Makes hand [header] (function ⟨header, body⟩)
  | writeFunction {decl : FunctionDecl} {owner : Scope} :
    function decl ∈ hand → scope owner ∈ hand → Makes hand [] (scope (decl.writeTo owner).value)

/-- Calls one after another, the texts that were handed in, and what is in hand after them. -/
inductive Run : (texts : List String) → (hand : List Item) → Prop
  | start : Run [] []
  | make {texts more : List String} {hand : List Item} {item : Item} :
    Run texts hand → Makes hand more item → Run (texts ++ more) (item :: hand)

/-- All scopes in an item, those around them, and the texts in it are balanced. -/
structure AllBalanced (item : Item) : Prop where
  scopes : ∀ scope ∈ item.scopes, scope.AllBalanced
  texts : ∀ text ∈ item.texts, Balanced text

theorem allBalanced_scope {held : Scope} : (scope held).AllBalanced ↔ held.AllBalanced := by
  constructor
  · intro h
    exact h.scopes held (by simp [Item.scopes])
  · intro h
    exact ⟨by simpa [Item.scopes] using h, by simp [Item.texts]⟩

theorem allBalanced_ifChain {chain : IfChain} : (ifChain chain).AllBalanced ↔
    (chain.owner.AllBalanced ∧ chain.pending.block.AllBalanced) ∧ Balanced chain.pending.condition := by
  constructor
  · intro h
    exact ⟨by simpa [Item.scopes] using h.scopes, by simpa [Item.texts] using h.texts⟩
  · intro h
    exact ⟨by simpa [Item.scopes] using h.1, by simpa [Item.texts] using h.2⟩

end Item

/-- A chain has written its pending clause. -/
theorem Item.AllBalanced.written {chain : IfChain} (h : (Item.ifChain chain).AllBalanced) :
    (chain.owner.append chain.pending.text).AllBalanced := by
  obtain ⟨⟨owner, block⟩, condition⟩ := Item.allBalanced_ifChain.mp h
  exact owner.append (Clause.text_balanced condition block)

/-- **One call.** What it makes is balanced when what is in hand and the texts are. -/
theorem Item.Makes.allBalanced {hand : List Item} {texts : List String} {item : Item}
    (h : Makes hand texts item) (hh : ∀ held ∈ hand, held.AllBalanced)
    (ht : ∀ text ∈ texts, Balanced text) : item.AllBalanced := by
  have held {scope : Scope} (hm : Item.scope scope ∈ hand) : scope.AllBalanced :=
    allBalanced_scope.mp (hh _ hm)
  cases h with
  | empty => exact allBalanced_scope.mpr ((Scope.allBalanced_root _).mpr (by decide))
  | ofText text =>
    refine allBalanced_scope.mpr ((Scope.allBalanced_root _).mpr ?_)
    simpa using ht text (by simp)
  | call owner blocks run =>
    exact allBalanced_scope.mpr ((held owner).perform ht (fun block hb => held (blocks block hb)) run)
  | assign value owner =>
    exact ⟨by simpa [Item.scopes, Scope.assign] using held owner, by simpa [Item.texts, Scope.assign] using ht⟩
  | assignTo name pending =>
    have before := hh _ pending
    rw [Assignment.to_eq]
    refine allBalanced_scope.mpr (.append (before.scopes _ (by simp [Item.scopes])) ?_)
    exact .assigned (ht name (by simp)) (before.texts _ (by simp [Item.texts]))
  | ifBlock condition owner block =>
    exact allBalanced_ifChain.mpr ⟨⟨held owner, held block⟩, ht condition (by simp)⟩
  | elseIf condition chain block =>
    rw [IfChain.elseIf_eq]
    exact allBalanced_ifChain.mpr ⟨⟨(hh _ chain).written, held block⟩, ht condition (by simp)⟩
  | elseBlock chain block =>
    rw [IfChain.elseBlock_eq]
    exact ⟨by simpa [Item.scopes] using ⟨(hh _ chain).written, held block⟩, by simp [Item.texts]⟩
  | endIf chain =>
    rw [IfChain.endIf_eq]
    exact allBalanced_scope.mpr (hh _ chain).written
  | @endElse chain hc =>
    have before := (hh _ hc).scopes
    rw [ElseChain.endIf_eq]
    refine allBalanced_scope.mpr (.append (before _ (by simp [Item.scopes])) ?_)
    have last : ∀ block ∈ some chain.block, block.AllBalanced := by
      rintro _ ⟨⟩
      exact before chain.block (by simp [Item.scopes])
    exact ElseChain.text_balanced last
  | declare header body =>
    exact ⟨by simpa [Item.scopes] using held body, by simpa [Item.texts] using ht⟩
  | @writeFunction decl owner hd ho =>
    have before := hh _ hd
    have run : owner.perform (.writeFunction decl) = .ok (decl.writeTo owner) := rfl
    refine allBalanced_scope.mpr ((held ho).perform ?_ ?_ run)
    · simpa [Item.texts, Call.texts] using before.texts
    · simpa [Item.scopes, Call.blocks] using before.scopes

/-- **A run.** Everything in hand is balanced when all texts that were handed in are. -/
theorem Item.Run.allBalanced {hand : List Item} {texts : List String} (h : Run texts hand)
    (ht : ∀ text ∈ texts, Balanced text) : ∀ item ∈ hand, item.AllBalanced := by
  induction h with
  | start =>
    intro item hm
    cases hm
  | make _ made ih =>
    have before := ih fun text hm => ht text (List.mem_append_left _ hm)
    intro item hm
    rcases List.mem_cons.mp hm with rfl | hm
    · exact made.allBalanced before fun text hm => ht text (List.mem_append_right _ hm)
    · exact before item hm

end JsWriter
