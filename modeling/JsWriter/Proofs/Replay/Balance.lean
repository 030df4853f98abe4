import JsWriter.Proofs.Builder.Balance
import JsWriter.Proofs.Replay.Outcome

/-!
# Scripts render to balanced code

The code of a script is balanced when the strings in it are.

* `Statement.textAll_balanced`: the code of statements.
* `code_is_balanced`: everything that callers and scripts can make.
-/
namespace JsWriter

mutual
def Statement.strings : Statement → List String
  | .var name value => name :: value.toList
  | .assign name value => [name, value]
  | .raw text => [text]
  | .line text => [text]
  | .scope args body => args.toList ++ Statement.stringsAll body
  | .cond branches none => Branch.stringsAll branches
  | .cond branches (some body) => Branch.stringsAll branches ++ Statement.stringsAll body
  | .function header body => header :: Statement.stringsAll body

def Statement.stringsAll : List Statement → List String
  | [] => []
  | statement :: statements => statement.strings ++ Statement.stringsAll statements

def Branch.stringsAll : List Branch → List String
  | [] => []
  | ⟨condition, body⟩ :: branches =>
    condition :: (Statement.stringsAll body ++ Branch.stringsAll branches)
end

abbrev AreBalanced (texts : List String) : Prop := ∀ text ∈ texts, Balanced text

theorem AreBalanced.getD {args : Option String} (h : AreBalanced args.toList) :
    Balanced (args.getD "") := by
  cases args with
  | none => decide
  | some args => exact h args (by simp)

/-- A scope that holds balanced code and nothing else. -/
theorem Scope.allBalanced_append_empty {code : String} (h : Balanced code) :
    (Scope.empty.append code).AllBalanced := by
  refine (Scope.allBalanced_root _).mpr ?_
  simpa using h

mutual
/-- **A statement.** -/
theorem Statement.text_balanced : ∀ statement : Statement,
    AreBalanced statement.strings → Balanced statement.text
  | .var name none, h => by
    rw [Statement.text]
    exact .declaration (h name (by simp [Statement.strings]))
  | .var name (some value), h => by
    rw [Statement.text]
    exact .initialised (h name (by simp [Statement.strings])) (h value (by simp [Statement.strings]))
  | .assign name value, h => by
    rw [Statement.text]
    exact .assigned (h name (by simp [Statement.strings])) (h value (by simp [Statement.strings]))
  | .raw text, h => by
    rw [Statement.text]
    exact h text (by simp [Statement.strings])
  | .line text, h => by
    rw [Statement.text]
    exact .line (h text (by simp [Statement.strings]))
  | .scope args body, h => by
    rw [Statement.strings, AreBalanced, List.forall_mem_append] at h
    rw [Statement.text]
    exact Scope.call_balanced (AreBalanced.getD h.1) (Statement.textAll_balanced body h.2)
  | .cond branches none, h => by
    rw [Statement.strings] at h
    rw [Statement.text]
    exact Branch.textAll_balanced .initial branches h
  | .cond branches (some body), h => by
    rw [Statement.strings, AreBalanced, List.forall_mem_append] at h
    rw [Statement.text]
    have code := Statement.textAll_balanced body h.2
    have last : Balanced ("else" ++ " \x7b\n" ++ Statement.textAll body ++ "\n\x7d\n") :=
      .inBraces (by decide) code
    exact (Branch.textAll_balanced .initial branches h.1).append last
  | .function header body, h => by
    rw [Statement.strings, AreBalanced, List.forall_mem_cons] at h
    rw [Statement.text]
    exact .inBraces (.append (by decide) h.1) (Statement.textAll_balanced body h.2)

/-- **Statements.** Their code is balanced when the strings in them are. -/
theorem Statement.textAll_balanced : ∀ statements : List Statement,
    AreBalanced (Statement.stringsAll statements) → Balanced (Statement.textAll statements)
  | [], _ => by
    rw [Statement.textAll]
    decide
  | statement :: statements, h => by
    rw [Statement.stringsAll, AreBalanced, List.forall_mem_append] at h
    rw [Statement.textAll]
    exact (Statement.text_balanced statement h.1).append (Statement.textAll_balanced statements h.2)

theorem Branch.textAll_balanced (keyword : Keyword) : ∀ branches : List Branch,
    AreBalanced (Branch.stringsAll branches) → Balanced (Branch.textAll keyword branches)
  | [], _ => by
    rw [Branch.textAll]
    decide
  | ⟨condition, body⟩ :: branches, h => by
    rw [Branch.stringsAll, AreBalanced, List.forall_mem_cons, List.forall_mem_append] at h
    obtain ⟨hc, hb, hr⟩ := h
    rw [Branch.textAll_cons]
    have block := Scope.allBalanced_append_empty (Statement.textAll_balanced body hb)
    exact (Clause.text_balanced hc block).append (Branch.textAll_balanced .further branches hr)
end

/-- **Code is balanced.** Whatever a caller has in hand after some calls, finished or not: when the
texts that were handed in are balanced, so are the renderings and the frames of the scopes in it and of
those around them. When the strings in statements are balanced, so is the scope that building them
gives, and the code that a script of them renders to. -/
theorem code_is_balanced :
    (∀ texts hand, Item.Run texts hand → AreBalanced texts →
      ∀ item ∈ hand, ∀ inner ∈ item.scopes, ∀ scope ∈ inner.enclosing,
        Balanced scope.finalize ∧ ∀ frame ∈ scope.frames, Balanced frame.text) ∧
    (∀ statements, AreBalanced (Statement.stringsAll statements) →
      ∀ scope, (Statement.build statements).result = .ok scope →
        Balanced scope.finalize ∧ ∀ frame ∈ scope.frames, Balanced frame.text) ∧
    ∀ text script, Script.read text = .ok script → AreBalanced (Statement.stringsAll script.body) →
      ∀ code, (render text).value = .ok code → Balanced code := by
  have views {scope : Scope} (h : scope.AllBalanced) :
      Balanced scope.finalize ∧ ∀ frame ∈ scope.frames, Balanced frame.text :=
    ⟨h.finalize, fun frame hf => (h frame hf).1⟩
  refine ⟨?_, ?_, ?_⟩
  · intro texts hand run ht item hm inner hi scope hs
    exact views ((run.allBalanced ht item hm |>.scopes inner hi).of_enclosing hs)
  · intro statements hs scope hr
    obtain rfl := Statement.eq_append_of_result_eq_ok hr
    exact views (Scope.allBalanced_append_empty (Statement.textAll_balanced statements hs))
  · intro text script hread hs code hr
    obtain ⟨fine, empty⟩ := render_value_of_read hread
    by_cases hb : Statement.AllBranched script.body
    · rw [fine hb] at hr
      obtain rfl := Except.ok.inj hr
      exact Statement.textAll_balanced script.body hs
    · rw [empty hb] at hr
      cases hr

/-- A chain that isn't finished, one of whose blocks was never closed, a list of statements, and the
text of a script. -/
theorem code_is_balanced_pending :
    (∃ chain hand, Item.Run ["f();", "x[0]", "p()", "q"] (.ifChain chain :: hand) ∧
      chain.owner.body = "f();if (p()) \x7b\n(function(x[0]) \x7b\n\x7d)(x[0])\n\n\x7d\n" ∧
      Balanced chain.owner.finalize) ∧
    (∃ scope, (Statement.build [.scope (some "x[0]") [.function "g()" []]]).result = .ok scope ∧
      Balanced scope.finalize) ∧
    (render "[[\"if\",[[\"p[0]\"]]]]").value = .ok "if (p[0]) \x7b\n\n\x7d\n" ∧
      Balanced "if (p[0]) \x7b\n\n\x7d\n" := by
  refine ⟨?_, ?_, ?_⟩
  · have opens : (Scope.ofText "f();").perform (.openScope (some "x[0]")) =
        .ok ((Scope.ofText "f();").openScope (some "x[0]")) := rfl
    have text : Item.Run ["f();"] [.scope (.ofText "f();")] := .make .start (.ofText "f();")
    have inner := text.make (.call List.mem_cons_self (by simp [Call.blocks]) opens)
    have chain := inner.make
      (.ifBlock "p()" (List.mem_cons_of_mem _ List.mem_cons_self) List.mem_cons_self)
    have longer := chain.make (.elseIf "q" List.mem_cons_self
      (List.mem_cons_of_mem _ (List.mem_cons_of_mem _ List.mem_cons_self)))
    refine ⟨_, _, longer, by decide, ?_⟩
    exact (code_is_balanced.1 _ _ longer (by decide) _ List.mem_cons_self _ List.mem_cons_self _
      (List.mem_singleton_self _)).1
  · refine ⟨_, rfl, (code_is_balanced.2.1 [.scope (some "x[0]") [.function "g()" []]] ?_ _ rfl).1⟩
    simp only [Statement.stringsAll, Statement.strings]
    decide
  · have rendered : (render "[[\"if\",[[\"p[0]\"]]]]").value = .ok "if (p[0]) \x7b\n\n\x7d\n" := by
      decide +kernel
    have balanced : (Script.read "[[\"if\",[[\"p[0]\"]]]]").toOption.all fun script =>
        decide (AreBalanced (Statement.stringsAll script.body)) := by
      decide +kernel
    refine ⟨rendered, ?_⟩
    cases hr : Script.read "[[\"if\",[[\"p[0]\"]]]]" with
    | error error =>
      simp [render, hr] at rendered
    | ok script =>
      rw [hr] at balanced
      exact code_is_balanced.2.2 _ script hr (of_decide_eq_true balanced) _ rendered

end JsWriter
