import JsWriter.Proofs.Script.Readable
import JsWriter.Proofs.Stream.Statements

/-!
# Two ways to read a list of statements

A text can be read as a list of statements directly, or as a script, which is read as one JSON value and
decoded then. The two agree unless a statement at the top gives its kind by a number, which is taken only
by the second. The first stops at what it doesn't want, so that it may not see a fault behind that.

* `Statement.readList_eq_ok_iff`: the two read the same statements.
* `Script.read_of_readList_malformed`, `Script.read_of_readList_data`: what the second does where the
  first fails.
* `build_and_render`: building and rendering likewise.
* `direct_reading_agrees`: all of it for one text.
-/
namespace JsWriter

open Json (AreBlanks)

/-- No statement at the top of the text gives its kind by a number. -/
def NamesKinds (text : String) : Prop :=
  ∀ items, (Json.list items).HasText text → ∀ item ∈ items, item.NamesKind

/-- Reading the text as a list of statements doesn't get to the fault: the fault lies behind what has
been read, and whatever else comes there, reading stops at the same mismatch. -/
def Statement.StopsShortOf (text : String) (fault : Fault) (mismatch : Mismatch) : Prop :=
  ∃ read unread, text.toList = read ++ unread ∧ fault.rest <:+ unread ∧
    ∀ after, Numeral.Ends after →
      Statement.readList (String.ofList (read ++ after)) = .error (.data mismatch)

/-- The text is that of a list, as far as its first token tells. -/
def OpensList (text : String) : Prop :=
  ∃ blanks rest, AreBlanks blanks ∧ text.toList = blanks ++ '[' :: rest

/-! ## Reading -/

variable {text : String} {json : Json} {rest : List Char} {fault : Fault} {mismatch : Mismatch}

/-- Reading a list of statements step by step, where its value is well-formed. -/
theorem Statement.readList_of_value
    (h : (Json.reader Json.depthLimit).run text.toList = .ok (json, rest)) :
    Statement.readList text =
      match json.toNamedList with
      | .error mismatch => .error (.data mismatch)
      | .ok statements =>
        match Reader.finish rest with
        | .error fault => .error (.malformed fault)
        | .ok () => .ok statements := by
  have run := (Statement.listReader_streams Json.depthLimit).value h
  simp only [Statement.readList, Reader.whole, run]
  cases json.toNamedList with
  | error mismatch => rfl
  | ok statements =>
    simp only [Reader.answer]
    cases Reader.finish rest <;> rfl

/-- Where there is a fault in its value, it is met or not reached. -/
theorem Statement.readList_of_fault
    (h : (Json.reader Json.depthLimit).run text.toList = .error fault) :
    Statement.readList text = .error (.malformed fault) ∨
      ∃ mismatch, Statement.readList text = .error (.data mismatch) ∧
        Statement.StopsShortOf text fault mismatch := by
  have stops : ∀ {s : List Char} {e}, (Statement.listReader Json.depthLimit).run s = .error e →
      (Statement.listReader Json.depthLimit).whole s = .error e := by
    intro s e he
    simp only [Reader.whole, he]
  rcases (Statement.listReader_streams Json.depthLimit).fault h with
    hm | ⟨mismatch, read, unread, ht, hf, hm, ha⟩
  · exact .inl (stops hm)
  · refine .inr ⟨mismatch, stops hm, read, unread, ht, hf, ?_⟩
    intro after hafter
    rw [Statement.readList, String.toList_ofList]
    exact stops (ha after hafter)

/-- A value that is no list of statements is refused before anything behind it is looked at. -/
theorem Statement.stopsShortOf_finish
    (h : (Json.reader Json.depthLimit).run text.toList = .ok (json, rest))
    (hn : json.toNamedList = .error mismatch) (hf : Reader.finish rest = .error fault) :
    Statement.StopsShortOf text fault mismatch := by
  obtain ⟨c, read, ht, again⟩ := Json.reader_reread h
  refine ⟨c :: read, rest, ht, Reader.finish_suffix hf, ?_⟩
  intro after ha
  have value : (Json.reader Json.depthLimit).run (String.ofList (c :: read ++ after)).toList =
      .ok (json, after) := by
    rw [String.toList_ofList]
    exact again after (.inr ha)
  rw [Statement.readList_of_value value, hn]

theorem Json.toScript?_eq_statements_iff (json : Json) (statements : List Statement) :
    json.toScript? = some (.statements statements) ↔
      ∃ items, json = .list items ∧ Json.toBlock items = .ok statements := by
  rcases json with value | items | members
  · simp [Json.toScript?]
  · cases hb : Json.toBlock items <;> simp [Json.toScript?, hb, Except.toOption]
  · simp [Json.toScript?]

/-- The value of a text decodes as a list of statements that name their kinds when it decodes as a
script of that form, and the text names its kinds. -/
theorem Json.HasText.toNamedList_eq_ok_iff (ht : json.HasText text) (statements : List Statement) :
    json.toNamedList = .ok statements ↔
      json.toScript? = some (.statements statements) ∧ NamesKinds text := by
  rw [Json.toNamedList_eq_ok_iff, Json.toScript?_eq_statements_iff]
  constructor
  · rintro ⟨items, rfl, hb, named⟩
    refine ⟨⟨items, rfl, hb⟩, ?_⟩
    intro others ho
    cases ho.unique ht
    exact named
  · rintro ⟨⟨items, rfl, hb⟩, named⟩
    exact ⟨items, rfl, hb, named items ht⟩

/-- **The same statements.** A text reads as a list of statements when it reads as a script in the form
of that list, and each names its kind. -/
theorem Statement.readList_eq_ok_iff (text : String) (statements : List Statement) :
    Statement.readList text = .ok statements ↔
      Script.read text = .ok (.statements statements) ∧ NamesKinds text := by
  cases hw : (Json.reader Json.depthLimit).run text.toList with
  | error fault =>
    have noScript : Script.read text = .error (.malformed fault) := by
      rw [Script.read_eq, hw]
    have noList : Statement.readList text ≠ .ok statements := by
      rcases Statement.readList_of_fault hw with hm | ⟨mismatch, hm, -⟩
      · simp [hm]
      · simp [hm]
    simp [noScript, noList]
  | ok found =>
    obtain ⟨json, rest⟩ := found
    rw [Statement.readList_of_value hw, Script.read_eq, hw]
    dsimp only
    cases hf : Reader.finish rest with
    | error fault =>
      cases json.toNamedList <;> cases json.toScript? <;> simp
    | ok done =>
      have ht := (Json.hasText_of_run hw (Reader.areBlanks_of_finish hf)).1
      have decoded := ht.toNamedList_eq_ok_iff statements
      cases hn : json.toNamedList with
      | error mismatch =>
        rw [hn] at decoded
        cases hs : json.toScript? with
        | none => simp
        | some script => simpa [hs] using decoded
      | ok named =>
        rw [hn] at decoded
        cases hs : json.toScript? with
        | none => simpa [hs] using decoded
        | some script => simpa [hs] using decoded

/-- **A fault that is met** is met by reading as a script, too. -/
theorem Script.read_of_readList_malformed
    (h : Statement.readList text = .error (.malformed fault)) :
    Script.read text = .error (.malformed fault) := by
  cases hw : (Json.reader Json.depthLimit).run text.toList with
  | error other =>
    rw [Script.read_eq, hw]
    rcases Statement.readList_of_fault hw with hm | ⟨mismatch, hm, -⟩
    · rw [hm] at h
      cases h
      rfl
    · rw [hm] at h
      cases h
  | ok found =>
    obtain ⟨json, rest⟩ := found
    rw [Statement.readList_of_value hw] at h
    rw [Script.read_eq, hw]
    dsimp only
    cases hn : json.toNamedList with
    | error mismatch =>
      rw [hn] at h
      cases h
    | ok statements =>
      obtain ⟨items, rfl, hb, -⟩ := (Json.toNamedList_eq_ok_iff json statements).mp hn
      rw [hn] at h
      rw [(Json.toScript?_eq_statements_iff _ statements).mpr ⟨items, rfl, hb⟩]
      dsimp only at h ⊢
      cases hf : Reader.finish rest with
      | error other =>
        rw [hf] at h
        cases h
        rfl
      | ok done =>
        rw [hf] at h
        cases h

/-- **A mismatch.** Where reading as a list of statements stops at one, the text has a statement that
gives its kind by a number, or is a document, or no script, or has a fault that wasn't reached. -/
theorem Script.read_of_readList_data (h : Statement.readList text = .error (.data mismatch)) :
    (∃ statements, Script.read text = .ok (.statements statements) ∧ ¬ NamesKinds text) ∨
      (∃ statements members, Script.read text = .ok (.document statements) ∧
        (Json.object members).HasText text) ∨
      Script.read text = .error .noScript ∨
      ∃ fault, Script.read text = .error (.malformed fault) ∧
        Statement.StopsShortOf text fault mismatch := by
  cases hr : Script.read text with
  | ok script =>
    cases script with
    | statements statements =>
      refine .inl ⟨statements, rfl, ?_⟩
      intro named
      rw [(Statement.readList_eq_ok_iff text statements).mpr ⟨hr, named⟩] at h
      cases h
    | document statements =>
      obtain ⟨json, ht, -, hp⟩ := (Script.read_eq_ok_iff _ text).mp hr
      cases json with
      | scalar value => cases hp
      | list items => cases hp
      | object members => exact .inr (.inl ⟨statements, members, rfl, ht⟩)
  | error error =>
    cases hw : (Json.reader Json.depthLimit).run text.toList with
    | error fault =>
      rw [Script.read_eq, hw] at hr
      cases hr
      rcases Statement.readList_of_fault hw with hm | ⟨other, hm, stops⟩
      · rw [hm] at h
        cases h
      · rw [hm] at h
        cases h
        exact .inr (.inr (.inr ⟨fault, rfl, stops⟩))
    | ok found =>
      obtain ⟨json, rest⟩ := found
      rw [Script.read_eq, hw] at hr
      rw [Statement.readList_of_value hw] at h
      dsimp only at hr
      cases hs : json.toScript? with
      | none =>
        rw [hs] at hr
        cases hr
        exact .inr (.inr (.inl rfl))
      | some script =>
        rw [hs] at hr
        dsimp only at hr
        cases hf : Reader.finish rest with
        | ok done =>
          rw [hf] at hr
          cases hr
        | error fault =>
          rw [hf] at hr h
          cases hr
          cases hn : json.toNamedList with
          | ok statements =>
            rw [hn] at h
            cases h
          | error other =>
            rw [hn] at h
            cases h
            exact .inr (.inr (.inr ⟨fault, rfl, Statement.stopsShortOf_finish hw hn hf⟩))

/-- Reading a list of statements has no other failures. -/
theorem Statement.readList_ne_noScript (text : String) :
    Statement.readList text ≠ .error .noScript := by
  cases hw : (Json.reader Json.depthLimit).run text.toList with
  | error fault =>
    rcases Statement.readList_of_fault hw with hm | ⟨mismatch, hm, -⟩
    · simp [hm]
    · simp [hm]
  | ok found =>
    obtain ⟨json, rest⟩ := found
    rw [Statement.readList_of_value hw]
    cases json.toNamedList with
    | error mismatch => simp
    | ok statements => cases Reader.finish rest <;> simp

/-! ## Building and rendering -/

/-- A text of a list is no text of an object. -/
theorem OpensList.not_object (h : OpensList text) (members : List (String × Json)) :
    ¬ (Json.object members).HasText text := by
  obtain ⟨blanks, rest, hb, ht⟩ := h
  rintro ⟨before, value, after, hbefore, ⟨inside, -, rfl⟩, -, ho⟩
  have list : Reader.skipBlanks text.toList = '[' :: rest := by
    rw [ht, Reader.skipBlanks_append_cons hb rfl]
  rw [ho, List.cons_append, Reader.skipBlanks_append_cons hbefore rfl] at list
  cases list

/-- What was read builds exactly when no conditional in it is without branches. -/
theorem build_value_of_readList {statements : List Statement}
    (h : Statement.readList text = .ok statements) :
    (Statement.AllBranched statements →
        (build text).value = .ok (Scope.empty.append (Statement.textAll statements))) ∧
      (¬ Statement.AllBranched statements →
        (build text).value = .error (.replay .emptyConditional)) := by
  have value : (build text).value = (Statement.build statements).result.mapError .replay := by
    simp [build, h, Replay.result]
  refine ⟨?_, ?_⟩
  · intro hb
    rw [value, Statement.build, Statement.result_of_allBranched hb]
    rfl
  · intro hb
    rw [value, Statement.build, Statement.result_of_not_allBranched hb]
    rfl

/-- **Building and rendering.** For a text of a list both fail to read it, or give the same code, or
meet a conditional without branches; or only building fails to read it, because of a kind given by a
number. -/
theorem build_and_render (h : OpensList text) :
    (∃ error other, (build text).value = .error (.unreadable error) ∧
        (render text).value = .error (.unreadable other)) ∨
      (∃ scope, (build text).value = .ok scope ∧ (render text).value = .ok scope.finalize) ∨
      ((build text).value = .error (.replay .emptyConditional) ∧
        (render text).value = .error (.replay .emptyConditional)) ∨
      ∃ error statements, (build text).value = .error (.unreadable error) ∧
        Script.read text = .ok (.statements statements) ∧ ¬ NamesKinds text := by
  have unreadable : ∀ {error}, Statement.readList text = .error error →
      (build text).value = .error (.unreadable error) := by
    intro error hl
    simp [build, hl]
  cases hr : Script.read text with
  | error other =>
    cases hl : Statement.readList text with
    | error error =>
      exact .inl ⟨error, other, unreadable hl, (render_value_eq_unreadable_iff text other).mpr hr⟩
    | ok statements =>
      rw [((Statement.readList_eq_ok_iff text statements).mp hl).1] at hr
      cases hr
  | ok script =>
    cases script with
    | document statements =>
      obtain ⟨json, ht, -, hp⟩ := (Script.read_eq_ok_iff _ text).mp hr
      cases json with
      | scalar value => cases hp
      | list items => cases hp
      | object members => exact absurd ht (h.not_object members)
    | statements statements =>
      cases hl : Statement.readList text with
      | error error =>
        refine .inr (.inr (.inr ⟨error, statements, unreadable hl, rfl, ?_⟩))
        intro named
        rw [(Statement.readList_eq_ok_iff text statements).mpr ⟨hr, named⟩] at hl
        cases hl
      | ok found =>
        have same := ((Statement.readList_eq_ok_iff text found).mp hl).1
        rw [hr] at same
        cases same
        have built := build_value_of_readList hl
        have rendered := render_value_of_read hr
        by_cases hb : Statement.AllBranched statements
        · refine .inr (.inl ⟨_, built.1 hb, ?_⟩)
          rw [rendered.1 hb, Scope.finalize_empty_append]
          rfl
        · exact .inr (.inr (.inl ⟨built.2 hb, rendered.2 hb⟩))

/-- **Reading directly and reading a script.** For every text:

* the list of statements that is read directly is the script that is read in that form, where no
  statement at the top gives its kind by a number;
* a fault that is met directly is the fault of the script;
* where reading directly stops at a mismatch, the script is a list with such a number, a document of an
  object, no script at all, or has a fault that wasn't reached directly;
* building and rendering a list both can't read it, or write the same code, or both meet a conditional
  without branches, unless building alone can't read it because of such a number. -/
theorem direct_reading_agrees (text : String) :
    (∀ statements, Statement.readList text = .ok statements ↔
      Script.read text = .ok (.statements statements) ∧ NamesKinds text) ∧
    (∀ fault, Statement.readList text = .error (.malformed fault) →
      Script.read text = .error (.malformed fault)) ∧
    (∀ mismatch, Statement.readList text = .error (.data mismatch) →
      (∃ statements, Script.read text = .ok (.statements statements) ∧ ¬ NamesKinds text) ∨
      (∃ statements members, Script.read text = .ok (.document statements) ∧
        (Json.object members).HasText text) ∨
      Script.read text = .error .noScript ∨
      ∃ fault, Script.read text = .error (.malformed fault) ∧
        Statement.StopsShortOf text fault mismatch) ∧
    Statement.readList text ≠ .error .noScript ∧
    (OpensList text →
      (∃ error other, (build text).value = .error (.unreadable error) ∧
        (render text).value = .error (.unreadable other)) ∨
      (∃ scope, (build text).value = .ok scope ∧ (render text).value = .ok scope.finalize) ∨
      ((build text).value = .error (.replay .emptyConditional) ∧
        (render text).value = .error (.replay .emptyConditional)) ∨
      ∃ error statements, (build text).value = .error (.unreadable error) ∧
        Script.read text = .ok (.statements statements) ∧ ¬ NamesKinds text) :=
  ⟨Statement.readList_eq_ok_iff text, fun _ => Script.read_of_readList_malformed,
    fun _ => Script.read_of_readList_data, Statement.readList_ne_noScript text, build_and_render⟩

/-- A list that has no end, one in which a mismatch stands before a fault, and one with a conditional
without branches. -/
theorem direct_reading_agrees_on_lists :
    (Statement.readList "[" = .error (.malformed ⟨.endInList, [], 0⟩) ∧
      Script.read "[" = .error (.malformed ⟨.endInList, [], 0⟩)) ∧
    (Statement.readList "[5\x7d" =
        .error (.data (.invalidType (.scalar (.number (.int 5))) .statement)) ∧
      ∃ fault, Script.read "[5\x7d" = .error (.malformed fault) ∧
        Statement.StopsShortOf "[5\x7d" fault
          (.invalidType (.scalar (.number (.int 5))) .statement)) ∧
    (OpensList " [[\"if\",[]]]" ∧
      (build " [[\"if\",[]]]").value = .error (.replay .emptyConditional) ∧
      (render " [[\"if\",[]]]").value = .error (.replay .emptyConditional)) := by
  refine ⟨?_, ?_, ?_⟩
  · have direct : Statement.readList "[" = .error (.malformed ⟨.endInList, [], 0⟩) := by
      with_unfolding_all rfl
    exact ⟨direct, (direct_reading_agrees "[").2.1 _ direct⟩
  · have direct : Statement.readList "[5\x7d" =
        .error (.data (.invalidType (.scalar (.number (.int 5))) .statement)) := by
      with_unfolding_all rfl
    have script : Script.read "[5\x7d" = .error (.malformed ⟨.noListSeparator, ['\x7d'], 1⟩) := by
      with_unfolding_all rfl
    refine ⟨direct, ?_⟩
    rcases (direct_reading_agrees "[5\x7d").2.2.1 _ direct with
      ⟨_, read, -⟩ | ⟨_, _, read, -⟩ | read | stops
    · rw [script] at read
      cases read
    · rw [script] at read
      cases read
    · rw [script] at read
      cases read
    · exact stops
  · have opens : OpensList " [[\"if\",[]]]" :=
      ⟨[' '], "[\"if\",[]]]".toList, by simp [AreBlanks], rfl⟩
    have built : (build " [[\"if\",[]]]").value = .error (.replay .emptyConditional) := by
      with_unfolding_all rfl
    refine ⟨opens, built, ?_⟩
    rcases (direct_reading_agrees " [[\"if\",[]]]").2.2.2.2 opens with
      ⟨_, _, other, -⟩ | ⟨_, other, -⟩ | ⟨-, rendered⟩ | ⟨_, _, other, -⟩
    · rw [built] at other
      cases other
    · rw [built] at other
      cases other
    · exact rendered
    · rw [built] at other
      cases other

/-- A kind given by a number is read as a script, and not directly. -/
theorem direct_reading_refuses_numbers :
    Script.read "[[0,\"x\"]]" = .ok (.statements [.var "x" none]) ∧
      Statement.readList "[[0,\"x\"]]" =
        .error (.data (.invalidType (.scalar (.number (.int 0))) .op)) ∧
      ¬ ∀ text statements, Statement.readList text = .ok statements ↔
        Script.read text = .ok (.statements statements) := by
  have script : Script.read "[[0,\"x\"]]" = .ok (.statements [.var "x" none]) := by
    with_unfolding_all rfl
  have direct : Statement.readList "[[0,\"x\"]]" =
      .error (.data (.invalidType (.scalar (.number (.int 0))) .op)) := by
    with_unfolding_all rfl
  refine ⟨script, direct, ?_⟩
  intro h
  have read := (h _ _).mpr script
  rw [direct] at read
  cases read

end JsWriter
