import JsWriter.Proofs.Script.Readable
import Mathlib.Data.List.Forall2

/-!
# The two forms of a script

A list of statements may stand alone, or under `statements` in an object, among other members that are
passed over. It makes no difference which: not for a list of statements, and not for any other list
either, of which both forms make no script.

* `Json.objectText`: the text of an object, put together from the texts of its members.
  `Json.objectText_hasText`: it is one, whatever blanks these have around them.
* `Json.documentBody?_of_only`, `Json.documentBody?_of_repeat`: what one or two members `statements` come
  to.
* `script_forms_interchangeable`: both forms of a text, and an object with two such members.
-/
namespace JsWriter

namespace Json

/-! ## Texts of objects -/

/-- The text of a member, of the texts of its name and its value. -/
def memberText (text : String × String) : String :=
  text.1 ++ ":" ++ text.2

/-- The text of an object with members of which these are the texts. -/
def objectText (texts : List (String × String)) : String :=
  "\x7b" ++ (",".intercalate (texts.map memberText) ++ "\x7d")

/-- These texts read as a member's name and as its value, with room for an object around it. -/
def IsMemberText (text : String × String) (member : String × Json) : Prop :=
  (Json.reader 126).whole text.1.toList = .ok (.scalar (.string member.1)) ∧
    (Json.reader 126).whole text.2.toList = .ok member.2

variable {text : String × String} {member : String × Json} {texts : List (String × String)}
  {members : List (String × Json)}

/-- What comes after a member in the text of an object. -/
def furtherText : List (String × String) → List Char
  | [] => ['\x7d']
  | text :: texts => ',' :: ((memberText text).toList ++ furtherText texts)

theorem toList_members (text : String × String) (texts : List (String × String)) :
    (",".intercalate ((text :: texts).map memberText) ++ "\x7d").toList =
      (memberText text).toList ++ furtherText texts := by
  induction texts generalizing text with
  | nil => simp [furtherText]
  | cons next texts ih =>
    rw [furtherText, ← ih next]
    simp [String.intercalate_cons_cons]

/-- A member that stands behind `lead`, with what comes after it. The blanks around the texts of its name
and its value belong to the parts of the object that are next to them. -/
theorem memberText_speltAs {first : Bool} {lead rest : List Char} (hm : IsMemberText text member)
    (hl : ∀ blanks, AreBlanks blanks → IsSeparator first (lead ++ blanks))
    (hr : ∀ blanks, AreBlanks blanks → MembersSpeltAs false members (blanks ++ rest)) :
    MembersSpeltAs first (member :: members) (lead ++ ((memberText text).toList ++ rest)) := by
  obtain ⟨key, json⟩ := member
  obtain ⟨⟨before, name, between, hbefore, hn, hbetween, hname⟩, -⟩ :=
    (whole_reader_eq_ok_iff 126 _ _).mp hm.1
  obtain ⟨⟨front, value, back, hfront, hspelt, hback, hvalue⟩, -⟩ :=
    (whole_reader_eq_ok_iff 126 _ _).mp hm.2
  rw [MembersSpeltAs]
  refine ⟨lead ++ before, name, between, front, value, back ++ rest, hl before hbefore, hn, hbetween,
    hfront, hspelt, hr back hback, ?_⟩
  simp [memberText, hname, hvalue]

theorem furtherText_speltAs (h : List.Forall₂ IsMemberText texts members) :
    ∀ blanks, AreBlanks blanks → MembersSpeltAs false members (blanks ++ furtherText texts) := by
  induction h with
  | nil =>
    intro blanks hb
    rw [MembersSpeltAs]
    exact ⟨blanks, hb, rfl⟩
  | @cons text member texts members hm _ ih =>
    intro blanks hb
    have spelt : MembersSpeltAs false (member :: members)
        ((blanks ++ [',']) ++ ((memberText text).toList ++ furtherText texts)) :=
      memberText_speltAs hm (fun after ha => ⟨blanks, after, hb, ha, by simp⟩) ih
    simpa [furtherText] using spelt

/-- **The text of an object** is put together from the texts of its members. -/
theorem objectText_hasText (h : List.Forall₂ IsMemberText texts members) :
    (object members).HasText (objectText texts) := by
  have spelt : ∃ inside, MembersSpeltAs true members inside ∧
      (objectText texts).toList = '\x7b' :: inside := by
    cases h with
    | nil =>
      refine ⟨['\x7d'], ?_, by simp [objectText]⟩
      rw [MembersSpeltAs]
      exact ⟨[], areBlanks_nil, rfl⟩
    | cons hm hr =>
      refine ⟨[] ++ _, memberText_speltAs hm (fun _ ha => ha) (furtherText_speltAs hr), ?_⟩
      rw [objectText, String.toList_append, toList_members]
      rfl
  obtain ⟨inside, hi, ht⟩ := spelt
  refine ⟨[], _, [], areBlanks_nil, ?_, areBlanks_nil, by simpa using ht⟩
  rw [SpeltAs]
  exact ⟨inside, hi, rfl⟩

/-- There is room for the object. -/
theorem depth_le_of_texts (h : List.Forall₂ IsMemberText texts members) :
    (object members).depth ≤ 127 := by
  have inside : membersDepth members ≤ 126 := by
    induction h with
    | nil => simp [membersDepth]
    | @cons text member texts members hm _ ih =>
      have shallow := ((whole_reader_eq_ok_iff 126 _ _).mp hm.2).2
      rw [membersDepth]
      exact Nat.max_le.mpr ⟨shallow, ih⟩
  rw [depth]
  omega

/-! ## Members `statements` -/

theorem under_eq_nil {key : String} (h : ∀ member ∈ members, member.1 ≠ key) :
    under members key = [] := by
  rw [under, List.filter_eq_nil_iff.mpr (by simpa using h), List.map_nil]

/-- One member `statements`, with a list. -/
theorem toScript?_of_only {items : List Json} (h : under members "statements" = [.list items]) :
    (object members).toScript? = (toBlock items).toOption.map .document := by
  have same : documentBody? none members = (toBlock items).toOption := by
    refine Option.ext fun statements => ?_
    have one : (∃ others, [list items] = [list others] ∧ toBlock others = .ok statements) ↔
        toBlock items = .ok statements := by simp
    rw [documentBody?_eq_some_iff, h, one]
    cases toBlock items <;> simp [Except.toOption]
  rw [toScript?, same]

/-- More than one member `statements`. -/
theorem toScript?_of_repeat (h : 1 < (under members "statements").length) :
    (object members).toScript? = none := by
  have none : documentBody? none members = none := by
    refine Option.eq_none_iff_forall_ne_some.mpr fun statements hs => ?_
    obtain ⟨items, hu, -⟩ := (documentBody?_eq_some_iff statements members).mp hs
    simp [hu] at h
  rw [toScript?, none]
  rfl

end Json

/-! ## Reading and rendering -/

/-- Reading the text of a value as a script is decoding the value. -/
theorem Script.read_of_hasText {json : Json} {text : String} (ht : json.HasText text)
    (hd : json.depth ≤ 127) :
    Script.read text =
      match json.toScript? with
      | none => .error .noScript
      | some script => .ok script := by
  obtain ⟨after, ha, run⟩ := Json.reader_run_text ht (show json.depth ≤ Json.depthLimit from hd)
  have read := Script.read_eq text
  rw [run] at read
  dsimp only at read
  rw [Reader.finish_blanks ha] at read
  exact read

theorem render_of_noScript {text : String} (h : Script.read text = .error .noScript) :
    render text = pure (.error (.unreadable .noScript)) := by
  rw [render, h]

/-- A script of either form renders as its statements do. -/
theorem render_of_body {text other : String} {script another : Script}
    (h : Script.read text = .ok script) (ho : Script.read other = .ok another)
    (hb : script.body = another.body) : render text = render other := by
  rw [render, render, h, ho]
  dsimp only
  rw [Script.render, Script.render, hb]

/-- **The two forms of a script.** The text of a list, whether it is one of statements or not, may as well
be that of the member `statements` in an object, whatever other members stand around it: rendering gives
the same code or the same error, whose wording is the same, and reports the same events. An object with
two members `statements` is no script, whatever they hold. -/
theorem script_forms_interchangeable :
    (∀ (before after : List (String × String)) (front back : List (String × Json))
        (name list : String) (items : List Json),
      List.Forall₂ Json.IsMemberText before front → List.Forall₂ Json.IsMemberText after back →
      (∀ member ∈ front ++ back, member.1 ≠ "statements") →
      Json.IsMemberText (name, list) ("statements", .list items) →
      render (Json.objectText (before ++ (name, list) :: after)) = render list ∧
      ∀ error, (render list).value = .error error →
        error.message (Json.objectText (before ++ (name, list) :: after)) = error.message list) ∧
    ∀ (before between after : List (String × String)) (front middle back : List (String × Json))
        (first second : String × String) (a b : Json),
      List.Forall₂ Json.IsMemberText before front → List.Forall₂ Json.IsMemberText between middle →
      List.Forall₂ Json.IsMemberText after back →
      Json.IsMemberText first ("statements", a) → Json.IsMemberText second ("statements", b) →
      ∃ error, render (Json.objectText (before ++ first :: (between ++ second :: after))) =
          ⟨[], .error error⟩ ∧
        ∀ text, error.message text =
          "invalid build script: data did not match any variant of untagged enum Script" := by
  refine ⟨?_, ?_⟩
  · intro before after front back name list items hb ha ho hl
    have members := List.rel_append hb (.cons hl ha)
    have document := Script.read_of_hasText (Json.objectText_hasText members)
      (Json.depth_le_of_texts members)
    obtain ⟨ht, hd⟩ := (Json.whole_reader_eq_ok_iff 126 _ _).mp hl.2
    have statements := Script.read_of_hasText ht (Nat.le_succ_of_le hd)
    have only : Json.under (front ++ ("statements", .list items) :: back) "statements" =
        [.list items] := by
      obtain ⟨hf, hk⟩ := List.forall_mem_append.mp ho
      rw [Json.under_append, Json.under_cons, Json.under_eq_nil hf, Json.under_eq_nil hk]
      rfl
    rw [Json.toScript?_of_only only] at document
    rw [Json.toScript?] at statements
    cases hi : Json.toBlock items with
    | error mismatch =>
      rw [hi] at document statements
      rw [render_of_noScript document, render_of_noScript statements]
      refine ⟨rfl, ?_⟩
      rintro _ ⟨⟩
      rfl
    | ok body =>
      rw [hi] at document statements
      have same := render_of_body document statements rfl
      refine ⟨same, ?_⟩
      intro error he
      cases error with
      | unreadable error =>
        rw [(render_value_eq_unreadable_iff list error).mp he] at statements
        cases statements
      | replay error => rfl
  · intro before between after front middle back first second a b hb hm ha hfirst hsecond
    have members := List.rel_append hb (.cons hfirst (List.rel_append hm (.cons hsecond ha)))
    have repeated : 1 < (Json.under (front ++ ("statements", a) :: (middle ++ ("statements", b) :: back))
        "statements").length := by
      simp only [Json.under_append, Json.under_cons, if_true, List.length_append, List.length_cons]
      omega
    have read := Script.read_of_hasText (Json.objectText_hasText members)
      (Json.depth_le_of_texts members)
    rw [Json.toScript?_of_repeat repeated] at read
    exact ⟨_, render_of_noScript read, fun _ => rfl⟩

/-- A list behind a member with an escape in its name, a list that is none of statements, and two members
`statements`. -/
theorem script_forms_interchangeable_around :
    render (Json.objectText [("\"\\u0061\"", " [null]"), (" \"statements\"", "[[\"raw\",\"f();\"]]")]) =
        render "[[\"raw\",\"f();\"]]" ∧
      render (Json.objectText [("\"statements\"", "[5]"), ("\"b\" ", "0")]) = render "[5]" ∧
      ∃ error, render (Json.objectText [("\"statements\"", "[]"), ("\"statements\"", "[]")]) =
        ⟨[], .error error⟩ := by
  have plain : Json.IsMemberText ("\"\\u0061\"", " [null]") ("a", .list [.scalar .null]) :=
    ⟨by with_unfolding_all rfl, by with_unfolding_all rfl⟩
  have raw : Json.IsMemberText (" \"statements\"", "[[\"raw\",\"f();\"]]")
      ("statements", .list [.list [.scalar (.string "raw"), .scalar (.string "f();")]]) :=
    ⟨by with_unfolding_all rfl, by with_unfolding_all rfl⟩
  have five : Json.IsMemberText ("\"statements\"", "[5]")
      ("statements", .list [.scalar (.number (.int 5))]) :=
    ⟨by with_unfolding_all rfl, by with_unfolding_all rfl⟩
  have zero : Json.IsMemberText ("\"b\" ", "0") ("b", .scalar (.number (.int 0))) :=
    ⟨by with_unfolding_all rfl, by with_unfolding_all rfl⟩
  have empty : Json.IsMemberText ("\"statements\"", "[]") ("statements", .list []) :=
    ⟨by with_unfolding_all rfl, by with_unfolding_all rfl⟩
  refine ⟨?_, ?_, ?_⟩
  · exact (script_forms_interchangeable.1 [_] [] [_] [] _ _ _ (.cons plain .nil) .nil (by simp) raw).1
  · exact (script_forms_interchangeable.1 [] [_] [] [_] _ _ _ .nil (.cons zero .nil) (by simp) five).1
  · obtain ⟨error, rendered, -⟩ := script_forms_interchangeable.2 [] [] [] [] [] [] _ _ _ _ .nil .nil .nil
      empty empty
    exact ⟨error, rendered⟩

end JsWriter
