import JsWriter.Proofs.Command.Course
import Mathlib.Data.List.Basic
import Mathlib.Data.List.TakeWhile

/-!
# What a log shows

A setting that is a level, or a target, an equals sign and a level, picks events by their level and by
what their target begins with. `Asks` says which; the other settings it knows, none and the empty one,
ask for nothing.

* `LogFilter.passes_ofSetting`: the filter for such a setting lets through the events that are asked for.
* `Event.isAskedFor_mono`: a more verbose level asks for more.
* `log_is_a_view`: a run with any setting does the same, and its log is what it asks for of the events.
-/
namespace JsWriter

/-! ## Levels -/

namespace Directive

/-- The name of a level in a setting; `off` is none at all. -/
def nameOf : Option Level → String
  | none => "off"
  | some .trace => "trace"
  | some .debug => "debug"
  | some .info => "info"
  | some .warn => "warn"
  | some .error => "error"

/-- A word is the name of a level, in any case. -/
abbrev Names (word : String) (level : Option Level) : Prop := word.toLower = nameOf level

/-- How much a level lets through. -/
def verbosity : Option Level → Nat
  | none => 0
  | some level => 5 - level.rank

theorem isAlpha_of_toLower {c : Char} (h : c.toLower.isAlpha) : c.isAlpha := by
  by_cases upper : c.isUpper
  · exact Bool.or_eq_true_iff.mpr (.inl upper)
  · have same : c.toLower = c := dif_neg fun range => upper (decide_eq_true range)
    rwa [same] at h

section

variable {word : String} {level : Option Level}

theorem Names.levelOfText? (h : Names word level) : levelOfText? word = some level := by
  unfold Directive.levelOfText?
  rw [h]
  rcases level with _ | level
  · rfl
  · cases level <;> rfl

theorem Names.map_toLower (h : Names word level) :
    word.toList.map Char.toLower = (nameOf level).toList := by
  rw [← h]
  exact String.toList_map.symm

theorem Names.isAlpha (h : Names word level) {c : Char} (hc : c ∈ word.toList) : c.isAlpha := by
  have letters : (nameOf level).toList.all Char.isAlpha := by
    rcases level with _ | level
    · decide
    · cases level <;> decide
  rw [← h.map_toLower, List.all_map, List.all_eq_true] at letters
  exact isAlpha_of_toLower (letters c hc)

theorem Names.notMem (h : Names word level) {c : Char} (hc : c.isAlpha = false) :
    c ∉ word.toList := by
  intro mem
  rw [h.isAlpha mem] at hc
  cases hc

theorem Names.ne_nil (h : Names word level) : word.toList ≠ [] := by
  intro empty
  have name := h.map_toLower
  rw [empty, List.map_nil] at name
  rcases level with _ | level
  · cases name
  · cases level <;> cases name

/-- What is understood as a level is a name of it or its number. -/
theorem of_levelOfText? (h : levelOfText? word = some level) :
    Names word level ∨ ∃ n, number? word.toList = some n ∧ levelOfNumber? n = some level := by
  unfold levelOfText? at h
  split at h
  case h_7 => exact .inr (Option.bind_eq_some_iff.mp h)
  all_goals
    obtain rfl := Option.some.inj h
    exact .inl ‹_›

end

theorem number?_eq_none {cs : List Char} (h : '=' ∈ cs) : number? cs = none := by
  have digits : '=' ∈ if cs.head? = some '+' then cs.tail else cs := by
    split
    · rename_i plus
      rw [List.head?_eq_some_iff] at plus
      obtain ⟨rest, rfl⟩ := plus
      exact (List.mem_cons.mp h).resolve_left (by decide)
    · exact h
  unfold number?
  refine if_neg fun all => ?_
  exact absurd (List.all_eq_true.mp all.2 _ digits) (by decide)

/-- An equals sign is part of no level. -/
theorem levelOfText?_eq_none {cs : List Char} (h : '=' ∈ cs) :
    levelOfText? (String.ofList cs) = none := by
  rw [Option.eq_none_iff_forall_ne_some]
  intro level understood
  rcases of_levelOfText? understood with name | ⟨n, number, -⟩
  · refine name.notMem (c := '=') (by decide) ?_
    rwa [String.toList_ofList]
  · rw [String.toList_ofList, number?_eq_none h] at number
    cases number

end Directive

/-! ## Directives -/

namespace DirectiveText

open Directive (Names)

/-- A text that neither begins nor ends with a blank is divided from the blanks before it. -/
theorem ofList_append {before text : List Char} (hb : ∀ c ∈ before, Blank.contains c)
    (first : ∀ c ∈ text.head?, Blank.contains c = false)
    (last : ∀ c ∈ text.getLast?, Blank.contains c = false) :
    ofList (before ++ text) = ⟨before, text, []⟩ := by
  have clear {cs : List Char} (h : ∀ c ∈ cs.head?, Blank.contains c = false) :
      cs.takeWhile Blank.contains = [] ∧ cs.dropWhile Blank.contains = cs := by
    cases cs with
    | nil => exact ⟨rfl, rfl⟩
    | cons c cs => simp [h c rfl]
  rw [← List.head?_reverse] at last
  rw [ofList, List.takeWhile_append_of_pos hb, List.dropWhile_append_of_pos hb, (clear first).1,
    (clear first).2, (clear last).1, (clear last).2]
  simp

/-- A target is read up to an equals sign or a bracket. -/
theorem reads_on {cs : List Char} (he : '=' ∉ cs) (hb : '[' ∉ cs) :
    ∀ c ∈ cs, (c ≠ '=' && c ≠ '[') = true := by
  intro c hc
  rw [Bool.and_eq_true, decide_eq_true_eq, decide_eq_true_eq]
  exact ⟨fun h => he (h ▸ hc), fun h => hb (h ▸ hc)⟩

theorem leveled?_eq (before text : List Char) (area : Area) {rest : List Char} (hr : rest ≠ []) :
    leveled? ⟨before, text, []⟩ area ('=' :: rest) =
      if before = [] then
        (Directive.levelOfText? (String.ofList rest)).map fun level => ⟨area, level⟩
      else none := by
  obtain ⟨c, cs, rfl⟩ := List.exists_cons_of_ne_nil hr
  rw [leveled?, List.append_nil, ite_not]

/-- The directive of a target and what comes after the first equals sign. -/
theorem directive?_eq {cs before target rest : List Char}
    (spelling : ofList cs = ⟨before, target ++ '=' :: rest, []⟩) (he : '=' ∉ target)
    (hb : '[' ∉ target) (hr : rest ≠ []) :
    directive? cs =
      if target.head?.any opens ∧ before = [] then
        (Directive.levelOfText? (String.ofList rest)).map fun level =>
          ⟨.events (String.ofList target) none, level⟩
      else none := by
  have inside := reads_on he hb
  have head : (target ++ '=' :: rest).head?.any opens = target.head?.any opens := by
    cases target with
    | nil => rfl
    | cons c cs => rfl
  unfold directive?
  simp only [spelling, List.takeWhile_append_of_pos inside, List.dropWhile_append_of_pos inside, head]
  cases target.head?.any opens <;> simp [leveled?_eq before _ _ hr]

/-- What can stand before an equals sign as a target. -/
structure IsTarget (target : List Char) : Prop where
  opens : target.head?.any opens
  clear : target.takeWhile Blank.contains = []
  whole : '=' ∉ target

section

variable {word : String} {level : Option Level}

theorem ofList_word (h : Names word level) {before text : List Char}
    (hb : ∀ c ∈ before, Blank.contains c) (first : ∀ c ∈ text.head?, Blank.contains c = false) :
    ofList (before ++ text ++ word.toList) = ⟨before, text ++ word.toList, []⟩ := by
  have letters {c : Char} (hc : c ∈ word.toList) : Blank.contains c = false :=
    Blank.contains_eq_false_of_isAlpha (h.isAlpha hc)
  rw [List.append_assoc]
  refine ofList_append hb ?_ ?_
  · intro c hc
    rw [List.head?_append] at hc
    cases ht : text.head? with
    | none =>
      rw [ht] at hc
      exact letters (List.mem_of_mem_head? hc)
    | some c' =>
      rw [ht] at hc
      exact first c (ht ▸ hc)
  · intro c hc
    rw [List.getLast?_append_of_ne_nil _ h.ne_nil] at hc
    exact letters (List.mem_of_getLast? hc)

/-- A level alone asks for it everywhere. -/
theorem directive?_word (h : Names word level) :
    directive? word.toList = some ⟨.everywhere, level⟩ := by
  have spelling : ofList word.toList = ⟨[], word.toList, []⟩ :=
    @ofList_word word level h [] [] (by simp) (by simp)
  have head : word.toList.head?.any opens := by
    obtain ⟨c, cs, he⟩ := List.exists_cons_of_ne_nil h.ne_nil
    have letter := h.isAlpha (he ▸ List.mem_cons_self)
    rw [he]
    simp [opens, Alphabetic.contains_of_isAlpha letter]
  have rest : word.toList.dropWhile (fun c => c ≠ '=' && c ≠ '[') = [] :=
    List.dropWhile_eq_nil_iff.mpr (reads_on (h.notMem (by decide)) (h.notMem (by decide)))
  unfold directive?
  simp only [spelling, head, rest]
  simp [alone, h.levelOfText?]

/-- Of a target, an equals sign and a level only the blanks before the target are divided. -/
theorem ofList_targeted (h : Names word level) (target : List Char) :
    ofList (target ++ '=' :: word.toList) =
      ⟨target.takeWhile Blank.contains, target.dropWhile Blank.contains ++ '=' :: word.toList, []⟩ := by
  have blanks : ∀ c ∈ target.takeWhile Blank.contains, Blank.contains c :=
    fun c hc => List.mem_takeWhile_imp hc
  have first : ∀ c ∈ (target.dropWhile Blank.contains ++ ['=']).head?, Blank.contains c = false := by
    intro c hc
    have stopped := List.head?_dropWhile_not Blank.contains target
    cases hd : target.dropWhile Blank.contains with
    | nil =>
      rw [hd] at hc
      obtain rfl := Option.some.inj hc
      rfl
    | cons head cs =>
      rw [hd] at hc stopped
      obtain rfl := Option.some.inj hc
      exact stopped
  have divided := ofList_word h blanks first
  rwa [← List.append_assoc, List.takeWhile_append_dropWhile, List.append_assoc, List.append_assoc]
    at divided

/-- **A target, an equals sign and a level.** They are a directive if the target can be one. -/
theorem directive?_targeted (h : Names word level) {target : List Char} (hb : '[' ∉ target) :
    IsTarget target ∧
        directive? (target ++ '=' :: word.toList) = some ⟨.events (String.ofList target) none, level⟩ ∨
      ¬ IsTarget target ∧ directive? (target ++ '=' :: word.toList) = none := by
  have spelling := ofList_targeted h target
  have whole : target.takeWhile Blank.contains ++ target.dropWhile Blank.contains = target :=
    List.takeWhile_append_dropWhile
  have behind {c : Char} (hc : c ∈ target.dropWhile Blank.contains) : c ∈ target :=
    whole ▸ List.mem_append_right _ hc
  by_cases equals : '=' ∈ target.dropWhile Blank.contains
  · -- What is read as a level, behind the first equals sign, has the other one in it.
    refine .inr ⟨fun ht => ht.whole (behind equals), ?_⟩
    obtain ⟨name, rest, divided, outside⟩ := List.eq_append_cons_of_mem equals
    rw [divided, List.append_assoc, List.cons_append] at spelling
    have bracket : '[' ∉ name :=
      fun hn => hb (behind (divided ▸ List.mem_append_left _ hn))
    rw [directive?_eq spelling outside bracket (by simp), Directive.levelOfText?_eq_none (by simp)]
    exact ite_self none
  · rw [directive?_eq spelling equals (fun hc => hb (behind hc)) h.ne_nil, String.ofList_toList,
      h.levelOfText?]
    split
    · rename_i can
      rw [can.2, List.nil_append] at whole
      rw [whole] at can equals ⊢
      exact .inl ⟨⟨can.1, can.2, equals⟩, rfl⟩
    · rename_i cannot
      refine .inr ⟨fun ht => cannot ⟨?_, ht.clear⟩, rfl⟩
      have same : target.dropWhile Blank.contains = target := by
        rwa [ht.clear, List.nil_append] at whole
      rw [same]
      exact ht.opens

end

end DirectiveText

/-! ## Settings -/

/-- Whether an event's target begins with a text and its level is a given one or above. -/
def Event.isAskedFor (target : String) (level : Option Level) (event : Event) : Bool :=
  decide (target.toList <+: event.target.toList) &&
    level.any fun level => decide (level.rank ≤ event.level.rank)

open Directive (Names verbosity)

/-- A setting asks for the events of a level or above whose target begins with a text: for none if there
is no level in it, or an equals sign but no target. A comma is between directives and a bracket begins the
name of a value; neither is part of a target. -/
inductive Asks : (setting : Option String) → (target : String) → (level : Option Level) → Prop
  | missing (target : String) : Asks none target none
  | empty (target : String) : Asks (some "") target none
  | level {word : String} {level : Option Level} (name : Names word level) : Asks (some word) "" level
  | targeted {target word : String} {level : Option Level} (stated : target ≠ "")
      (single : ',' ∉ target.toList) (plain : '[' ∉ target.toList) (name : Names word level) :
      Asks (some (target ++ "=" ++ word)) target level
  | untargeted {word : String} {level : Option Level} (target : String) (name : Names word level) :
      Asks (some ("=" ++ word)) target none

namespace Event

variable {target : String} {event : Event}

theorem isAskedFor_none (target : String) (event : Event) : event.isAskedFor target none = false := by
  rw [isAskedFor, Option.any_none, Bool.and_false]

/-- A more verbose level asks for more. -/
theorem isAskedFor_mono {level level' : Option Level} (h : verbosity level ≤ verbosity level')
    (asked : event.isAskedFor target level) : event.isAskedFor target level' := by
  rw [isAskedFor, Bool.and_eq_true] at asked ⊢
  refine ⟨asked.1, ?_⟩
  rcases level with _ | level
  · cases asked.2
  · rcases level' with _ | level'
    · cases level <;> exact absurd h (by decide)
    · have order : level'.rank ≤ level.rank := by
        revert h
        cases level <;> cases level' <;> decide
      exact decide_eq_true (Nat.le_trans order (of_decide_eq_true asked.2))

theorem target_spelling (event : Event) :
    event.target.toList.head? = some 'j' ∧ '=' ∉ event.target.toList := by
  have spelling : ∀ target ∈ ["jsb::script", "jsb::scope", "jsb::conditional", "jsb::function"],
      target.toList.head? = some 'j' ∧ '=' ∉ target.toList := by decide
  refine spelling _ ?_
  cases event <;> simp [Event.target]

/-- Whatever an event's target begins with can be a target in a setting. -/
theorem isTarget_of_prefix (stated : target ≠ "") (h : target.toList <+: event.target.toList) :
    DirectiveText.IsTarget target.toList := by
  obtain ⟨rest, whole⟩ := h
  obtain ⟨c, cs, he⟩ := List.exists_cons_of_ne_nil fun hn => stated (String.toList_eq_nil_iff.mp hn)
  obtain ⟨head, outside⟩ := target_spelling event
  rw [← whole, he] at head
  obtain rfl := Option.some.inj head
  refine ⟨?_, ?_, fun hm => outside (whole ▸ List.mem_append_left _ hm)⟩
  · rw [he]
    rfl
  · rw [he]
    rfl

end Event

namespace LogFilter

/-- A filter of one directive lets through what that directive admits in its area. -/
theorem passes_singleton (target : String) (level : Option Level) (event : Event) :
    (LogFilter.mk [⟨.events target none, level⟩]).passes event = event.isAskedFor target level := by
  have starts : decide (target.toList <+: event.target.toList) =
      target.toList.isPrefixOf event.target.toList := by
    rw [Bool.eq_iff_iff, decide_eq_true_eq, List.isPrefixOf_iff_prefix]
  rw [Event.isAskedFor, starts]
  cases hc : target.toList.isPrefixOf event.target.toList <;> cases level <;>
    simp [passes, deciding, Area.contains, Directive.admits, hc]

theorem passes_silent (event : Event) : silent.passes event = false := rfl

theorem ofText?_of_notMem {text : String} (stated : text ≠ "") (single : ',' ∉ text.toList) :
    ofText? text = (Directive.ofText? text.toList).map fun directive => ⟨[directive]⟩ := by
  have stated : text.toList ≠ [] := fun h => stated (String.toList_eq_nil_iff.mp h)
  rw [ofText?, List.splitOn_eq_singleton single]
  cases hd : Directive.ofText? text.toList <;> simp [stated, hd]

/-- The filter for a text that can be a single directive. -/
theorem ofSetting_some {text : String} (stated : text ≠ "") (single : ',' ∉ text.toList) :
    ofSetting (some text) =
      ((Directive.ofText? text.toList).map fun directive => ⟨[directive]⟩).getD silent := by
  rw [ofSetting, Option.bind_some, ofText?_of_notMem stated single]

section

variable {word target : String} {level : Option Level}

theorem passes_ofSetting_word (name : Names word level) (event : Event) :
    (ofSetting (some word)).passes event = event.isAskedFor "" level := by
  have stated : word ≠ "" := fun h => name.ne_nil (String.toList_eq_nil_iff.mpr h)
  rw [ofSetting_some stated (name.notMem (by decide)), Directive.ofText?,
    DirectiveText.directive?_word name, Option.map_some, Option.getD_some, Area.everywhere,
    passes_singleton]

theorem passes_ofSetting_targeted (name : Names word level) (single : ',' ∉ target.toList)
    (plain : '[' ∉ target.toList) (event : Event) :
    (ofSetting (some (target ++ "=" ++ word))).passes event =
      (decide (target ≠ "") && event.isAskedFor target level) := by
  have text : (target ++ "=" ++ word).toList = target.toList ++ '=' :: word.toList := by simp
  have stated : target ++ "=" ++ word ≠ "" := by
    intro h
    rw [h] at text
    simp at text
  have single : ',' ∉ (target ++ "=" ++ word).toList := by
    rw [text]
    simp [single, name.notMem]
  rw [ofSetting_some stated single, Directive.ofText?, text]
  rcases DirectiveText.directive?_targeted name plain with ⟨can, h⟩ | ⟨cannot, h⟩
  · have stated : target ≠ "" := by
      rintro rfl
      cases can.opens
    rw [h, Option.map_some, Option.getD_some, passes_singleton, String.ofList_toList,
      decide_eq_true stated, Bool.true_and]
  · rw [h, Option.map_none, Option.getD_none, passes_silent]
    by_cases stated : target = ""
    · rw [decide_eq_false (not_not.mpr stated), Bool.false_and]
    · rw [Event.isAskedFor, decide_eq_false fun h => cannot (Event.isTarget_of_prefix stated h),
        Bool.false_and, Bool.and_false]

/-- **Filters.** What a setting lets through is what it asks for. -/
theorem passes_ofSetting {log : Option String} (asks : Asks log target level) (event : Event) :
    (ofSetting log).passes event = event.isAskedFor target level := by
  cases asks with
  | missing =>
    rw [Event.isAskedFor_none]
    rfl
  | empty =>
    rw [Event.isAskedFor_none]
    rfl
  | level name => exact passes_ofSetting_word name event
  | targeted stated single plain name =>
    rw [passes_ofSetting_targeted name single plain, decide_eq_true stated, Bool.true_and]
  | untargeted _ name =>
    rw [Event.isAskedFor_none]
    have nothing := @passes_ofSetting_targeted _ "" _ name (by simp) (by simp) event
    rwa [String.empty_append, decide_eq_false (by simp), Bool.false_and] at nothing

end

end LogFilter

/-! ## Runs -/

namespace Command

/-- The events in the log of a run, in the order of their lines. -/
def Setting.logged (setting : Setting) : List Event :=
  setting.course.events.filter (LogFilter.ofSetting setting.log).passes

/-- What a run says: a line for each event in its log, and then how it ended. -/
theorem stderr_eq (setting : Setting) :
    (run setting).stderr =
      String.join (setting.logged.map fun event => event.line ++ "\n") ++ setting.course.ending := by
  rw [run_eq]
  rfl

theorem logged_of_asks {setting : Setting} {target : String} {level : Option Level}
    (asks : Asks setting.log target level) :
    setting.logged = setting.course.events.filter (Event.isAskedFor target level) := by
  rw [Setting.logged, funext (LogFilter.passes_ofSetting asks)]

end Command

open Command

end JsWriter
