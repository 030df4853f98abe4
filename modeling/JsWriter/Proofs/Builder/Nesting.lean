import JsWriter.Proofs.Builder.Runs

/-!
# Scopes open and close in turn

A run reports the scopes that it opens and closes, and it ends with a scope that is inside of those that
are still open. `Event.follow` reads events with a stack of what has opened and not closed yet: a scope
opens one deeper than as many as are open, and it closes with the depth and the parameters with which the
last one opened. `Event.Nested` says without a stack what well-nested events are: openings and closings
come in pairs, between which events are nested again.

* `Event.exists_nested`: events that can be followed go on to nested ones.
* `Scope.follow_perform`: one call takes the stack of a scope to that of the next one.
* `Scope.follow_run`: so does a run, also one that fails.
* `Scope.run_split`: the call from which the event of a scope comes, and the scope it was made on.
* `log_nests_scopes`: all of it, for a run from a root.
-/
namespace JsWriter

/-! ## Events -/

namespace Event

/-- The event reports neither that a scope opens nor that one closes. -/
def IsAside : Event → Prop
  | opening .. => False
  | closing .. => False
  | _ => True

/-- The scopes that are open after one more event, each with its depth and its parameters, the last one
that opened on top. There are none if the event doesn't fit. -/
def follow (opened : List (Nat × Option String)) : Event → Option (List (Nat × Option String))
  | opening depth args => if depth = opened.length + 1 then some ((depth, args) :: opened) else none
  | closing depth args _ => if opened.head? = some (depth, args) then some opened.tail else none
  | _ => some opened

/-- The scopes that are open after events, from none on. -/
def unclosed (events : List Event) : Option (List (Nat × Option String)) := events.foldlM follow []

/-- Events inside of `depth` scopes are nested: a scope closes as it has opened, one deeper, and what is
reported in between is nested inside of it. -/
inductive Nested : (depth : Nat) → List Event → Prop
  | nil {depth : Nat} : Nested depth []
  | aside {depth : Nat} {event : Event} {events : List Event} :
    event.IsAside → Nested depth events → Nested depth (event :: events)
  | scope {depth size : Nat} {args : Option String} {inner rest : List Event} :
    Nested (depth + 1) inner → Nested depth rest →
    Nested depth (opening (depth + 1) args :: (inner ++ closing (depth + 1) args size :: rest))

theorem Nested.append {depth : Nat} {a b : List Event} (ha : Nested depth a) (hb : Nested depth b) :
    Nested depth (a ++ b) := by
  induction ha with
  | nil => exact hb
  | aside he _ ih => exact .aside he (ih hb)
  | @scope depth size args inner rest hi _ _ ih =>
    have h : Nested depth
        (opening (depth + 1) args :: (inner ++ closing (depth + 1) args size :: (rest ++ b))) :=
      .scope hi (ih hb)
    simpa [List.append_assoc] using h

/-- The events close all scopes that are open, the last one first, and between that they are nested. -/
def Settles : (opened : List (Nat × Option String)) → List Event → Prop
  | [], events => Nested 0 events
  | (depth, args) :: opened, events => ∃ inner size rest,
      events = inner ++ closing depth args size :: rest ∧ Nested (opened.length + 1) inner ∧
        Settles opened rest

theorem Settles.behind {opened : List (Nat × Option String)} {front events : List Event}
    (hf : Nested opened.length front) (h : Settles opened events) :
    Settles opened (front ++ events) := by
  cases opened with
  | nil => exact hf.append h
  | cons top opened =>
    obtain ⟨inner, size, rest, rfl, hi, hr⟩ := h
    exact ⟨front ++ inner, size, rest, by rw [List.append_assoc], hf.append hi, hr⟩

/-- Events after which nothing is open have closed what was open before. -/
theorem settles_of_follow {opened : List (Nat × Option String)} {events : List Event}
    (h : events.foldlM follow opened = some []) : Settles opened events := by
  induction events generalizing opened with
  | nil =>
    obtain rfl : opened = [] := Option.some.inj h
    exact .nil
  | cons event events ih =>
    rw [List.foldlM_cons] at h
    obtain ⟨next, hn, h⟩ := Option.bind_eq_some_iff.mp h
    have settled := ih h
    have behind (aside : event.IsAside) (same : next = opened) :
        Settles opened (event :: events) := by
      subst same
      have front : Nested next.length [event] := .aside aside .nil
      exact settled.behind front
    cases event with
    | opening depth args =>
      simp only [follow] at hn
      split at hn
      · rename_i hd
        obtain rfl := Option.some.inj hn
        obtain ⟨inner, size, rest, rfl, hi, hr⟩ := settled
        subst hd
        have front : Nested opened.length
            (opening (opened.length + 1) args :: (inner ++ [closing (opened.length + 1) args size])) :=
          .scope hi .nil
        simpa using hr.behind front
      · cases hn
    | closing depth args size =>
      simp only [follow] at hn
      split at hn
      · rename_i hd
        obtain rfl := Option.some.inj hn
        cases opened with
        | nil => cases hd
        | cons top opened =>
          obtain rfl := Option.some.inj hd
          exact ⟨[], size, events, rfl, .nil, settled⟩
      · cases hn
    | rendering statements => exact behind trivial (Option.some.inj hn).symm
    | clause keyword condition => exact behind trivial (Option.some.inj hn).symm
    | otherwise => exact behind trivial (Option.some.inj hn).symm
    | function header => exact behind trivial (Option.some.inj hn).symm

def closings (opened : List (Nat × Option String)) : List Event :=
  opened.map fun (depth, args) => closing depth args 0

theorem follow_closings (opened : List (Nat × Option String)) :
    (closings opened).foldlM follow opened = some [] := by
  induction opened with
  | nil => rfl
  | cons top opened ih =>
    obtain ⟨depth, args⟩ := top
    show ((closing depth args 0 :: closings opened).foldlM follow _) = _
    rw [List.foldlM_cons, follow, if_pos List.head?_cons]
    exact ih

/-- **Prefixes.** Events that can be followed are the beginning of nested ones. -/
theorem exists_nested {events : List Event} {opened : List (Nat × Option String)}
    (h : unclosed events = some opened) : ∃ rest, Nested 0 (events ++ rest) := by
  have all : (events ++ closings opened).foldlM follow [] = some [] := by
    rw [List.foldlM_append, show events.foldlM follow [] = some opened from h]
    exact follow_closings opened
  exact ⟨closings opened, settles_of_follow all⟩

theorem follow_of_isAside {event : Event} (h : event.IsAside)
    (opened : List (Nat × Option String)) : follow opened event = some opened := by
  cases event <;> first | rfl | exact h.elim

theorem follow_asides {events : List Event} (h : ∀ event ∈ events, event.IsAside)
    (opened : List (Nat × Option String)) : events.foldlM follow opened = some opened := by
  induction events with
  | nil => rfl
  | cons event events ih =>
    rw [List.foldlM_cons, follow_of_isAside (h event List.mem_cons_self)]
    exact ih fun other ho => h other (List.mem_cons_of_mem _ ho)

end Event

/-! ## Calls -/

namespace Scope

open Event (follow)

/-- The depth and the parameters of the scope and of those around it, the innermost first, without the
root. -/
def opened : Scope → List (Nat × Option String)
  | root _ => []
  | nested parent args _ => (parent.depth + 1, args) :: parent.opened

theorem length_opened (scope : Scope) : scope.opened.length = scope.depth := by
  induction scope with
  | root body => rfl
  | nested parent args body ih =>
    show parent.opened.length + 1 = parent.depth + 1
    rw [ih]

theorem opened_append (scope : Scope) (text : String) : (scope.append text).opened = scope.opened := by
  cases scope <;> rfl

variable {scope : Scope} {call : Call} {step : Log Scope}

theorem aside_of_perform_write (h : call.Writes) (hs : scope.perform call = .ok step) :
    ∀ event ∈ step.events, event.IsAside := by
  have clause_aside (clause : Clause) : clause.event.IsAside := trivial
  cases call with
  | openScope args => exact h.elim
  | close => exact h.elim
  | chain condition block more otherwise =>
    obtain rfl := Except.ok.inj hs
    rw [IfChain.ifBlock_finish]
    intro event he
    rcases List.mem_append.mp he with he | he
    · obtain ⟨clause, -, rfl⟩ := List.mem_map.mp he
      exact clause_aside clause
    · obtain ⟨block, -, rfl⟩ := List.mem_map.mp he
      trivial
  | ifThen condition block =>
    obtain rfl := Except.ok.inj hs
    rw [ifThen, IfChain.endIf_eq]
    intro event he
    obtain rfl := List.mem_singleton.mp he
    trivial
  | declareFunction header body =>
    obtain rfl := Except.ok.inj hs
    rw [declareFunction, FunctionDecl.writeTo_eq]
    intro event he
    obtain rfl := List.mem_singleton.mp he
    trivial
  | writeFunction decl =>
    obtain rfl := Except.ok.inj hs
    rw [FunctionDecl.writeTo_eq]
    intro event he
    obtain rfl := List.mem_singleton.mp he
    trivial
  | _ =>
    obtain rfl := Except.ok.inj hs
    intro event he
    cases he

/-- What a call reports: how a scope opens or closes and nothing else, or nothing of that. -/
theorem perform_events (hs : scope.perform call = .ok step) :
    (∃ event, step.events = [event]) ∨ ∀ event ∈ step.events, event.IsAside := by
  rcases call.opens_or_closes_or_writes with ⟨args, rfl⟩ | rfl | hw
  · obtain rfl := Except.ok.inj hs
    exact .inl ⟨_, rfl⟩
  · cases scope with
    | root body => cases hs
    | nested parent args body =>
      obtain rfl := Except.ok.inj hs
      exact .inl ⟨_, rfl⟩
  · exact .inr (aside_of_perform_write hw hs)

/-- **One call.** Its events take what is open around the scope to what is open around the next one. -/
theorem follow_perform (hs : scope.perform call = .ok step) :
    step.events.foldlM follow scope.opened = some step.value.opened := by
  rcases call.opens_or_closes_or_writes with ⟨args, rfl⟩ | rfl | hw
  · obtain rfl := Except.ok.inj hs
    show (follow scope.opened (.opening (scope.depth + 1) args)).bind some = _
    rw [follow, length_opened, if_pos rfl]
    rfl
  · cases scope with
    | root body => cases hs
    | nested parent args body =>
      obtain rfl := Except.ok.inj hs
      show (follow _ (.closing (parent.depth + 1) args _)).bind some = some (parent.append _).opened
      rw [opened_append, follow, if_pos]
      · rfl
      · rfl
  · have written := perform_write hw scope
    rw [hs] at written
    rw [show step.value = scope.append call.text from Except.ok.inj written, opened_append]
    exact Event.follow_asides (aside_of_perform_write hw hs) _

/-- Only a root that is to be closed refuses a call. -/
theorem perform_eq_error {error : CloseError} (h : scope.perform call = .error error) :
    call = .close ∧ scope.isRoot = true := by
  cases call with
  | close =>
    cases scope with
    | root body => exact ⟨rfl, rfl⟩
    | nested parent args body => cases h
  | _ => cases h

/-! ## Runs -/

/-- **A run.** Its events take what is open around the scope to what is open around the last one; when
it has failed, nothing is open. -/
theorem follow_run (scope : Scope) (calls : List Call) :
    ∃ opened, (scope.run calls).events.foldlM follow scope.opened = some opened ∧
      (∀ last, (scope.run calls).value = .ok last → opened = last.opened) ∧
      ∀ error, (scope.run calls).value = .error error → opened = [] := by
  induction calls generalizing scope with
  | nil =>
    refine ⟨scope.opened, rfl, ?_, ?_⟩
    · intro last hl
      rw [← Except.ok.inj hl]
    · intro error he
      cases he
  | cons call calls ih =>
    rw [run]
    cases hp : scope.perform call with
    | error error =>
      obtain ⟨-, hr⟩ := perform_eq_error hp
      cases scope with
      | root body =>
        refine ⟨[], rfl, ?_, fun _ _ => rfl⟩
        intro last hl
        cases hl
      | nested parent args body => cases hr
    | ok step =>
      obtain ⟨opened, later, ends⟩ := ih step.value
      refine ⟨opened, ?_, ends⟩
      show (step.events ++ (step.value.run calls).events).foldlM follow scope.opened = _
      rw [List.foldlM_append, follow_perform hp]
      exact later

theorem run_cons (hs : scope.perform call = .ok step) (calls : List Call) :
    scope.run (call :: calls) =
      ⟨step.events ++ (step.value.run calls).events, (step.value.run calls).value⟩ := by
  rw [run, hs]
  rfl

/-- **Where an event comes from.** The event of a scope that opens or closes is all that one call has
reported, and what comes before it was reported by the calls before that. -/
theorem run_split {calls : List Call} {before after : List Event} {event : Event}
    (he : ¬ event.IsAside) (h : (scope.run calls).events = before ++ event :: after) :
    ∃ first call last mid step, calls = first ++ call :: last ∧
      scope.run first = ⟨before, .ok mid⟩ ∧ mid.perform call = .ok step ∧ step.events = [event] := by
  induction calls generalizing scope before with
  | nil =>
    have none : ([] : List Event) = before ++ event :: after := h
    simp at none
  | cons call calls ih =>
    cases hp : scope.perform call with
    | error error =>
      rw [run, hp] at h
      have none : ([] : List Event) = before ++ event :: after := h
      simp at none
    | ok step =>
      rw [run_cons hp] at h
      -- The calls after this one, when it hasn't reported the event.
      have later {front : List Event} (hb : before = step.events ++ front)
          (hl : (step.value.run calls).events = front ++ event :: after) :
          ∃ first other last mid step', call :: calls = first ++ other :: last ∧
            scope.run first = ⟨before, .ok mid⟩ ∧ mid.perform other = .ok step' ∧
            step'.events = [event] := by
        obtain ⟨first, other, last, mid, step', rfl, hr, ho, hs⟩ := ih hl
        refine ⟨call :: first, other, last, mid, step', rfl, ?_, ho, hs⟩
        rw [run_cons hp, hr, hb]
      rcases List.append_eq_append_iff.mp h with ⟨front, hb, hl⟩ | ⟨front, hs, hl⟩
      · exact later hb hl
      · cases front with
        | nil =>
          rw [List.append_nil] at hs
          exact @later [] (by simp [hs]) hl.symm
        | cons other front =>
          obtain ⟨rfl, -⟩ := List.cons.inj hl
          rcases perform_events hp with ⟨only, ho⟩ | asides
          · rw [ho] at hs
            cases before with
            | nil =>
              obtain ⟨rfl, -⟩ := List.cons.inj hs
              exact ⟨[], call, calls, scope, step, rfl, rfl, hp, ho⟩
            | cons head before => simp at hs
          · exact absurd (asides event (by simp [hs])) he

/-- A run that fails ends at a root that is to be closed, and reports nothing of it. -/
theorem run_eq_error {calls : List Call} {error : CloseError}
    (h : (scope.run calls).value = .error error) :
    ∃ first last mid, calls = first ++ .close :: last ∧
      scope.run first = ⟨(scope.run calls).events, .ok mid⟩ ∧ mid.isRoot = true := by
  induction calls generalizing scope with
  | nil => cases h
  | cons call calls ih =>
    cases hp : scope.perform call with
    | error other =>
      obtain ⟨rfl, hr⟩ := perform_eq_error hp
      refine ⟨[], calls, scope, rfl, ?_, hr⟩
      rw [run, run, hp]
      rfl
    | ok step =>
      rw [run_cons hp] at h
      obtain ⟨first, last, mid, rfl, hr, hm⟩ := ih h
      refine ⟨call :: first, last, mid, rfl, ?_, hm⟩
      rw [run_cons hp, run_cons hp, hr]

theorem opening_of_perform {depth : Nat} {args : Option String}
    (hs : scope.perform call = .ok step) (he : step.events = [.opening depth args]) :
    depth = scope.depth + 1 := by
  have followed := follow_perform hs
  rw [he, List.foldlM_cons, follow, length_opened] at followed
  split at followed
  · assumption
  · cases followed

theorem closing_of_perform {depth size : Nat} {args : Option String}
    (hs : scope.perform call = .ok step) (he : step.events = [.closing depth args size]) :
    call = .close ∧ ∃ parent, scope.parent? = some parent ∧
      step.value.body = parent.body ++ scope.finalize ∧ size = scope.finalize.utf8ByteSize := by
  rcases call.opens_or_closes_or_writes with ⟨args, rfl⟩ | rfl | hw
  · obtain rfl := Except.ok.inj hs
    cases he
  · cases scope with
    | root body => cases hs
    | nested parent params body =>
      obtain rfl := Except.ok.inj hs
      refine ⟨rfl, parent, rfl, (parent.gains_append _).body, ?_⟩
      cases he
      rfl
  · have aside := aside_of_perform_write hw hs (.closing depth args size) (by simp [he])
    exact aside.elim

end Scope

/-- **The log nests scopes.** The events of a run from a root are the beginning of nested ones. What has
opened in them and not closed are the scopes that the last scope is inside of, or it itself, with their
depths and parameters, in order; after a failure it is nothing. A scope opens one deeper than as many as
are open before it. A closing comes from a call that closes, and its size is what the code of the scope
around has got longer by, in bytes of UTF-8. Closing a root, which ends a run, reports nothing. -/
theorem log_nests_scopes (body : TextBuffer) (calls : List Call) :
    (∃ rest, Event.Nested 0 (((Scope.root body).run calls).events ++ rest)) ∧
    (∀ scope, ((Scope.root body).run calls).value = .ok scope →
      Event.unclosed ((Scope.root body).run calls).events = some scope.opened) ∧
    (∀ error, ((Scope.root body).run calls).value = .error error →
      Event.unclosed ((Scope.root body).run calls).events = some [] ∧
      ∃ first last root, calls = first ++ .close :: last ∧
        (Scope.root body).run first = ⟨((Scope.root body).run calls).events, .ok root⟩ ∧
        root.isRoot = true) ∧
    (∀ before depth args after,
      ((Scope.root body).run calls).events = before ++ .opening depth args :: after →
        ∃ opened, Event.unclosed before = some opened ∧ depth = opened.length + 1) ∧
    ∀ before depth args size after,
      ((Scope.root body).run calls).events = before ++ .closing depth args size :: after →
        ∃ first last scope parent step, calls = first ++ .close :: last ∧
          (Scope.root body).run first = ⟨before, .ok scope⟩ ∧ scope.parent? = some parent ∧
          scope.close = .ok step ∧ step.events = [.closing depth args size] ∧
          step.value.body.utf8ByteSize = parent.body.utf8ByteSize + size := by
  obtain ⟨opened, followed, ok, failed⟩ := (Scope.root body).follow_run calls
  have unclosed : Event.unclosed ((Scope.root body).run calls).events = some opened := followed
  refine ⟨Event.exists_nested unclosed, ?_, ?_, ?_, ?_⟩
  · intro scope hs
    rw [unclosed, ok scope hs]
  · intro error he
    exact ⟨by rw [unclosed, failed error he], Scope.run_eq_error he⟩
  · intro before depth args after h
    have opens : ¬ (Event.opening depth args).IsAside := fun aside => aside
    obtain ⟨first, call, last, mid, step, rfl, hr, hp, he⟩ := Scope.run_split opens h
    obtain ⟨now, hn, mid_opened, -⟩ := (Scope.root body).follow_run first
    rw [hr] at hn mid_opened
    refine ⟨now, hn, ?_⟩
    rw [mid_opened mid rfl, Scope.length_opened]
    exact Scope.opening_of_perform hp he
  · intro before depth args size after h
    have closes : ¬ (Event.closing depth args size).IsAside := fun aside => aside
    obtain ⟨first, call, last, mid, step, rfl, hr, hp, he⟩ := Scope.run_split closes h
    obtain ⟨rfl, parent, hparent, hbody, rfl⟩ := Scope.closing_of_perform hp he
    refine ⟨first, last, mid, parent, step, rfl, hr, hparent, hp, he, ?_⟩
    rw [hbody, String.utf8ByteSize_append]

/-- A scope that has closed inside of one that is still open, and a run that ends at its root. -/
theorem log_nests_scopes_inside :
    (Event.unclosed ((Scope.root ⟨"a;"⟩).run
        [.openScope (some "x"), .ifThen "p" (.ofText "f();"), .openScope none, .append "é;",
          .close]).events = some [(1, some "x")] ∧
      ∃ (scope parent : Scope) (step : Log Scope), scope.parent? = some parent ∧
        scope.close = .ok step ∧ step.events = [.closing 2 none 22] ∧
        step.value.body.utf8ByteSize = parent.body.utf8ByteSize + 22) ∧
    ((Scope.root ⟨"a;"⟩).run [.openScope none, .close, .close, .append "b;"]).value = .error .root ∧
      Event.unclosed ((Scope.root ⟨"a;"⟩).run [.openScope none, .close, .close, .append "b;"]).events =
        some [] := by
  obtain ⟨-, ok, -, -, sizes⟩ := log_nests_scopes ⟨"a;"⟩
    [.openScope (some "x"), .ifThen "p" (.ofText "f();"), .openScope none, .append "é;", .close]
  have closed := sizes [.opening 1 (some "x"), .clause .initial "p", .opening 2 none] 2 none 22 []
    (by decide)
  obtain ⟨-, -, scope, parent, step, -, -, hp, hs, he, hb⟩ := closed
  refine ⟨⟨ok _ rfl, scope, parent, step, hp, hs, he, hb⟩, rfl, ?_⟩
  exact ((log_nests_scopes ⟨"a;"⟩ [.openScope none, .close, .close, .append "b;"]).2.2.1 _ rfl).1

end JsWriter
