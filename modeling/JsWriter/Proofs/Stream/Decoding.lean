import JsWriter.Proofs.Json.Places
import JsWriter.Script.Stream

/-!
# Decoding while reading

A value can be read first and decoded then, or decoded while it is read. `Streams` compares a reader that
does the second with a reader and a decoder that do the first: on a well-formed value both come to the
same, and of a text with a fault the one reader meets the same fault, unless it has stopped at a mismatch
before it.

* `Streams.andThen`, `Streams.map`, `Streams.shape`: the ways in which readers are put together.
* `Streams.elements`, `Streams.members`: lists and objects, where each element takes one state to the
  next. By induction on the text that is left; a stop in one element stops the whole list, and what has
  been read up to there can be followed by anything.
-/
namespace JsWriter

open Json (AreBlanks IsSeparator)

variable {α β γ σ : Type}

/-- What decoding comes to for a reader that has left `rest`. -/
def Reader.answer (rest : List Char) : Except Mismatch α → Except ReadError (α × List Char)
  | .ok a => .ok (a, rest)
  | .error mismatch => .error (.data mismatch)

/-- Of a whole text only blanks may be left. -/
theorem Reader.whole_of_answer {reader : Reader ReadError α} {s rest : List Char}
    {result : Except Mismatch α} (h : reader.run s = answer rest result) (hr : AreBlanks rest) :
    reader.whole s = result.mapError .data := by
  simp only [whole, h]
  cases result with
  | error mismatch => rfl
  | ok a =>
    simp only [answer, finish_blanks hr]
    rfl

/-- Reading `s` stops at a mismatch before it gets to the fault: the fault lies behind what has been
read, and whatever else comes there, reading stops in the same way. -/
def StopsBefore (run : List Char → Except ReadError (α × List Char)) (s : List Char) (fault : Fault)
    (mismatch : Mismatch) : Prop :=
  ∃ read unread, s = read ++ unread ∧ fault.rest <:+ unread ∧ run s = .error (.data mismatch) ∧
    ∀ after, Numeral.Ends after → run (read ++ after) = .error (.data mismatch)

/-- Reading `s` meets the fault, or stops before it. -/
def Meets (run : List Char → Except ReadError (α × List Char)) (s : List Char) (fault : Fault) : Prop :=
  run s = .error (.malformed fault) ∨ ∃ mismatch, StopsBefore run s fault mismatch

/-- `stream` decodes while it reads what `whole` reads and `decode` decodes then. -/
structure Streams (whole : Reader Fault β) (stream : Reader ReadError α)
    (decode : β → Except Mismatch α) : Prop where
  value : ∀ {s b r}, whole.run s = .ok (b, r) → stream.run s = Reader.answer r (decode b)
  fault : ∀ {s fault}, whole.run s = .error fault → Meets stream.run s fault

/-! ## Stops -/

section Stops

variable {run : List Char → Except ReadError (α × List Char)}
  {run' : List Char → Except ReadError (β × List Char)} {s r : List Char} {fault : Fault}
  {mismatch : Mismatch}

/-- A reading that ends as another one does behind `front`: where that one ends on `r`, and where it
stops on any text. -/
theorem Meets.transfer (front : List Char) (h : Meets run r fault)
    (now : ∀ e, run r = .error e → run' (front ++ r) = .error e)
    (stop : ∀ t mismatch, run t = .error (.data mismatch) →
      run' (front ++ t) = .error (.data mismatch)) :
    Meets run' (front ++ r) fault := by
  rcases h with h | ⟨mismatch, read, unread, rfl, hf, hs, ha⟩
  · exact .inl (now _ h)
  · refine .inr ⟨mismatch, front ++ read, unread, (List.append_assoc _ _ _).symm, hf, now _ hs, ?_⟩
    intro after he
    rw [List.append_assoc]
    exact stop _ mismatch (ha after he)

/-- A reading that always fails as another one does, behind `front`. -/
theorem Meets.behind (front : List Char) (h : Meets run r fault)
    (hr : ∀ t e, run t = .error e → run' (front ++ t) = .error e) : Meets run' (front ++ r) fault :=
  h.transfer front (hr r) fun t _ => hr t _

/-- A reading that goes on from a state or stops, as `result` tells, behind `front`. That it goes on so
is known where what comes behind is `r` or ends a numeral, which it does where going on stops. -/
theorem Meets.round {front : List Char} (result : Except Mismatch σ)
    {next : σ → List Char → Except ReadError (α × List Char)}
    (hr : ∀ t, t = r ∨ Numeral.Ends t → run (front ++ t) =
      match result with
      | .ok state => next state t
      | .error mismatch => .error (.data mismatch))
    (ends : ∀ state t mismatch, next state t = .error (.data mismatch) → Numeral.Ends t)
    (place : fault.rest <:+ r) (h : ∀ state, Meets (next state) r fault) :
    Meets run (front ++ r) fault := by
  cases result with
  | error mismatch =>
    exact .inr ⟨mismatch, front, r, rfl, place, hr r (.inl rfl), fun after ha => hr after (.inr ha)⟩
  | ok state =>
    dsimp only at hr
    refine (h state).transfer front ?_ ?_
    · intro e he
      rw [hr r (.inl rfl), he]
    · intro t mismatch ht
      rw [hr t (.inr (ends state t mismatch ht)), ht]

/-- A reading that stops right behind `front` stops before any fault of what follows. -/
theorem StopsBefore.after {front : List Char} (hf : fault.rest <:+ r)
    (hr : ∀ t, run (front ++ t) = .error (.data mismatch)) :
    StopsBefore run (front ++ r) fault mismatch :=
  ⟨front, r, rfl, hf, hr r, fun after _ => hr after⟩

end Stops

/-! ## Readers that are put together -/

namespace Streams

variable {whole : Reader Fault β} {stream : Reader ReadError α} {decode : β → Except Mismatch α}

theorem congr {decode' : β → Except Mismatch α} (h : Streams whole stream decode)
    (he : ∀ b, decode b = decode' b) : Streams whole stream decode' := by
  obtain rfl : decode = decode' := funext he
  exact h

theorem andThen {f : α → Except ReadError γ} {g : α → Except Mismatch γ}
    (h : Streams whole stream decode) (hg : ∀ a, f a = Reader.decoded (g a)) :
    Streams whole (stream.andThen f) (fun b => (decode b).bind g) where
  value {s b r} hw := by
    have run := h.value hw
    simp only [Reader.andThen, run]
    cases decode b with
    | error mismatch => rfl
    | ok a =>
      simp only [Reader.answer, hg, Except.bind]
      cases g a <;> rfl
  fault {s fault} hw := by
    refine (h.fault hw).behind [] ?_
    intro t e he
    simp only [List.nil_append, Reader.andThen, he]

theorem map (h : Streams whole stream decode) (f : α → γ) :
    Streams whole (stream.map f) (fun b => (decode b).map f) := by
  refine (h.andThen (g := fun a => .ok (f a)) fun _ => rfl).congr ?_
  intro b
  cases decode b <;> rfl

/-- What is made of the value is part of what the decoder sees. -/
theorem ofMap {k : γ → β} {whole : Reader Fault γ} (h : Streams whole stream fun c => decode (k c)) :
    Streams (whole.map k) stream decode where
  value {s b r} hw := by
    rw [Reader.map_run] at hw
    obtain ⟨⟨c, t⟩, hc, hp⟩ := map_eq_ok_iff.mp hw
    cases hp
    exact h.value hc
  fault {s fault} hw := by
    rw [Reader.map_run] at hw
    exact h.fault (map_eq_error_iff.mp hw)

theorem ofFaults (whole : Reader Fault β) : Streams whole (Reader.ofFaults whole) .ok where
  value {s b r} hw := by
    simp only [Reader.ofFaults, hw, Reader.lift]
    rfl
  fault {s fault} hw := by
    refine .inl ?_
    simp only [Reader.ofFaults, hw, Reader.lift]
    rfl

theorem tooDeep (decode : β → Except Mismatch α) :
    Streams (Reader.tooDeep : Reader Fault β) Reader.tooDeep decode where
  value hw := by cases hw
  fault hw := by
    cases hw
    exact .inl rfl

/-- A reader that wants no such value refuses it unread. -/
theorem refuse (mismatch : Mismatch) (h : whole.StaysWithin) :
    Streams whole (Reader.refuse fun _ => .data mismatch : Reader ReadError α)
      (fun _ => .error mismatch) where
  value _ := rfl
  fault {s fault} hw := by
    exact .inr ⟨mismatch, [], s, rfl, (h s).place hw, rfl, fun _ _ => rfl⟩

/-- A value is streamed as its first token tells. -/
theorem shape {make : Scalar → β} {wholeList wholeObject : Reader Fault β}
    {scalar : Scalar → Except ReadError α} {list object : Reader ReadError α}
    (hs : ∀ value, scalar value = Reader.decoded (decode (make value)))
    (hl : Streams wholeList list decode) (ho : Streams wholeObject object decode) :
    Streams (Shape.reader (fun value => .ok (make value)) wholeList wholeObject)
      (Shape.reader scalar list object) decode where
  value {s b r} hw := by
    simp only [Shape.reader] at hw ⊢
    cases hr : Shape.read s with
    | error fault =>
      rw [hr] at hw
      cases hw
    | ok p =>
      obtain ⟨found, t⟩ := p
      rw [hr] at hw
      cases found with
      | scalar value =>
        cases hw
        show (scalar value).map (fun a => (a, r)) = _
        rw [hs]
        cases decode (make value) <;> rfl
      | list => exact hl.value hw
      | object => exact ho.value hw
  fault {s fault} hw := by
    simp only [Shape.reader] at hw
    cases hr : Shape.read s with
    | error other =>
      rw [hr] at hw
      cases hw
      refine .inl ?_
      simp only [Shape.reader, hr]
      rfl
    | ok p =>
      obtain ⟨found, t⟩ := p
      obtain ⟨blanks, token, hb, ht, rfl⟩ := Shape.read_sound hr
      rw [hr] at hw
      cases found with
      | scalar value => cases hw
      | list =>
        obtain rfl : token = ['['] := ht
        have inner : Meets list.run t fault := hl.fault hw
        rw [← List.append_assoc]
        refine inner.behind (blanks ++ ['[']) ?_
        intro u e he
        simp [Shape.reader, Shape.read_list hb, he]
      | object =>
        obtain rfl : token = ['\x7b'] := ht
        have inner : Meets object.run t fault := ho.fault hw
        rw [← List.append_assoc]
        refine inner.behind (blanks ++ ['\x7b']) ?_
        intro u e he
        simp [Shape.reader, Shape.read_object hb, he]

end Streams

/-! ## Lists -/

/-- What a value has been read off reads as it again, whatever comes behind. -/
theorem Json.reader_reread {room : Nat} {s r : List Char} {json : Json}
    (h : (Json.reader room).run s = .ok (json, r)) :
    ∃ c read, s = c :: (read ++ r) ∧ ∀ after, after = r ∨ Numeral.Ends after →
      (Json.reader room).run (c :: (read ++ after)) = .ok (json, after) := by
  obtain ⟨blanks, text, hb, ht, hd, rfl⟩ := Json.reader_sound room h
  have again : ∀ after, after = r ∨ Numeral.Ends after →
      (Json.reader room).run (blanks ++ (text ++ after)) = .ok (json, after) := by
    rintro after (rfl | ha)
    · exact h
    · exact Json.reader_append json room hb ht hd ha
  obtain ⟨d, rest, rfl, -⟩ := ht.head
  cases blanks with
  | nil => exact ⟨d, rest, rfl, again⟩
  | cons b blanks =>
    refine ⟨b, blanks ++ d :: rest, by simp, ?_⟩
    intro after ha
    rw [List.append_assoc]
    exact again after ha

/-- An element decides how decoding goes on. -/
theorem Reader.answer_foldlM_cons (step : σ → β → Except Mismatch σ) (state : σ) (b : β) (bs : List β)
    (rest : List Char) :
    Reader.answer rest ((b :: bs).foldlM step state) =
      match step state b with
      | .ok next => Reader.answer rest (bs.foldlM step next)
      | .error mismatch => .error (.data mismatch) := by
  rw [List.foldlM_cons]
  cases step state b <;> rfl

section Elements

variable {room : Nat} {item : σ → Reader ReadError σ} {step : σ → Json → Except Mismatch σ}
  {first : Bool} {s r : List Char}

/-- Whatever an element is read as, what follows on it ends the numeral that it may be. -/
theorem Reader.ends_of_nextElement (h : Reader.nextElement false s = .ok (true, r)) :
    Numeral.Ends s := by
  obtain ⟨separator, c, t, hs, -, -, rfl, rfl⟩ := Reader.nextElement_eq_more h
  exact Numeral.ends_separator_append hs _

theorem Reader.ends_of_foldElements {state : σ} {mismatch : Mismatch}
    (h : Reader.foldElements item false state s = .error (.data mismatch)) : Numeral.Ends s := by
  rw [Reader.foldElements_eq] at h
  cases hn : Reader.nextElement false s with
  | error fault =>
    rw [hn] at h
    cases h
  | ok p =>
    obtain ⟨more, t⟩ := p
    cases more with
    | false =>
      rw [hn] at h
      cases h
    | true => exact Reader.ends_of_nextElement hn

theorem Reader.foldElements_error {separator t : List Char} {c : Char} {state : σ} {e : ReadError}
    (hs : IsSeparator first separator) (hc : Reader.isBlank c = false) (hne : c ≠ ']')
    (he : (item state).run (c :: t) = .error e) :
    Reader.foldElements item first state (separator ++ c :: t) = .error e := by
  rw [Reader.foldElements_eq, Reader.nextElement_more hs hc hne]
  simp only [he]

namespace Streams

variable (hi : ∀ state, Streams (Json.reader room) (item state) (step state))
include hi

/-- A well-formed element takes the state to the next, or stops the list. -/
theorem foldElements_round {separator t u : List Char} {c : Char} {json : Json} (state : σ)
    (hs : IsSeparator first separator) (hc : Reader.isBlank c = false) (hne : c ≠ ']')
    (hj : (Json.reader room).run (c :: t) = .ok (json, u)) :
    Reader.foldElements item first state (separator ++ c :: t) =
      match step state json with
      | .ok next => Reader.foldElements item false next u
      | .error mismatch => .error (.data mismatch) := by
  rw [Reader.foldElements_eq, Reader.nextElement_more hs hc hne]
  simp only [(hi state).value hj]
  cases step state json <;> rfl

theorem foldElements_speltAs {items : List Json} (state : σ) {text : List Char} (s : List Char)
    (ht : Json.ItemsSpeltAs first items text) (hd : Json.itemsDepth items ≤ room) :
    Reader.foldElements item first state (text ++ s) = Reader.answer s (items.foldlM step state) := by
  induction items generalizing first state text with
  | nil =>
    obtain ⟨blanks, hb, rfl⟩ := ht
    rw [Reader.foldElements_eq, List.append_assoc]
    simp [Reader.nextElement_end hb, Reader.answer, pure, Except.pure]
  | cons json items ih =>
    obtain ⟨separator, a, b, hs, ha, ht, rfl⟩ := ht
    rw [Json.itemsDepth] at hd
    have read := Json.reader_append json room Json.areBlanks_nil ha (by omega) (ht.ends s)
    obtain ⟨c, rest, rfl, hc, bracket⟩ := ha.head
    simp only [List.append_assoc, List.cons_append, List.nil_append] at read ⊢
    rw [foldElements_round hi state hs hc bracket read, Reader.answer_foldlM_cons]
    simp only [ih _ ht (Nat.le_trans (Nat.le_max_right _ _) hd)]

theorem foldElements_fault (hstart : ∀ state mismatch, (item state).run [] ≠ .error (.data mismatch))
    {found : List Json} {fault : Fault} (state : σ)
    (h : Reader.foldElements (fun found => (Json.reader room).map (· :: found)) first found s =
      .error fault) : Meets (Reader.foldElements item first state) s fault := by
  fun_induction Reader.foldElements (fun found => (Json.reader room).map (· :: found)) first found s
    generalizing state with
  | case1 first found s other hn =>
    cases h
    refine .inl ?_
    rw [Reader.foldElements_eq, hn]
    rfl
  | case2 => cases h
  | case3 first found s t hn other hr =>
    cases h
    rw [Reader.map_run] at hr
    obtain ⟨separator, c, u, hs, hc, hne, rfl, rfl⟩ := Reader.nextElement_eq_more hn
    rcases (hi state).fault (map_eq_error_iff.mp hr) with hm | ⟨mismatch, read, unread, he, hf, hm, ha⟩
    · exact .inl (Reader.foldElements_error hs hc hne hm)
    · -- Something of the element has been read, so it is found whatever comes behind that.
      cases read with
      | nil => exact absurd (ha [] (by simp [Numeral.Ends])) (hstart state mismatch)
      | cons d read =>
        rw [List.cons_append] at he
        obtain ⟨rfl, rfl⟩ := List.cons.inj he
        refine .inr ⟨mismatch, separator ++ c :: read, unread, by simp, hf,
          Reader.foldElements_error hs hc hne hm, ?_⟩
        intro after hafter
        rw [List.append_assoc, List.cons_append]
        exact Reader.foldElements_error hs hc hne (ha after hafter)
  | case4 first found s t hn next u hr ih =>
    rw [Reader.map_run] at hr
    obtain ⟨⟨json, v⟩, hj, hp⟩ := map_eq_ok_iff.mp hr
    cases hp
    obtain ⟨separator, c, w, hs, hc, hne, rfl, rfl⟩ := Reader.nextElement_eq_more hn
    obtain ⟨d, read, he, again⟩ := Json.reader_reread hj
    obtain ⟨rfl, rfl⟩ := List.cons.inj he
    have place := (Reader.foldElements_within
      (fun found => (Json.reader_within room).map (· :: found)) false (json :: found) u).place h
    rw [show separator ++ c :: (read ++ u) = separator ++ c :: read ++ u by simp]
    refine Meets.round (step state json) ?_ (fun _ _ _ => Reader.ends_of_foldElements) place
      fun next => ih next h
    intro t ht
    rw [List.append_assoc, List.cons_append]
    exact foldElements_round hi state hs hc hne (again t ht)

/-- **Lists.** Elements that are streamed, each taking one state to the next, stream a list. -/
theorem elements (hstart : ∀ state mismatch, (item state).run [] ≠ .error (.data mismatch))
    (state : σ) :
    Streams (Json.items (Json.reader room)) (Reader.elements item state)
      (fun items => items.foldlM step state) where
  value {s b r} hw := by
    rw [Json.items, Reader.map_run] at hw
    obtain ⟨⟨last, t⟩, hf, hp⟩ := map_eq_ok_iff.mp hw
    cases hp
    obtain ⟨items, text, ht, hd, rfl, rfl⟩ := Json.foldElements_sound (Json.reader_sound room) hf
    show Reader.foldElements item true state (text ++ r) = _
    rw [foldElements_speltAs hi state r ht hd]
    simp
  fault {s fault} hw := by
    rw [Json.items, Reader.map_run] at hw
    exact foldElements_fault hi hstart state (map_eq_error_iff.mp hw)

end Streams
end Elements

/-! ## Objects -/

/-- The value of a member is streamed, or else the member is refused as soon as its key is known. -/
def StreamsMember (room : Nat) (member : Except ReadError (Reader ReadError σ))
    (step : Json → Except Mismatch σ) : Prop :=
  (∃ reader, member = .ok reader ∧ Streams (Json.reader room) reader step) ∨
    ∃ mismatch, member = .error (.data mismatch) ∧ ∀ json, step json = .error mismatch

section Members

variable {room : Nat} {member : σ → String → Except ReadError (Reader ReadError σ)}
  {step : σ → String × Json → Except Mismatch σ} {first : Bool} {s r : List Char}

theorem Reader.nextKey_append {separator text : List Char} {name : String}
    (hs : IsSeparator first separator) (hk : Json.Text.SpeltAs name text) (t : List Char) :
    Reader.nextKey first (separator ++ (text ++ t)) = .ok (some name, t) := by
  obtain ⟨inside, hi, rfl⟩ := hk
  simp only [List.append_assoc, List.cons_append, List.nil_append]
  rw [Reader.nextKey_more hs, Reader.key, Json.Text.body_append hi]
  simp [Except.map]

theorem Reader.ends_of_foldMembers {state : σ} {mismatch : Mismatch}
    (h : Reader.foldMembers member false state s = .error (.data mismatch)) : Numeral.Ends s := by
  rw [Reader.foldMembers_eq] at h
  cases hn : Reader.nextKey false s with
  | error fault =>
    rw [hn] at h
    cases h
  | ok p =>
    obtain ⟨key, t⟩ := p
    cases key with
    | none =>
      rw [hn] at h
      cases h
    | some key =>
      obtain ⟨separator, text, hs, -, rfl⟩ := Reader.nextKey_eq_more hn
      exact Numeral.ends_separator_append hs _

theorem Reader.foldMembers_refused {separator text t : List Char} {key : String} {state : σ}
    {e : ReadError} (hs : IsSeparator first separator) (hk : Json.Text.SpeltAs key text)
    (hm : member state key = .error e) :
    Reader.foldMembers member first state (separator ++ (text ++ t)) = .error e := by
  rw [Reader.foldMembers_eq, Reader.nextKey_append hs hk]
  simp only [hm]

theorem Reader.foldMembers_more {separator text before : List Char} {key : String} (state : σ)
    (hs : IsSeparator first separator) (hk : Json.Text.SpeltAs key text) (hb : AreBlanks before)
    (t : List Char) :
    Reader.foldMembers member first state (separator ++ (text ++ (before ++ ':' :: t))) =
      ((member state key).bind fun reader => reader.run t).bind fun (next, r) =>
        Reader.foldMembers member false next r := by
  rw [Reader.foldMembers_eq, Reader.nextKey_append hs hk]
  dsimp only
  cases member state key with
  | error e => rfl
  | ok reader =>
    simp only [Reader.colon_append hb, Except.bind]
    cases reader.run t <;> rfl

/-- A member whose value decodes takes the state to the next; otherwise it stops the object. -/
theorem Reader.foldMembers_round {separator text before t u : List Char} {key : String} {json : Json}
    {state : σ} (hs : IsSeparator first separator) (hk : Json.Text.SpeltAs key text)
    (hb : AreBlanks before)
    (hv : ((member state key).bind fun reader => reader.run t) =
      Reader.answer u (step state (key, json))) :
    Reader.foldMembers member first state (separator ++ (text ++ (before ++ ':' :: t))) =
      match step state (key, json) with
      | .ok next => Reader.foldMembers member false next u
      | .error mismatch => .error (.data mismatch) := by
  rw [Reader.foldMembers_more state hs hk hb, hv]
  cases step state (key, json) <;> rfl

/-- A member that is refused for its key is refused before any fault behind the key. -/
theorem Meets.refused {separator text t : List Char} {key : String} {state : σ} {fault : Fault}
    {mismatch : Mismatch} (hs : IsSeparator first separator) (hk : Json.Text.SpeltAs key text)
    (hm : member state key = .error (.data mismatch)) (place : fault.rest <:+ t) :
    Meets (Reader.foldMembers member first state) (separator ++ (text ++ t)) fault := by
  rw [← List.append_assoc]
  refine .inr ⟨mismatch, StopsBefore.after place ?_⟩
  intro u
  rw [List.append_assoc]
  exact Reader.foldMembers_refused hs hk hm

/-- A well-formed value takes the state to the next, or the member is refused. -/
theorem StreamsMember.value {member : Except ReadError (Reader ReadError σ)}
    {step : Json → Except Mismatch σ} (h : StreamsMember room member step) {t u : List Char} {json : Json}
    (hj : (Json.reader room).run t = .ok (json, u)) :
    (member.bind fun reader => reader.run t) = Reader.answer u (step json) := by
  rcases h with ⟨reader, rfl, stream⟩ | ⟨mismatch, rfl, hstep⟩
  · exact stream.value hj
  · rw [hstep]
    rfl

/-- The members of an object, each taking one state to the next. What `fits` asks of a member is enough for
its value to be read. -/
theorem Reader.foldMembers_speltAs {fits : String × Json → Prop}
    (hm : ∀ state key {json blanks text u}, fits (key, json) → AreBlanks blanks → json.SpeltAs text →
      Numeral.Ends u → ((member state key).bind fun reader => reader.run (blanks ++ (text ++ u))) =
        Reader.answer u (step state (key, json)))
    {members : List (String × Json)} (state : σ) {text : List Char} (s : List Char)
    (ht : Json.MembersSpeltAs first members text) (hf : ∀ entry ∈ members, fits entry) :
    Reader.foldMembers member first state (text ++ s) =
      Reader.answer s (members.foldlM step state) := by
  induction members generalizing first state text with
  | nil =>
    obtain ⟨blanks, hb, rfl⟩ := ht
    rw [Reader.foldMembers_eq, List.append_assoc]
    simp [Reader.nextKey_end hb, Reader.answer, pure, Except.pure]
  | cons entry members ih =>
    obtain ⟨key, json⟩ := entry
    obtain ⟨separator, name, before, after, a, b, hs, hk, hb, ha, hj, ht, rfl⟩ := ht
    obtain ⟨fit, hf⟩ := List.forall_mem_cons.mp hf
    simp only [List.append_assoc, List.cons_append]
    rw [Reader.foldMembers_round hs hk hb (hm state key fit ha hj (ht.ends s)), Reader.answer_foldlM_cons]
    simp only [ih _ ht hf]

namespace Streams

variable (hm : ∀ state key, StreamsMember room (member state key) fun json => step state (key, json))
include hm

theorem foldMembers_fault {found : List (String × Json)} {fault : Fault} (state : σ)
    (h : Reader.foldMembers (ε := Fault)
      (fun found key => .ok ((Json.reader room).map fun value => (key, value) :: found)) first found s =
      .error fault) : Meets (Reader.foldMembers member first state) s fault := by
  fun_induction Reader.foldMembers (ε := Fault)
      (fun found key => .ok ((Json.reader room).map fun value => (key, value) :: found)) first found s
      generalizing state with
  | case1 first found s other hn =>
    cases h
    refine .inl ?_
    rw [Reader.foldMembers_eq, hn]
    rfl
  | case2 => cases h
  | case3 first found s key t hn e he => cases he
  | case4 first found s key t hn value hv other hc =>
    cases h
    obtain ⟨separator, text, hs, hk, rfl⟩ := Reader.nextKey_eq_more hn
    rcases hm state key with ⟨reader, hmember, stream⟩ | ⟨mismatch, hmember, hstep⟩
    · refine .inl ?_
      rw [Reader.foldMembers_eq, hn]
      simp only [hmember, hc]
      rfl
    · exact Meets.refused hs hk hmember ((Reader.colon_within t).place (map_eq_error_iff.mpr hc))
  | case5 first found s key t hn value hv u hc other hr =>
    cases h
    cases hv
    rw [Reader.map_run] at hr
    have hw := map_eq_error_iff.mp hr
    obtain ⟨separator, text, hs, hk, rfl⟩ := Reader.nextKey_eq_more hn
    obtain ⟨before, hb, rfl⟩ := Reader.colon_eq_ok hc
    rcases hm state key with ⟨reader, hmember, stream⟩ | ⟨mismatch, hmember, hstep⟩
    · rw [show separator ++ (text ++ (before ++ ':' :: u)) =
        separator ++ (text ++ (before ++ [':'])) ++ u by simp]
      refine (stream.fault hw).behind _ ?_
      intro x e he
      have more : Reader.foldMembers member first state _ = _ := Reader.foldMembers_more state hs hk hb x
      rw [hmember, Except.bind, he] at more
      simpa [Except.bind] using more
    · refine Meets.refused hs hk hmember (((Json.reader_within room u).place hw).trans ?_)
      exact ⟨before ++ [':'], by simp⟩
  | case6 first found s key t hn value hv u hc next v hr ih =>
    cases hv
    rw [Reader.map_run] at hr
    obtain ⟨⟨json, w⟩, hj, hp⟩ := map_eq_ok_iff.mp hr
    cases hp
    obtain ⟨separator, text, hs, hk, rfl⟩ := Reader.nextKey_eq_more hn
    obtain ⟨before, hb, rfl⟩ := Reader.colon_eq_ok hc
    obtain ⟨c, read, rfl, again⟩ := Json.reader_reread hj
    have place := (Reader.foldMembers_within (fun _ key => (Json.reader_within room).map _) false
      ((key, json) :: found) v).place h
    rcases hm state key with ⟨reader, hmember, stream⟩ | ⟨mismatch, hmember, hstep⟩
    · rw [show separator ++ (text ++ (before ++ ':' :: c :: (read ++ v))) =
        separator ++ (text ++ (before ++ ':' :: c :: read)) ++ v by simp]
      refine Meets.round (step state (key, json)) ?_ (fun _ _ _ => Reader.ends_of_foldMembers) place
        fun next => ih next h
      intro x hx
      rw [← Reader.foldMembers_round hs hk hb ((hm state key).value (again x hx))]
      simp
    · refine Meets.refused hs hk hmember (place.trans ?_)
      exact ⟨before ++ ':' :: c :: read, by simp⟩

/-- **Objects.** Members that are streamed, each taking one state to the next, stream an object. -/
theorem members (state : σ) :
    Streams (Json.members (Json.reader room)) (Reader.members member state)
      (fun members => members.foldlM step state) where
  value {s b r} hw := by
    rw [Json.members, Reader.map_run] at hw
    obtain ⟨⟨last, t⟩, hf, hp⟩ := map_eq_ok_iff.mp hw
    cases hp
    obtain ⟨members, text, ht, hd, rfl, rfl⟩ := Json.foldMembers_sound (Json.reader_sound room) hf
    have fits : ∀ entry ∈ members, entry.2.depth ≤ room := fun entry he =>
      Nat.le_trans (Json.depth_le_membersDepth he) hd
    have run : Reader.foldMembers member true state (text ++ r) =
        Reader.answer r (members.foldlM step state) := by
      refine Reader.foldMembers_speltAs ?_ state r ht fits
      intro state key json blanks text u fit hb hj hu
      exact (hm state key).value (Json.reader_append json room hb hj fit hu)
    show Reader.foldMembers member true state (text ++ r) = _
    rw [run]
    simp
  fault {s fault} hw := by
    rw [Json.members, Reader.map_run] at hw
    exact foldMembers_fault hm state (map_eq_error_iff.mp hw)

end Streams
end Members

end JsWriter
