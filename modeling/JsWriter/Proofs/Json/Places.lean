import JsWriter.Proofs.Json.Sound

/-!
# Where reading stops

Reading works its way through a text from the front. What it leaves unread is an end of the text, and so
is what a fault leaves unread: the place of a fault always lies in the text that was read. `Within` says
both of a result; each reading function has a lemma for its own.

* `Numeral.read_within`, `Json.Text.body_within`: the tokens that have parts.
* `Reader.foldElements_within`, `Reader.foldMembers_within`: lists and objects of whatever stays within
  the text.
* `Json.reader_within`: values, by induction on the room for lists and objects in them.
-/
namespace JsWriter

variable {α β σ : Type} {s r : List Char}

/-- Reading `s` leaves an end of it, also where it stops at a fault. -/
def Within (s : List Char) : Except Fault (α × List Char) → Prop
  | .ok (_, r) => r <:+ s
  | .error fault => fault.rest <:+ s

namespace Within

variable {x : Except Fault (α × List Char)}

theorem suffix {a : α} (h : Within s x) (hx : x = .ok (a, r)) : r <:+ s := by
  rw [hx] at h
  exact h

theorem place {fault : Fault} (h : Within s x) (hx : x = .error fault) : fault.rest <:+ s := by
  rw [hx] at h
  exact h

theorem of_suffix (h : Within r x) (hr : r <:+ s) : Within s x := by
  cases x with
  | error fault => exact List.IsSuffix.trans h hr
  | ok p => exact List.IsSuffix.trans h hr

theorem map {f : α × List Char → β × List Char} (h : Within s x) (hf : ∀ p, (f p).2 = p.2) :
    Within s (x.map f) := by
  cases x with
  | error fault => exact h
  | ok p =>
    show (f p).2 <:+ s
    rw [hf]
    exact h

theorem bind {f : α × List Char → Except Fault (β × List Char)} (h : Within s x)
    (hf : ∀ p, x = .ok p → Within p.2 (f p)) : Within s (x.bind f) := by
  cases x with
  | error fault => exact h
  | ok p => exact (hf p rfl).of_suffix h

end Within

/-! ## Strings -/

namespace Json.Text

theorem hex4_within (s : List Char) : Within s (hex4 s) := by
  unfold hex4
  split
  · split
    · exact ⟨[_, _, _, _], rfl⟩
    · exact List.suffix_rfl
  · split
    · exact List.nil_suffix
    · exact List.suffix_rfl

theorem lowHalf_within (high : Nat) (s : List Char) : Within s (lowHalf high s) := by
  unfold lowHalf
  split
  · exact List.nil_suffix
  · exact List.nil_suffix
  · rename_i t
    refine Within.of_suffix ?_ (show t <:+ '\\' :: 'u' :: t from ⟨['\\', 'u'], rfl⟩)
    refine (hex4_within t).bind ?_
    intro p _
    dsimp only
    split
    · exact List.suffix_rfl
    · exact List.suffix_rfl
  · exact List.suffix_cons _ _
  · exact List.suffix_rfl

theorem unicodeEscape_within (s : List Char) : Within s (unicodeEscape s) := by
  refine (hex4_within s).bind ?_
  intro p _
  dsimp only
  split
  · exact List.suffix_rfl
  · split
    · exact lowHalf_within _ _
    · exact List.suffix_rfl

theorem escape_within (s : List Char) : Within s (escape s) := by
  unfold escape
  split
  · exact List.nil_suffix
  · exact (unicodeEscape_within _).of_suffix (List.suffix_cons _ _)
  · split
    · exact List.suffix_cons _ _
    · exact List.suffix_rfl

theorem next_within (s : List Char) : Within s (next s) := by
  unfold next
  split
  · exact List.nil_suffix
  · exact List.suffix_cons _ _
  · exact ((escape_within _).of_suffix (List.suffix_cons _ _)).map fun _ => rfl
  · split
    · exact List.suffix_rfl
    · exact List.suffix_cons _ _

theorem body_within (start : String) (s : List Char) : Within s (body start s) := by
  fun_induction body start s with
  | case1 start s fault hn => exact (next_within s).place hn
  | case2 start s r hn => exact (next_within s).suffix hn
  | case3 start s c r hn ih => exact ih.of_suffix ((next_within s).suffix hn)

end Json.Text

/-! ## Numbers -/

namespace Numeral

variable {atEnd : Cause}

theorem digits_within (s : List Char) : Within s (digits atEnd s) := by
  unfold digits
  split
  · exact List.nil_suffix
  · split
    · exact List.dropWhile_suffix _
    · exact List.suffix_rfl

theorem readWhole_within (s : List Char) : Within s (readWhole atEnd s) := by
  unfold readWhole
  split
  · split
    · exact List.suffix_cons _ _
    · exact List.suffix_cons _ _
  · exact digits_within s

theorem readFraction_within (s : List Char) : Within s (readFraction atEnd s) := by
  unfold readFraction
  split
  · exact (digits_within _).of_suffix (List.suffix_cons _ _)
  · exact List.suffix_rfl

theorem readPower_within (s : List Char) : Within s (readPower atEnd s) := by
  unfold readPower
  split
  · exact ((digits_within _).of_suffix (List.suffix_cons _ _)).map fun _ => rfl
  · exact ((digits_within _).of_suffix (List.suffix_cons _ _)).map fun _ => rfl
  · exact (digits_within s).map fun _ => rfl

theorem readExponent_within (s : List Char) : Within s (readExponent atEnd s) := by
  unfold readExponent
  split
  · exact ((readPower_within _).of_suffix (List.suffix_cons _ _)).map fun _ => rfl
  · exact ((readPower_within _).of_suffix (List.suffix_cons _ _)).map fun _ => rfl
  · exact List.suffix_rfl

theorem readUnsigned_within (negative : Bool) (s : List Char) :
    Within s (readUnsigned atEnd negative s) := by
  refine (readWhole_within s).bind ?_
  intro whole _
  refine (readFraction_within whole.2).bind ?_
  intro fraction _
  refine (readExponent_within fraction.2).bind ?_
  intro exponent _
  exact List.suffix_rfl

theorem read_within (s : List Char) : Within s (read atEnd s) := by
  unfold read
  split
  · exact (readUnsigned_within true _).of_suffix (List.suffix_cons _ _)
  · exact readUnsigned_within false s

theorem excess_suffix {value : Nat} {ds rest : List Char} (h : excess value ds = some rest) :
    rest <:+ ds := by
  induction ds generalizing value with
  | nil => cases h
  | cons d ds ih =>
    rw [excess] at h
    split at h
    · obtain rfl := Option.some.inj h
      exact List.suffix_cons _ _
    · exact (ih h).trans (List.suffix_cons _ _)

theorem magnitude_error_suffix {n : Numeral} {unneeded : List Char}
    (h : n.magnitude = .error unneeded) :
    unneeded = [] ∨ ∃ negative ds, n.exponent = some (negative, ds) ∧ unneeded <:+ ds := by
  -- All that matters of scaling is whether it gives something, so it is kept shut.
  obtain ⟨scale, hscale⟩ : ∃ scale, Binary64.ofScaled? = scale := ⟨_, rfl⟩
  unfold magnitude at h
  rw [hscale] at h
  dsimp only at h
  split at h
  · split at h
    · cases h
    · cases h
      exact .inl rfl
  · rename_i negative ds he
    split at h
    · rename_i rest hx
      split at h
      · cases h
      · cases h
        exact .inr ⟨negative, ds, he, excess_suffix hx⟩
    · split at h
      · cases h
      · cases h
        exact .inl rfl

/-- The digits that weren't needed to see that a numeral is out of range are the last ones of its
spelling. -/
theorem unneeded_suffix {n : Numeral} {unneeded text : List Char} (h : n.number = .error unneeded)
    (ht : n.SpeltAs text) : unneeded <:+ text := by
  unfold number at h
  split at h
  · cases h
  · rcases magnitude_error_suffix (map_eq_error_iff.mp h) with rfl | ⟨negative, ds, he, hs⟩
    · exact List.nil_suffix
    · obtain ⟨sign, whole, fraction, exponent, -, -, -, hp, rfl⟩ := ht
      rw [he] at hp
      obtain ⟨mark, esign, -, -, -, rfl⟩ := hp
      refine hs.trans ⟨sign ++ (whole ++ (fraction ++ mark :: esign)), ?_⟩
      simp

end Numeral

theorem Number.read_within (s : List Char) : Within s (Number.read s) := by
  have numeral : Within s (Numeral.read .endInValue s) := Numeral.read_within s
  unfold Number.read
  cases hn : Numeral.read .endInValue s with
  | error fault => rwa [hn] at numeral
  | ok p =>
    obtain ⟨n, r⟩ := p
    rw [hn] at numeral
    simp only [bind, Except.bind]
    split
    · exact numeral
    · -- The place lies before the end of the numeral, but not before the numeral.
      rename_i unneeded hv
      obtain ⟨text, spelt, rfl⟩ := Numeral.read_sound hn
      obtain ⟨needed, rfl⟩ := Numeral.unneeded_suffix hv spelt
      exact ⟨needed, (List.append_assoc _ _ _).symm⟩

/-! ## Tokens -/

theorem Json.word_within (spelling : List Char) {shape : Shape} (s : List Char) :
    Within s ((Json.word spelling s).map fun r => (shape, r)) := by
  fun_induction Json.word spelling s with
  | case1 s => exact List.suffix_rfl
  | case2 => exact List.suffix_rfl
  | case3 c cs r ih => exact ih.of_suffix (List.suffix_cons _ _)
  | case4 => exact List.suffix_rfl

namespace Shape

theorem readToken_within (s : List Char) : Within s (readToken s) := by
  unfold readToken
  split
  · exact List.suffix_rfl
  · exact List.suffix_cons _ _
  · exact List.suffix_cons _ _
  · exact ((Json.Text.body_within "" _).of_suffix (List.suffix_cons _ _)).map fun _ => rfl
  · exact (Json.word_within _ _).of_suffix (List.suffix_cons _ _)
  · exact (Json.word_within _ _).of_suffix (List.suffix_cons _ _)
  · exact (Json.word_within _ _).of_suffix (List.suffix_cons _ _)
  · split
    · exact (Number.read_within _).map fun _ => rfl
    · exact List.suffix_rfl

theorem read_within (s : List Char) : Within s (read s) :=
  (readToken_within _).of_suffix (List.dropWhile_suffix _)

end Shape

/-! ## Between the tokens -/

namespace Reader

theorem skipBlanks_suffix (s : List Char) : skipBlanks s <:+ s :=
  List.dropWhile_suffix _

theorem nextElement_within (first : Bool) (s : List Char) : Within s (nextElement first s) := by
  have hs := skipBlanks_suffix s
  unfold nextElement
  split
  · exact List.nil_suffix
  · rename_i heq
    rw [heq] at hs
    exact (List.suffix_cons _ _).trans hs
  · rename_i c t _ heq
    rw [heq] at hs
    have ht : skipBlanks t <:+ s :=
      (skipBlanks_suffix t).trans ((List.suffix_cons _ _).trans hs)
    split
    · exact hs
    · split
      · split
        · exact List.nil_suffix
        · rename_i heq'
          rwa [heq'] at ht
        · exact ht
      · exact hs

theorem key_within (s : List Char) : Within s (key s) :=
  (Json.Text.body_within "" s).map fun _ => rfl

theorem nextKey_within (first : Bool) (s : List Char) : Within s (nextKey first s) := by
  have hs := skipBlanks_suffix s
  unfold nextKey
  split
  · exact List.nil_suffix
  · rename_i heq
    rw [heq] at hs
    exact (List.suffix_cons _ _).trans hs
  · rename_i c t _ heq
    rw [heq] at hs
    have ht : skipBlanks t <:+ s :=
      (skipBlanks_suffix t).trans ((List.suffix_cons _ _).trans hs)
    split
    · split
      · exact (key_within t).of_suffix ((List.suffix_cons _ _).trans hs)
      · exact hs
    · split
      · split
        · exact List.nil_suffix
        · rename_i heq'
          rw [heq'] at ht
          exact (key_within _).of_suffix ((List.suffix_cons _ _).trans ht)
        · rename_i heq'
          rwa [heq'] at ht
        · exact ht
      · exact hs

theorem colon_within (s : List Char) : Within s ((colon s).map fun r => ((), r)) := by
  have hs := skipBlanks_suffix s
  unfold colon
  split
  · exact List.nil_suffix
  · rename_i heq
    rw [heq] at hs
    exact (List.suffix_cons _ _).trans hs
  · exact hs

theorem finish_suffix {s : List Char} {fault : Fault} (h : finish s = .error fault) :
    fault.rest <:+ s := by
  have hs := skipBlanks_suffix s
  unfold finish at h
  split at h
  · cases h
  · cases h
    exact hs

/-! ## Readers -/

/-- The reader stays within whatever it reads. -/
def StaysWithin (reader : Reader Fault α) : Prop :=
  ∀ s, Within s (reader.run s)

theorem StaysWithin.map {reader : Reader Fault α} (h : reader.StaysWithin) (f : α → β) :
    (reader.map f).StaysWithin := by
  intro s
  rw [map_run]
  exact (h s).map fun _ => rfl

theorem tooDeep_staysWithin : (tooDeep : Reader Fault α).StaysWithin :=
  fun _ => List.suffix_rfl

theorem foldElements_within {item : σ → Reader Fault σ} (hi : ∀ state, (item state).StaysWithin)
    (first : Bool) (state : σ) (s : List Char) : Within s (foldElements item first state s) := by
  fun_induction foldElements item first state s with
  | case1 first state s fault hn => exact (nextElement_within first s).place hn
  | case2 first state s r hn => exact (nextElement_within first s).suffix hn
  | case3 first state s r hn fault hr =>
    exact ((hi state r).place hr).trans ((nextElement_within first s).suffix hn)
  | case4 first state s r hn state' r' hr ih =>
    exact ih.of_suffix (((hi state r).suffix hr).trans ((nextElement_within first s).suffix hn))

theorem foldMembers_within {member : σ → String → Reader Fault σ}
    (hm : ∀ state key, (member state key).StaysWithin) (first : Bool) (state : σ) (s : List Char) :
    Within s (foldMembers (fun state key => .ok (member state key)) first state s) := by
  fun_induction foldMembers (fun state key => .ok (member state key)) first state s with
  | case1 first state s fault hn => exact (nextKey_within first s).place hn
  | case2 first state s r hn => exact (nextKey_within first s).suffix hn
  | case3 first state s key r hn fault he => cases he
  | case4 first state s key r hn value hv fault hc =>
    have behind := (nextKey_within first s).suffix hn
    exact ((colon_within r).place (map_eq_error_iff.mpr hc)).trans behind
  | case5 first state s key r hn value hv r' hc fault hr =>
    cases hv
    have behind := (colon_within r).suffix (map_eq_ok_iff.mpr ⟨r', hc, rfl⟩)
    exact ((hm state key r').place hr).trans (behind.trans ((nextKey_within first s).suffix hn))
  | case6 first state s key r hn value hv r' hc state' r'' hr ih =>
    cases hv
    have behind := (colon_within r).suffix (map_eq_ok_iff.mpr ⟨r', hc, rfl⟩)
    exact ih.of_suffix
      (((hm state key r').suffix hr).trans (behind.trans ((nextKey_within first s).suffix hn)))

theorem elements_staysWithin {item : σ → Reader Fault σ} (hi : ∀ state, (item state).StaysWithin)
    (state : σ) : (elements item state).StaysWithin :=
  foldElements_within hi true state

theorem members_staysWithin {member : σ → String → Reader Fault σ}
    (hm : ∀ state key, (member state key).StaysWithin) (state : σ) :
    (members (fun state key => .ok (member state key)) state).StaysWithin :=
  foldMembers_within hm true state

end Reader

theorem Shape.reader_staysWithin {make : Scalar → α} {list object : Reader Fault α}
    (hl : list.StaysWithin) (ho : object.StaysWithin) :
    (Shape.reader (fun value => .ok (make value)) list object).StaysWithin := by
  intro s
  have token := Shape.read_within s
  unfold Shape.reader
  dsimp only
  split
  · rename_i hs
    exact token.place hs
  · rename_i hs
    exact token.suffix hs
  · rename_i r hs
    exact (hl r).of_suffix (token.suffix hs)
  · rename_i r hs
    exact (ho r).of_suffix (token.suffix hs)

namespace Json

theorem items_staysWithin {item : Reader Fault Json} (hi : item.StaysWithin) :
    (items item).StaysWithin :=
  (Reader.elements_staysWithin (fun _ => hi.map _) _).map _

theorem members_staysWithin {value : Reader Fault Json} (hv : value.StaysWithin) :
    (members value).StaysWithin :=
  (Reader.members_staysWithin (fun _ _ => hv.map _) _).map _

/-- **Values.** Reading one stays within the text: every fault lies in it. -/
theorem reader_within (room : Nat) : (reader room).StaysWithin := by
  induction room with
  | zero => exact Shape.reader_staysWithin Reader.tooDeep_staysWithin Reader.tooDeep_staysWithin
  | succ room ih =>
    exact Shape.reader_staysWithin ((items_staysWithin ih).map _) ((members_staysWithin ih).map _)

end Json
end JsWriter
