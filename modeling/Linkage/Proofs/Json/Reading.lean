import Linkage.Proofs.Json.Rendering
import Linkage.Proofs.Text.Reading

set_option autoImplicit false

/-! # Renderings are read back

From every text that renders a value the reader gets the value, and goes on behind the text
(`readValue_of_renders`), unless what comes there goes on with a number. Strings are read piece
by piece: whichever way a character is spelled, it is the character that is put to those already
read (`readStringFrom_piece`). The parts of arrays and objects are shorter than the whole, so the
length of the text is deep enough for its nesting and enough for the number of parts.
-/

namespace Linkage.Json

/-! ## Strings -/

theorem digit?_of_isHexDigit {d : Nat} {c : Char} (h : IsHexDigit d c) :
    Hexadecimal.digit? c = some d := by
  have hd : d < 16 := by
    rcases h with h | h
    · exact (List.getElem?_eq_some_iff.1 h).1
    · exact (List.getElem?_eq_some_iff.1 h).1
  rcases h with h | h
  · interval_cases d <;> cases h <;> rfl
  · interval_cases d <;> cases h <;> rfl

theorem value?_of_spellsUnit {n : Nat} {digits : List Char} (h : SpellsUnit n digits) :
    Hexadecimal.value? digits = some n := by
  obtain ⟨d₁, d₂, d₃, d₄, c₁, c₂, c₃, c₄, h₁, h₂, h₃, h₄, rfl, rfl⟩ := h
  simp [Hexadecimal.value?, digit?_of_isHexDigit h₁, digit?_of_isHexDigit h₂,
    digit?_of_isHexDigit h₃, digit?_of_isHexDigit h₄]

theorem eq_four_of_spellsUnit {n : Nat} {digits : List Char} (h : SpellsUnit n digits) :
    ∃ a b c d, digits = [a, b, c, d] := by
  obtain ⟨-, -, -, -, c₁, c₂, c₃, c₄, -, -, -, -, -, rfl⟩ := h
  exact ⟨c₁, c₂, c₃, c₄, rfl⟩

variable (done rest : List Char)

theorem readStringFrom_unit {a b c d : Char} {n : Nat}
    (h : Hexadecimal.value? [a, b, c, d] = some n) (hn : n < 0xD800 ∨ 0xE000 ≤ n) :
    readStringFrom done ('\\' :: 'u' :: a :: b :: c :: d :: rest)
      = readStringFrom (Char.ofNat n :: done) rest := by
  rw [readStringFrom, h]
  exact if_pos hn

theorem readStringFrom_pair {a b c d e f g h : Char} {first second : Nat}
    (hfirst : Hexadecimal.value? [a, b, c, d] = some first)
    (hsecond : Hexadecimal.value? [e, f, g, h] = some second)
    (hlead : 0xD800 ≤ first ∧ first < 0xDC00) (htrail : 0xDC00 ≤ second ∧ second < 0xE000) :
    readStringFrom done ('\\' :: 'u' :: a :: b :: c :: d :: '\\' :: 'u' :: e :: f :: g :: h :: rest)
      = readStringFrom (Char.ofNat (0x10000 + (first - 0xD800) * 0x400 + (second - 0xDC00)) :: done)
        rest := by
  have hpair : surrogatePair? first second
      = some (Char.ofNat (0x10000 + (first - 0xD800) * 0x400 + (second - 0xDC00))) :=
    if_pos ⟨hlead.1, hlead.2, htrail.1, htrail.2⟩
  rw [readStringFrom, hfirst]
  simp only
  rw [if_neg (by omega), hsecond, Option.bind_some, hpair]

/-- Whichever way a character is spelled, the reader takes it up. -/
theorem readStringFrom_piece {c : Char} {piece : List Char} (h : SpellsChar c piece) :
    readStringFrom done (piece ++ rest) = readStringFrom (c :: done) rest := by
  have hc : Char.ofNat c.toNat = c := Char.ofNat_toNat c
  cases h with
  | literal hcontrol hquote hbackslash =>
      have hcontrol : ¬c.toNat < 0x20 := Nat.not_lt.2 hcontrol
      have hkeep : ¬(c.toNat < 0x20 || c == '\\') = true := by
        simp [hcontrol, hbackslash]
      rw [List.singleton_append, readStringFrom.eq_def]
      -- none of the patterns of the reader but the last one fits
      split
      · next h => cases h
      · next h => exact absurd (List.cons.inj h).1 hquote
      · next h => exact absurd (List.cons.inj h).1 hbackslash
      · next h => exact absurd (List.cons.inj h).1 hbackslash
      · next h =>
          obtain ⟨rfl, rfl⟩ := List.cons.inj h
          exact if_neg hkeep
  | short letter h =>
      simp only [shortEscapes, List.mem_cons, Prod.mk.injEq, List.not_mem_nil, or_false] at h
      rcases h with ⟨rfl, rfl⟩ | ⟨rfl, rfl⟩ | ⟨rfl, rfl⟩ | ⟨rfl, rfl⟩ | ⟨rfl, rfl⟩ | ⟨rfl, rfl⟩
        | ⟨rfl, rfl⟩ | ⟨rfl, rfl⟩ <;> rfl
  | unit digits h =>
      obtain ⟨a, b, c', d, rfl⟩ := eq_four_of_spellsUnit h
      -- a character is no surrogate, so one unit is all there is to it
      have hn : c.toNat < 0xD800 ∨ 0xE000 ≤ c.toNat := by
        rcases c.valid with hlow | ⟨hhigh, -⟩
        · exact Or.inl hlow
        · exact Or.inr hhigh
      have hread := readStringFrom_unit done rest (value?_of_spellsUnit h) hn
      rw [hc] at hread
      exact hread
  | pair first second digits digits' hfirst hsecond hlead htrail hpair =>
      obtain ⟨a, b, c', d, rfl⟩ := eq_four_of_spellsUnit hfirst
      obtain ⟨e, f, g, h, rfl⟩ := eq_four_of_spellsUnit hsecond
      have hread := readStringFrom_pair done rest (value?_of_spellsUnit hfirst)
        (value?_of_spellsUnit hsecond) hlead htrail
      rw [← hpair, hc] at hread
      exact hread

/-- A string is read back, from behind its first quote. -/
theorem readStringFrom_of_renders {s : String} {text : List Char} (h : RendersString s text) :
    ∃ inner, text = '"' :: inner ∧ readStringFrom [] (inner ++ rest) = some (s, rest) := by
  obtain ⟨pieces, hpieces, rfl⟩ := h
  refine ⟨pieces.flatten ++ ['"'], rfl, ?_⟩
  rw [List.append_assoc, List.singleton_append,
    Text.read_pieces (fun done rest => readStringFrom_piece done rest) hpieces, readStringFrom]
  simp

/-! ## Blanks -/

@[simp] theorem skipBlank_append {blanks : List Char} (h : IsBlankText blanks) :
    skipBlank (blanks ++ rest) = skipBlank rest :=
  List.dropWhile_append_of_pos h

@[simp] theorem skipBlank_cons {c : Char} (h : isBlank c = false) :
    skipBlank (c :: rest) = c :: rest := by
  rw [skipBlank, List.dropWhile_cons_of_neg (by simp [h])]

/-- Blanks do not go on with a number. -/
theorem endsNumber_append {blanks : List Char} (h : IsBlankText blanks) (hrest : EndsNumber rest) :
    EndsNumber (blanks ++ rest) := by
  cases blanks with
  | nil => exact hrest
  | cons c blanks =>
      have hc : isBlank c = true := h c List.mem_cons_self
      simp only [isBlank, Bool.or_eq_true, beq_iff_eq] at hc
      rcases hc with ((rfl | rfl) | rfl) | rfl <;> exact endsNumber_cons _ (by decide)

/-! ## Starts of values -/

/-- Whether a value starts with a character. -/
def startsValue (c : Char) : Bool :=
  ['"', '[', '\x7b', 'n', 't', 'f', '-'].contains c || c.isDigit

theorem startsValue_of_startsNumber {c : Char} (h : c = '-' ∨ c.isDigit = true) :
    startsValue c = true := by
  rcases h with rfl | hdigit
  · decide
  · rw [startsValue, hdigit, Bool.or_true]

theorem exists_start_of_renders {v : Json} {text : List Char} (h : Renders v text) :
    ∃ c, startsValue c = true ∧ ∃ later, text = c :: later := by
  cases v with
  | null => exact ⟨'n', by decide, _, h⟩
  | boolean value =>
      cases value with
      | true => exact ⟨'t', by decide, _, h⟩
      | false => exact ⟨'f', by decide, _, h⟩
  | number n =>
      obtain ⟨c, hc, later, rfl⟩ := exists_start_of_rendersNumber h
      exact ⟨c, startsValue_of_startsNumber hc, later, rfl⟩
  | string s =>
      obtain ⟨pieces, -, rfl⟩ := h
      exact ⟨'"', by decide, _, rfl⟩
  | array items closed =>
      obtain ⟨-, inner, -, rfl⟩ := h
      exact ⟨'[', by decide, _, rfl⟩
  | object members closed =>
      obtain ⟨-, inner, -, rfl⟩ := h
      exact ⟨'\x7b', by decide, _, rfl⟩
  | malformed => exact h.elim

theorem isBlank_of_startsValue {c : Char} (h : startsValue c = true) : isBlank c = false := by
  rw [← Bool.not_eq_true]
  intro hblank
  simp only [isBlank, Bool.or_eq_true, beq_iff_eq] at hblank
  rcases hblank with ((rfl | rfl) | rfl) | rfl <;> exact absurd h (by decide)

/-- What starts like a number is read as a number. -/
theorem readScalar_of_startsNumber {c : Char} (h : c = '-' ∨ c.isDigit = true)
    {n : Number} {later : List Char} (hread : readNumber (c :: later) = some (n, rest)) :
    readScalar (c :: later) = (number n, some rest) := by
  unfold readScalar
  split
  · next heq =>
      obtain ⟨rfl, -⟩ := List.cons.inj heq
      exact absurd h (by decide)
  · next heq =>
      obtain ⟨rfl, -⟩ := List.cons.inj heq
      exact absurd h (by decide)
  · next heq =>
      obtain ⟨rfl, -⟩ := List.cons.inj heq
      exact absurd h (by decide)
  · next heq =>
      obtain ⟨rfl, -⟩ := List.cons.inj heq
      exact absurd h (by decide)
  · rw [hread]

/-! ## Readers of parts -/

/-- A reader that reads renderings of up to a length back, and skips blanks before them. -/
structure ReadsBack (read : List Char → Reading) (bound : Nat) : Prop where
  value : ∀ {v text rest}, Renders v text → EndsNumber rest → text.length ≤ bound →
    read (text ++ rest) = (v, some rest)
  blank : ∀ {blanks} rest, IsBlankText blanks → read (blanks ++ rest) = read rest

section Parts

variable {read : List Char → Reading} {bound : Nat}

/-- With blanks around it, a rendering is read up to the blanks after it. -/
theorem ReadsBack.padded (hread : ReadsBack read bound) {v : Json} {text : List Char}
    (h : Padded (Renders v) text) (hrest : EndsNumber rest) (hlength : text.length ≤ bound) :
    ∃ after, IsBlankText after ∧ read (text ++ rest) = (v, some (after ++ rest)) := by
  obtain ⟨before, core, after, hbefore, hcore, hafter, rfl⟩ := h
  rw [List.length_append, List.length_append] at hlength
  refine ⟨after, hafter, ?_⟩
  rw [List.append_assoc, List.append_assoc, hread.blank _ hbefore,
    hread.value hcore (endsNumber_append _ hafter hrest) (by omega)]

theorem length_pos_of_padded {v : Json} {text : List Char} (h : Padded (Renders v) text) :
    0 < text.length := by
  obtain ⟨before, core, after, -, hcore, -, rfl⟩ := h
  obtain ⟨c, -, later, rfl⟩ := exists_start_of_renders hcore
  simp only [List.length_append, List.length_cons]
  omega

/-- The items of an array are read back, each by the reader for parts. -/
theorem ReadsBack.items (hread : ReadsBack read bound) {items : List Json} (hitems : items ≠ [])
    {text : List Char} (h : RendersItems items text) (hbound : text.length ≤ bound) {fuel : Nat}
    (hfuel : text.length ≤ fuel) :
    readItems read fuel (text ++ ']' :: rest) = (items, some rest) := by
  -- on the items: each but the last is followed by a comma
  induction items generalizing text fuel with
  | nil => exact absurd rfl hitems
  | cons item more ih =>
      cases more with
      | nil =>
          have h : Padded (Renders item) text := h
          have hpos := length_pos_of_padded h
          obtain ⟨fuel, rfl⟩ : ∃ n, fuel = n + 1 := ⟨fuel - 1, by omega⟩
          obtain ⟨after, hafter, hitem⟩ :=
            hread.padded (']' :: rest) h (endsNumber_cons _ (by decide)) hbound
          rw [readItems, hitem]
          simp [isBlank, hafter]
      | cons next more =>
          obtain ⟨first, later, hfirst, hlater, rfl⟩ := h
          rw [List.length_append, List.length_cons] at hbound hfuel
          obtain ⟨fuel, rfl⟩ : ∃ n, fuel = n + 1 := ⟨fuel - 1, by omega⟩
          obtain ⟨after, hafter, hitem⟩ :=
            hread.padded (',' :: (later ++ ']' :: rest)) hfirst (endsNumber_cons _ (by decide))
              (by omega)
          have hmore : readItems read fuel (later ++ ']' :: rest) = (next :: more, some rest) :=
            ih (List.cons_ne_nil _ _) hlater (by omega) (by omega)
          rw [List.append_assoc, List.cons_append, readItems, hitem]
          simp [isBlank, hafter, hmore]

/-- A member of an object is read back up to the blanks after it. -/
theorem ReadsBack.member (hread : ReadsBack read bound) {key : String} {v : Json}
    {text : List Char} (h : RendersMember key (Renders v) text) (hrest : EndsNumber rest)
    (hbound : text.length ≤ bound) :
    ∃ after, IsBlankText after
      ∧ readMember read (text ++ rest) = some ((key, v), some (after ++ rest)) := by
  obtain ⟨first, second, ⟨before, core, between, hbefore, hkey, hbetween, rfl⟩, hsecond, rfl⟩ := h
  rw [List.length_append, List.length_cons] at hbound
  obtain ⟨inner, rfl, hinner⟩ := readStringFrom_of_renders
    (between ++ ':' :: (second ++ rest)) hkey
  obtain ⟨after, hafter, hvalue⟩ := hread.padded rest hsecond hrest (by omega)
  refine ⟨after, hafter, ?_⟩
  have htext : before ++ '"' :: inner ++ between ++ ':' :: second ++ rest
      = before ++ '"' :: (inner ++ (between ++ ':' :: (second ++ rest))) := by
    simp only [List.append_assoc, List.cons_append]
  rw [htext, readMember]
  simp [isBlank, hbefore, hinner, hbetween, hvalue]

theorem length_pos_of_rendersMember {key : String} {condition : List Char → Prop}
    {text : List Char} (h : RendersMember key condition text) : 0 < text.length := by
  obtain ⟨first, second, -, -, rfl⟩ := h
  rw [List.length_append, List.length_cons]
  omega

/-- The members of an object are read back. -/
theorem ReadsBack.members (hread : ReadsBack read bound) {members : List (String × Json)}
    (hmembers : members ≠ []) {text : List Char} (h : RendersMembers members text)
    (hbound : text.length ≤ bound) {fuel : Nat} (hfuel : text.length ≤ fuel) :
    readMembers read fuel (text ++ '\x7d' :: rest) = (members, some rest) := by
  -- on the members: each but the last is followed by a comma
  induction members generalizing text fuel with
  | nil => exact absurd rfl hmembers
  | cons member more ih =>
      obtain ⟨key, value⟩ := member
      cases more with
      | nil =>
          have h : RendersMember key (Renders value) text := h
          have hpos := length_pos_of_rendersMember h
          obtain ⟨fuel, rfl⟩ : ∃ n, fuel = n + 1 := ⟨fuel - 1, by omega⟩
          obtain ⟨after, hafter, hmember⟩ :=
            hread.member ('\x7d' :: rest) h (endsNumber_cons _ (by decide)) hbound
          rw [readMembers, hmember]
          simp [isBlank, hafter]
      | cons next more =>
          obtain ⟨first, later, hfirst, hlater, rfl⟩ := h
          rw [List.length_append, List.length_cons] at hbound hfuel
          obtain ⟨fuel, rfl⟩ : ∃ n, fuel = n + 1 := ⟨fuel - 1, by omega⟩
          obtain ⟨after, hafter, hmember⟩ :=
            hread.member (',' :: (later ++ '\x7d' :: rest)) hfirst (endsNumber_cons _ (by decide))
              (by omega)
          have hmore : readMembers read fuel (later ++ '\x7d' :: rest)
              = (next :: more, some rest) :=
            ih (List.cons_ne_nil _ _) hlater (by omega) (by omega)
          rw [List.append_assoc, List.cons_append, readMembers, hmember]
          simp [isBlank, hafter, hmore]

end Parts

/-! ## Values -/

theorem readValue_append {blanks : List Char} (h : IsBlankText blanks) (count depth : Nat) :
    readValue count depth (blanks ++ rest) = readValue count depth rest := by
  cases depth with
  | zero => simp [readValue, h]
  | succ depth => simp [readValue, h]

theorem readWord_append (word : List Char) (v : Json) :
    readWord word v (word ++ rest) = (v, some rest) := by
  rw [readWord, if_pos (by simp), List.drop_left]

/-- Inside brackets or braces with something between them stands the start of a value or of a
key. -/
theorem exists_start_of_padded {condition : List Char → Prop} {text : List Char}
    (hstart : ∀ core, condition core → ∃ c, startsValue c = true ∧ ∃ later, core = c :: later)
    (h : Padded condition text) :
    ∃ c, startsValue c = true ∧ ∃ later, skipBlank (text ++ rest) = c :: later := by
  obtain ⟨before, core, after, hbefore, hcore, -, rfl⟩ := h
  obtain ⟨c, hc, later, rfl⟩ := hstart core hcore
  refine ⟨c, hc, later ++ (after ++ rest), ?_⟩
  simp [hbefore, isBlank_of_startsValue hc]

theorem exists_start_of_items {items : List Json} (hitems : items ≠ []) {text : List Char}
    (h : RendersItems items text) :
    ∃ c, startsValue c = true ∧ ∃ later, skipBlank (text ++ rest) = c :: later := by
  match items, h with
  | [item], h => exact exists_start_of_padded rest (fun _ => exists_start_of_renders) h
  | item :: next :: more, ⟨first, later, hfirst, _, htext⟩ =>
      rw [htext, List.append_assoc]
      exact exists_start_of_padded _ (fun _ => exists_start_of_renders) hfirst

theorem exists_start_of_member {key : String} {condition : List Char → Prop} {text : List Char}
    (h : RendersMember key condition text) :
    ∃ c, startsValue c = true ∧ ∃ later, skipBlank (text ++ rest) = c :: later := by
  obtain ⟨first, second, hkey, -, rfl⟩ := h
  rw [List.append_assoc]
  refine exists_start_of_padded _ (fun core hcore => ?_) hkey
  exact exists_start_of_renders (v := .string key) hcore

theorem exists_start_of_members {members : List (String × Json)} (hmembers : members ≠ [])
    {text : List Char} (h : RendersMembers members text) :
    ∃ c, startsValue c = true ∧ ∃ later, skipBlank (text ++ rest) = c :: later := by
  match members, h with
  | [(key, value)], h => exact exists_start_of_member rest h
  | (key, value) :: next :: more, ⟨first, later, hfirst, _, htext⟩ =>
      rw [htext, List.append_assoc]
      exact exists_start_of_member _ hfirst

/-- An array with items is read as items by the reader of the level below. -/
theorem readValue_bracket {count depth : Nat} {c : Char} {later : List Char}
    (h : skipBlank rest = c :: later) (hc : c ≠ ']') :
    readValue count (depth + 1) ('[' :: rest)
      = (array (readItems (readValue count depth) count rest).1
          (readItems (readValue count depth) count rest).2.isSome,
        (readItems (readValue count depth) count rest).2) := by
  rw [readValue, skipBlank_cons _ rfl]
  simp only [h]
  split
  · next heq => exact absurd (List.cons.inj heq).1 hc
  · rfl

/-- An object with members is read as members by the reader of the level below. -/
theorem readValue_brace {count depth : Nat} {c : Char} {later : List Char}
    (h : skipBlank rest = c :: later) (hc : c ≠ '\x7d') :
    readValue count (depth + 1) ('\x7b' :: rest)
      = (object (readMembers (readValue count depth) count rest).1
          (readMembers (readValue count depth) count rest).2.isSome,
        (readMembers (readValue count depth) count rest).2) := by
  rw [readValue, skipBlank_cons _ rfl]
  simp only [h]
  split
  · next heq => exact absurd (List.cons.inj heq).1 hc
  · rfl

theorem readValue_emptyArray {count depth : Nat} {inner : List Char} (h : IsBlankText inner) :
    readValue count (depth + 1) ('[' :: (inner ++ ']' :: rest)) = (array [] true, some rest) := by
  simp [isBlank, readValue, h]

theorem readValue_emptyObject {count depth : Nat} {inner : List Char} (h : IsBlankText inner) :
    readValue count (depth + 1) ('\x7b' :: (inner ++ '\x7d' :: rest))
      = (object [] true, some rest) := by
  simp [isBlank, readValue, h]

theorem readValue_number {n : Number} {text : List Char} (h : RendersNumber n text)
    (hrest : EndsNumber rest) (count depth : Nat) :
    readValue count depth (text ++ rest) = (number n, some rest) := by
  obtain ⟨c, hc, later, rfl⟩ := exists_start_of_rendersNumber h
  have hread : readScalar (c :: (later ++ rest)) = (number n, some rest) :=
    readScalar_of_startsNumber rest hc (readNumber_of_renders h hrest)
  have hblank := isBlank_of_startsValue (startsValue_of_startsNumber hc)
  rw [List.cons_append]
  cases depth with
  | zero => rw [readValue, skipBlank_cons _ hblank, hread]
  | succ depth =>
      rw [readValue, skipBlank_cons _ hblank]
      split
      · next heq =>
          obtain ⟨rfl, -⟩ := List.cons.inj heq
          exact absurd hc (by decide)
      · next heq =>
          obtain ⟨rfl, -⟩ := List.cons.inj heq
          exact absurd hc (by decide)
      · exact hread

/-- A value that renders the text is read back from it, if what follows does not go on with a
number. -/
theorem readValue_of_renders {v : Json} {text : List Char} (h : Renders v text)
    (hrest : EndsNumber rest) {count depth : Nat} (hdepth : text.length ≤ depth)
    (hcount : depth ≤ count) :
    readValue count depth (text ++ rest) = (v, some rest) := by
  -- on the depth: parts are read by the reader of the level below
  induction depth generalizing v text rest with
  | zero =>
      obtain ⟨c, -, later, rfl⟩ := exists_start_of_renders h
      cases hdepth
  | succ depth ih =>
      have hread : ReadsBack (readValue count depth) depth :=
        ⟨fun h hrest hlength => ih _ h hrest hlength (by omega),
          fun rest h => readValue_append rest h count depth⟩
      cases v with
      | null =>
          cases h
          exact readWord_append rest "null".toList null
      | boolean value =>
          cases value with
          | true =>
              cases h
              exact readWord_append rest "true".toList (boolean true)
          | false =>
              cases h
              exact readWord_append rest "false".toList (boolean false)
      | number n => exact readValue_number rest h hrest count (depth + 1)
      | string s =>
          obtain ⟨inner, rfl, hinner⟩ := readStringFrom_of_renders rest h
          rw [List.cons_append, readValue, skipBlank_cons _ rfl]
          show readScalar ('"' :: (inner ++ rest)) = _
          rw [readScalar, hinner]
      | array items closed =>
          obtain ⟨rfl, inner, hinner, rfl⟩ := h
          simp only [List.length_append, List.length_cons, List.length_nil] at hdepth
          rw [List.cons_append, List.cons_append, List.append_assoc, List.singleton_append]
          by_cases hitems : items = []
          · subst hitems
            exact readValue_emptyArray rest hinner
          · obtain ⟨c, hc, later, hstart⟩ := exists_start_of_items (']' :: rest) hitems hinner
            have hne : c ≠ ']' := by
              rintro rfl
              exact absurd hc (by decide)
            rw [readValue_bracket _ hstart hne,
              hread.items rest hitems hinner (by omega) (by omega)]
            rfl
      | object members closed =>
          obtain ⟨rfl, inner, hinner, rfl⟩ := h
          simp only [List.length_append, List.length_cons, List.length_nil] at hdepth
          rw [List.cons_append, List.cons_append, List.append_assoc, List.singleton_append]
          by_cases hmembers : members = []
          · subst hmembers
            exact readValue_emptyObject rest hinner
          · obtain ⟨c, hc, later, hstart⟩ :=
              exists_start_of_members ('\x7d' :: rest) hmembers hinner
            have hne : c ≠ '\x7d' := by
              rintro rfl
              exact absurd hc (by decide)
            rw [readValue_brace _ hstart hne,
              hread.members rest hmembers hinner (by omega) (by omega)]
            rfl
      | malformed => exact h.elim

/-- **Renderings are read back.** A text that renders a value is read as this value, and as
nothing else besides. -/
theorem readText_of_renders {v : Json} {text : List Char} (h : RendersText v text) :
    readText text = (v, true) := by
  obtain ⟨before, core, after, hbefore, hcore, hafter, rfl⟩ := h
  have hread : readValue (before ++ core ++ after).length (before ++ core ++ after).length
      (before ++ core ++ after) = (v, some after) := by
    rw [List.append_assoc, readValue_append _ hbefore]
    have hends : EndsNumber after := by
      rw [← List.append_nil after]
      exact endsNumber_append [] hafter nofun
    refine readValue_of_renders after hcore hends ?_ (Nat.le_refl _)
    simp only [List.length_append]
    omega
  have hend : skipBlank after = [] := by
    rw [← List.append_nil after, skipBlank_append [] hafter]
    rfl
  rw [readText, hread]
  simp only [hend, beq_self_eq_true]

end Linkage.Json
