import Linkage.Proofs.Toml.Values

set_option autoImplicit false

/-! # Documents are read back

From every text that spells a document the reader gets its assignments in order, if it can: no
key may be assigned twice, and every integer has to fit 64 bits. Otherwise it refuses the text
(`parse?_of_spells`). What one line does to the document is `readLines_line`; a whole text
follows by induction on its lines.
-/

namespace Linkage.Toml

/-! ## Assignments -/

theorem isBare_iff {c : Char} : isBare c = true ↔ c.isAlphanum = true ∨ c = '-' ∨ c = '_' := by
  rw [isBare, Bool.or_eq_true, Bool.or_eq_true, beq_iff_eq, beq_iff_eq, or_assoc]

/-- A key is read up to a character that no bare key has. -/
theorem readSimpleKey_of_spells {key : String} {text : List Char} (h : SpellsKey key text)
    {rest : List Char} (hrest : ∀ c, rest.head? = some c → isBare c = false) :
    readSimpleKey (text ++ rest) = some (key, rest) := by
  cases h with
  | bare hne h =>
      have hbare : ∀ c ∈ key.toList, isBare c = true := fun c hc => isBare_iff.2 (h c hc)
      have htake := Text.takeWhile_append_of_head hbare hrest
      obtain ⟨c, later, htext⟩ := List.exists_cons_of_ne_nil hne
      have hc : isBare c = true := hbare c (by rw [htext]; exact List.mem_cons_self)
      unfold readSimpleKey
      split
      · next heq =>
          rw [htext] at heq
          rw [(List.cons.inj heq).1] at hc
          cases hc
      · next heq =>
          rw [htext] at heq
          rw [(List.cons.inj heq).1] at hc
          cases hc
      · rw [htake, Text.dropWhile_append_of_head hbare hrest]
        split
        · next heq => exact absurd heq hne
        · rw [String.ofList_toList]
  | basic text h =>
      have hread := readShortString_of_spells h rest
      obtain ⟨later, rfl⟩ := h.exists_cons
      exact hread
  | literal h =>
      have hinner : ∀ c ∈ key.toList, (isText c && c != '\x27') = true := by
        intro c hc
        obtain ⟨hordinary, hquote⟩ := h c hc
        simp [isText_of_isOrdinary hordinary, hquote]
      have hend : ∀ c, ('\x27' :: rest).head? = some c → (isText c && c != '\x27') = false := by
        rintro c ⟨⟩
        rfl
      rw [List.append_assoc, List.cons_append, List.singleton_append]
      show readLiteral (key.toList ++ '\x27' :: rest) = _
      rw [readLiteral, Text.takeWhile_append_of_head hinner hend,
        Text.dropWhile_append_of_head hinner hend]
      simp only [String.ofList_toList]

/-- The characters that do not start an assignment on their line. -/
def lineStarts : List Char := [' ', '\t', '\n', '\r', '#', '[', '\ufeff']

/-- A key starts neither like a blank or a comment nor like a header. -/
theorem SpellsKey.exists_cons {key : String} {text : List Char} (h : SpellsKey key text) :
    ∃ c later, text = c :: later ∧ c ∉ lineStarts := by
  cases h with
  | bare hne h =>
      obtain ⟨c, later, htext⟩ := List.exists_cons_of_ne_nil hne
      refine ⟨c, later, htext, fun hc => ?_⟩
      have hall : ∀ d ∈ lineStarts, isBare d = false := by simp [lineStarts, isBare]
      have hbare := isBare_iff.2 (h c (by rw [htext]; exact List.mem_cons_self))
      rw [hall c hc] at hbare
      cases hbare
  | basic text h =>
      obtain ⟨later, rfl⟩ := h.exists_cons
      exact ⟨'"', later, rfl, by decide⟩
  | literal h => exact ⟨'\x27', _, rfl, by decide⟩

theorem SpellsAssignment.exists_cons {entry : String × Value} {text : List Char}
    (h : SpellsAssignment entry text) : ∃ c later, text = c :: later ∧ c ∉ lineStarts := by
  obtain ⟨name, _, _, _, hname, -, -, -, rfl⟩ := h
  obtain ⟨c, later, rfl, hc⟩ := hname.exists_cons
  exact ⟨c, _, rfl, hc⟩

/-- A key before its equals sign is read back. -/
theorem readKey_of_spells {key : String} {text blanks : List Char} (h : SpellsKey key text)
    (hblanks : IsBlankText blanks) (rest : List Char) :
    readKey (text ++ blanks ++ '=' :: rest) = some (([], key), '=' :: rest) := by
  have hend : ∀ c, (blanks ++ '=' :: rest).head? = some c → isBare c = false := by
    intro c hc
    rw [List.head?_append, Option.or_eq_some_iff] at hc
    rcases hc with hc | ⟨-, hc⟩
    · rcases hblanks c (List.mem_of_mem_head? hc) with rfl | rfl <;> rfl
    · cases hc
      rfl
  have hread := readSimpleKey_of_spells h hend
  have hskip : skipBlank (text ++ (blanks ++ '=' :: rest)) = text ++ (blanks ++ '=' :: rest) := by
    obtain ⟨c, later, rfl, hc⟩ := h.exists_cons
    simp only [lineStarts, List.mem_cons, not_or] at hc
    have hblank : isBlank c = false := by simp [isBlank, hc]
    simp [hblank]
  have hequals : skipBlank (blanks ++ '=' :: rest) = '=' :: rest := by
    simp [isBlank, hblanks]
  have hparts : readKeyParts maxDepth (text ++ blanks ++ '=' :: rest)
      = some ([key], '=' :: rest) := by
    rw [List.append_assoc]
    show readKeyParts (79 + 1) _ = _
    rw [readKeyParts, hskip, hread]
    simp only [hequals]
    rfl
  rw [readKey, hparts]
  rfl

/-- An assignment is read back, unless its value is an integer that does not fit. -/
theorem readAssignment_of_spells {entry : String × Value} {text : List Char}
    (h : SpellsAssignment entry text) {rest : List Char} (hrest : IsBoundary rest) {count : Nat}
    (hcount : text.length ≤ count) (depth : Nat) :
    readAssignment (readValue count (depth + 1)) (text ++ rest)
      = if entry.2.fits then some ((([], entry.1), entry.2), rest) else none := by
  obtain ⟨name, before, after, value, hname, hbefore, hafter, hvalue, rfl⟩ := h
  simp only [List.length_append, List.length_cons] at hcount
  have hread := readValue_of_spells hvalue hrest (by omega : value.length ≤ count) depth
  have hskip : skipBlank (after ++ (value ++ rest)) = value ++ rest := by
    obtain ⟨c, later, rfl, hc⟩ := hvalue.exists_cons
    simp [hafter, hc]
  have htext : name ++ before ++ '=' :: (after ++ value) ++ rest
      = name ++ before ++ '=' :: (after ++ (value ++ rest)) := by
    simp only [List.append_assoc, List.cons_append]
  have hexpect : ∀ cs, expect '=' ('=' :: cs) = some cs := fun _ => rfl
  rw [htext]
  simp only [readAssignment, readKey_of_spells hname hbefore, Option.bind_eq_bind,
    Option.bind_some, hexpect, hskip, hread]
  split <;> rfl

/-! ## Lines -/

/-- A text is the end of a line with the text of the next lines behind it: a line break, or the
end of the whole text. -/
def IsLineEnd (ending rest : List Char) : Prop :=
  ending = [] ∧ rest = [] ∨ ∃ newline, IsNewline newline ∧ ending = newline ++ rest

theorem IsLineEnd.isBoundary {ending rest : List Char} (h : IsLineEnd ending rest) :
    IsBoundary ending := by
  rcases h with ⟨rfl, -⟩ | ⟨newline, rfl | rfl, rfl⟩
  · rintro c ⟨⟩
  · exact isBoundary_cons (by decide) _
  · exact isBoundary_cons (by decide) _

theorem IsLineEnd.length_le {ending rest : List Char} (h : IsLineEnd ending rest) :
    rest.length ≤ ending.length := by
  rcases h with ⟨rfl, rfl⟩ | ⟨newline, -, rfl⟩
  · exact Nat.le_refl _
  · rw [List.length_append]
    omega

/-- A comment is skipped up to the end of its line. -/
theorem skipComment_append {words ending rest : List Char} (h : ∀ c ∈ words, IsOrdinary c)
    (hend : IsLineEnd ending rest) : skipComment ('#' :: words ++ ending) = ending := by
  refine Text.dropWhile_append_of_head (fun c hc => isText_of_isOrdinary (h c hc)) fun c hc => ?_
  rcases hend with ⟨rfl, -⟩ | ⟨newline, rfl | rfl, rfl⟩
  · cases hc
  · cases hc
    rfl
  · cases hc
    rfl

theorem lineEnd?_append {text ending rest : List Char} (h : IsLineRest text)
    (hend : IsLineEnd ending rest) : lineEnd? (text ++ ending) = some rest := by
  obtain ⟨blanks, comment, hblanks, hcomment, rfl⟩ := h
  have hskip : skipComment (skipBlank (blanks ++ comment ++ ending)) = ending := by
    rw [List.append_assoc, skipBlank_append hblanks]
    rcases hcomment with rfl | ⟨words, hwords, rfl⟩
    · rcases hend with ⟨rfl, -⟩ | ⟨newline, rfl | rfl, rfl⟩ <;> rfl
    · rw [List.cons_append, skipBlank_cons rfl]
      exact skipComment_append hwords hend
  rw [lineEnd?, hskip]
  rcases hend with ⟨rfl, rfl⟩ | ⟨newline, rfl | rfl, rfl⟩ <;> rfl

theorem skipLines_append {blanks : List Char} (h : IsBlankText blanks) (rest : List Char) :
    skipLines (blanks ++ rest) = skipLines rest := by
  induction blanks with
  | nil => rfl
  | cons c blanks ih =>
      obtain ⟨hc, hblanks⟩ := List.forall_mem_cons.1 h
      rw [← ih hblanks]
      rcases hc with rfl | rfl <;> rfl

theorem skipLines_ending {ending rest : List Char} (h : IsLineEnd ending rest) :
    skipLines ending = skipLines rest := by
  rcases h with ⟨rfl, rfl⟩ | ⟨newline, rfl | rfl, rfl⟩ <;> rfl

theorem skipLines_cons {c : Char} (h : c ∉ lineStarts) (rest : List Char) :
    skipLines (c :: rest) = c :: rest := by
  unfold skipLines
  split
  · next heq => exact absurd (by rw [(List.cons.inj heq).1]; decide) h
  · next heq => exact absurd (by rw [(List.cons.inj heq).1]; decide) h
  · next heq => exact absurd (by rw [(List.cons.inj heq).1]; decide) h
  · next heq => exact absurd (by rw [(List.cons.inj heq).1]; decide) h
  · rfl

/-- A line that starts as neither a header nor a comment is read as an assignment. -/
theorem readLines_cons {c : Char} (h : c ∉ lineStarts) (cs : List Char) (count fuel : Nat)
    (d : Document) :
    readLines count (fuel + 1) d (c :: cs)
      = (readAssignment (readValue count 79) (c :: cs)).bind fun (((path, key), value), rest) =>
          (d.assign path key value).bind fun d =>
            (lineEnd? rest).bind fun rest => readLines count fuel d rest := by
  have hskip := skipLines_cons h cs
  have hline : readLine count d (c :: cs)
      = (readAssignment (readValue count 79) (c :: cs)).bind fun (((path, key), value), rest) =>
          (d.assign path key value).bind fun d =>
            (lineEnd? rest).bind fun rest => some (d, rest) := by
    unfold readLine
    split
    · next heq => exact absurd (by rw [(List.cons.inj heq).1]; decide) h
    · next heq => exact absurd (by rw [(List.cons.inj heq).1]; decide) h
    · rfl
  rw [readLines, hskip]
  split
  · next heq => cases heq
  · next heq => exact absurd (by rw [(List.cons.inj heq).1]; decide) h
  · rw [hline]
    cases readAssignment (readValue count 79) (c :: cs) with
    | none => rfl
    | some assignment =>
        obtain ⟨⟨⟨path, key⟩, value⟩, rest⟩ := assignment
        simp only [Option.bind_some]
        cases d.assign path key value with
        | none => rfl
        | some d =>
            simp only [Option.bind_some]
            cases lineEnd? rest <;> rfl

theorem readLines_comment (cs : List Char) (count fuel : Nat) (d : Document) :
    readLines count (fuel + 1) d ('#' :: cs)
      = (lineEnd? ('#' :: cs)).bind fun rest => readLines count fuel d rest := by
  have hskip : skipLines ('#' :: cs) = '#' :: cs := rfl
  rw [readLines, hskip]
  cases hend : lineEnd? ('#' :: cs) with
  | none => simp only [hend, Option.bind_none]
  | some rest => simp only [hend, Option.bind_some]

/-- A document with one more assignment in its open table, if the value is no integer that does
not fit. -/
def Document.take (d : Document) (entry : String × Value) : Option Document :=
  if entry.2.fits then d.assign [] entry.1 entry.2 else none

/-- A line is read as what it does to the document. -/
theorem readLines_line {entry : Option (String × Value)} {line ending rest : List Char}
    (h : SpellsLine entry line) (hend : IsLineEnd ending rest) {count fuel : Nat}
    (hcount : line.length ≤ count) (hfuel : (line ++ ending).length < fuel) (d : Document) :
    ∃ fuel', rest.length < fuel' ∧ readLines count fuel d (line ++ ending)
      = (entry.toList.foldlM Document.take d).bind fun d => readLines count fuel' d rest := by
  have hlength := hend.length_le
  rw [List.length_append] at hfuel
  obtain ⟨fuel, rfl⟩ : ∃ n, fuel = n + 1 := ⟨fuel - 1, by omega⟩
  have hskip : ∀ {blanks cs}, IsBlankText blanks →
      readLines count (fuel + 1) d (blanks ++ cs) = readLines count (fuel + 1) d cs := by
    intro blanks cs hblanks
    rw [readLines, readLines, skipLines_append hblanks]
  cases h with
  | blank h =>
      have hline := lineEnd?_append h hend
      obtain ⟨blanks, comment, hblanks, rfl | ⟨words, hwords, rfl⟩, rfl⟩ := h
      · -- blanks and line breaks are skipped together with those of the next lines
        refine ⟨fuel + 1, by omega, ?_⟩
        show _ = readLines count (fuel + 1) d rest
        rw [List.append_nil, hskip hblanks, readLines, readLines, skipLines_ending hend]
      · rw [List.length_append, List.length_cons] at hfuel
        refine ⟨fuel, by omega, ?_⟩
        show _ = readLines count fuel d rest
        rw [List.append_assoc, lineEnd?, skipBlank_append hblanks] at hline
        rw [List.append_assoc, hskip hblanks, List.cons_append, readLines_comment, lineEnd?]
        rw [List.cons_append] at hline
        rw [hline, Option.bind_some]
  | @assignment entry indent text after hindent h hafter =>
      simp only [List.length_append] at hcount hfuel
      have hread := readAssignment_of_spells h
        (isBoundary_append hafter.isBoundary hend.isBoundary) (by omega : text.length ≤ count) 78
      obtain ⟨c, later, rfl, hc⟩ := h.exists_cons
      rw [List.length_cons] at hfuel
      refine ⟨fuel, by omega, ?_⟩
      rw [List.append_assoc, List.append_assoc, hskip hindent, List.cons_append, readLines_cons hc]
      rw [List.cons_append] at hread
      rw [hread]
      show _ = (d.take entry >>= pure).bind _
      rw [bind_pure, Document.take]
      split
      · simp only [Option.bind_some, lineEnd?_append hafter hend]
      · rfl

/-! ## Documents -/

theorem find?_eq_none_iff {α : Type} {key : String} {entries : List (String × α)} :
    find? key entries = none ↔ key ∉ entries.map Prod.fst := by
  rw [find?, List.lookup_eq_none_iff]
  constructor
  · intro h hmem
    obtain ⟨entry, hentry, rfl⟩ := List.mem_map.1 hmem
    exact absurd (h entry hentry) (by simp)
  · intro h entry hentry
    rw [bne_iff_ne]
    rintro rfl
    exact h (List.mem_map_of_mem hentry)

theorem set_of_notMem {α : Type} {key : String} {entries : List (String × α)}
    (h : key ∉ entries.map Prod.fst) (a : α) : set key a entries = entries ++ [(key, a)] := by
  induction entries with
  | nil => rfl
  | cons entry entries ih =>
      obtain ⟨k, b⟩ := entry
      rw [List.map_cons, List.mem_cons, not_or] at h
      rw [set, if_neg (Ne.symm h.1), ih h.2, List.cons_append]

/-- All assignments of a document can be taken up: no key comes twice, and all integers fit. -/
structure Readable (entries : List (String × Value)) : Prop where
  nodup : (entries.map Prod.fst).Nodup
  fits : ∀ entry ∈ entries, entry.2.fits = true

theorem Readable.left {entries later : List (String × Value)} (h : Readable (entries ++ later)) :
    Readable entries := by
  refine ⟨?_, fun entry hentry => h.fits entry (List.mem_append_left later hentry)⟩
  have hnodup := h.nodup
  rw [List.map_append, List.nodup_append] at hnodup
  exact hnodup.1

theorem Readable.append_iff {entries : List (String × Value)} (h : Readable entries)
    {entry : String × Value} : Readable (entries ++ [entry])
      ↔ entry.2.fits = true ∧ entry.1 ∉ entries.map Prod.fst := by
  constructor
  · intro hlong
    have hnodup := hlong.nodup
    rw [List.map_append, List.nodup_append] at hnodup
    exact ⟨hlong.fits entry (by simp),
      fun hmem => hnodup.2.2 entry.1 hmem entry.1 List.mem_cons_self rfl⟩
  · rintro ⟨hfits, hnew⟩
    refine ⟨?_, fun entry' hentry' => ?_⟩
    · rw [List.map_append, List.nodup_append]
      refine ⟨h.nodup, by simp, ?_⟩
      rintro key hkey key' hkey' rfl
      exact hnew (List.mem_singleton.1 hkey' ▸ hkey)
    · rcases List.mem_append.1 hentry' with hmem | hmem
      · exact h.fits entry' hmem
      · rw [List.mem_singleton.1 hmem]
        exact hfits

/-- Assignments as entries of a document. -/
def asItems (entries : List (String × Value)) : Entries :=
  entries.map fun entry => (entry.1, .value entry.2)

/-- A document that has no tables so far. -/
def Document.ofEntries (entries : List (String × Value)) : Document := ⟨[], .top, asItems entries⟩

theorem Document.assign_of_find?_eq_none {d : Document} {key : String}
    (h : find? key d.entries = none) (v : Value) :
    d.assign [] key v = some { d with entries := set key (.value v) d.entries } := by
  simp [assign, descend, h]

theorem Document.assign_of_find?_eq_some {d : Document} {key : String} {item : Item}
    (h : find? key d.entries = some item) (v : Value) : d.assign [] key v = none := by
  simp [assign, descend, h]

/-- A document takes one more assignment up behind the others if it stays readable. -/
theorem Document.take_eq_some_iff {entries : List (String × Value)} (h : Readable entries)
    {entry : String × Value} {d : Document} :
    (ofEntries entries).take entry = some d
      ↔ Readable (entries ++ [entry]) ∧ d = ofEntries (entries ++ [entry]) := by
  have hkeys : (asItems entries).map Prod.fst = entries.map Prod.fst := by
    rw [asItems, List.map_map]
    rfl
  rw [h.append_iff, and_assoc, Document.take, Option.ite_none_right_eq_some, ← hkeys]
  refine and_congr_right fun _ => ?_
  cases hfind : find? entry.1 (asItems entries) with
  | some item =>
      rw [assign_of_find?_eq_some hfind]
      have hmem : ¬entry.1 ∉ (asItems entries).map Prod.fst := by
        rw [← find?_eq_none_iff, hfind]
        exact Option.some_ne_none item
      exact iff_of_false (Option.some_ne_none d).symm fun hnew => hmem hnew.1
  | none =>
      have hnew := find?_eq_none_iff.1 hfind
      have hitems : asItems (entries ++ [entry])
          = asItems entries ++ [(entry.1, .value entry.2)] := by
        rw [asItems, List.map_append]
        rfl
      rw [assign_of_find?_eq_none hfind, Option.some.injEq, and_iff_right hnew, eq_comm]
      show d = ⟨[], .top, set entry.1 (.value entry.2) (asItems entries)⟩ ↔ _
      rw [set_of_notMem hnew, ← hitems]
      rfl

/-- A document takes assignments up one after the other if it stays readable. -/
theorem Document.foldlM_take_eq_some_iff {entries more : List (String × Value)}
    (h : Readable entries) {d : Document} :
    more.foldlM Document.take (ofEntries entries) = some d
      ↔ Readable (entries ++ more) ∧ d = ofEntries (entries ++ more) := by
  -- on the assignments still to come: those before them stay readable or nothing is read
  induction more generalizing entries with
  | nil =>
      rw [List.foldlM_nil, Option.pure_def, Option.some.injEq, List.append_nil, and_iff_right h,
        eq_comm]
  | cons entry more ih =>
      have hassoc : entries ++ entry :: more = entries ++ [entry] ++ more := by simp
      rw [List.foldlM_cons, Option.bind_eq_bind, Option.bind_eq_some_iff, hassoc]
      constructor
      · rintro ⟨_, hfirst, hmore⟩
        obtain ⟨hreadable, rfl⟩ := (take_eq_some_iff h).1 hfirst
        exact (ih hreadable).1 hmore
      · rintro ⟨hreadable, hd⟩
        exact ⟨_, (take_eq_some_iff h).2 ⟨hreadable.left, rfl⟩,
          (ih hreadable.left).2 ⟨hreadable, hd⟩⟩

/-- The lines of a document are read as what they do to it, one after the other. -/
theorem readLines_of_spells {entries : List (String × Value)} {text : List Char}
    (h : SpellsLines entries text) {count fuel : Nat} (hcount : text.length ≤ count)
    (hfuel : text.length < fuel) (d : Document) :
    readLines count fuel d text = entries.foldlM Document.take d := by
  -- on the lines: behind a line break the reader starts again, with as much fuel as it needs
  induction h generalizing fuel d with
  | @last entry line hline =>
      obtain ⟨fuel', hfuel', hread⟩ := readLines_line hline (.inl ⟨rfl, rfl⟩) hcount
        (by rwa [List.append_nil]) d
      obtain ⟨n, rfl⟩ : ∃ n, fuel' = n + 1 := ⟨fuel' - 1, by omega⟩
      rw [← List.append_nil line, hread]
      exact Option.bind_fun_some _
  | @cons entry entries line newline text hline hnewline _ ih =>
      simp only [List.length_append] at hcount hfuel
      have hline' : (line ++ (newline ++ text)).length < fuel := by
        rw [List.length_append, List.length_append]
        omega
      obtain ⟨fuel', hfuel', hread⟩ := readLines_line hline (.inr ⟨newline, hnewline, rfl⟩)
        (by omega : line.length ≤ count) hline' d
      rw [List.append_assoc, hread, List.foldlM_append]
      refine congrArg _ (funext fun d => ?_)
      exact ih (by omega) hfuel' d

theorem SpellsLine.head?_ne {entry : Option (String × Value)} {line : List Char}
    (h : SpellsLine entry line) : line.head? ≠ some '\ufeff' := by
  intro hhead
  cases h with
  | blank h => exact absurd (h.isBoundary _ hhead) (by decide)
  | assignment hindent h _ =>
      obtain ⟨c, later, rfl, hc⟩ := h.exists_cons
      rw [List.append_assoc, List.head?_append, Option.or_eq_some_iff] at hhead
      rcases hhead with hhead | ⟨-, hhead⟩
      · exact absurd (hindent.isBoundary _ hhead) (by decide)
      · cases hhead
        exact hc (by decide)

/-- No line starts with a byte order mark. -/
theorem SpellsLines.skipMark_eq {entries : List (String × Value)} {text : List Char}
    (h : SpellsLines entries text) : skipMark text = text := by
  have hhead : text.head? ≠ some '\ufeff' := by
    cases h with
    | last h => exact h.head?_ne
    | cons hline hnewline _ =>
        intro hhead
        rw [List.append_assoc, List.head?_append, Option.or_eq_some_iff] at hhead
        rcases hhead with hhead | ⟨-, hhead⟩
        · exact hline.head?_ne hhead
        · rcases hnewline with rfl | rfl <;> cases hhead
  unfold skipMark
  split
  · exact absurd rfl hhead
  · rfl

/-- **Documents are read back.** A text that spells assignments is read as these assignments in
order, unless a key comes twice or an integer does not fit 64 bits, and is refused then. -/
theorem parse?_of_spells {entries : List (String × Value)} {text : List Char}
    (h : SpellsDocument entries text) {items : Entries} :
    parse? text = some items ↔ Readable entries ∧ items = asItems entries := by
  obtain ⟨lines, hlines, hmark⟩ : ∃ lines, SpellsLines entries lines ∧ skipMark text = lines := by
    rcases h with h | ⟨lines, hlines, rfl⟩
    · exact ⟨text, h, h.skipMark_eq⟩
    · exact ⟨lines, hlines, rfl⟩
  have hread := readLines_of_spells hlines (Nat.le_succ _) (Nat.lt_succ_self _) .empty
  have hempty : Readable [] := ⟨List.nodup_nil, List.forall_mem_nil _⟩
  have hiff := @Document.foldlM_take_eq_some_iff [] entries hempty
  rw [parse?, hmark, hread, Option.bind_eq_some_iff]
  constructor
  · rintro ⟨d, hd, hclose⟩
    obtain ⟨hreadable, rfl⟩ := hiff.1 hd
    cases hclose
    exact ⟨hreadable, rfl⟩
  · rintro ⟨hreadable, rfl⟩
    exact ⟨_, hiff.2 ⟨hreadable, rfl⟩, rfl⟩

end Linkage.Toml
