import Linkage.Proofs.Archive.Lookup
import Linkage.Proofs.Library

set_option autoImplicit false

/-! # Archives that were cut off

What a reader finds in the beginning of an archive it also finds in the whole archive. A
member that could be read is still the same member when more bytes come after it
(`first_append`), only that it can see them; so the search for a name goes the same way up
to the entry it found (`entryIn_membersUpTo_append`).

The start of an archive needs more care, since the reader looks at members there that it
does not ask for. After two symbol tables it looks past a third member at a fourth one. If
there was none before, the bytes that come after can be no member at all, which spoils the
whole archive, or a symbol table that takes the third member with it. `LooksPast` says that
this happens, and it is the only way in which a longer archive can have less in it
(`extract_append`); then nothing of the shorter one is left (`ofBody_of_breaksOff`).
-/

namespace Linkage

open Traversal (exists_of_bind_eq_ok)

namespace Archive

variable {table input input' more rest rest' data : Bytes} {member : Member}

/-! ## Members -/

/-- A member of an archive that goes on further. -/
def Member.extend (more : Bytes) (m : Member) : Member := { m with tail := m.tail ++ more }

/-- Data that are all there stay the same. -/
theorem data_extend (h : member.data = .ok data) : (member.extend more).data = .ok data := by
  unfold Member.data at h ⊢
  by_cases hsize : member.size ≤ member.tail.length
  · rw [if_pos hsize] at h
    have hlonger : (member.extend more).size ≤ (member.extend more).tail.length := by
      show member.size ≤ (member.tail ++ more).length
      rw [List.length_append]
      omega
    rw [if_pos hlonger, ← h]
    show Except.ok ((member.tail ++ more).take member.size) = _
    rw [List.take_append_of_le_length hsize]
  · rw [if_neg hsize] at h
    cases h

/-- A member whose name is the first bytes of what follows its header. -/
def Member.afterName (length size : Nat) (body : Bytes) : Member :=
  ⟨(body.take length).takeWhile (· != 0), size - length, body.drop length⟩

theorem afterName_append {length size : Nat} {body : Bytes} (h : length ≤ body.length) :
    Member.afterName length size (body ++ more)
      = (Member.afterName length size body).extend more := by
  unfold Member.afterName
  rw [List.take_append_of_le_length h, List.drop_append_of_le_length h]
  rfl

/-- Where the name of a member is: in the header or the table of names, so that what follows the
header does not matter, or in front of the data, so that it has to be there. -/
theorem named_cases {field body : Bytes} {size : Nat}
    (h : Member.named table field size body = .ok member) :
    (∃ name, member = ⟨name, size, body⟩
      ∧ ∀ body', Member.named table field size body' = .ok ⟨name, size, body'⟩)
    ∨ ∃ length, length ≤ size ∧ length ≤ body.length ∧ member = .afterName length size body
      ∧ ∀ body', length ≤ body'.length →
        Member.named table field size body' = .ok (.afterName length size body') := by
  unfold Member.named at h ⊢
  split at h
  · split at h
    · next hdigit =>
        left
        split at h
        · next name hname =>
            refine ⟨name, (Except.ok.inj h).symm, ?_⟩
            intro body'
            simp only [hdigit, if_true]
        · cases h
    · next hdigit =>
        left
        refine ⟨_, (Except.ok.inj h).symm, ?_⟩
        intro body'
        simp only [hdigit]
        rfl
  · split at h
    · next hdigit =>
        right
        split at h
        · cases h
        · next length hlength =>
            split at h
            · next hfits =>
                rw [Bool.and_eq_true, decide_eq_true_iff, decide_eq_true_iff] at hfits
                refine ⟨length, hfits.1, hfits.2, (Except.ok.inj h).symm, ?_⟩
                intro body' hbody'
                simp only [hdigit, hfits.1, hbody', decide_true, Bool.and_self, if_true]
                rfl
            · cases h
    · next hdigit =>
        left
        refine ⟨_, (Except.ok.inj h).symm, ?_⟩
        intro body'
        simp only [hdigit]
        rfl
  · left
    exact ⟨_, (Except.ok.inj h).symm, fun _ => rfl⟩

/-- Finding the name of a member needs nothing behind the name. -/
theorem named_append {field body : Bytes} {size : Nat}
    (h : Member.named table field size body = .ok member) (more : Bytes) :
    Member.named table field size (body ++ more) = .ok (member.extend more) := by
  rcases named_cases h with ⟨name, rfl, hall⟩ | ⟨length, -, hbody, rfl, hall⟩
  · exact hall (body ++ more)
  · have hlonger : length ≤ (body ++ more).length := by
      rw [List.length_append]
      omega
    rw [hall (body ++ more) hlonger, afterName_append hbody]

/-- What it takes to read a member. -/
theorem first_eq_ok_iff :
    Member.first table input = .ok (member, rest) ↔
      headerLength ≤ input.length ∧ (input.take headerLength).drop 58 = terminator
      ∧ ∃ size, number? (((input.take headerLength).drop 48).take 10) = some size
        ∧ Member.named table ((input.take headerLength).take 16) size (input.drop headerLength)
          = .ok member
        ∧ (input.drop headerLength).drop (size + size % 2) = rest := by
  have hlength : (input.take headerLength).length < headerLength
      ↔ ¬headerLength ≤ input.length := by
    rw [List.length_take]
    omega
  unfold Member.first
  simp only [hlength, bne_iff_ne, ne_eq]
  by_cases hheader : headerLength ≤ input.length
  · by_cases hterminator : (input.take headerLength).drop 58 = terminator
    · rw [if_neg (not_not_intro hheader), if_neg (not_not_intro hterminator)]
      cases number? (((input.take headerLength).drop 48).take 10) with
      | none => simp
      | some size =>
          simp only [hheader, hterminator, Option.some.injEq, true_and, exists_eq_left']
          constructor
          · intro h
            obtain ⟨found, hfound, h⟩ := exists_of_bind_eq_ok h
            cases h
            exact ⟨hfound, rfl⟩
          · rintro ⟨hfound, rfl⟩
            rw [hfound]
            rfl
    · simp [hheader, hterminator]
  · simp [hheader]

theorem ne_nil_of_first {found : Member × Bytes} (h : Member.first table input = .ok found) :
    input ≠ [] := by
  rintro rfl
  cases h

/-- What is left of a shorter archive continues in what is left of the longer one. Where
nothing is left of the shorter one, the place to go on from may lie behind its end. -/
def Continues (more rest rest' : Bytes) : Prop := rest ≠ [] → rest' = rest ++ more

/-- A member is the same when more bytes come after it, and so is the place where the next
one starts, if there were any bytes left. -/
theorem first_append (h : Member.first table input = .ok (member, rest)) (more : Bytes) :
    ∃ rest', Member.first table (input ++ more) = .ok (member.extend more, rest')
      ∧ Continues more rest rest' := by
  obtain ⟨hlength, hterminator, size, hsize, hname, rfl⟩ := first_eq_ok_iff.1 h
  have htake : (input ++ more).take headerLength = input.take headerLength :=
    List.take_append_of_le_length hlength
  have hdrop : (input ++ more).drop headerLength = input.drop headerLength ++ more :=
    List.drop_append_of_le_length hlength
  refine ⟨(input.drop headerLength ++ more).drop (size + size % 2), first_eq_ok_iff.2 ?_, ?_⟩
  · rw [htake, hdrop, List.length_append]
    exact ⟨by omega, hterminator, size, hsize, named_append hname more, rfl⟩
  · intro hrest
    have hinside : size + size % 2 ≤ (input.drop headerLength).length := by
      have := List.length_pos_of_ne_nil hrest
      rw [List.length_drop] at this
      omega
    exact List.drop_append_of_le_length hinside

/-! ## Searching -/

/-- A member is the entry with a name. -/
def Member.IsEntry (name : String) (m : Member) : Prop :=
  Container.trimName m.name = Utf8.encode name.toList

/-- A search finds its entry in the first member, or goes on after it. -/
theorem entryIn_membersUpTo_succ {name : String} {count : Nat} :
    Container.entryIn name (membersUpTo table (count + 1) input) = .ok data ↔
      ∃ member rest, Member.first table input = .ok (member, rest)
        ∧ (member.IsEntry name ∧ member.data = .ok data
          ∨ ¬member.IsEntry name
            ∧ Container.entryIn name (membersUpTo table count rest) = .ok data) := by
  cases input with
  | nil =>
      constructor
      · intro h
        cases h
      · rintro ⟨member, rest, h, -⟩
        cases h
  | cons b input =>
      rw [membersUpTo_succ table count (List.cons_ne_nil b input)]
      cases hfirst : Member.first table (b :: input) with
      | error e => simp [Container.entryIn]
      | ok found =>
          obtain ⟨member, rest⟩ := found
          simp only [Container.entryIn, Except.ok.injEq, Prod.mk.injEq, Member.IsEntry]
          by_cases hname : Container.trimName member.name = Utf8.encode name.toList
          · rw [if_pos hname]
            cases hdata : member.data with
            | error e => simp [hname, hdata]
            | ok found => simp [hname, hdata]
          · rw [if_neg hname]
            simp [hname]

/-- A search that found its entry finds the same one when more bytes come after. -/
theorem entryIn_membersUpTo_append {name : String} {count count' : Nat}
    (h : Container.entryIn name (membersUpTo table count input) = .ok data)
    (hcount : count ≤ count') (more : Bytes) :
    Container.entryIn name (membersUpTo table count' (input ++ more)) = .ok data := by
  -- along the search, which does not get to the end of the shorter archive
  induction count generalizing input count' with
  | zero => cases h
  | succ count ih =>
      obtain ⟨count', rfl⟩ : ∃ n, count' = n + 1 := ⟨count' - 1, by omega⟩
      obtain ⟨member, rest, hfirst, hfound⟩ := entryIn_membersUpTo_succ.1 h
      obtain ⟨rest', hfirst', hrest'⟩ := first_append hfirst more
      refine entryIn_membersUpTo_succ.2 ⟨member.extend more, rest', hfirst', ?_⟩
      rcases hfound with ⟨hname, hdata⟩ | ⟨hname, hlater⟩
      · exact Or.inl ⟨hname, data_extend hdata⟩
      · have hrest : rest ≠ [] := by
          rintro rfl
          cases count with
          | zero => cases hlater
          | succ count => cases hlater
        rw [hrest' hrest]
        exact Or.inr ⟨hname, ih hlater (by omega)⟩

/-! ## Special members -/

theorem peek_of_ne_nil (h : input ≠ []) :
    peek table input = (Member.first table input).map some := by
  obtain ⟨b, rest, rfl⟩ := List.exists_cons_of_ne_nil h
  show (Member.first table (b :: rest) >>= fun found => pure (some found)) = _
  cases Member.first table (b :: rest) with
  | error e => rfl
  | ok found => rfl

theorem peek_eq_some_iff :
    peek table input = .ok (some (member, rest))
      ↔ Member.first table input = .ok (member, rest) := by
  cases input with
  | nil =>
      constructor
      · intro h
        cases h
      · intro h
        cases h
  | cons b input =>
      rw [peek_of_ne_nil (List.cons_ne_nil b input)]
      cases Member.first table (b :: input) with
      | error e => simp [Except.map]
      | ok found => simp [Except.map]

theorem peek_eq_none_iff : peek table input = .ok none ↔ input = [] := by
  cases input with
  | nil => exact ⟨fun _ => rfl, fun _ => rfl⟩
  | cons b input =>
      rw [peek_of_ne_nil (List.cons_ne_nil b input)]
      cases Member.first table (b :: input) with
      | error e => simp [Except.map]
      | ok found => simp [Except.map]

/-- Two symbol tables stand at the start of some bytes, and `start` is what follows them. -/
def TwoSymbolTables (input start : Bytes) : Prop :=
  ∃ first second between, Member.first [] input = .ok (first, between) ∧ first.name = ascii "/"
    ∧ Member.first [] between = .ok (second, start) ∧ second.name = ascii "/"

/-- Bytes that do harm where the reader only looks whether one more symbol table follows:
they are no member, or a member that is such a table. -/
def Spoils (next : Bytes) : Prop :=
  next ≠ [] ∧ ∀ member rest, Member.first [] next = .ok (member, rest) →
    member.name = ascii "/<ECSYMBOLS>/"

/-- Some bytes go no further than a third member after two symbol tables, which is no table
of names, and what more bytes put behind this member does harm. -/
def LooksPast (start more : Bytes) : Prop :=
  ∃ third next, Member.first [] start = .ok (third, []) ∧ third.name ≠ ascii "//"
    ∧ Member.first [] (start ++ more) = .ok (third.extend more, next) ∧ Spoils next

/-- An archive that goes on further. -/
def extend (more : Bytes) (a : Archive) : Archive := { a with body := a.body ++ more }

/-- Looking at the first member gives the same one in the longer archive. -/
theorem peek_append (h : peek table input = .ok (some (member, rest)))
    (hinput : Continues more input input') :
    ∃ rest', peek table input' = .ok (some (member.extend more, rest'))
      ∧ Continues more rest rest' := by
  have hfirst := peek_eq_some_iff.1 h
  obtain ⟨rest', hfirst', hrest⟩ := first_append hfirst more
  rw [hinput (ne_nil_of_first hfirst)]
  exact ⟨rest', peek_eq_some_iff.2 hfirst', hrest⟩

section Special

variable {a : Archive}

/-- A table of names that is all there is the same in the longer archive. -/
theorem table_append (h : (do return ⟨← member.data, rest⟩ : Except Error Archive) = .ok a)
    (hbody : a.body ≠ []) (hrest : Continues more rest rest') :
    (do return ⟨← (member.extend more).data, rest'⟩ : Except Error Archive)
      = .ok (a.extend more) := by
  obtain ⟨table, hdata, h⟩ := exists_of_bind_eq_ok h
  cases h
  rw [data_extend hdata, hrest hbody]
  rfl

theorem afterSymbols_append (h : afterSymbols input = .ok a) (hbody : a.body ≠ [])
    (hinput : Continues more input input') : afterSymbols input' = .ok (a.extend more) := by
  unfold afterSymbols at h ⊢
  obtain ⟨found, hpeek, h⟩ := exists_of_bind_eq_ok h
  cases found with
  | none =>
      cases h
      exact absurd (peek_eq_none_iff.1 hpeek) hbody
  | some found =>
      obtain ⟨member, rest⟩ := found
      obtain ⟨rest', hpeek', hrest⟩ := peek_append hpeek hinput
      rw [hpeek']
      show (if member.name = ascii "//" then _ else _) = _
      change (if member.name = ascii "//" then _ else _) = _ at h
      split_ifs at h ⊢ with htable
      · exact table_append h hbody hrest
      · cases h
        rw [hinput hbody]
        rfl

/-! ## One more symbol table -/

/-- The archive after two symbol tables when one more may stand at `ahead`. -/
def skipSymbols (archive : Archive) (ahead : Bytes) : Except Error Archive := do
  match ← peek archive.table ahead with
  | some (member, rest) =>
      if member.name = ascii "/<ECSYMBOLS>/" then return { archive with body := rest }
      else return archive
  | none => return archive

theorem afterSecondSymbols_eq (input : Bytes) :
    afterSecondSymbols input = (do
      match ← peek [] input with
      | some (member, rest) =>
          if member.name = ascii "//" then skipSymbols ⟨← member.data, rest⟩ rest
          else skipSymbols ⟨[], input⟩ rest
      | none => skipSymbols ⟨[], input⟩ input) := rfl

/-- Looking for one more symbol table ends in the same way if there was a member to look at. -/
theorem skipSymbols_append {archive : Archive} (h : skipSymbols archive input = .ok a)
    (hinput : input ≠ []) (hbody : a.body ≠ []) (more : Bytes) :
    skipSymbols (archive.extend more) (input ++ more) = .ok (a.extend more) := by
  unfold skipSymbols at h ⊢
  obtain ⟨found, hpeek, h⟩ := exists_of_bind_eq_ok h
  cases found with
  | none => exact absurd (peek_eq_none_iff.1 hpeek) hinput
  | some found =>
      obtain ⟨member, rest⟩ := found
      obtain ⟨rest', hpeek', hrest⟩ : ∃ rest', peek (archive.extend more).table (input ++ more)
          = .ok (some (member.extend more, rest')) ∧ Continues more rest rest' :=
        peek_append hpeek fun _ => rfl
      rw [hpeek']
      show (if member.name = ascii "/<ECSYMBOLS>/" then _ else _) = _
      change (if member.name = ascii "/<ECSYMBOLS>/" then _ else _) = _ at h
      split_ifs at h ⊢ with hsymbols
      · cases h
        rw [hrest hbody]
        rfl
      · cases h
        rfl

/-- Bytes that do no harm are looked at and left alone. -/
theorem skipSymbols_of_not_spoils {next : Bytes} (h : ¬Spoils next) (body : Bytes) :
    skipSymbols ⟨[], body⟩ next = .ok ⟨[], body⟩ := by
  rw [Spoils, not_and, not_forall] at h
  by_cases hnext : next = []
  · subst hnext
    rfl
  · obtain ⟨member, h⟩ := h hnext
    push Not at h
    obtain ⟨rest, hfirst, hname⟩ := h
    rw [skipSymbols, peek_eq_some_iff.2 hfirst]
    exact if_neg hname

/-- After two symbol tables more bytes do no harm, except where the reader looks past a
member. -/
theorem afterSecondSymbols_append (h : afterSecondSymbols input = .ok a) (hbody : a.body ≠ [])
    (hinput : Continues more input input') (hharmless : ¬LooksPast input more) :
    afterSecondSymbols input' = .ok (a.extend more) := by
  rw [afterSecondSymbols_eq] at h ⊢
  obtain ⟨found, hpeek, h⟩ := exists_of_bind_eq_ok h
  cases found with
  | none =>
      obtain rfl := peek_eq_none_iff.1 hpeek
      cases h
      exact absurd rfl hbody
  | some found =>
      obtain ⟨member, rest⟩ := found
      obtain ⟨rest', hpeek', hrest⟩ := peek_append hpeek hinput
      rw [hpeek']
      show (if member.name = ascii "//" then _ else skipSymbols ⟨[], input'⟩ rest') = _
      change (if member.name = ascii "//" then _ else skipSymbols ⟨[], input⟩ rest) = _ at h
      have hfirst := peek_eq_some_iff.1 hpeek
      obtain rfl := hinput (ne_nil_of_first hfirst)
      by_cases htable : member.name = ascii "//"
      · rw [if_pos htable] at h ⊢
        obtain ⟨table, hdata, h⟩ := exists_of_bind_eq_ok h
        have hmore : rest ≠ [] := by
          rintro rfl
          cases h
          exact hbody rfl
        rw [data_extend hdata, hrest hmore]
        exact skipSymbols_append h hmore hbody more
      · rw [if_neg htable] at h ⊢
        by_cases hend : rest = []
        · -- the shorter archive has no fourth member to look at
          subst hend
          cases h
          refine skipSymbols_of_not_spoils (fun hspoils => ?_) _
          exact hharmless
            ⟨member, rest', hfirst, htable, peek_eq_some_iff.1 hpeek', hspoils⟩
        · rw [hrest hend]
          exact skipSymbols_append h hend hbody more

/-! ## The start of an archive -/

/-- What follows one symbol table: a second one, a table of names, or ordinary members. -/
def afterFirstSymbols (input : Bytes) : Except Error Archive := do
  match ← peek [] input with
  | none => return ⟨[], input⟩
  | some (second, rest) =>
      if second.name = ascii "/" then afterSecondSymbols rest
      else if second.name = ascii "//" then return ⟨← second.data, rest⟩
      else return ⟨[], input⟩

theorem ofBody_eq (input : Bytes) :
    ofBody input = (do
      match ← peek [] input with
      | none => return ⟨[], input⟩
      | some (member, rest) =>
          if member.name = ascii "/" then afterFirstSymbols rest
          else if member.name = ascii "/SYM64/" then afterSymbols rest
          else if member.name = ascii "//" then return ⟨← member.data, rest⟩
          else if plainSymbols.contains member.name then return ⟨[], rest⟩
          else return ⟨[], input⟩) := rfl

/-- After one symbol table more bytes do no harm, except where a second one follows and the
reader looks past the member after it. -/
theorem afterFirstSymbols_append (h : afterFirstSymbols input = .ok a) (hbody : a.body ≠ [])
    (hinput : Continues more input input')
    (hharmless : ∀ second start, Member.first [] input = .ok (second, start) →
      second.name = ascii "/" → ¬LooksPast start more) :
    afterFirstSymbols input' = .ok (a.extend more) := by
  unfold afterFirstSymbols at h ⊢
  obtain ⟨found, hpeek, h⟩ := exists_of_bind_eq_ok h
  cases found with
  | none =>
      cases h
      exact absurd (peek_eq_none_iff.1 hpeek) hbody
  | some found =>
      obtain ⟨second, rest⟩ := found
      obtain ⟨rest', hpeek', hrest⟩ := peek_append hpeek hinput
      rw [hpeek']
      show (if second.name = ascii "/" then afterSecondSymbols rest'
        else if second.name = ascii "//" then _ else _) = _
      change (if second.name = ascii "/" then _ else if second.name = ascii "//" then _ else _)
        = _ at h
      split_ifs at h ⊢ with hsymbols htable
      · exact afterSecondSymbols_append h hbody hrest
          (hharmless second rest (peek_eq_some_iff.1 hpeek) hsymbols)
      · exact table_append h hbody hrest
      · cases h
        rw [hinput hbody]
        rfl

/-- Two symbol tables stand at the start of an archive, and what more bytes put behind the
member after them does harm. -/
def BreaksOff (input more : Bytes) : Prop :=
  ∃ start, TwoSymbolTables input start ∧ LooksPast start more

/-- An archive with something in it goes on with the bytes that come after it, except where
the reader looks past a member. -/
theorem ofBody_append (h : ofBody input = .ok a) (hbody : a.body ≠ [])
    (hharmless : ¬BreaksOff input more) : ofBody (input ++ more) = .ok (a.extend more) := by
  rw [ofBody_eq] at h ⊢
  obtain ⟨found, hpeek, h⟩ := exists_of_bind_eq_ok h
  cases found with
  | none =>
      cases h
      exact absurd (peek_eq_none_iff.1 hpeek) hbody
  | some found =>
      obtain ⟨first, rest⟩ := found
      obtain ⟨rest', hpeek', hrest⟩ := peek_append hpeek (fun _ => rfl : Continues more _ _)
      rw [hpeek']
      show (if first.name = ascii "/" then afterFirstSymbols rest'
        else if first.name = ascii "/SYM64/" then afterSymbols rest'
        else if first.name = ascii "//" then _
        else if plainSymbols.contains first.name then _ else _) = _
      change (if first.name = ascii "/" then _ else if first.name = ascii "/SYM64/" then _
        else if first.name = ascii "//" then _
        else if plainSymbols.contains first.name then _ else _) = _ at h
      split_ifs at h ⊢ with hsymbols hwide htable hplain
      · -- one symbol table, and perhaps a second one after it
        refine afterFirstSymbols_append h hbody hrest fun second start hsecond hname hpast => ?_
        exact hharmless ⟨start,
          ⟨first, second, rest, peek_eq_some_iff.1 hpeek, hsymbols, hsecond, hname⟩, hpast⟩
      · exact afterSymbols_append h hbody hrest
      · exact table_append h hbody hrest
      · cases h
        rw [hrest hbody]
        rfl
      · cases h
        rfl

/-- Where more bytes do harm they do it to all that was there: the longer archive cannot be
read, or its members start behind a symbol table that comes after the old ones. -/
theorem ofBody_of_breaksOff (h : BreaksOff input more) :
    (∃ e, ofBody (input ++ more) = .error e)
      ∨ ∃ start third next symbols rest, TwoSymbolTables (input ++ more) start
        ∧ Member.first [] start = .ok (third, next)
        ∧ Member.first [] next = .ok (symbols, rest) ∧ symbols.name = ascii "/<ECSYMBOLS>/"
        ∧ ofBody (input ++ more) = .ok ⟨[], rest⟩ := by
  obtain ⟨start, ⟨first, second, between, hfirst, hfirstName, hsecond, hsecondName⟩,
    third, next, hthird, htable, hthird', hnext, hspoils⟩ := h
  obtain ⟨between', hfirst', hbetween⟩ := first_append hfirst more
  obtain ⟨start', hsecond', hstart⟩ := first_append hsecond more
  obtain rfl := hbetween (ne_nil_of_first hsecond)
  obtain rfl := hstart (ne_nil_of_first hthird)
  have hread : ofBody (input ++ more) = skipSymbols ⟨[], start ++ more⟩ next := by
    rw [ofBody_eq, peek_eq_some_iff.2 hfirst']
    show (if first.name = ascii "/" then afterFirstSymbols (between ++ more) else _) = _
    rw [if_pos hfirstName, afterFirstSymbols, peek_eq_some_iff.2 hsecond']
    show (if second.name = ascii "/" then afterSecondSymbols (start ++ more) else _) = _
    rw [if_pos hsecondName, afterSecondSymbols_eq, peek_eq_some_iff.2 hthird']
    exact if_neg htable
  rw [hread, skipSymbols, peek_of_ne_nil hnext]
  cases hsymbols : Member.first [] next with
  | error e => exact Or.inl ⟨e, rfl⟩
  | ok found =>
      obtain ⟨symbols, rest⟩ := found
      have hname := hspoils symbols rest hsymbols
      refine Or.inr ⟨start ++ more, third.extend more, next, symbols, rest, ?_, hthird', hsymbols,
        hname, if_pos hname⟩
      exact ⟨first.extend more, second.extend more, between ++ more, hfirst', hfirstName, hsecond',
        hsecondName⟩

end Special

end Archive

namespace Container

/-! ## Contents of files -/

/-- The entry with a name in the contents of a file. -/
def extract (contents : Bytes) (name : String) : Except Corruption Bytes := do
  entryIn name (← ofBytes contents).members

theorem ofBytes_eq_ok_iff {contents : Bytes} {a : Archive} :
    ofBytes contents = .ok a
      ↔ ∃ body, contents = Archive.magic ++ body ∧ Archive.ofBody body = .ok a := by
  constructor
  · intro h
    unfold ofBytes at h
    split_ifs at h with hlength hmagic
    rw [bne_iff_ne, not_not] at hmagic
    refine ⟨contents.drop Archive.magic.length, ?_, ?_⟩
    · rw [← hmagic, List.length_take, Nat.min_eq_left (by omega), List.take_append_drop]
    · split at h
      · next hbody =>
          cases h
          exact hbody
      · cases h
  · rintro ⟨body, rfl, hbody⟩
    exact Archive.ofBytes_magic hbody

/-- What stands after the magic line breaks off. -/
def BreaksOff (contents more : Bytes) : Prop :=
  ∃ body, contents = Archive.magic ++ body ∧ Archive.BreaksOff body more

/-- An entry that can be read from contents can be read when more bytes come after them. -/
theorem extract_append {contents more : Bytes} {name : String} {data : Bytes}
    (h : extract contents name = .ok data) (hharmless : ¬BreaksOff contents more) :
    extract (contents ++ more) name = .ok data := by
  obtain ⟨a, ha, hentry⟩ := exists_of_bind_eq_ok h
  obtain ⟨body, rfl, hbody⟩ := ofBytes_eq_ok_iff.1 ha
  have hnonempty : a.body ≠ [] := by
    intro hnil
    rw [Archive.members, hnil] at hentry
    cases hentry
  have hlonger : Archive.ofBody (body ++ more) = .ok (a.extend more) :=
    Archive.ofBody_append hbody hnonempty fun h => hharmless ⟨body, rfl, h⟩
  rw [extract, List.append_assoc, Archive.ofBytes_magic hlonger]
  refine Archive.entryIn_membersUpTo_append hentry ?_ more
  show a.body.length ≤ (a.body ++ more).length
  rw [List.length_append]
  omega

/-- The beginning of a written archive never breaks off: no entry has the name of the symbol
tables that it takes. -/
theorem not_breaksOff_of_write {entries : List (String × Bytes)} {contents more : Bytes}
    (h : Archive.write entries = .ok (contents ++ more)) : ¬BreaksOff contents more := by
  rintro ⟨body, rfl, start, ⟨first, second, between, hfirst, hname, -⟩, -⟩
  obtain ⟨rest, hfirst', -⟩ := Archive.first_append hfirst more
  obtain ⟨bytes, hbytes, h⟩ := exists_of_bind_eq_ok h
  have hbody : bytes = body ++ more := by
    have hcontents : Archive.magic ++ bytes = Archive.magic ++ body ++ more := Except.ok.inj h
    rw [List.append_assoc] at hcontents
    exact List.append_cancel_left hcontents
  cases entries with
  | nil =>
      cases hbytes
      rw [← hbody] at hfirst'
      cases hfirst'
  | cons entry entries =>
      obtain ⟨written, later, hwritten, -, rfl⟩ := Archive.writeEntries_cons_eq_ok hbytes
      obtain ⟨hvalid, hascii, -, -⟩ := Archive.writeEntry_eq_ok_iff.1 hwritten
      rw [← hbody, Archive.first_writeEntry hwritten] at hfirst'
      have hslash : Utf8.encode entry.1.toList = Archive.ascii "/" := by
        rw [← hname]
        exact congrArg (fun found => found.1.name) (Except.ok.inj hfirst')
      refine Archive.slash_notMem_encode hvalid hascii ?_
      rw [hslash]
      decide

/-- An archive with two symbol tables and a manifest. -/
def shortContents : Bytes :=
  Archive.magic ++ Archive.header "" 0 ++ Archive.header "" 0
    ++ Archive.header "manifest" fooManifest.length ++ fooManifest

/-- One byte after the manifest, and the archive cannot be read any more. -/
theorem not_extract_append :
    ¬∀ (contents more : Bytes) (name : String) (data : Bytes),
      extract contents name = .ok data → extract (contents ++ more) name = .ok data := by
  intro h
  have hshort : extract shortContents manifestName = .ok fooManifest := by decide +kernel
  have hlong : extract (shortContents ++ Archive.ascii "x") manifestName
      = .error (.badArchive .memberHeader) := by decide +kernel
  rw [h _ _ _ _ hshort] at hlong
  cases hlong

end Container

end Linkage
