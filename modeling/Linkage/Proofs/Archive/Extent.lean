import Linkage.Proofs.Archive.Truncation

set_option autoImplicit false

/-! # Where an entry ends

A search goes from member to member up to the entry that it asks for, and `Finds` says where
in the archive the data of this entry end. A member whose data lie in front of a place can be
read from the bytes up to that place (`exists_first_of_behind`), and so can every member that
another one follows. So a search needs nothing behind the data that it finds
(`Finds.exists_beginning`).

The same holds for the special members at the start of an archive. Each way to read them looks
at the first member and goes on by its name, and none of them needs what stands behind the
entry (`readsUpTo_ofBody`). The contents of a file up to the end of an entry therefore hold the
entry (`Container.HasEntry.exists_beginning`). So two files that are the same up to there have
the same data in it, except where the second one is broken off (`Container.extract_of_hasEntry`).
-/

namespace Linkage

open Traversal (exists_of_bind_eq_ok)

namespace Archive

/-- The bytes of an archive behind the data of a member. -/
def Member.behind (m : Member) : Bytes := m.tail.drop m.size

variable {table input input' more rest rest' behind data : Bytes} {member member' : Member}

/-! ## Members -/

theorem data_eq_ok_iff : member.data = .ok data
    ↔ member.size ≤ member.tail.length ∧ member.tail.take member.size = data := by
  unfold Member.data
  by_cases hsize : member.size ≤ member.tail.length
  · simp [hsize]
  · simp [hsize]

/-- A member has all its data if there is anything behind them. -/
theorem exists_data_of_behind (h : member.behind ≠ []) : ∃ data, member.data = .ok data := by
  have hlength := List.length_pos_of_ne_nil h
  rw [Member.behind, List.length_drop] at hlength
  exact ⟨_, data_eq_ok_iff.2 ⟨by omega, rfl⟩⟩

theorem behind_extend (h : member.data = .ok data) :
    (member.extend more).behind = member.behind ++ more := by
  have hsize := (data_eq_ok_iff.1 h).1
  exact List.drop_append_of_le_length hsize

/-- A name in front of the data is a part of what the size in the header counts. -/
theorem exists_nameLength {field body : Bytes} {size : Nat}
    (h : Member.named table field size body = .ok member) :
    ∃ length, length ≤ size ∧ length ≤ body.length ∧ member.size = size - length
      ∧ member.tail = body.drop length := by
  rcases named_cases h with ⟨name, rfl, -⟩ | ⟨length, hsize, hbody, rfl, -⟩
  · exact ⟨0, Nat.zero_le _, Nat.zero_le _, rfl, rfl⟩
  · exact ⟨length, hsize, hbody, rfl, rfl⟩

/-- The data of a member end where its header says, if there are so many bytes. -/
theorem behind_of_named {field body : Bytes} {size : Nat}
    (h : Member.named table field size body = .ok member) :
    member.behind = body.drop size ∧ (member.size ≤ member.tail.length ↔ size ≤ body.length) := by
  obtain ⟨length, hsize, hbody, hmember, htail⟩ := exists_nameLength h
  constructor
  · rw [Member.behind, hmember, htail, List.drop_drop, Nat.add_sub_cancel' hsize]
  · rw [hmember, htail, List.length_drop]
    omega

/-- If the data lie in the beginning of some bytes, the name of the member is found there. -/
theorem named_of_append {field body : Bytes} {size : Nat}
    (h : Member.named table field size (body ++ more) = .ok member') (hsize : size ≤ body.length) :
    ∃ member, Member.named table field size body = .ok member ∧ member.extend more = member' := by
  rcases named_cases h with ⟨name, rfl, hall⟩ | ⟨length, hname, -, rfl, hall⟩
  · exact ⟨⟨name, size, body⟩, hall body, rfl⟩
  · have hbody : length ≤ body.length := hname.trans hsize
    exact ⟨.afterName length size body, hall body hbody, (afterName_append hbody).symm⟩

/-- The next member starts behind the data of a member, perhaps after a byte of padding. -/
theorem exists_padding (h : Member.first table input = .ok (member, rest)) :
    ∃ padding, rest = member.behind.drop padding := by
  obtain ⟨-, -, size, -, hnamed, rfl⟩ := first_eq_ok_iff.1 h
  refine ⟨size % 2, ?_⟩
  rw [(behind_of_named hnamed).1]
  exact List.drop_drop.symm

/-- A member whose data lie in front of a place can be read from the bytes up to this place. -/
theorem exists_first_of_behind (h : Member.first table input' = .ok (member', rest'))
    (hdata : member'.data = .ok data) (hbehind : member'.behind = behind ++ more) :
    ∃ input member padding, input ≠ [] ∧ input' = input ++ more
      ∧ Member.first table input = .ok (member, behind.drop padding)
      ∧ member.extend more = member' ∧ member.data = .ok data
      ∧ rest' = (behind ++ more).drop padding := by
  obtain ⟨hlength, hterminator, size, hsize, hnamed, rfl⟩ := first_eq_ok_iff.1 h
  obtain ⟨hends, hall⟩ := behind_of_named hnamed
  have hbody := hall.1 (data_eq_ok_iff.1 hdata).1
  rw [List.length_drop] at hbody
  -- the header and the data are what stands in front of the bytes behind them
  have hsplit : input' = (input'.take (headerLength + size) ++ behind) ++ more := by
    calc input' = input'.take (headerLength + size) ++ input'.drop (headerLength + size) :=
          (List.take_append_drop _ _).symm
      _ = input'.take (headerLength + size) ++ member'.behind := by rw [hends, List.drop_drop]
      _ = (input'.take (headerLength + size) ++ behind) ++ more := by
          rw [hbehind, List.append_assoc]
  obtain ⟨input, hinput, rfl⟩ : ∃ input, headerLength + size + behind.length = input.length
      ∧ input' = input ++ more := by
    refine ⟨_, ?_, hsplit⟩
    rw [List.length_append, List.length_take]
    omega
  have hheader : 0 < headerLength := by decide
  have htake : (input ++ more).take headerLength = input.take headerLength :=
    List.take_append_of_le_length (by omega)
  have hdrop : (input ++ more).drop headerLength = input.drop headerLength ++ more :=
    List.drop_append_of_le_length (by omega)
  rw [htake] at hterminator hsize hnamed
  rw [hdrop] at hnamed hends ⊢
  have hinside : size ≤ (input.drop headerLength).length := by
    rw [List.length_drop]
    omega
  have hrest : (input.drop headerLength).drop size = behind := by
    rw [List.drop_append_of_le_length hinside, hbehind] at hends
    exact (List.append_cancel_right hends).symm
  obtain ⟨member, hmember, hextend⟩ := named_of_append hnamed hinside
  refine ⟨input, member, size % 2, ?_, rfl, first_eq_ok_iff.2 ?_, hextend, ?_, ?_⟩
  · exact List.ne_nil_of_length_pos (by omega)
  · refine ⟨by omega, hterminator, size, hsize, hmember, ?_⟩
    rw [← hrest]
    exact List.drop_drop.symm
  · have hshort := data_eq_ok_iff.2 ⟨(behind_of_named hmember).2.2 hinside, rfl⟩
    rw [← hdata, ← hextend, data_extend hshort, hshort]
  · rw [← hbehind, hends]
    exact List.drop_drop.symm

/-- So can a member if something else stands between it and the place. -/
theorem exists_first_of_rest (h : Member.first table input' = .ok (member', rest ++ more))
    (hrest : rest ≠ []) : ∃ input member, input ≠ [] ∧ input' = input ++ more
      ∧ Member.first table input = .ok (member, rest) ∧ member.extend more = member'
      ∧ ∀ data, member'.data = .ok data → member.data = .ok data := by
  obtain ⟨padding, hpadding⟩ := exists_padding h
  have hbehind : member'.behind = (member'.behind.take padding ++ rest) ++ more := by
    rw [List.append_assoc, hpadding, List.take_append_drop]
  obtain ⟨data, hdata⟩ : ∃ data, member'.data = .ok data := by
    apply exists_data_of_behind
    rw [hbehind]
    simp [hrest]
  obtain ⟨input, member, padding', hinput, rfl, hfirst, hextend, hsame, hdrop⟩ :=
    exists_first_of_behind h hdata hbehind
  have hlength : padding' ≤ (member'.behind.take padding ++ rest).length := by
    have hlengths := congrArg List.length hdrop
    have hpos := List.length_pos_of_ne_nil hrest
    simp only [List.length_append, List.length_drop] at hlengths ⊢
    omega
  have hnext : (member'.behind.take padding ++ rest).drop padding' = rest := by
    rw [List.drop_append_of_le_length hlength] at hdrop
    exact (List.append_cancel_right hdrop).symm
  rw [hnext] at hfirst
  refine ⟨input, member, hinput, rfl, hfirst, hextend, ?_⟩
  intro data' hdata'
  rw [hsame, ← hdata', hdata]

/-! ## Searches -/

/-- A search for the entry with a name goes from member to member up to one whose data are
all there, and `more` is what stands behind them. -/
inductive Finds (table : Bytes) (name : String) (data more : Bytes) : Bytes → Prop
  | here {input rest : Bytes} {member : Member} (h : Member.first table input = .ok (member, rest))
      (hname : member.IsEntry name) (hdata : member.data = .ok data)
      (hbehind : member.behind = more) : Finds table name data more input
  | later {input rest : Bytes} {member : Member} (h : Member.first table input = .ok (member, rest))
      (hname : ¬member.IsEntry name) (hrest : Finds table name data more rest) :
      Finds table name data more input

variable {name : String}

theorem Finds.ne_nil (h : Finds table name data more input) : input ≠ [] := by
  cases h with
  | here h => exact ne_nil_of_first h
  | later h => exact ne_nil_of_first h

/-- Reading a member takes up its header at least. -/
theorem length_lt_of_first (h : Member.first table input = .ok (member, rest)) :
    rest.length < input.length := by
  obtain ⟨hlength, -, size, -, -, rfl⟩ := first_eq_ok_iff.1 h
  have hheader : 0 < headerLength := by decide
  simp only [List.length_drop]
  omega

/-- Going through the members finds the data that there are to be found. -/
theorem exists_finds_iff {count : Nat} (hcount : input.length ≤ count) :
    (∃ more, Finds table name data more input)
      ↔ Container.entryIn name (membersUpTo table count input) = .ok data := by
  constructor
  · -- along the members, each of which takes up some of the bytes
    rintro ⟨more, h⟩
    induction h generalizing count with
    | here h hname hdata hbehind =>
        obtain ⟨count, rfl⟩ : ∃ n, count = n + 1 :=
          ⟨count - 1, by have := length_lt_of_first h; omega⟩
        exact entryIn_membersUpTo_succ.2 ⟨_, _, h, Or.inl ⟨hname, hdata⟩⟩
    | later h hname hrest ih =>
        have hshorter := length_lt_of_first h
        obtain ⟨count, rfl⟩ : ∃ n, count = n + 1 := ⟨count - 1, by omega⟩
        exact entryIn_membersUpTo_succ.2 ⟨_, _, h, Or.inr ⟨hname, ih (by omega)⟩⟩
  · intro h
    clear hcount
    induction count generalizing input with
    | zero => cases h
    | succ count ih =>
        obtain ⟨member, rest, hfirst, ⟨hname, hdata⟩ | ⟨hname, hlater⟩⟩ :=
          entryIn_membersUpTo_succ.1 h
        · exact ⟨_, .here hfirst hname hdata rfl⟩
        · obtain ⟨more, hmore⟩ := ih hlater
          exact ⟨more, .later hfirst hname hmore⟩

/-- What a search needs stands in front of the place where the data of its entry end. -/
theorem Finds.exists_beginning (h : Finds table name data more input') :
    ∃ input, input ≠ [] ∧ input' = input ++ more ∧ Finds table name data [] input := by
  -- along the search, from the entry back to the first member
  induction h with
  | here h hname hdata hbehind =>
      rw [← List.nil_append more] at hbehind
      obtain ⟨input, member, padding, hinput, rfl, hfirst, rfl, hsame, -⟩ :=
        exists_first_of_behind h hdata hbehind
      have hend : member.behind = [] := by
        rw [behind_extend hsame] at hbehind
        exact List.append_cancel_right hbehind
      exact ⟨input, hinput, rfl, .here hfirst hname hsame hend⟩
  | later h hname hrest ih =>
      obtain ⟨rest, hne, rfl, hfinds⟩ := ih
      obtain ⟨input, member, hinput, rfl, hfirst, rfl, -⟩ := exists_first_of_rest h hne
      exact ⟨input, hinput, rfl, .later hfirst hname hfinds⟩

/-- Looking at the first member on the way to an entry needs no more either. If it is the entry
itself, nothing is left behind it. -/
theorem Finds.exists_first (h : Finds table name data more input')
    (hfirst : Member.first table input' = .ok (member', rest')) :
    ∃ input member rest, input ≠ [] ∧ input' = input ++ more
      ∧ Member.first table input = .ok (member, rest) ∧ member.extend more = member'
      ∧ (rest = [] ∨ rest' = rest ++ more ∧ Finds table name data more rest') := by
  cases h with
  | here h hname hdata hbehind =>
      obtain ⟨rfl, rfl⟩ := Prod.mk.inj (Except.ok.inj (h.symm.trans hfirst))
      rw [← List.nil_append more] at hbehind
      obtain ⟨input, member, padding, hinput, rfl, hfirst, hextend, -⟩ :=
        exists_first_of_behind h hdata hbehind
      rw [List.drop_nil] at hfirst
      exact ⟨input, member, [], hinput, rfl, hfirst, hextend, Or.inl rfl⟩
  | later h hname hrest =>
      obtain ⟨rfl, rfl⟩ := Prod.mk.inj (Except.ok.inj (h.symm.trans hfirst))
      obtain ⟨rest, hne, rfl, -⟩ := hrest.exists_beginning
      obtain ⟨input, member, hinput, rfl, hfirst, hextend, -⟩ := exists_first_of_rest h hne
      exact ⟨input, member, rest, hinput, rfl, hfirst, hextend, Or.inr ⟨rfl, hrest⟩⟩

/-! ## Special members -/

/-- Reading the start of an archive needs nothing behind the data of an entry in it. -/
def ReadsUpTo (name : String) (data more : Bytes) (read : Bytes → Except Error Archive) : Prop :=
  ∀ input' a', read input' = .ok a' → Finds a'.table name data more a'.body →
    ∃ input a, input ≠ [] ∧ input' = input ++ more ∧ read input = .ok a ∧ a.extend more = a'

/-- What follows the first member, given by this member, the bytes from it on and those after it. -/
abbrev Next := Member → Bytes → Bytes → Except Error Archive

/-- Reading the start of an archive by looking at the first member. -/
def look (table : Bytes) (next : Next) (input : Bytes) : Except Error Archive := do
  match ← peek table input with
  | none => return ⟨table, input⟩
  | some (member, rest) => next member input rest

/-- What follows the first member needs nothing behind the data of an entry. -/
def Next.ReadsUpTo (name : String) (data more table : Bytes) (next : Next) : Prop :=
  ∀ input' member' rest' a', Member.first table input' = .ok (member', rest') →
    next member' input' rest' = .ok a' → Finds a'.table name data more a'.body →
    ∃ input member rest a, input ≠ [] ∧ input' = input ++ more
      ∧ Member.first table input = .ok (member, rest) ∧ member.extend more = member'
      ∧ next member input rest = .ok a ∧ a.extend more = a'

/-- The entry is one of the members that start here. -/
theorem readsUpTo_here (table : Bytes) :
    ReadsUpTo name data more fun input => .ok ⟨table, input⟩ := by
  intro input' a' h hfinds
  cases h
  obtain ⟨input, hinput, rfl, -⟩ := hfinds.exists_beginning
  exact ⟨input, ⟨table, input⟩, hinput, rfl, rfl, rfl⟩

theorem readsUpTo_look {next : Next} (hnext : next.ReadsUpTo name data more table) :
    ReadsUpTo name data more (look table next) := by
  intro input' a' h hfinds
  obtain ⟨found, hpeek, h⟩ := exists_of_bind_eq_ok h
  cases found with
  | none =>
      cases h
      exact absurd (peek_eq_none_iff.1 hpeek) hfinds.ne_nil
  | some found =>
      obtain ⟨member', rest'⟩ := found
      obtain ⟨input, member, rest, a, hinput, rfl, hfirst, -, hread, hextend⟩ :=
        hnext input' member' rest' a' (peek_eq_some_iff.1 hpeek) h hfinds
      refine ⟨input, a, hinput, rfl, ?_, hextend⟩
      rw [look, peek_eq_some_iff.2 hfirst]
      exact hread

/-- The first member is one of those among which the entry is. -/
theorem Next.readsUpTo_stay (table : Bytes) :
    Next.ReadsUpTo name data more table fun _ input _ => .ok ⟨table, input⟩ := by
  intro input' member' rest' a' hfirst h hfinds
  cases h
  obtain ⟨input, member, rest, hinput, rfl, hfirst, hextend, -⟩ := hfinds.exists_first hfirst
  exact ⟨input, member, rest, ⟨table, input⟩, hinput, rfl, hfirst, hextend, rfl, rfl⟩

/-- The first member is passed over. -/
theorem Next.readsUpTo_after {read : Bytes → Except Error Archive}
    (hread : Archive.ReadsUpTo name data more read) :
    Next.ReadsUpTo name data more table fun _ _ rest => read rest := by
  intro input' member' rest' a' hfirst h hfinds
  obtain ⟨rest, a, hrest, rfl, hread, hextend⟩ := hread rest' a' h hfinds
  obtain ⟨input, member, hinput, rfl, hfirst, hmember, -⟩ := exists_first_of_rest hfirst hrest
  exact ⟨input, member, rest, a, hinput, rfl, hfirst, hmember, hread, hextend⟩

/-- The first member holds the table of names. -/
theorem Next.readsUpTo_names {read : Bytes → Bytes → Except Error Archive}
    (hread : ∀ names, Archive.ReadsUpTo name data more (read names)) :
    Next.ReadsUpTo name data more table (fun member _ rest => do read (← member.data) rest) := by
  intro input' member' rest' a' hfirst h hfinds
  obtain ⟨names, hnames, h⟩ := exists_of_bind_eq_ok h
  obtain ⟨rest, a, hrest, rfl, hread, hextend⟩ := hread names rest' a' h hfinds
  obtain ⟨input, member, hinput, rfl, hfirst, hmember, hdata⟩ :=
    exists_first_of_rest hfirst hrest
  refine ⟨input, member, rest, a, hinput, rfl, hfirst, hmember, ?_, hextend⟩
  show (do read (← member.data) rest : Except Error Archive) = _
  rw [hdata names hnames]
  exact hread

/-- The name of the first member decides what follows. -/
theorem Next.readsUpTo_ite (condition : Bytes → Prop) [DecidablePred condition] {next next' : Next}
    (h : next.ReadsUpTo name data more table) (h' : next'.ReadsUpTo name data more table) :
    Next.ReadsUpTo name data more table fun member input rest =>
      if condition member.name then next member input rest else next' member input rest := by
  intro input' member' rest' a' hfirst hread hfinds
  change (if condition member'.name then _ else _) = _ at hread
  by_cases hname : condition member'.name
  · rw [if_pos hname] at hread
    obtain ⟨input, member, rest, a, hinput, rfl, hmember, rfl, hread, hextend⟩ :=
      h input' member' rest' a' hfirst hread hfinds
    exact ⟨input, member, rest, a, hinput, rfl, hmember, rfl, (if_pos hname).trans hread, hextend⟩
  · rw [if_neg hname] at hread
    obtain ⟨input, member, rest, a, hinput, rfl, hmember, rfl, hread, hextend⟩ :=
      h' input' member' rest' a' hfirst hread hfinds
    exact ⟨input, member, rest, a, hinput, rfl, hmember, rfl, (if_neg hname).trans hread, hextend⟩

/-- Where one more symbol table may stand there is none, or the archive starts behind it. -/
theorem skipSymbols_eq_ok {body next : Bytes} {a : Archive}
    (h : skipSymbols ⟨[], body⟩ next = .ok a) :
    ¬Spoils next ∧ a = ⟨[], body⟩ ∨ ∃ symbols rest, Member.first [] next = .ok (symbols, rest)
      ∧ symbols.name = ascii "/<ECSYMBOLS>/" ∧ a = ⟨[], rest⟩ := by
  by_cases hspoils : Spoils next
  · right
    obtain ⟨found, hpeek, h⟩ := exists_of_bind_eq_ok h
    rw [peek_of_ne_nil hspoils.1] at hpeek
    cases hfirst : Member.first [] next with
    | error e =>
        rw [hfirst] at hpeek
        cases hpeek
    | ok found =>
        obtain ⟨symbols, rest⟩ := found
        have hname := hspoils.2 symbols rest hfirst
        rw [hfirst] at hpeek
        cases hpeek
        change (if symbols.name = ascii "/<ECSYMBOLS>/" then _ else _) = _ at h
        rw [if_pos hname] at h
        cases h
        exact ⟨symbols, rest, rfl, hname, rfl⟩
  · left
    rw [skipSymbols_of_not_spoils hspoils] at h
    cases h
    exact ⟨hspoils, rfl⟩

/-- Looking for one more symbol table behind a member that stays where it is. -/
theorem Next.readsUpTo_skipSymbols :
    Next.ReadsUpTo name data more [] fun _ input rest => skipSymbols ⟨[], input⟩ rest := by
  intro input' member' rest' a' hfirst h hfinds
  rcases skipSymbols_eq_ok h with ⟨hharmless, rfl⟩ | ⟨symbols', after', hnext, hname, rfl⟩
  · -- if the beginning goes on behind the member, what stands there is the same member
    obtain ⟨input, member, rest, hinput, rfl, hmember, hextend, hrest⟩ :=
      hfinds.exists_first hfirst
    have hstill : ¬Spoils rest := by
      rintro ⟨hne, hspoils⟩
      rcases hrest with rfl | ⟨rfl, hlater⟩
      · exact hne rfl
      · apply hharmless
        refine ⟨hlater.ne_nil, ?_⟩
        intro symbols' after' hsymbols'
        obtain ⟨start, symbols, after, -, hstart, hsymbols, rfl, -⟩ :=
          hlater.exists_first hsymbols'
        rw [← List.append_cancel_right hstart] at hsymbols
        exact hspoils symbols after hsymbols
    exact ⟨input, member, rest, ⟨[], input⟩, hinput, rfl, hmember, hextend,
      skipSymbols_of_not_spoils hstill input, rfl⟩
  · obtain ⟨after, hafter, rfl, -⟩ := hfinds.exists_beginning
    obtain ⟨rest, symbols, hrest, rfl, hsymbols, rfl, -⟩ := exists_first_of_rest hnext hafter
    obtain ⟨input, member, hinput, rfl, hmember, hextend, -⟩ := exists_first_of_rest hfirst hrest
    refine ⟨input, member, rest, ⟨[], after⟩, hinput, rfl, hmember, hextend, ?_, rfl⟩
    show skipSymbols ⟨[], input⟩ rest = _
    rw [skipSymbols, peek_eq_some_iff.2 hsymbols]
    exact if_pos hname

/-! ## The start of an archive -/

theorem afterSymbols_eq_look : afterSymbols = look [] fun member input rest =>
    if member.name = ascii "//" then do return ⟨← member.data, rest⟩ else .ok ⟨[], input⟩ := by
  funext input
  unfold afterSymbols look
  rcases peek [] input with e | (_ | found)
  · rfl
  · rfl
  · rfl

theorem skipSymbols_eq_look (names : Bytes) :
    (fun rest => skipSymbols ⟨names, rest⟩ rest) = look names fun member input rest =>
      if member.name = ascii "/<ECSYMBOLS>/" then .ok ⟨names, rest⟩ else .ok ⟨names, input⟩ := by
  funext input
  unfold skipSymbols look
  rcases peek names input with e | (_ | found)
  · rfl
  · rfl
  · rfl

theorem afterSecondSymbols_eq_look : afterSecondSymbols = look [] fun member input rest =>
    if member.name = ascii "//" then do skipSymbols ⟨← member.data, rest⟩ rest
    else skipSymbols ⟨[], input⟩ rest := by
  funext input
  rw [afterSecondSymbols_eq, look]
  cases hpeek : peek [] input with
  | error e => rfl
  | ok found =>
      cases found with
      | none =>
          rw [peek_eq_none_iff.1 hpeek]
          rfl
      | some found => rfl

theorem afterFirstSymbols_eq_look : afterFirstSymbols = look [] fun member input rest =>
    if member.name = ascii "/" then afterSecondSymbols rest
    else if member.name = ascii "//" then do return ⟨← member.data, rest⟩
    else .ok ⟨[], input⟩ :=
  rfl

theorem ofBody_eq_look : ofBody = look [] fun member input rest =>
    if member.name = ascii "/" then afterFirstSymbols rest
    else if member.name = ascii "/SYM64/" then afterSymbols rest
    else if member.name = ascii "//" then do return ⟨← member.data, rest⟩
    else if plainSymbols.contains member.name then .ok ⟨[], rest⟩
    else .ok ⟨[], input⟩ :=
  rfl

theorem readsUpTo_afterSymbols : ReadsUpTo name data more afterSymbols := by
  rw [afterSymbols_eq_look]
  exact readsUpTo_look (Next.readsUpTo_ite (· = ascii "//")
    (Next.readsUpTo_names readsUpTo_here) (Next.readsUpTo_stay []))

theorem readsUpTo_skipSymbols (names : Bytes) :
    ReadsUpTo name data more fun rest => skipSymbols ⟨names, rest⟩ rest := by
  rw [skipSymbols_eq_look]
  exact readsUpTo_look (Next.readsUpTo_ite (· = ascii "/<ECSYMBOLS>/")
    (Next.readsUpTo_after (readsUpTo_here names)) (Next.readsUpTo_stay names))

theorem readsUpTo_afterSecondSymbols : ReadsUpTo name data more afterSecondSymbols := by
  rw [afterSecondSymbols_eq_look]
  exact readsUpTo_look (Next.readsUpTo_ite (· = ascii "//")
    (Next.readsUpTo_names readsUpTo_skipSymbols) Next.readsUpTo_skipSymbols)

theorem readsUpTo_afterFirstSymbols : ReadsUpTo name data more afterFirstSymbols := by
  rw [afterFirstSymbols_eq_look]
  exact readsUpTo_look (Next.readsUpTo_ite (· = ascii "/")
    (Next.readsUpTo_after readsUpTo_afterSecondSymbols)
    (Next.readsUpTo_ite (· = ascii "//") (Next.readsUpTo_names readsUpTo_here)
      (Next.readsUpTo_stay [])))

/-- What the reader takes up at the start of an archive stands in front of the data of every
entry that is found in it. -/
theorem readsUpTo_ofBody : ReadsUpTo name data more ofBody := by
  rw [ofBody_eq_look]
  exact readsUpTo_look (Next.readsUpTo_ite (· = ascii "/")
    (Next.readsUpTo_after readsUpTo_afterFirstSymbols)
    (Next.readsUpTo_ite (· = ascii "/SYM64/") (Next.readsUpTo_after readsUpTo_afterSymbols)
      (Next.readsUpTo_ite (· = ascii "//") (Next.readsUpTo_names readsUpTo_here)
        (Next.readsUpTo_ite (plainSymbols.contains · = true)
          (Next.readsUpTo_after (readsUpTo_here [])) (Next.readsUpTo_stay [])))))

end Archive

namespace Container

variable {contents start more more' : Bytes} {name : String} {data : Bytes}

/-! ## Contents of files -/

/-- The first entry with a name in the contents of a file has some data, and `more` is what
stands behind them in the file. -/
def HasEntry (contents : Bytes) (name : String) (data more : Bytes) : Prop :=
  ∃ a, ofBytes contents = .ok a ∧ Archive.Finds a.table name data more a.body

/-- What is read from the contents of a file is what they hold. -/
theorem extract_eq_ok_iff :
    extract contents name = .ok data ↔ ∃ more, HasEntry contents name data more := by
  constructor
  · intro h
    obtain ⟨a, ha, hentry⟩ := exists_of_bind_eq_ok h
    obtain ⟨more, hmore⟩ := (Archive.exists_finds_iff le_rfl).2 hentry
    exact ⟨more, a, ha, hmore⟩
  · rintro ⟨more, a, ha, hfinds⟩
    rw [extract, ha]
    exact (Archive.exists_finds_iff le_rfl).1 ⟨more, hfinds⟩

/-- The contents up to the end of an entry hold the entry. -/
theorem HasEntry.exists_beginning (h : HasEntry contents name data more) :
    ∃ start, contents = start ++ more ∧ extract start name = .ok data := by
  obtain ⟨a', ha', hfinds⟩ := h
  obtain ⟨body', rfl, hbody'⟩ := ofBytes_eq_ok_iff.1 ha'
  obtain ⟨body, a, -, rfl, hbody, rfl⟩ := Archive.readsUpTo_ofBody _ _ hbody' hfinds
  refine ⟨Archive.magic ++ body, (List.append_assoc _ _ _).symm, ?_⟩
  obtain ⟨start, -, hstart, hentry⟩ := hfinds.exists_beginning
  rw [← List.append_cancel_right hstart] at hentry
  exact extract_eq_ok_iff.2 ⟨[], a, Archive.ofBytes_magic hbody, hentry⟩

/-- **An entry does not depend on what stands behind it.** If the contents of a file are the
same up to the end of an entry, the entry is in both files and has the same data. The exception
is a file that is broken off by what stands behind the entry. -/
theorem extract_of_hasEntry (h : HasEntry (start ++ more) name data more)
    (hharmless : ¬BreaksOff start more') :
    extract (start ++ more) name = .ok data ∧ extract (start ++ more') name = .ok data := by
  constructor
  · exact extract_eq_ok_iff.2 ⟨more, h⟩
  · obtain ⟨start', hstart, hdata⟩ := h.exists_beginning
    rw [← List.append_cancel_right hstart] at hdata
    exact extract_append hdata hharmless

/-- No bytes break off an archive that does not start with a symbol table. -/
theorem not_breaksOff_of_first {body rest : Bytes} {member : Archive.Member}
    (h : Archive.Member.first [] body = .ok (member, rest))
    (hname : member.name ≠ Archive.ascii "/") : ¬BreaksOff (Archive.magic ++ body) more := by
  rintro ⟨body', hbody, start, ⟨first, second, between, hfirst, hslash, -⟩, -⟩
  rw [← List.append_cancel_left hbody, h] at hfirst
  cases hfirst
  exact hname hslash

end Container

end Linkage
