import Linkage.Manifest
import Linkage.Proofs.Toml.Reading
import Linkage.Proofs.Traversal
import Mathlib.Data.List.Nodup

set_option autoImplicit false

/-! # Manifests are read exactly

What a document says about a library is in the values of three keys. Each assignment to one of
them is taken up as it is, and all others leave the fields unchanged (`ManifestFields.Takes`).
So a document is read as a manifest exactly if all its assignments can be read and those of the
manifest are among them, whatever their order and whatever else is assigned
(`Manifest.parse_eq_ok_iff`). Every manifest has such a document
(`Manifest.exists_spellsDocument`).
-/

namespace Linkage

open Schema (Fault)
open Toml (Value SpellsDocument Readable)
open Traversal (exists_of_bind_eq_ok)

/-! ## Values -/

namespace Toml.Value

theorem asString_eq_ok_iff {v : Value} {s : String} : v.asString = .ok s ↔ v = .string s := by
  cases v <;> simp [asString]

theorem asWord_eq_ok_iff {v : Value} {w : UInt32} :
    v.asWord = .ok w ↔ v = .integer (w.toNat : Int) := by
  cases v with
  | integer n =>
      have hsize : w.toNat < UInt32.size := w.toNat_lt_size
      simp only [asWord, integer.injEq]
      constructor
      · intro h
        split at h
        · next hn =>
            cases h
            have hlt : n.toNat < UInt32.size := by omega
            rw [UInt32.toNat_ofNat_of_lt' hlt, Int.toNat_of_nonneg hn.1]
        · cases h
      · rintro rfl
        rw [if_pos ⟨Int.natCast_nonneg _, by exact_mod_cast hsize⟩, Int.toNat_natCast,
          UInt32.ofNat_toNat]
  | _ => simp [asWord]

theorem asStrings_eq_ok_iff {v : Value} {ts : List String} :
    v.asStrings = .ok ts ↔ v = .array (ts.map .string) := by
  cases v with
  | array items =>
      simp only [asStrings, array.injEq, Traversal.mapM_eq_ok_iff, asString_eq_ok_iff]
      rw [← List.forall₂_eq_eq_eq, List.forall₂_map_right_iff]
  | _ => simp [asStrings]

end Toml.Value

/-! ## Entries -/

namespace ManifestFields

/-- What an entry does to the fields: its value goes to the field of its key, or the key is none
that counts. -/
inductive Takes (fields : ManifestFields) : String → Value → ManifestFields → Prop
  | uniqueName (s : String) :
      Takes fields "unique_name" (.string s) { fields with uniqueName := some s }
  | abiVersion (w : UInt32) :
      Takes fields "abi_version" (.integer w.toNat) { fields with abiVersion := some w }
  | targets (ts : List String) :
      Takes fields "targets" (.array (ts.map .string)) { fields with targets := some ts }
  | other (key : String) (v : Value) (hname : key ≠ "unique_name") (hversion : key ≠ "abi_version")
      (htargets : key ≠ "targets") : Takes fields key v fields

theorem entry_eq_ok_iff {fields after : ManifestFields} {key : String} {v : Value} :
    fields.entry key v = .ok after ↔ fields.Takes key v after := by
  constructor
  · intro h
    unfold entry at h
    split_ifs at h with hname hversion htargets
    · obtain ⟨s, hs, hafter⟩ := exists_of_bind_eq_ok h
      cases hafter
      rw [hname, Toml.Value.asString_eq_ok_iff.1 hs]
      exact .uniqueName s
    · obtain ⟨w, hw, hafter⟩ := exists_of_bind_eq_ok h
      cases hafter
      rw [hversion, Toml.Value.asWord_eq_ok_iff.1 hw]
      exact .abiVersion w
    · obtain ⟨ts, hts, hafter⟩ := exists_of_bind_eq_ok h
      cases hafter
      rw [htargets, Toml.Value.asStrings_eq_ok_iff.1 hts]
      exact .targets ts
    · cases h
      exact .other key v hname hversion htargets
  · intro h
    cases h with
    | uniqueName s => rfl
    | abiVersion w =>
        have hread := Toml.Value.asWord_eq_ok_iff.2 (rfl : Value.integer w.toNat = _)
        simp only [entry]
        rw [hread]
        rfl
    | targets ts =>
        have hread := Toml.Value.asStrings_eq_ok_iff.2 (rfl : Value.array (ts.map .string) = _)
        simp only [entry]
        rw [hread]
        rfl
    | other key v hname hversion htargets =>
        rw [entry, if_neg hname, if_neg hversion, if_neg htargets]

/-- The fields hold what the entries assign to their keys. -/
structure Holds (fields : ManifestFields) (entries : List (String × Value)) : Prop where
  uniqueName : ∀ s, fields.uniqueName = some s ↔ ("unique_name", .string s) ∈ entries
  abiVersion : ∀ w : UInt32,
    fields.abiVersion = some w ↔ ("abi_version", .integer w.toNat) ∈ entries
  targets : ∀ ts, fields.targets = some ts ↔ ("targets", .array (ts.map .string)) ∈ entries

/-- An entry with a new key is held afterwards, and so is what was held before. -/
theorem Holds.entry {fields after : ManifestFields} {entries : List (String × Value)}
    (h : fields.Holds entries) {key : String} {v : Value} (hnew : key ∉ entries.map Prod.fst)
    (hentry : fields.Takes key v after) : after.Holds (entries ++ [(key, v)]) := by
  have hfresh : ∀ v', (key, v') ∉ entries := fun v' hmem => hnew (List.mem_map_of_mem hmem)
  cases hentry with
  | uniqueName s =>
      exact ⟨fun t => by simp [hfresh, eq_comm], fun w => by simp [h.abiVersion],
        fun ts => by simp [h.targets]⟩
  | abiVersion w =>
      exact ⟨fun t => by simp [h.uniqueName],
        fun w' => by simp [hfresh, eq_comm, UInt32.toNat_inj], fun ts => by simp [h.targets]⟩
  | targets ts =>
      refine ⟨fun t => by simp [h.uniqueName], fun w => by simp [h.abiVersion], fun ts' => ?_⟩
      have hinj : ts'.map Value.string = ts.map Value.string ↔ ts' = ts :=
        (List.map_injective_iff.2 fun s t hst => Toml.Value.string.inj hst).eq_iff
      simp only [Option.some.injEq, List.mem_append, hfresh, false_or, List.mem_singleton,
        Prod.mk.injEq, true_and, Toml.Value.array.injEq, hinj]
      exact eq_comm
  | other key v hname hversion htargets =>
      exact ⟨fun t => by simp [h.uniqueName, hname.symm],
        fun w => by simp [h.abiVersion, hversion.symm],
        fun ts => by simp [h.targets, htargets.symm]⟩

/-- Takes up one assignment. -/
def takeUp (fields : ManifestFields) (entry : String × Value) : Except Fault ManifestFields :=
  fields.entry entry.1 entry.2

/-- After all entries have been taken up, the fields hold what they assign. -/
theorem Holds.foldlM {fields after : ManifestFields} {done entries : List (String × Value)}
    (h : fields.Holds done) (hnodup : ((done ++ entries).map Prod.fst).Nodup)
    (hentries : entries.foldlM takeUp fields = .ok after) : after.Holds (done ++ entries) := by
  -- on the entries still to come: each has a key that none of those before it has
  induction entries generalizing fields done with
  | nil =>
      cases hentries
      rwa [List.append_nil]
  | cons entry entries ih =>
      obtain ⟨between, hentry, hrest⟩ := exists_of_bind_eq_ok hentries
      have hnew : entry.1 ∉ done.map Prod.fst := by
        intro hmem
        rw [List.map_append, List.nodup_append] at hnodup
        exact hnodup.2.2 _ hmem _ List.mem_cons_self rfl
      rw [List.append_cons] at hnodup ⊢
      exact ih (h.entry hnew (entry_eq_ok_iff.1 hentry)) hnodup hrest

/-- All entries are taken up if each of them can be. -/
theorem exists_foldlM {entries : List (String × Value)} (fields : ManifestFields)
    (h : ∀ entry ∈ entries, ∀ fields : ManifestFields,
      ∃ after, fields.Takes entry.1 entry.2 after) :
    ∃ after, entries.foldlM takeUp fields = .ok after := by
  induction entries generalizing fields with
  | nil => exact ⟨fields, rfl⟩
  | cons entry entries ih =>
      obtain ⟨hentry, hentries⟩ := List.forall_mem_cons.1 h
      obtain ⟨between, hbetween⟩ := hentry fields
      obtain ⟨after, hafter⟩ := ih between hentries
      refine ⟨after, ?_⟩
      have htake : fields.takeUp entry = .ok between := entry_eq_ok_iff.2 hbetween
      rw [List.foldlM_cons, htake]
      exact hafter

theorem finish_eq_ok_iff {fields : ManifestFields} {m : Manifest} :
    fields.finish = .ok m ↔ fields.uniqueName = some m.uniqueName
      ∧ fields.abiVersion = some m.abiVersion ∧ fields.targets = some m.targets := by
  obtain ⟨uniqueName, abiVersion, targets⟩ := fields
  obtain ⟨s, w, ts⟩ := m
  cases uniqueName <;> cases abiVersion <;> cases targets <;> simp [finish]

end ManifestFields

/-! ## Documents -/

namespace Manifest

/-- The keys of a manifest. -/
def keys : List String := ["unique_name", "abi_version", "targets"]

/-- What the document of a manifest assigns to its keys. -/
def assignments (m : Manifest) : List (String × Value) :=
  [("unique_name", .string m.uniqueName), ("abi_version", .integer m.abiVersion.toNat),
    ("targets", .array (m.targets.map .string))]

theorem fits_of_mem_assignments {m : Manifest} {entry : String × Value}
    (h : entry ∈ m.assignments) : entry.2.fits = true := by
  have hlt : m.abiVersion.toNat < 4294967296 := m.abiVersion.toNat_lt
  simp only [assignments, List.mem_cons, List.not_mem_nil, or_false] at h
  rcases h with rfl | rfl | rfl
  · rfl
  · rw [Toml.Value.fits, Toml.fitsWord, decide_eq_true_iff]
    omega
  · rfl

/-- Fields that hold what some entries assign amount to a manifest if its assignments are among
them. -/
theorem finish_iff_of_holds {fields : ManifestFields} {entries : List (String × Value)}
    (h : fields.Holds entries) {m : Manifest} :
    fields.finish = .ok m ↔ m.assignments ⊆ entries := by
  rw [ManifestFields.finish_eq_ok_iff, h.uniqueName, h.abiVersion, h.targets]
  simp [assignments]

/-- If the assignments of a manifest are among entries without a key twice, every one of them can
be taken up. -/
theorem exists_takes {m : Manifest} {entries : List (String × Value)}
    (hnodup : (entries.map Prod.fst).Nodup) (h : m.assignments ⊆ entries) {entry : String × Value}
    (hentry : entry ∈ entries) (fields : ManifestFields) :
    ∃ after, fields.Takes entry.1 entry.2 after := by
  have hsame : ∀ {key v}, (key, v) ∈ m.assignments → entry.1 = key → entry = (key, v) :=
    fun hmem hkey => List.inj_on_of_nodup_map hnodup hentry (h hmem) hkey
  by_cases hname : entry.1 = "unique_name"
  · have heq : entry = ("unique_name", .string m.uniqueName) :=
      hsame (by simp [assignments]) hname
    rw [heq]
    exact ⟨_, .uniqueName m.uniqueName⟩
  by_cases hversion : entry.1 = "abi_version"
  · have heq : entry = ("abi_version", .integer m.abiVersion.toNat) :=
      hsame (by simp [assignments]) hversion
    rw [heq]
    exact ⟨_, .abiVersion m.abiVersion⟩
  by_cases htargets : entry.1 = "targets"
  · have heq : entry = ("targets", .array (m.targets.map .string)) :=
      hsame (by simp [assignments]) htargets
    rw [heq]
    exact ⟨_, .targets m.targets⟩
  · exact ⟨fields, .other _ _ hname hversion htargets⟩

/-- **What a document is read as.** A text that spells assignments is read as a manifest exactly
if all of them can be read and those of the manifest are among them. -/
theorem parse_eq_ok_iff {entries : List (String × Value)} {text : List Char}
    (h : SpellsDocument entries text) {m : Manifest} :
    parse (Utf8.encode text) = .ok m ↔ Readable entries ∧ m.assignments ⊆ entries := by
  have hparse : parse (Utf8.encode text) = .ok m ↔ ofText text = .ok m := by
    simp only [parse, Utf8.decode_encode]
    cases ofText text <;> simp
  rw [hparse]
  cases hitems : Toml.parse? text with
  | none =>
      have hnot : ¬Readable entries := by
        intro hreadable
        rw [(Toml.parse?_of_spells h).2 ⟨hreadable, rfl⟩] at hitems
        cases hitems
      have herror : ofText text = .error .malformed := by
        rw [ofText, hitems]
        rfl
      simp [herror, hnot]
  | some items =>
      obtain ⟨hreadable, rfl⟩ := (Toml.parse?_of_spells h).1 hitems
      have hfields : ofText text = entries.foldlM ManifestFields.takeUp ⟨none, none, none⟩ >>=
          ManifestFields.finish := by
        rw [ofText, hitems, Toml.asItems]
        show List.foldlM (m := Except Fault) _ _ (entries.map _) >>= _ = _
        rw [List.foldlM_map]
        rfl
      have hnone : ManifestFields.Holds ⟨none, none, none⟩ [] := ⟨by simp, by simp, by simp⟩
      rw [hfields, and_iff_right hreadable]
      constructor
      · intro hok
        obtain ⟨fields, hfold, hfinish⟩ := exists_of_bind_eq_ok hok
        exact (finish_iff_of_holds (hnone.foldlM hreadable.nodup hfold)).1 hfinish
      · intro hsubset
        obtain ⟨fields, hfold⟩ := ManifestFields.exists_foldlM ⟨none, none, none⟩
          fun entry hentry => exists_takes hreadable.nodup hsubset hentry
        rw [hfold]
        exact (finish_iff_of_holds (hnone.foldlM hreadable.nodup hfold)).2 hsubset

/-- Every manifest has a document, with a line for each of its keys. -/
theorem exists_spellsDocument (m : Manifest) : ∃ text, SpellsDocument m.assignments text := by
  obtain ⟨name, hname⟩ := Toml.exists_spellsString m.uniqueName
  obtain ⟨items, hitems⟩ := Toml.exists_spellsItems m.targets
  have hversion := Toml.SpellsInteger.unsigned _ _ (Toml.spellsNumeral_toDigits m.abiVersion.toNat)
  exact ⟨_, .inl (.cons (Toml.spellsLine_bare (by decide) (by decide) (.string hname)) (.inl rfl)
    (.cons (Toml.spellsLine_bare (by decide) (by decide) (.integer hversion)) (.inl rfl)
      (.last (Toml.spellsLine_bare (by decide) (by decide) (.array hitems)))))⟩

/-- What is read as no manifest is refused. -/
theorem exists_error {bytes : Bytes} (h : ∀ m, parse bytes ≠ .ok m) :
    ∃ e, parse bytes = .error e := by
  cases hparse : parse bytes with
  | error e => exact ⟨e, rfl⟩
  | ok m => exact absurd hparse (h m)

/-- **Manifests are read exactly.** A text that spells the assignments of a manifest, in any
order and with others to further keys between them, is read as this manifest. A text is refused
if the version it assigns does not fit 32 bits, or if one of the keys is missing or assigned
twice. -/
theorem reads_exactly :
    (∀ (m : Manifest) (others entries : List (String × Value)) (text : List Char),
      SpellsDocument entries text → entries.Perm (m.assignments ++ others) →
      (others.map Prod.fst).Nodup → (∀ key ∈ others.map Prod.fst, key ∉ keys) →
      (∀ entry ∈ others, entry.2.fits = true) → parse (Utf8.encode text) = .ok m)
    ∧ ∀ (entries : List (String × Value)) (text : List Char), SpellsDocument entries text →
      (∀ n, ("abi_version", .integer n) ∈ entries → ¬(0 ≤ n ∧ n ≤ 4294967295) →
        ∃ e, parse (Utf8.encode text) = .error e)
      ∧ ∀ key ∈ keys, (key ∉ entries.map Prod.fst ∨ 2 ≤ (entries.map Prod.fst).count key) →
        ∃ e, parse (Utf8.encode text) = .error e := by
  constructor
  · intro m others entries text h hperm hnodup hothers hfits
    have hfirst : (m.assignments.map Prod.fst).Nodup := by
      show keys.Nodup
      decide
    have hreadable : Readable entries := by
      constructor
      · rw [(hperm.map Prod.fst).nodup_iff, List.map_append, List.nodup_append]
        refine ⟨hfirst, hnodup, ?_⟩
        rintro key hkey key' hkey' rfl
        exact hothers key hkey' hkey
      · intro entry hentry
        rcases List.mem_append.1 (hperm.mem_iff.1 hentry) with hmem | hmem
        · exact fits_of_mem_assignments hmem
        · exact hfits entry hmem
    refine (parse_eq_ok_iff h).2 ⟨hreadable, fun entry hentry => ?_⟩
    exact hperm.mem_iff.2 (List.mem_append_left others hentry)
  · intro entries text h
    refine ⟨fun n hn hrange => exists_error fun m hm => ?_,
      fun key hkey hmissing => exists_error fun m hm => ?_⟩
    · obtain ⟨hreadable, hsubset⟩ := (parse_eq_ok_iff h).1 hm
      have hversion : ("abi_version", Value.integer m.abiVersion.toNat) ∈ entries :=
        hsubset (by simp [assignments])
      have heq := List.inj_on_of_nodup_map hreadable.nodup hn hversion rfl
      obtain rfl : n = m.abiVersion.toNat := by simpa using heq
      have hlt : m.abiVersion.toNat < 4294967296 := m.abiVersion.toNat_lt
      omega
    · obtain ⟨hreadable, hsubset⟩ := (parse_eq_ok_iff h).1 hm
      rcases hmissing with hmissing | htwice
      · exact hmissing (List.map_subset Prod.fst hsubset hkey)
      · exact absurd (List.nodup_iff_count_le_one.1 hreadable.nodup key) (by omega)

/-- A manifest for one target. -/
def sample : Manifest := ⟨"aB", 7, ["x"]⟩

/-- Its assignments with one more between them, and with a version of any size. -/
def sampleEntries (version : Nat) : List (String × Value) :=
  [("unique_name", .string "aB"), ("hidden", .boolean true), ("abi_version", .integer version),
    ("targets", .array [.string "x"])]

/-- A text of these with a comment, an escape and a comma behind the last item. -/
def sampleText (version : Nat) : List Char :=
  "# a library\nunique_name = \"a\\u0042\"\nhidden = true\nabi_version = ".toList
    ++ Nat.toDigits 10 version ++ "\ntargets = [\"x\",]\n".toList

theorem sample_spells (version : Nat) :
    SpellsDocument (sampleEntries version) (sampleText version) := by
  have hnone : Toml.IsFiller [] := .blank (List.forall_mem_nil _)
  have hcomment : Toml.IsLineRest ('#' :: " a library".toList) :=
    ⟨[], _, List.forall_mem_nil _, .inr ⟨" a library".toList, by simp [Toml.IsOrdinary], rfl⟩, rfl⟩
  have hend : Toml.IsLineRest [] := ⟨[], [], List.forall_mem_nil _, .inl rfl, rfl⟩
  have hname : Toml.SpellsString "aB" ('"' :: 'a' :: '\\' :: 'u' :: "0042\"".toList) := by
    refine ⟨[['a'], ['\\', 'u', '0', '0', '4', '2']], .cons (.literal ?_ ?_ ?_) ?_, ?_⟩
    · decide
    · decide
    · decide
    · exact .cons (.four _
        ⟨0, 0, 4, 2, '0', '0', '4', '2', .inl rfl, .inl rfl, .inl rfl, .inl rfl, rfl, rfl⟩) .nil
    · simp
  have hversion := Toml.SpellsInteger.unsigned _ _ (Toml.spellsNumeral_toDigits version)
  have hitem : Toml.SpellsString "x" _ := Toml.spellsString_literal (by simp [Toml.IsOrdinary])
  have hitems : Toml.SpellsItems ["x"] _ := .cons hnone hitem hnone (.nil hnone)
  have hlines : Toml.SpellsLines (sampleEntries version) _ :=
    .cons (.blank hcomment) (.inl rfl)
      (.cons (Toml.spellsLine_bare (by decide) (by decide) (.string hname)) (.inl rfl)
        (.cons (Toml.spellsLine_bare (by decide) (by decide) (.boolean true)) (.inl rfl)
          (.cons (Toml.spellsLine_bare (by decide) (by decide) (.integer hversion)) (.inl rfl)
            (.cons (Toml.spellsLine_bare (by decide) (by decide) (.array hitems)) (.inl rfl)
              (.last (.blank hend))))))
  unfold sampleText
  exact .inl (by simpa using hlines)

theorem reads_exactly_sample :
    parse (Utf8.encode (sampleText 7)) = .ok sample
    ∧ (∃ e, parse (Utf8.encode (sampleText 4294967296)) = .error e)
    ∧ (∃ e, parse (Utf8.encode "targets = []".toList) = .error e)
    ∧ ∃ e, parse (Utf8.encode "targets = []\ntargets = []".toList) = .error e := by
  have hline : Toml.SpellsLine (some ("targets", .array ([].map .string))) _ :=
    Toml.spellsLine_bare (by decide) (by decide) (.array (.nil (.blank (List.forall_mem_nil _))))
  have honce : SpellsDocument [("targets", .array [])] "targets = []".toList :=
    .inl (by simpa using Toml.SpellsLines.last hline)
  have htwice : SpellsDocument [("targets", .array []), ("targets", .array [])]
      "targets = []\ntargets = []".toList :=
    .inl (by simpa using Toml.SpellsLines.cons hline (.inl rfl) (.last hline))
  refine ⟨reads_exactly.1 sample [("hidden", .boolean true)] _ _ (sample_spells 7) ?_ ?_ ?_ ?_,
    ?_, ?_, ?_⟩
  · exact .cons _ (.trans (.swap _ _ _) (.cons _ (.swap _ _ _)))
  · decide
  · decide
  · rintro entry hentry
    rw [List.mem_singleton.1 hentry]
    rfl
  · exact (reads_exactly.2 _ _ (sample_spells 4294967296)).1 4294967296 (by simp [sampleEntries])
      (by omega)
  · exact (reads_exactly.2 _ _ honce).2 "unique_name" (by decide) (.inl (by decide))
  · exact (reads_exactly.2 _ _ htwice).2 "targets" (by decide) (.inr (by decide))

end Manifest

end Linkage
