import Linkage.Proofs.LanguageVersion
import Linkage.Proofs.Library

set_option autoImplicit false

/-! # Which metadata fit a library

Metadata fit a library if they are those of a module with its name, for a language version
that is not newer than the one in use. All other contents of a metadata entry are refused for
the first of three reasons that applies (`Library.Refused`): they are no metadata, they
describe another module, or they are too new.

Only the last reason depends on the version in use. What fits for one version fits for all
later ones, and what is too new for one is too new for all earlier ones
(`Library.parseModule_gate`). The wordings of the reasons start with different letters, so a
reason can be told from its wording (`Library.refused_tooNew_iff`).
-/

namespace Linkage.Library

variable {l : Library} {version : LanguageVersion} {contents : Bytes} {m : Module}
  {reason : String}

/-! ## Wordings -/

/-- The wording for metadata of another module. -/
def otherModule (name : String) : String := "metadata describes module '" ++ name ++ "'"

/-- The wording for metadata that are too new. -/
def tooNew (compiled running : LanguageVersion) : String :=
  "compiled with language version " ++ compiled.text ++ ", newer than " ++ running.text

theorem head?_toList_append {first : String} {c : Char} (h : first.toList.head? = some c)
    (rest : String) : (first ++ rest).toList.head? = some c := by
  rw [String.toList_append, List.head?_append, h]
  rfl

theorem head?_otherModule (name : String) : (otherModule name).toList.head? = some 'm' := by
  apply head?_toList_append
  apply head?_toList_append
  rfl

theorem head?_tooNew (compiled running : LanguageVersion) :
    (tooNew compiled running).toList.head? = some 'c' := by
  apply head?_toList_append
  apply head?_toList_append
  apply head?_toList_append
  rfl

theorem head?_message (fault : Schema.Fault) :
    ∃ c ∈ ['s', 'i', 'u', 'd', 'm'], fault.message.toList.head? = some c := by
  have htwo : ∀ {first : String} {c : Char}, first.toList.head? = some c → ∀ second third,
      (first ++ second ++ third).toList.head? = some c :=
    fun h _ _ => head?_toList_append (head?_toList_append h _) _
  cases fault with
  | malformed => exact ⟨'s', by decide, rfl⟩
  | invalidType found expected =>
      exact ⟨'i', by decide, head?_toList_append (htwo rfl _ _) expected⟩
  | invalidValue found expected =>
      exact ⟨'i', by decide, head?_toList_append (htwo rfl _ _) expected⟩
  | invalidLength length expected =>
      exact ⟨'i', by decide, head?_toList_append (htwo rfl _ _) expected⟩
  | unknownField name known => exact ⟨'u', by decide, head?_toList_append (htwo rfl _ _) _⟩
  | unknownVariant name known => exact ⟨'u', by decide, head?_toList_append (htwo rfl _ _) _⟩
  | duplicateField name => exact ⟨'d', by decide, head?_toList_append rfl _⟩
  | missingField name => exact ⟨'m', by decide, head?_toList_append rfl _⟩
  | invalidVersion text => exact ⟨'i', by decide, htwo rfl text _⟩

/-- The wording says which version the metadata are for. -/
theorem tooNew_inj {compiled compiled' running : LanguageVersion} :
    tooNew compiled running = tooNew compiled' running ↔ compiled = compiled' := by
  unfold tooNew
  rw [String.append_left_inj, String.append_left_inj, String.append_right_inj,
    LanguageVersion.text_inj]

/-! ## Contents that fit and contents that are refused -/

/-- The contents of a metadata entry fit a library: they are metadata of a module with its
name, for a version that is not newer than the one in use. -/
def Fits (l : Library) (version : LanguageVersion) (contents : Bytes)
    (metadata : ModuleMetadata) : Prop :=
  ModuleMetadata.parse contents = .ok metadata ∧ metadata.name = l.name
    ∧ metadata.languageVersion ≤ version

/-- The reasons that the contents of a metadata entry are refused for. Each of them applies
only where the ones before it do not. -/
inductive Refused (l : Library) (version : LanguageVersion) (contents : Bytes) : String → Prop
  | unreadable (fault : Schema.Fault) (hparse : ModuleMetadata.parse contents = .error fault) :
      Refused l version contents fault.message
  | otherModule (metadata : ModuleMetadata)
      (hparse : ModuleMetadata.parse contents = .ok metadata) (hname : metadata.name ≠ l.name) :
      Refused l version contents (otherModule metadata.name)
  | tooNew (metadata : ModuleMetadata) (hparse : ModuleMetadata.parse contents = .ok metadata)
      (hname : metadata.name = l.name) (hversion : version < metadata.languageVersion) :
      Refused l version contents (tooNew metadata.languageVersion version)

section Module

variable {metadata : ModuleMetadata}

theorem moduleOf_of_ne (hname : metadata.name ≠ l.name) :
    l.moduleOf version metadata = .error (otherModule metadata.name) :=
  if_pos (bne_iff_ne.2 hname)

theorem moduleOf_of_lt (hname : metadata.name = l.name)
    (hversion : version < metadata.languageVersion) :
    l.moduleOf version metadata = .error (tooNew metadata.languageVersion version) := by
  have hsame : ¬(metadata.name != l.name) = true := by simp [hname]
  rw [moduleOf, if_neg hsame, if_pos (LanguageVersion.newerThan_iff.2 hversion)]
  rfl

theorem moduleOf_of_le (hname : metadata.name = l.name)
    (hversion : metadata.languageVersion ≤ version) :
    l.moduleOf version metadata
      = .ok (.unlinked metadata.name l.path metadata.declarations) := by
  have hsame : ¬(metadata.name != l.name) = true := by simp [hname]
  have hold : ¬metadata.languageVersion.newerThan version = true := by
    rw [LanguageVersion.newerThan_iff]
    exact not_lt.2 hversion
  rw [moduleOf, if_neg hsame, if_neg hold]

end Module

theorem parseModule_of_fits {metadata : ModuleMetadata} (h : l.Fits version contents metadata) :
    l.parseModule version contents
      = .ok (.unlinked metadata.name l.path metadata.declarations) := by
  obtain ⟨hparse, hname, hversion⟩ := h
  rw [parseModule, hparse]
  simp only [moduleOf_of_le hname hversion]

theorem parseModule_of_refused (h : l.Refused version contents reason) :
    l.parseModule version contents = .error (.metadata l.name l.path reason) := by
  rw [parseModule]
  cases h with
  | unreadable fault hparse => rw [hparse]
  | otherModule metadata hparse hname =>
      rw [hparse]
      simp only [moduleOf_of_ne hname]
  | tooNew metadata hparse hname hversion =>
      rw [hparse]
      simp only [moduleOf_of_lt hname hversion]

/-- All contents fit or are refused. -/
theorem fits_or_refused (l : Library) (version : LanguageVersion) (contents : Bytes) :
    (∃ metadata, l.Fits version contents metadata)
      ∨ ∃ reason, l.Refused version contents reason := by
  cases hparse : ModuleMetadata.parse contents with
  | error fault => exact Or.inr ⟨_, .unreadable fault hparse⟩
  | ok metadata =>
      by_cases hname : metadata.name = l.name
      · rcases le_or_gt metadata.languageVersion version with hversion | hversion
        · exact Or.inl ⟨metadata, hparse, hname, hversion⟩
        · exact Or.inr ⟨_, .tooNew metadata hparse hname hversion⟩
      · exact Or.inr ⟨_, .otherModule metadata hparse hname⟩

/-- Exactly the contents that fit give a module. -/
theorem parseModule_eq_ok_iff : l.parseModule version contents = .ok m ↔
    ∃ metadata, l.Fits version contents metadata
      ∧ m = .unlinked metadata.name l.path metadata.declarations := by
  constructor
  · intro h
    rcases fits_or_refused l version contents with ⟨metadata, hfits⟩ | ⟨reason, hrefused⟩
    · rw [parseModule_of_fits hfits] at h
      exact ⟨metadata, hfits, (Except.ok.inj h).symm⟩
    · rw [parseModule_of_refused hrefused] at h
      cases h
  · rintro ⟨metadata, hfits, rfl⟩
    exact parseModule_of_fits hfits

/-- Exactly the contents that are refused give a failure, which names the library, its path
and the reason. -/
theorem parseModule_eq_error_iff {e : LoadError} : l.parseModule version contents = .error e ↔
    ∃ reason, l.Refused version contents reason ∧ e = .metadata l.name l.path reason := by
  constructor
  · intro h
    rcases fits_or_refused l version contents with ⟨metadata, hfits⟩ | ⟨reason, hrefused⟩
    · rw [parseModule_of_fits hfits] at h
      cases h
    · rw [parseModule_of_refused hrefused] at h
      exact ⟨reason, hrefused, (Except.error.inj h).symm⟩
  · rintro ⟨reason, hrefused, rfl⟩
    exact parseModule_of_refused hrefused

/-! ## Other versions -/

/-- The wording of the last reason is used for this reason only. -/
theorem refused_tooNew_iff {compiled : LanguageVersion} :
    l.Refused version contents (tooNew compiled version) ↔
      ∃ metadata, ModuleMetadata.parse contents = .ok metadata ∧ metadata.name = l.name
        ∧ metadata.languageVersion = compiled ∧ version < compiled := by
  constructor
  · intro h
    generalize hreason : tooNew compiled version = reason at h
    have hhead : reason.toList.head? = some 'c' := hreason ▸ head?_tooNew compiled version
    cases h with
    | unreadable fault hparse =>
        obtain ⟨c, hc, hmessage⟩ := head?_message fault
        rw [hmessage] at hhead
        rw [Option.some.inj hhead] at hc
        exact absurd hc (by decide)
    | otherModule metadata hparse hname =>
        rw [head?_otherModule] at hhead
        exact absurd (Option.some.inj hhead) (by decide)
    | tooNew metadata hparse hname hversion =>
        obtain rfl := tooNew_inj.1 hreason
        exact ⟨metadata, hparse, hname, rfl, hversion⟩
  · rintro ⟨metadata, hparse, hname, rfl, hversion⟩
    exact .tooNew metadata hparse hname hversion

/-- What fits for a version fits for the later ones. -/
theorem Fits.mono {metadata : ModuleMetadata} {version' : LanguageVersion}
    (h : l.Fits version contents metadata) (hle : version ≤ version') :
    l.Fits version' contents metadata :=
  ⟨h.1, h.2.1, h.2.2.trans hle⟩

/-- **Which metadata are accepted.**

* The contents of a metadata entry give a module exactly if they are metadata with the name
  of the library, for a version that is not newer than the one in use. The module has this
  name, the path of the library and the declarations in their order, and it is not linked.
* All other contents are refused for a reason, and the failure names the library and its path.
  Another name counts before a version that is too new.
* What is accepted for one version is accepted for all later ones, with the same module.
* What is refused as too new for one version is refused as too new for all earlier ones. -/
theorem parseModule_gate (l : Library) (contents : Bytes) :
    (∀ version m, l.parseModule version contents = .ok m ↔
      ∃ metadata, ModuleMetadata.parse contents = .ok metadata ∧ metadata.name = l.name
        ∧ metadata.languageVersion ≤ version
        ∧ m = ⟨metadata.name, l.path, metadata.declarations, none⟩)
    ∧ (∀ version e, l.parseModule version contents = .error e ↔
      ∃ reason, l.Refused version contents reason ∧ e = .metadata l.name l.path reason)
    ∧ (∀ version later m, version ≤ later → l.parseModule version contents = .ok m →
      l.parseModule later contents = .ok m)
    ∧ ∀ version earlier compiled, earlier < version →
      l.parseModule version contents = .error (.metadata l.name l.path (tooNew compiled version)) →
      l.parseModule earlier contents
        = .error (.metadata l.name l.path (tooNew compiled earlier)) := by
  refine ⟨?_, ?_, ?_, ?_⟩
  · intro version m
    rw [parseModule_eq_ok_iff]
    constructor
    · rintro ⟨metadata, ⟨hparse, hname, hversion⟩, rfl⟩
      exact ⟨metadata, hparse, hname, hversion, rfl⟩
    · rintro ⟨metadata, hparse, hname, hversion, rfl⟩
      exact ⟨metadata, ⟨hparse, hname, hversion⟩, rfl⟩
  · intro version e
    exact parseModule_eq_error_iff
  · intro version later m hle h
    obtain ⟨metadata, hfits, hm⟩ := parseModule_eq_ok_iff.1 h
    exact parseModule_eq_ok_iff.2 ⟨metadata, hfits.mono hle, hm⟩
  · intro version earlier compiled hlt h
    obtain ⟨reason, hrefused, he⟩ := parseModule_eq_error_iff.1 h
    have hreason : tooNew compiled version = reason := (LoadError.metadata.inj he).2.2
    rw [← hreason, refused_tooNew_iff] at hrefused
    obtain ⟨metadata, hparse, hname, hcompiled, hversion⟩ := hrefused
    apply parseModule_of_refused
    apply refused_tooNew_iff.2
    exact ⟨metadata, hparse, hname, hcompiled, hlt.trans hversion⟩

/-- The library `foo` in a directory. -/
def unpackedFoo : Library :=
  ⟨⟨"foo", .unpacked (Path.ofString "repo/foo")⟩, ⟨"foo", 1, ["linux_x64"]⟩⟩

/-- The metadata of a module `foo` for version 1.10. -/
def fooMetadataOfTen : Bytes :=
  Archive.ascii "\x7b\"name\": \"foo\", \"language_version\": \"1.10\"\x7d"

/-- Metadata for version 1.10 are too new for 1.9, and so for 1.8. They fit from 1.10 on. -/
theorem parseModule_gate_foo :
    unpackedFoo.parseModule ⟨1, 9⟩ fooMetadataOfTen
      = .error (.metadata "foo" (Path.ofString "repo/foo") (tooNew ⟨1, 10⟩ ⟨1, 9⟩))
    ∧ (⟨1, 8⟩ : LanguageVersion) < ⟨1, 9⟩
    ∧ unpackedFoo.parseModule ⟨1, 8⟩ fooMetadataOfTen
      = .error (.metadata "foo" (Path.ofString "repo/foo") (tooNew ⟨1, 10⟩ ⟨1, 8⟩))
    ∧ unpackedFoo.parseModule ⟨1, 10⟩ fooMetadataOfTen
      = .ok (.unlinked "foo" (Path.ofString "repo/foo") [])
    ∧ (⟨1, 10⟩ : LanguageVersion) ≤ ⟨2, 0⟩
    ∧ unpackedFoo.parseModule ⟨2, 0⟩ fooMetadataOfTen
      = .ok (.unlinked "foo" (Path.ofString "repo/foo") []) := by
  have hnew : unpackedFoo.parseModule ⟨1, 9⟩ fooMetadataOfTen
      = .error (.metadata "foo" (Path.ofString "repo/foo") (tooNew ⟨1, 10⟩ ⟨1, 9⟩)) := by
    decide +kernel
  have hfits : unpackedFoo.parseModule ⟨1, 10⟩ fooMetadataOfTen
      = .ok (.unlinked "foo" (Path.ofString "repo/foo") []) := by decide +kernel
  have hearlier : (⟨1, 8⟩ : LanguageVersion) < ⟨1, 9⟩ := by decide
  have hlater : (⟨1, 10⟩ : LanguageVersion) ≤ ⟨2, 0⟩ := by decide
  obtain ⟨-, -, hup, hdown⟩ := parseModule_gate unpackedFoo fooMetadataOfTen
  exact ⟨hnew, hearlier, hdown _ _ _ hearlier hnew, hfits, hlater, hup _ _ _ hlater hfits⟩

end Linkage.Library
