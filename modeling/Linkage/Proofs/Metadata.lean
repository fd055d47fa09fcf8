import Linkage.Metadata
import Linkage.Proofs.Json.Reading
import Linkage.Proofs.Json.Record
import Linkage.Proofs.LanguageVersion
import Linkage.Proofs.Text.Decoding

set_option autoImplicit false

/-! # Metadata are read back

The metadata of a module can be written in many ways: the members of the record and those of
its declarations in any order, the declarations left out if there are none, and a visibility
left out if it is public. `ModuleMetadata.Represents` says which JSON values these are, and
each of them has many texts. From all of these texts the metadata are read back
(`ModuleMetadata.parse_of_renders`).
-/

namespace Linkage

open Schema (Fault)
open Json.Record (fill_eq_ok_iff)

/-! ## Declarations -/

namespace Declaration

/-- The fields of a declaration. -/
def slots : List (Json.Record.Slot DeclarationFields) :=
  [⟨"name", String, Json.asString, DeclarationFields.name,
      fun name fields => { fields with name := some name }⟩,
    ⟨"kind", DeclarationKind, Json.asChoice DeclarationKind.names, DeclarationFields.kind,
      fun kind fields => { fields with kind := some kind }⟩,
    ⟨"visibility", Visibility, Json.asChoice Visibility.names, DeclarationFields.visibility,
      fun visibility fields => { fields with visibility := some visibility }⟩]

theorem hasSlots_record : record.HasSlots slots where
  field_iff := by
    intro state key value after
    show state.field key value = _ ↔ _
    unfold DeclarationFields.field
    by_cases hname : key = "name"
    · rw [if_pos hname, fill_eq_ok_iff]
      simp [slots, Json.Record.Slot.Takes, hname]
    · rw [if_neg hname]
      by_cases hkind : key = "kind"
      · rw [if_pos hkind, fill_eq_ok_iff]
        simp [slots, Json.Record.Slot.Takes, hkind]
      · rw [if_neg hkind]
        by_cases hvisibility : key = "visibility"
        · rw [if_pos hvisibility, fill_eq_ok_iff]
          simp [slots, Json.Record.Slot.Takes, hvisibility]
        · simp [slots, Json.Record.Slot.Takes, hname, hkind, hvisibility]
  get_set := by simp [slots]
  independent := by simp [slots, Json.Record.Slot.independent_iff]

theorem choose_kind (kind : DeclarationKind) :
    Json.choose DeclarationKind.names kind.name = .ok kind := by
  cases kind <;> rfl

theorem choose_visibility (visibility : Visibility) :
    Json.choose Visibility.names visibility.name = .ok visibility := by
  cases visibility <;> rfl

/-- The members that every declaration has. -/
def requiredMembers (d : Declaration) : List (String × Json) :=
  [("name", .string d.name), ("kind", .string d.kind.name)]

/-- A value represents a declaration: an object with its members in some order, the
visibility among them unless it is public. -/
def Represents (d : Declaration) (v : Json) : Prop :=
  ∃ members, v = Json.ofMembers members
    ∧ (members.Perm (d.requiredMembers ++ [("visibility", .string d.visibility.name)])
      ∨ d.visibility = .exported ∧ members.Perm d.requiredMembers)

/-- What represents a declaration is decoded as the declaration. -/
theorem decode_of_represents {d : Declaration} {v : Json} (h : d.Represents v) :
    record.decode v = .ok d := by
  obtain ⟨members, rfl, hperm | ⟨hpublic, hperm⟩⟩ := h
  · refine Json.Record.decode_of_perm hasSlots_record hperm.symm ?_
    simp [requiredMembers, Json.ofMembers, Json.Record.decode, Json.Record.takeMembers, record,
      DeclarationFields.field, DeclarationFields.finish, Json.asString, Json.asChoice, choose_kind,
      choose_visibility, bind, Except.bind, pure, Except.pure]
  · refine Json.Record.decode_of_perm hasSlots_record hperm.symm ?_
    simp [requiredMembers, Json.ofMembers, Json.Record.decode, Json.Record.takeMembers, record,
      DeclarationFields.field, DeclarationFields.finish, Json.asString, Json.asChoice, choose_kind,
      ← hpublic, bind, Except.bind, pure, Except.pure]

/-- The object that a declaration is written as represents it. -/
theorem represents_toJson (d : Declaration) : d.Represents d.toJson :=
  ⟨_, rfl, .inl (.refl _)⟩

theorem renders_print_toJson (d : Declaration) : Json.Renders d.toJson (Json.print d.toJson) := by
  refine Json.renders_print_ofMembers ?_
  simp only [List.forall_mem_cons]
  exact ⟨Json.rendersString_print _, Json.rendersString_print _, Json.rendersString_print _,
    List.forall_mem_nil _⟩

end Declaration

/-! ## Modules -/

namespace ModuleMetadata

/-- The fields of a module's metadata. -/
def slots : List (Json.Record.Slot ModuleFields) :=
  [⟨"name", String, Json.asString, ModuleFields.name,
      fun name fields => { fields with name := some name }⟩,
    ⟨"language_version", LanguageVersion, Json.asVersion, ModuleFields.languageVersion,
      fun version fields => { fields with languageVersion := some version }⟩,
    ⟨"declarations", List Declaration, Json.asList Declaration.record.decode,
      ModuleFields.declarations,
      fun declarations fields => { fields with declarations := some declarations }⟩]

theorem hasSlots_record : record.HasSlots slots where
  field_iff := by
    intro state key value after
    show state.field key value = _ ↔ _
    unfold ModuleFields.field
    by_cases hname : key = "name"
    · rw [if_pos hname, fill_eq_ok_iff]
      simp [slots, Json.Record.Slot.Takes, hname]
    · rw [if_neg hname]
      by_cases hversion : key = "language_version"
      · rw [if_pos hversion, fill_eq_ok_iff]
        simp [slots, Json.Record.Slot.Takes, hversion]
      · rw [if_neg hversion]
        by_cases hdeclarations : key = "declarations"
        · rw [if_pos hdeclarations, fill_eq_ok_iff]
          simp [slots, Json.Record.Slot.Takes, hdeclarations]
        · simp [slots, Json.Record.Slot.Takes, hname, hversion, hdeclarations]
  get_set := by simp [slots]
  independent := by simp [slots, Json.Record.Slot.independent_iff]

/-- The members that all metadata have. -/
def requiredMembers (m : ModuleMetadata) : List (String × Json) :=
  [("name", .string m.name), ("language_version", .string m.languageVersion.text)]

/-- A value represents metadata: an object with its members in some order, the declarations
among them unless there are none. -/
def Represents (m : ModuleMetadata) (v : Json) : Prop :=
  ∃ members, v = Json.ofMembers members
    ∧ ((∃ declarations, List.Forall₂ Declaration.Represents m.declarations declarations
        ∧ members.Perm (m.requiredMembers ++ [("declarations", Json.ofItems declarations)]))
      ∨ m.declarations = [] ∧ members.Perm m.requiredMembers)

theorem asVersion_text (version : LanguageVersion) :
    Json.asVersion (.string version.text) = .ok version := by
  simp [Json.asVersion, Json.asString, bind, Except.bind, pure, Except.pure]

theorem asList_of_represents {declarations : List Declaration} {items : List Json}
    (h : List.Forall₂ Declaration.Represents declarations items) :
    Json.asList Declaration.record.decode (Json.ofItems items) = .ok declarations := by
  show Json.decodeItems Declaration.record.decode true items = _
  rw [Json.decodeItems_eq_mapM, Traversal.mapM_eq_ok_iff]
  exact h.flip.imp fun _ _ hd => Declaration.decode_of_represents hd

/-- What represents metadata is decoded as the metadata. -/
theorem decode_of_represents {m : ModuleMetadata} {v : Json} (h : m.Represents v) :
    record.decode v = .ok m := by
  obtain ⟨members, rfl, ⟨declarations, hdeclarations, hperm⟩ | ⟨hnone, hperm⟩⟩ := h
  · refine Json.Record.decode_of_perm hasSlots_record hperm.symm ?_
    simp [requiredMembers, Json.ofMembers, Json.Record.decode, Json.Record.takeMembers, record,
      ModuleFields.field, ModuleFields.finish, Json.asString, asVersion_text,
      asList_of_represents hdeclarations, bind, Except.bind, pure, Except.pure]
  · refine Json.Record.decode_of_perm hasSlots_record hperm.symm ?_
    simp [requiredMembers, Json.ofMembers, Json.Record.decode, Json.Record.takeMembers, record,
      ModuleFields.field, ModuleFields.finish, Json.asString, asVersion_text, ← hnone, bind,
      Except.bind, pure, Except.pure]

theorem represents_toJson (m : ModuleMetadata) : m.Represents m.toJson := by
  refine ⟨_, rfl, .inl ⟨m.declarations.map Declaration.toJson, ?_, .refl _⟩⟩
  rw [List.forall₂_map_right_iff, List.forall₂_same]
  exact fun d _ => d.represents_toJson

theorem renders_print_toJson (m : ModuleMetadata) :
    Json.Renders m.toJson (Json.print m.toJson) := by
  refine Json.renders_print_ofMembers ?_
  simp only [List.forall_mem_cons]
  refine ⟨Json.rendersString_print _, Json.rendersString_print _, Json.renders_print_ofItems ?_,
    List.forall_mem_nil _⟩
  intro item hitem
  obtain ⟨d, -, rfl⟩ := List.mem_map.1 hitem
  exact d.renders_print_toJson

/-- The text of a value is read as the value, and what the value is decoded as is the result. -/
theorem parse_of_rendersText {m : ModuleMetadata} {v : Json} {text : List Char}
    (hv : m.Represents v) (htext : Json.RendersText v text) :
    parse (Utf8.encode text) = .ok m := by
  unfold parse
  simp only [Utf8.decode_encode, Json.readText_of_renders htext, decode_of_represents hv]
  rfl

/-- **Metadata are read back from all their renderings.** Whatever the order of the members, the
blanks and the spelling of the strings, and whether an empty list of declarations and public
visibilities are left out or not, reading gives the metadata. In particular it gives the
metadata that were printed. -/
theorem parse_of_renders (m : ModuleMetadata) :
    (∀ v text, m.Represents v → Json.RendersText v text → parse (Utf8.encode text) = .ok m)
    ∧ parse (Utf8.encode (Json.print m.toJson)) = .ok m :=
  ⟨fun _ _ hv htext => parse_of_rendersText hv htext,
    parse_of_rendersText m.represents_toJson (.of_core m.renders_print_toJson)⟩

/-- Metadata with a public function. -/
def sample : ModuleMetadata := ⟨"foo", ⟨1, 0⟩, [.ofKind "f" .function]⟩

/-- The function in an unusual order and without its visibility. -/
def sampleDeclaration : Json :=
  Json.ofMembers [("kind", .string "function"), ("name", .string "f")]

/-- The metadata in an unusual order. -/
def sampleValue : Json :=
  Json.ofMembers [("declarations", Json.ofItems [sampleDeclaration]),
    ("language_version", .string "1.0"), ("name", .string "foo")]

/-- A text of this value with blanks around it and an escape in it. -/
def sampleText : List Char :=
  " \x7b\"declarations\":[\x7b\"kind\":\"function\",\"name\":\"\\u0066\"\x7d],".toList
    ++ "\"language_version\":\"1.0\",\"name\":\"foo\"\x7d\n".toList

theorem parse_of_renders_sample :
    sample.Represents sampleValue ∧ Json.RendersText sampleValue sampleText
    ∧ parse (Utf8.encode sampleText) = .ok sample := by
  have hvalue : sample.Represents sampleValue := by
    refine ⟨_, rfl, .inl ⟨_, .cons ⟨_, rfl, .inr ⟨rfl, .swap _ _ _⟩⟩ .nil, ?_⟩⟩
    exact List.reverse_perm (sample.requiredMembers ++ [("declarations", _)])
  have hf : Json.RendersString "f" ['"', '\\', 'u', '0', '0', '6', '6', '"'] :=
    ⟨[['\\', 'u', '0', '0', '6', '6']], .cons (.unit ['0', '0', '6', '6']
      ⟨0, 0, 6, 6, '0', '0', '6', '6', .inl rfl, .inl rfl, .inl rfl, .inl rfl, rfl, rfl⟩) .nil, rfl⟩
  have hstring : ∀ s, Json.Padded (Json.RendersString s) (Json.printString s) :=
    fun s => .of_core (Json.rendersString_print s)
  have hmember : ∀ key s, Json.RendersMember key (Json.Renders (.string s))
      (Json.printString key ++ ':' :: Json.printString s) :=
    fun key s => ⟨_, _, hstring key, hstring s, rfl⟩
  have hdeclaration : Json.Renders sampleDeclaration _ :=
    ⟨rfl, _, ⟨_, _, hmember "kind" "function", ⟨_, _, hstring "name", .of_core hf, rfl⟩, rfl⟩, rfl⟩
  have hdeclarations :
      Json.RendersMember "declarations" (Json.Renders (Json.ofItems [sampleDeclaration])) _ :=
    ⟨_, _, hstring "declarations", .of_core ⟨rfl, _, .of_core hdeclaration, rfl⟩, rfl⟩
  have hobject : Json.Renders sampleValue _ :=
    ⟨rfl, _, ⟨_, _, hdeclarations, ⟨_, _, hmember "language_version" "1.0", hmember "name" "foo",
      rfl⟩, rfl⟩, rfl⟩
  have htext : Json.RendersText sampleValue sampleText :=
    ⟨[' '], _, ['\n'], by simp [Json.IsBlankText, Json.isBlank], hobject,
      by simp [Json.IsBlankText, Json.isBlank], by rfl⟩
  exact ⟨hvalue, htext, (parse_of_renders sample).1 sampleValue sampleText hvalue htext⟩

end ModuleMetadata

end Linkage
