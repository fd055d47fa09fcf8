import Linkage.Library
import Linkage.Proofs.Json.Members
import Linkage.Proofs.Metadata

set_option autoImplicit false

/-! # Objects that are no metadata

The record of a module and the records of its declarations have fixed members. An object with
another member, a repeated one or without a required one is refused wherever it stands, as the
whole text or among the declarations (`ModuleMetadata.exists_fault_of_malformed`). Keys are
compared after their escapes are resolved, so it does not matter how a key is spelled in the
text, nor where the member stands in it (`ModuleMetadata.malformed_refused`).
-/

namespace Linkage

open Schema (Fault)

/-! ## Fields -/

theorem Declaration.isMadeOf_record : record.IsMadeOf slots where
  toHasSlots := hasSlots_record
  keys := by simp [slots]
  start := by simp [slots, record]
  finish_iff := by
    rintro ⟨_ | name, _ | kind, visibility⟩ <;> simp [slots, record, DeclarationFields.finish]

namespace ModuleMetadata

theorem isMadeOf_record : record.IsMadeOf slots where
  toHasSlots := hasSlots_record
  keys := by simp [slots]
  start := by simp [slots, record]
  finish_iff := by
    rintro ⟨_ | name, _ | version, declarations⟩ <;> simp [slots, record, ModuleFields.finish]

/-! ## Malformed objects -/

/-- The members of an object make up no metadata, whatever the values of the single fields
are: they do not make up the record of a module, or an element of the declarations is an object
whose members do not make up the record of a declaration. -/
inductive Malformed (members : List (String × Json)) : Prop
  | record (h : Json.IllFormed ["name", "language_version", "declarations"]
      ["name", "language_version"] members)
  | declaration (items : List Json) (closed : Bool) (fields : List (String × Json))
      (complete : Bool) (hitems : ("declarations", Json.array items closed) ∈ members)
      (hfields : Json.object fields complete ∈ items)
      (h : Json.IllFormed ["name", "kind", "visibility"] ["name", "kind"] fields)

/-- The declarations among the members of metadata are declarations. -/
theorem exists_declaration {members : List (String × Json)} {closed : Bool} {m : ModuleMetadata}
    (h : record.decode (.object members closed) = .ok m) {items : List Json} {complete : Bool}
    (hitems : ("declarations", Json.array items complete) ∈ members) {item : Json}
    (hitem : item ∈ items) : ∃ d, Declaration.record.decode item = .ok d := by
  obtain ⟨-, -, hall, -⟩ := isMadeOf_record.exists_decode_iff.1 ⟨m, h⟩
  obtain ⟨slot, hslot, hkey, declarations, hdecode⟩ := hall _ hitems
  simp only [slots, List.mem_cons, List.not_mem_nil, or_false] at hslot
  rcases hslot with rfl | rfl | rfl
  · have hname : "name" = "declarations" := hkey
    exact absurd hname (by decide)
  · have hversion : "language_version" = "declarations" := hkey
    exact absurd hversion (by decide)
  · exact Json.exists_of_mem_of_decodeItems hdecode hitem

/-- No metadata are decoded from malformed members. -/
theorem not_malformed {members : List (String × Json)} {closed : Bool} {m : ModuleMetadata}
    (h : record.decode (.object members closed) = .ok m) : ¬Malformed members := by
  rintro (hrecord | ⟨items, complete, fields, complete', hitems, hfields, hdeclaration⟩)
  · exact isMadeOf_record.not_illFormed h hrecord
  · obtain ⟨d, hd⟩ := exists_declaration h hitems hfields
    exact Declaration.isMadeOf_record.not_illFormed hd hdeclaration

/-- The contents of a metadata entry are refused, for every library and every version. -/
def Refused (contents : Bytes) : Prop :=
  ∃ fault, parse contents = .error fault ∧ ∀ (l : Library) (version : LanguageVersion),
    l.parseModule version contents = .error (.metadata l.name l.path fault.message)

/-- Contents without metadata are refused. -/
theorem refused_of_forall {contents : Bytes} (h : ∀ m, parse contents ≠ .ok m) :
    Refused contents := by
  cases hparse : parse contents with
  | ok m => exact absurd hparse (h m)
  | error fault =>
      refine ⟨fault, hparse, ?_⟩
      intro l version
      rw [Library.parseModule, hparse]

/-- Metadata that are read are decoded from the value of the text. -/
theorem decode_of_parse {contents : Bytes} {m : ModuleMetadata} (h : parse contents = .ok m) :
    record.decode (Json.readText (Utf8.decode contents).text).1 = .ok m := by
  unfold parse at h
  rcases hread : Json.readText (Utf8.decode contents).text with ⟨value, complete⟩
  simp only [hread] at h
  obtain ⟨metadata, hdecode, h⟩ := Traversal.exists_of_bind_eq_ok h
  split at h
  · cases h
    exact hdecode
  · cases h

/-- **Malformed objects are refused.** If the text of a metadata entry spells an object and its
members are malformed, the entry is refused for every library and every version. This holds
wherever the members stand in the text and whatever else is wrong with it, and for every text
that renders the object, with any escapes in its keys. -/
theorem malformed_refused (members : List (String × Json)) (h : Malformed members) :
    (∀ contents closed, (Json.readText (Utf8.decode contents).text).1 = .object members closed →
      Refused contents)
    ∧ ∀ text, Json.RendersText (Json.ofMembers members) text → Refused (Utf8.encode text) := by
  have hrefused : ∀ contents closed,
      (Json.readText (Utf8.decode contents).text).1 = .object members closed →
      Refused contents := by
    intro contents closed hobject
    apply refused_of_forall
    intro m hparse
    have hdecode : record.decode (.object members closed) = .ok m := by
      rw [← hobject]
      exact decode_of_parse hparse
    exact not_malformed hdecode h
  refine ⟨hrefused, ?_⟩
  intro text htext
  apply hrefused (Utf8.encode text) true
  rw [Utf8.decode_encode, Json.readText_of_renders htext]
  rfl

/-- A declaration that has its name twice, the second time after its kind. -/
def repeatingName : List (String × Json) :=
  [("name", .string "f"), ("kind", .string "function"), ("name", .string "g")]

/-- Members of metadata with this declaration, before the required members. -/
def repeatingDeclaration : List (String × Json) :=
  [("declarations", Json.ofItems [Json.ofMembers repeatingName]), ("name", .string "foo"),
    ("language_version", .string "1.0")]

/-- A text of these members. The second name has an escape in its key. -/
def repeatingText : List Char :=
  "\x7b\"declarations\":[\x7b\"name\":\"f\",\"kind\":\"function\",".toList
    ++ "\"n\\u0061me\":\"g\"\x7d],\"name\":\"foo\",".toList
    ++ "\"language_version\":\"1.0\"\x7d\n".toList

theorem rendersText_repeating :
    Json.RendersText (Json.ofMembers repeatingDeclaration) repeatingText := by
  have hstring : ∀ s, Json.Padded (Json.RendersString s) (Json.printString s) :=
    fun s => .of_core (Json.rendersString_print s)
  have hmember : ∀ key s, Json.RendersMember key (Json.Renders (.string s))
      (Json.printString key ++ ':' :: Json.printString s) :=
    fun key s => ⟨_, _, hstring key, hstring s, rfl⟩
  have ha : Json.SpellsChar 'a' ['\\', 'u', '0', '0', '6', '1'] := .unit ['0', '0', '6', '1']
    ⟨0, 0, 6, 1, '0', '0', '6', '1', .inl rfl, .inl rfl, .inl rfl, .inl rfl, rfl, rfl⟩
  have hliteral : ∀ c : Char, 0x20 ≤ c.toNat ∧ c ≠ '"' ∧ c ≠ '\\' → Json.SpellsChar c [c] :=
    fun _ h => .literal h.1 h.2.1 h.2.2
  have hname : Json.RendersString "name" ['"', 'n', '\\', 'u', '0', '0', '6', '1', 'm', 'e', '"'] :=
    ⟨[['n'], ['\\', 'u', '0', '0', '6', '1'], ['m'], ['e']], .cons (hliteral 'n' (by decide))
      (.cons ha (.cons (hliteral 'm' (by decide)) (.cons (hliteral 'e' (by decide)) .nil))), rfl⟩
  have hdeclaration : Json.Renders (Json.ofMembers repeatingName) _ :=
    ⟨rfl, _, ⟨_, _, hmember "name" "f", ⟨_, _, hmember "kind" "function",
      ⟨_, _, .of_core hname, hstring "g", rfl⟩, rfl⟩, rfl⟩, rfl⟩
  have hdeclarations : Json.RendersMember "declarations"
      (Json.Renders (Json.ofItems [Json.ofMembers repeatingName])) _ :=
    ⟨_, _, hstring "declarations", .of_core ⟨rfl, _, .of_core hdeclaration, rfl⟩, rfl⟩
  have hobject : Json.Renders (Json.ofMembers repeatingDeclaration) _ :=
    ⟨rfl, _, ⟨_, _, hdeclarations, ⟨_, _, hmember "name" "foo", hmember "language_version" "1.0",
      rfl⟩, rfl⟩, rfl⟩
  exact ⟨[], _, ['\n'], by simp [Json.IsBlankText], hobject,
    by simp [Json.IsBlankText, Json.isBlank], by rfl⟩

/-- The repeated name is found although it is deep in the text and has an escape. -/
theorem malformed_refused_repeating :
    Malformed repeatingDeclaration
    ∧ (Json.readText (Utf8.decode (Utf8.encode repeatingText)).text).1
      = .object repeatingDeclaration true
    ∧ Json.RendersText (Json.ofMembers repeatingDeclaration) repeatingText
    ∧ Refused (Utf8.encode repeatingText) := by
  have hrepeated : ¬(repeatingName.map Prod.fst).Nodup := by decide
  have hmalformed : Malformed repeatingDeclaration :=
    .declaration _ _ _ _ List.mem_cons_self List.mem_cons_self (.repeated hrepeated)
  have hobject : (Json.readText (Utf8.decode (Utf8.encode repeatingText)).text).1
      = .object repeatingDeclaration true := by
    rw [Utf8.decode_encode, Json.readText_of_renders rendersText_repeating]
    rfl
  obtain ⟨hvalue, -⟩ := malformed_refused repeatingDeclaration hmalformed
  exact ⟨hmalformed, hobject, rendersText_repeating, hvalue _ true hobject⟩

end ModuleMetadata

end Linkage
