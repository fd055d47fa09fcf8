import Linkage.Json.Value

set_option autoImplicit false

/-! # Declarations

A module exports declarations. Loading does not look into them: it carries their names,
kinds and visibilities on. In metadata a declaration is a record; an object gives its fields
by name in any order, and an array gives them in order, where the visibility may be left
out at the end. A declaration without a visibility is public.
-/

namespace Linkage

/-- What a declaration declares. -/
inductive DeclarationKind where
  | function
  | classType
  | property
  | typeAlias
deriving DecidableEq

/-- The kinds by their names in metadata. -/
def DeclarationKind.names : List (String × DeclarationKind) :=
  [("function", function), ("class", classType), ("property", property), ("type_alias", typeAlias)]

/-- The name of a kind in metadata. -/
def DeclarationKind.name : DeclarationKind → String
  | function => "function"
  | classType => "class"
  | property => "property"
  | typeAlias => "type_alias"

/-- Who may refer to a declaration. -/
inductive Visibility where
  | exported
  | internal
deriving DecidableEq

/-- The visibilities by their names in metadata. -/
def Visibility.names : List (String × Visibility) :=
  [("public", exported), ("internal", internal)]

/-- The name of a visibility in metadata. -/
def Visibility.name : Visibility → String
  | exported => "public"
  | internal => "internal"

/-- A declaration that a module exports. -/
structure Declaration where
  name : String
  kind : DeclarationKind
  visibility : Visibility
deriving DecidableEq

namespace Declaration

/-- A declaration that everyone may refer to. -/
def ofKind (name : String) (kind : DeclarationKind) : Declaration := ⟨name, kind, .exported⟩

/-- Whether other modules may refer to a declaration. -/
def isPublic (d : Declaration) : Bool := d.visibility == .exported

/-- A declaration as an object. -/
def toJson (d : Declaration) : Json :=
  Json.ofMembers [("name", .string d.name), ("kind", .string d.kind.name),
    ("visibility", .string d.visibility.name)]

end Declaration

end Linkage
