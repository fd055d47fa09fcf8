import Linkage.Declaration
import Linkage.Path

set_option autoImplicit false

/-! # Modules and their dependencies

A loaded module starts out without dependencies. Linking gives every module of a set the
whole set, itself included, as its dependencies: they are the positions in the set. A module
keeps the first dependencies it was given, so linking it again changes nothing.
-/

namespace Linkage

/-- What a library exports, and the modules it depends on once it is linked. -/
structure Module where
  name : String
  libraryPath : Path
  declarations : List Declaration
  assigned : Option (List Nat)
deriving DecidableEq

namespace Module

/-- A module that is not linked. -/
def unlinked (name : String) (libraryPath : Path) (declarations : List Declaration) : Module :=
  ⟨name, libraryPath, declarations, none⟩

/-- The dependencies of a module; none before it is linked. -/
def dependencies (m : Module) : List Nat := m.assigned.getD []

/-- Whether a module is linked. -/
def isLinked (m : Module) : Bool := m.assigned.isSome

/-- A module with dependencies; those it has already stay. -/
def assign (dependencies : List Nat) (m : Module) : Module :=
  { m with assigned := some (m.assigned.getD dependencies) }

/-- Links a set of modules: each depends on all of them. -/
def link (modules : List Module) : List Module :=
  modules.map (assign (List.range modules.length))

/-- Links the modules from position `first` to before `last` among themselves, if there are
such positions. -/
def linkRange (first last : Nat) (modules : List Module) : Option (List Module) :=
  if first ≤ last ∧ last ≤ modules.length then
    some (modules.take first ++ link ((modules.drop first).take (last - first))
      ++ modules.drop last)
  else none

end Module

/-- The modules of a program, linked. -/
structure ModuleGraph where
  modules : List Module
deriving DecidableEq

namespace ModuleGraph

/-- The graph of some modules. -/
def ofModules (modules : List Module) : ModuleGraph := ⟨Module.link modules⟩

/-- The number of modules. -/
def size (g : ModuleGraph) : Nat := g.modules.length

/-- Whether there are no modules. -/
def isEmpty (g : ModuleGraph) : Bool := g.modules.isEmpty

/-- The module at a position. -/
def get? (g : ModuleGraph) (id : Nat) : Option Module := g.modules[id]?

/-- The position of the first module with a name. -/
def find? (g : ModuleGraph) (name : String) : Option Nat :=
  g.modules.findIdx? fun m => m.name == name

/-- The modules that a module depends on, in order. -/
def dependenciesOf (g : ModuleGraph) (id : Nat) : List Module :=
  match g.get? id with
  | none => []
  | some m => m.dependencies.filterMap g.get?

end ModuleGraph

end Linkage
