import Linkage.Module
import Mathlib.Data.List.Basic
import Mathlib.Data.List.Forall2
import Mathlib.Data.List.Induction

set_option autoImplicit false

/-! # The history of linking

Parts of a list of modules can be linked among themselves before the whole list is linked.
A module gets its dependencies from the first part that contains it and keeps them
(`linkSlices_eq`), so what a history of such steps comes to can be read off the list of parts
(`linking_history`).
-/

namespace Linkage

/-! ## Assigning once -/

namespace Module

variable {n : Nat}

/-- Dependencies that were assigned stay. -/
theorem assign_of_assigned {m : Module} {dependencies : List Nat}
    (h : m.assigned = some dependencies) (others : List Nat) : m.assign others = m := by
  obtain ⟨name, path, declarations, assigned⟩ := m
  cases h
  rfl

/-- A module without its dependencies. -/
def withoutDependencies (m : Module) : Module := { m with assigned := none }

@[simp] theorem withoutDependencies_assign (m : Module) (dependencies : List Nat) :
    (m.assign dependencies).withoutDependencies = m.withoutDependencies := rfl

/-! ## Slices -/

/-- The positions from `first` to before `last` in a list of `n` modules. -/
structure Slice (n : Nat) where
  first : Nat
  last : Nat
  first_le_last : first ≤ last
  last_le : last ≤ n

namespace Slice

/-- The number of positions. -/
def length (s : Slice n) : Nat := s.last - s.first

/-- A position is one of a slice. -/
def Contains (s : Slice n) (i : Nat) : Prop := s.first ≤ i ∧ i < s.last

instance (s : Slice n) (i : Nat) : Decidable (s.Contains i) :=
  inferInstanceAs (Decidable (_ ∧ _))

/-- The first of some slices that contains a position. -/
def firstWith (slices : List (Slice n)) (i : Nat) : Option (Slice n) :=
  slices.find? fun s => s.Contains i

/-- How many modules are linked together with the one at a position: those of the first slice
that contains it, or all of them if there is no such slice. -/
def reach (slices : List (Slice n)) (i : Nat) : Nat := ((firstWith slices i).map length).getD n

theorem reach_le (slices : List (Slice n)) (i : Nat) : reach slices i ≤ n := by
  unfold reach
  cases firstWith slices i with
  | none => exact Nat.le_refl n
  | some s => exact Nat.le_trans (Nat.sub_le _ _) s.last_le

end Slice

/-- The module at a position after a slice was linked. -/
def linkedIn (s : Slice n) (i : Nat) (m : Module) : Module :=
  if s.Contains i then m.assign (List.range s.length) else m

/-- The module at a position after slices were linked one after the other: it depends on what
is in the first slice that contains it. -/
def linkedInFirst (slices : List (Slice n)) (i : Nat) (m : Module) : Module :=
  match Slice.firstWith slices i with
  | none => m
  | some s => m.assign (List.range s.length)

/-- Links slices one after the other. -/
def linkSlices (slices : List (Slice n)) (modules : List Module) : Option (List Module) :=
  slices.foldlM (fun modules s => linkRange s.first s.last modules) modules

variable {modules : List Module}

theorem linkedIn_of_contains {s : Slice n} {i : Nat} (h : s.Contains i) (m : Module) :
    linkedIn s i m = m.assign (List.range s.length) := if_pos h

theorem linkedIn_of_not_contains {s : Slice n} {i : Nat} (h : ¬s.Contains i) (m : Module) :
    linkedIn s i m = m := if_neg h

/-- **One step.** Linking a slice assigns dependencies to the modules in it and leaves the
others alone. -/
theorem linkRange_slice (s : Slice n) (hn : modules.length = n) :
    linkRange s.first s.last modules = some (modules.mapIdx (linkedIn s)) := by
  have hle := s.first_le_last
  have hlast : s.last ≤ modules.length := hn ▸ s.last_le
  have hbefore : (modules.take s.first).length = s.first := by
    rw [List.length_take]
    omega
  have hpart : ((modules.drop s.first).take (s.last - s.first)).length = s.length := by
    rw [List.length_take, List.length_drop, Slice.length]
    omega
  have hlinked : (link ((modules.drop s.first).take (s.last - s.first))).length = s.length := by
    rw [link, List.length_map, hpart]
  rw [linkRange, if_pos ⟨hle, hlast⟩, Option.some.injEq, eq_comm, List.mapIdx_eq_iff]
  intro i
  have hlength : s.length = s.last - s.first := rfl
  by_cases hfirst : i < s.first
  · have hnot : ¬s.Contains i := fun h => absurd h.1 (Nat.not_le.2 hfirst)
    rw [List.getElem?_append_left (by rw [List.length_append]; omega),
      List.getElem?_append_left (by omega), List.getElem?_take_of_lt hfirst]
    cases modules[i]? with
    | none => rfl
    | some m => rw [Option.map_some, linkedIn_of_not_contains hnot]
  · by_cases hbehind : i < s.last
    · have hin : s.Contains i := ⟨Nat.not_lt.1 hfirst, hbehind⟩
      rw [List.getElem?_append_left (by rw [List.length_append]; omega),
        List.getElem?_append_right (by omega), hbefore, link, hpart, List.getElem?_map,
        List.getElem?_take_of_lt (by omega), List.getElem?_drop, Nat.add_sub_cancel' hin.1]
      cases modules[i]? with
      | none => rfl
      | some m => rw [Option.map_some, Option.map_some, linkedIn_of_contains hin]
    · have hnot : ¬s.Contains i := fun h => absurd h.2 hbehind
      have hfront : (modules.take s.first
          ++ link ((modules.drop s.first).take (s.last - s.first))).length = s.last := by
        rw [List.length_append]
        omega
      rw [List.getElem?_append_right (by omega), hfront, List.getElem?_drop,
        Nat.add_sub_cancel' (Nat.not_lt.1 hbehind)]
      cases modules[i]? with
      | none => rfl
      | some m => rw [Option.map_some, linkedIn_of_not_contains hnot]

theorem linkedInFirst_cons (s : Slice n) (slices : List (Slice n)) (i : Nat) (m : Module) :
    linkedInFirst (s :: slices) i m = linkedInFirst slices i (linkedIn s i m) := by
  unfold linkedInFirst Slice.firstWith
  rw [List.find?_cons]
  by_cases h : s.Contains i
  · rw [linkedIn_of_contains h, decide_eq_true h]
    cases slices.find? fun s => decide (s.Contains i) with
    | none => rfl
    | some later => rfl
  · rw [linkedIn_of_not_contains h, decide_eq_false h]

/-- **A run.** After linking slices one after the other, every module has the dependencies of
the first slice that contains it. -/
theorem linkSlices_eq (slices : List (Slice n)) (hn : modules.length = n) :
    linkSlices slices modules = some (modules.mapIdx (linkedInFirst slices)) := by
  induction slices generalizing modules with
  | nil =>
      have hself : modules.mapIdx (linkedInFirst ([] : List (Slice n))) = modules := by
        rw [List.mapIdx_eq_iff]
        intro i
        cases modules[i]? with
        | none => rfl
        | some m => rfl
      rw [hself]
      rfl
  | cons s rest ih =>
      rw [linkSlices, List.foldlM_cons, linkRange_slice s hn]
      show linkSlices rest (modules.mapIdx (linkedIn s)) = _
      rw [ih (by rw [List.length_mapIdx, hn]), List.mapIdx_mapIdx]
      congr 2
      funext i m
      exact (linkedInFirst_cons s rest i m).symm

theorem linkedInFirst_of_isLinked (slices : List (Slice n)) (i : Nat) {m : Module}
    (h : m.isLinked = true) : linkedInFirst slices i m = m := by
  obtain ⟨dependencies, hassigned⟩ := Option.isSome_iff_exists.1 h
  unfold linkedInFirst
  split
  · rfl
  · exact assign_of_assigned hassigned _

/-- Names, paths, declarations and the order stay. -/
theorem map_withoutDependencies_linked (h : ∀ m ∈ modules, m.isLinked = false)
    (slices : List (Slice n)) :
    (modules.mapIdx (linkedInFirst slices)).map withoutDependencies = modules := by
  refine List.ext_getElem? fun i => ?_
  rw [List.getElem?_map, List.getElem?_mapIdx, Option.map_map]
  cases hm : modules[i]? with
  | none => rfl
  | some m =>
      obtain ⟨name, path, declarations, assigned⟩ := m
      have hunlinked := h _ (List.mem_of_getElem? hm)
      obtain rfl : assigned = none :=
        Option.isNone_iff_eq_none.1 (by simpa [isLinked] using hunlinked)
      rw [Option.map_some, Function.comp_apply, linkedInFirst]
      split
      · rfl
      · rw [withoutDependencies_assign]
        rfl

/-- Linking the whole list gives dependencies to the modules that are in no slice. -/
theorem assign_linkedInFirst (slices : List (Slice n)) (i : Nat) {m : Module}
    (h : m.isLinked = false) :
    (linkedInFirst slices i m).assign (List.range n)
      = { m with assigned := some (List.range (Slice.reach slices i)) } := by
  obtain ⟨name, path, declarations, assigned⟩ := m
  obtain rfl : assigned = none := Option.isNone_iff_eq_none.1 (by simpa [isLinked] using h)
  unfold linkedInFirst Slice.reach
  cases Slice.firstWith slices i with
  | none => rfl
  | some s => rfl

/-- A module that is linked stays as it is. -/
theorem getElem?_of_linkSlices {later : List Module} (hn : modules.length = n)
    {slices : List (Slice n)} (h : linkSlices slices modules = some later) {i : Nat} {m : Module}
    (hm : modules[i]? = some m) (hlinked : m.isLinked = true) : later[i]? = some m := by
  rw [linkSlices_eq slices hn, Option.some.injEq] at h
  rw [← h, List.getElem?_mapIdx, hm, Option.map_some, linkedInFirst_of_isLinked slices i hlinked]

theorem linkSlices_of_isLinked (slices : List (Slice n)) (hn : modules.length = n)
    (h : ∀ m ∈ modules, m.isLinked = true) : linkSlices slices modules = some modules := by
  rw [linkSlices_eq slices hn, Option.some.injEq, List.mapIdx_eq_iff]
  intro i
  cases hm : modules[i]? with
  | none => rfl
  | some m => rw [Option.map_some, linkedInFirst_of_isLinked _ _ (h m (List.mem_of_getElem? hm))]

end Module

/-! ## Graphs -/

namespace ModuleGraph

open Linkage.Module (Slice)

variable {n : Nat} {g : ModuleGraph}

/-- The positions of a graph lead to all of its modules, in order. -/
theorem filterMap_get?_range (g : ModuleGraph) :
    (List.range g.size).filterMap g.get? = g.modules := by
  obtain ⟨modules⟩ := g
  show (List.range modules.length).filterMap (fun i => modules[i]?) = modules
  -- on the modules from the last one, which the last position leads to
  induction modules using List.reverseRecOn with
  | nil => rfl
  | append_singleton modules m ih =>
      have hbefore : ∀ i ∈ List.range modules.length, (modules ++ [m])[i]? = modules[i]? :=
        fun i hi => List.getElem?_append_left (List.mem_range.1 hi)
      rw [List.length_append, List.length_singleton, List.range_succ, List.filterMap_append,
        List.filterMap_congr hbefore, ih]
      simp

/-- Positions of a graph all lead to modules. -/
theorem forall₂_filterMap_get? {positions : List Nat} (h : ∀ d ∈ positions, d < g.size) :
    List.Forall₂ (fun d m => g.get? d = some m) positions (positions.filterMap g.get?) := by
  induction positions with
  | nil => exact .nil
  | cons d rest ih =>
      obtain ⟨hd, hrest⟩ := List.forall_mem_cons.1 h
      have hm : g.get? d = some g.modules[d] := List.getElem?_eq_getElem hd
      rw [List.filterMap_cons_some hm]
      exact .cons hm (ih hrest)

theorem dependenciesOf_of_get? {i : Nat} {m : Module} (h : g.get? i = some m) :
    g.dependenciesOf i = m.dependencies.filterMap g.get? := by
  rw [dependenciesOf, h]

theorem dependenciesOf_of_le {i : Nat} (h : g.size ≤ i) : g.dependenciesOf i = [] := by
  have hnone : g.get? i = none := List.getElem?_eq_none h
  rw [dependenciesOf, hnone]

/-- The graph of modules whose slices were linked before. -/
theorem modules_ofModules_linked {modules : List Module} (hn : modules.length = n)
    (hunlinked : ∀ m ∈ modules, m.isLinked = false) (slices : List (Slice n)) :
    (ofModules (modules.mapIdx (Module.linkedInFirst slices))).modules
      = modules.mapIdx fun i m =>
          { m with assigned := some (List.range (Slice.reach slices i)) } := by
  show Module.link _ = _
  rw [Module.link, List.length_mapIdx, hn, eq_comm, List.mapIdx_eq_iff]
  intro i
  rw [List.getElem?_map, List.getElem?_mapIdx, Option.map_map]
  cases hm : modules[i]? with
  | none => rfl
  | some m =>
      rw [Option.map_some, Option.map_some, Function.comp_apply,
        Module.assign_linkedInFirst slices i (hunlinked m (List.mem_of_getElem? hm))]

/-- A module that is linked is in the graph as it was before. -/
theorem get?_ofModules_of_isLinked {i : Nat} {m : Module} {modules : List Module}
    (hm : modules[i]? = some m) (hlinked : m.isLinked = true) :
    (ofModules modules).get? i = some m := by
  obtain ⟨dependencies, hassigned⟩ := Option.isSome_iff_exists.1 hlinked
  show (modules.map _)[i]? = some m
  rw [List.getElem?_map, hm, Option.map_some, Module.assign_of_assigned hassigned]

/-- **The history of linking.** Unlinked modules of which slices are linked one after the other,
and then all of them, each depend on as many modules, counted from the first, as there are in
the first slice that contains it, or on all of them if there is none. Nothing else about them
changes on the way, and dependencies that were assigned stay, also when there is more linking
after all. Dependencies are positions of modules, so each leads to a module. -/
theorem linking_history (modules : List Module) (hunlinked : ∀ m ∈ modules, m.isLinked = false)
    (slices : List (Slice modules.length)) :
    ∃ before graph, Module.linkSlices slices modules = some before ∧ ofModules before = graph
      ∧ graph.modules = modules.mapIdx (fun i m =>
          { m with assigned := some (List.range (Slice.reach slices i)) })
      ∧ (∀ early late middle, slices = early ++ late →
          Module.linkSlices early modules = some middle →
          middle.map Module.withoutDependencies = modules
          ∧ ∀ i m, middle[i]? = some m → m.isLinked = true →
            before[i]? = some m ∧ graph.get? i = some m)
      ∧ (∀ more : List (Slice modules.length),
          Module.linkSlices more graph.modules = some graph.modules)
      ∧ (∀ i m, graph.get? i = some m →
          m.dependencies = List.range (Slice.reach slices i)
          ∧ (∀ d ∈ m.dependencies, d < modules.length)
          ∧ List.Forall₂ (fun d found => graph.get? d = some found) m.dependencies
            (graph.dependenciesOf i))
      ∧ (∀ i, modules.length ≤ i → graph.dependenciesOf i = [])
      ∧ (slices = [] → ∀ i < modules.length, graph.dependenciesOf i = graph.modules) := by
  have hbefore := Module.linkSlices_eq slices (rfl : modules.length = modules.length)
  obtain ⟨graph, hgraph⟩ : ∃ graph,
      ofModules (modules.mapIdx (Module.linkedInFirst slices)) = graph := ⟨_, rfl⟩
  have hmodules := modules_ofModules_linked rfl hunlinked slices
  rw [hgraph] at hmodules
  have hsize : graph.size = modules.length := by rw [size, hmodules, List.length_mapIdx]
  have hdependencies : ∀ i m, graph.get? i = some m →
      m.dependencies = List.range (Slice.reach slices i)
      ∧ ∀ d ∈ m.dependencies, d < modules.length := by
    intro i m hm
    rw [get?, hmodules, List.getElem?_mapIdx, Option.map_eq_some_iff] at hm
    obtain ⟨m, -, rfl⟩ := hm
    refine ⟨rfl, fun d hd => ?_⟩
    exact Nat.lt_of_lt_of_le (List.mem_range.1 hd) (Slice.reach_le slices i)
  refine ⟨_, graph, hbefore, hgraph, hmodules, ?_, ?_, ?_, ?_, ?_⟩
  · rintro early late middle rfl hearly
    have hmiddle := hearly
    rw [Module.linkSlices_eq early rfl, Option.some.injEq] at hmiddle
    have hlength : middle.length = modules.length := by rw [← hmiddle, List.length_mapIdx]
    have hlate : Module.linkSlices late middle
        = some (modules.mapIdx (Module.linkedInFirst (early ++ late))) := by
      rw [← hbefore, Module.linkSlices, Module.linkSlices, List.foldlM_append]
      show _ = Module.linkSlices early modules >>= _
      rw [hearly]
      rfl
    refine ⟨?_, fun i m hm hlinked => ?_⟩
    · rw [← hmiddle, Module.map_withoutDependencies_linked hunlinked]
    · have hkept := Module.getElem?_of_linkSlices hlength hlate hm hlinked
      exact ⟨hkept, hgraph ▸ get?_ofModules_of_isLinked hkept hlinked⟩
  · intro more
    refine Module.linkSlices_of_isLinked more hsize fun m hm => ?_
    rw [hmodules, List.mem_mapIdx] at hm
    obtain ⟨i, hi, rfl⟩ := hm
    rfl
  · intro i m hm
    obtain ⟨hrange, hlt⟩ := hdependencies i m hm
    refine ⟨hrange, hlt, ?_⟩
    rw [dependenciesOf_of_get? hm]
    exact forall₂_filterMap_get? fun d hd => Nat.lt_of_lt_of_eq (hlt d hd) hsize.symm
  · intro i hi
    exact dependenciesOf_of_le (Nat.le_trans (Nat.le_of_eq hsize) hi)
  · rintro rfl i hi
    obtain ⟨m, hm⟩ : ∃ m, graph.get? i = some m :=
      ⟨_, List.getElem?_eq_getElem (Nat.lt_of_lt_of_eq hi hsize.symm)⟩
    have hall : m.dependencies = List.range graph.size := by
      rw [hsize]
      exact (hdependencies i m hm).1
    rw [dependenciesOf_of_get? hm, hall, filterMap_get?_range]

/-- Four modules without dependencies. -/
def unlinkedModules : List Module :=
  ["a", "b", "c", "d"].map fun name => Module.unlinked name (Path.ofString name) []

theorem linking_history_four :
    (∀ m ∈ unlinkedModules, m.isLinked = false)
    ∧ ∃ before, Module.linkSlices ([⟨1, 3, by decide, by decide⟩, ⟨0, 2, by decide, by decide⟩] :
        List (Slice unlinkedModules.length)) unlinkedModules = some before
      ∧ (ofModules before).modules.map Module.dependencies
        = [[0, 1], [0, 1], [0, 1], [0, 1, 2, 3]] := by
  have hunlinked : ∀ m ∈ unlinkedModules, m.isLinked = false := by decide
  obtain ⟨before, graph, hbefore, rfl, hmodules, -⟩ := linking_history unlinkedModules hunlinked
    [⟨1, 3, by decide, by decide⟩, ⟨0, 2, by decide, by decide⟩]
  refine ⟨hunlinked, before, hbefore, ?_⟩
  rw [hmodules]
  rfl

end ModuleGraph

end Linkage
