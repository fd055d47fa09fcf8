import Linkage.Proofs.FileSystem
import Linkage.Proofs.Path.Names

set_option autoImplicit false

/-! # Where a path leads

The destination of a path is worked out from its text alone: a name leads one level down, two
dots lead one level back, and the root is its own parent. There are no links, so a path that
leads anywhere leads to its destination (`destination_of_locate`).

A relative path without its detours is a route: so many levels back, and then down along some
names. Joining it to a directory leads from there along the route (`destination_join`), and
that is a way back to the directory itself, or to one above it, exactly if the names lead
down again where the way back came from (`Route.leads_isPrefix_iff`).
-/

namespace Linkage

variable {fs : FileSystem} {p q : Path} {here found : Location} {name : List Char}

/-! ## Destinations -/

/-- Where a step leads from a location. -/
def Path.follow (here : Location) (step : List Char) : Location :=
  if step = ['.', '.'] then here.dropLast else here ++ [step]

theorem Path.IsName.follow (h : Path.IsName name) (here : Location) :
    Path.follow here name = here ++ [name] :=
  if_neg h.notBack

namespace FileSystem

/-- The location that a path leads to, if what it names on the way exists. -/
def destination (fs : FileSystem) (p : Path) : Location := p.steps.foldl Path.follow (fs.start p)

/-- A walk that comes to an end comes to where its steps lead. -/
theorem foldl_follow_of_walk {segments : List (List Char)}
    (h : segments.foldlM fs.enter here = .ok found) :
    (segments.filter fun segment => !Path.isBlank segment).foldl Path.follow here = found := by
  induction segments generalizing here with
  | nil => exact Except.ok.inj h
  | cons segment rest ih =>
      obtain ⟨next, hnext, hrest⟩ := Traversal.exists_of_bind_eq_ok h
      obtain ⟨-, ⟨hblank, rfl⟩ | ⟨hblank, hback, rfl⟩ | ⟨hblank, hname, hchild, -⟩⟩ :=
        enter_eq_ok_iff.1 hnext
      · rw [List.filter_cons_of_neg (by simp [hblank])]
        exact ih hrest
      · rw [List.filter_cons_of_pos (by simp [hblank]), List.foldl_cons, Path.follow, if_pos hback]
        exact ih hrest
      · obtain ⟨-, -, rfl⟩ := child_eq_ok_iff.1 hchild
        rw [List.filter_cons_of_pos (by simp [hblank]), List.foldl_cons, Path.follow, if_neg hname]
        exact ih hrest

/-- A path that leads anywhere leads to its destination. -/
theorem destination_of_locate (h : fs.locate p = .ok found) : fs.destination p = found := by
  obtain ⟨⟨⟩, -, hwalk⟩ := Traversal.exists_of_bind_eq_ok h
  exact foldl_follow_of_walk hwalk

/-- A file lies at the destination of its path and is no directory. -/
theorem locate_of_isFile (h : fs.isFile p = true) :
    fs.locate p = .ok (fs.destination p) ∧ fs.isDirectory (fs.destination p) = false := by
  unfold isFile at h
  cases hfound : fs.locate p with
  | error e =>
      rw [hfound] at h
      cases h
  | ok found =>
      obtain rfl := destination_of_locate hfound
      simp only [hfound, Bool.and_eq_true, Bool.not_eq_true'] at h
      exact ⟨rfl, h.2⟩

/-- A directory lies at the destination of its path. -/
theorem locate_of_isDir (h : fs.isDir p = true) : fs.locate p = .ok (fs.destination p) := by
  unfold isDir at h
  cases hfound : fs.locate p with
  | error e =>
      rw [hfound] at h
      cases h
  | ok found => rw [destination_of_locate hfound]

/-! ## Joined paths and replaced names -/

theorem start_of_isAbsolute_eq (h : q.isAbsolute = p.isAbsolute) : fs.start q = fs.start p := by
  rw [start, start, h]

/-- The destination of a path ends in its last name. -/
theorem destination_of_fileName (h : p.fileName = some name) :
    (fs.destination p).dropLast ++ [name] = fs.destination p := by
  have hname := Path.isName_of_fileName h
  rw [destination, Path.steps_parent h, List.foldl_concat, hname.follow, List.dropLast_concat]

/-- Replacing the last name of a path replaces the last name of its destination. -/
theorem destination_withFileName {old : List Char} (hp : p.fileName = some old)
    (h : Path.IsName name) :
    fs.destination (p.withFileName name) = (fs.destination p).dropLast ++ [name] := by
  have hold := Path.isName_of_fileName hp
  rw [destination, destination, start_of_isAbsolute_eq (Path.isAbsolute_withFileName hp h),
    Path.steps_withFileName hp h, Path.steps_parent hp, List.dropLast_concat, List.foldl_concat,
    List.foldl_concat, h.follow, hold.follow, List.dropLast_concat]

end FileSystem

/-! ## Routes -/

/-- A way without detours: some levels back, and then down along some names. -/
structure Route where
  back : Nat
  names : Location
deriving DecidableEq

namespace Route

/-- Where a route leads from a location. -/
def leads (route : Route) (here : Location) : Location :=
  here.take (here.length - route.back) ++ route.names

/-- A route with one more step, which may undo the last name. -/
def step (route : Route) (step : List Char) : Route :=
  if step = ['.', '.'] then
    if route.names = [] then ⟨route.back + 1, []⟩ else ⟨route.back, route.names.dropLast⟩
  else ⟨route.back, route.names ++ [step]⟩

theorem leads_step (route : Route) (here : Location) (next : List Char) :
    (route.step next).leads here = Path.follow (route.leads here) next := by
  unfold step Path.follow leads
  by_cases hback : next = ['.', '.']
  · rw [if_pos hback, if_pos hback]
    by_cases hnames : route.names = []
    · rw [if_pos hnames, hnames, List.append_nil, List.append_nil, List.dropLast_eq_take,
        List.take_take, List.length_take]
      have hcount : here.length - (route.back + 1)
          = min (min (here.length - route.back) here.length - 1) (here.length - route.back) := by
        omega
      exact congrArg here.take hcount
    · rw [if_neg hnames, List.dropLast_append_of_ne_nil hnames]
  · rw [if_neg hback, if_neg hback, List.append_assoc]

theorem leads_foldl_step (route : Route) (here : Location) (steps : List (List Char)) :
    (steps.foldl step route).leads here = steps.foldl Path.follow (route.leads here) := by
  induction steps generalizing route with
  | nil => rfl
  | cons next rest ih => rw [List.foldl_cons, List.foldl_cons, ih, leads_step]

/-- A route that does not go back ends strictly below its start. -/
theorem isPrefix_leads (route : Route) (hback : route.back = 0) (hnames : route.names ≠ [])
    (here : Location) : here <+: route.leads here ∧ route.leads here ≠ here := by
  have hbelow : route.leads here = here ++ route.names := by
    rw [leads, hback, Nat.sub_zero, List.take_length]
  rw [hbelow]
  exact ⟨List.prefix_append here route.names, fun heq => hnames (List.append_right_eq_self.1 heq)⟩

/-- A route ends at its start or above it exactly if it goes back and its names lead down
again where the way back came from. -/
theorem leads_isPrefix_iff (route : Route) (hnames : route.names ≠ []) (here : Location) :
    route.leads here <+: here ↔
      0 < route.back ∧ route.names <+: here.drop (here.length - route.back) := by
  have hsplit : here.take (here.length - route.back) ++ route.names
      <+: here.take (here.length - route.back) ++ here.drop (here.length - route.back)
      ↔ route.names <+: here.drop (here.length - route.back) :=
    List.prefix_append_right_inj _
  rw [List.take_append_drop] at hsplit
  rw [leads, hsplit]
  refine ⟨fun h => ⟨?_, h⟩, fun h => h.2⟩
  -- without a way back there is nothing for the names to lead along
  rw [Nat.pos_iff_ne_zero]
  intro hback
  rw [hback, Nat.sub_zero, List.drop_length, List.prefix_nil] at h
  exact hnames h

end Route

/-- The route of a relative path. -/
def Path.route (p : Path) : Route := p.steps.foldl Route.step ⟨0, []⟩

/-- The route of a path ends in its last name. -/
theorem Path.names_route (h : p.fileName = some name) :
    p.route.names.dropLast ++ [name] = p.route.names := by
  have hname := isName_of_fileName h
  rw [route, steps_parent h, List.foldl_concat, Route.step, if_neg hname.notBack,
    List.dropLast_concat]

/-- A relative path that is joined to a directory leads from there along its route. -/
theorem FileSystem.destination_join (p : Path) (hq : q.isAbsolute = false) :
    fs.destination (p.join q) = q.route.leads (fs.destination p) := by
  have hstart : Route.leads ⟨0, []⟩ (fs.destination p) = fs.destination p := by
    simp [Route.leads]
  rw [Path.route, Route.leads_foldl_step, hstart, destination, Path.steps_join p hq,
    List.foldl_append, start_of_isAbsolute_eq (Path.isAbsolute_join p hq)]
  rfl

end Linkage
