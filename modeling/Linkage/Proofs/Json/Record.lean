import Linkage.Json.Decode
import Linkage.Proofs.Traversal
import Mathlib.Data.List.Pairwise
import Mathlib.Tactic.MkIffOfInductiveProp

set_option autoImplicit false

/-! # Records from members in any order

A record is decoded member by member, and every member fills a slot of its own. Slots do not
touch each other, so two members that are taken up after one another can change places
(`Record.HasSlots.field_comm`), and a record that is decoded is decoded whatever the order of
its members (`Record.decode_of_perm`). On failures the order does matter: the first fault in
the text is the one that counts.
-/

namespace Linkage.Json

open Schema (Fault)
open Traversal (exists_of_bind_eq_ok)

/-- The items of a closed array are decoded one after the other. -/
theorem decodeItems_eq_mapM {α : Type} (decode : Json → Except Fault α) (items : List Json) :
    decodeItems decode true items = items.mapM decode := by
  induction items with
  | nil => rfl
  | cons item rest ih => rw [decodeItems, ih, List.mapM_cons]

namespace Record

variable {σ α : Type}

/-- Taking up a field that is not there yet. -/
theorem fill_eq_ok_iff {β γ : Type} {field : Option β} {fault : Fault} {x : Except Fault γ}
    {set : γ → σ} {after : σ} :
    (if field.isSome then Except.error fault else do return set (← x)) = .ok after
      ↔ field = none ∧ ∃ a, x = .ok a ∧ set a = after := by
  cases field with
  | some b => simp
  | none =>
      cases x with
      | error e => simp [bind, Except.bind]
      | ok a => simp [bind, Except.bind, pure, Except.pure]

/-- A field of a record: its key, how its value is decoded, and where it is kept. -/
structure Slot (σ : Type) where
  key : String
  Value : Type
  decode : Json → Except Fault Value
  get : σ → Option Value
  set : Value → σ → σ

/-- A slot takes up a member with its key, once. -/
def Slot.Takes (slot : Slot σ) (state : σ) (key : String) (value : Json) (after : σ) : Prop :=
  key = slot.key ∧ slot.get state = none ∧ ∃ a, slot.decode value = .ok a ∧ slot.set a state = after

/-- Two slots do not touch each other. -/
@[mk_iff]
structure Slot.Independent (first second : Slot σ) : Prop where
  get_first : ∀ state b, first.get (second.set b state) = first.get state
  get_second : ∀ state a, second.get (first.set a state) = second.get state
  set_comm : ∀ state a b, first.set a (second.set b state) = second.set b (first.set a state)

instance : Std.Symm (Slot.Independent : Slot σ → Slot σ → Prop) where
  symm _ _ h := ⟨h.get_second, h.get_first, fun state b a => (h.set_comm state a b).symm⟩

/-- The fields that a record takes up are those of some slots, which are full once they have a
value and do not touch each other. -/
structure HasSlots (r : Record σ α) (slots : List (Slot σ)) : Prop where
  field_iff : ∀ {state key value after}, r.field state key value = .ok after
    ↔ ∃ slot ∈ slots, slot.Takes state key value after
  get_set : ∀ slot ∈ slots, ∀ state a, slot.get (slot.set a state) = some a
  independent : slots.Pairwise Slot.Independent

/-- Two fields that are taken up after one another can be taken up in the other order. -/
theorem HasSlots.field_comm {r : Record σ α} {slots : List (Slot σ)} (hr : r.HasSlots slots)
    {state between after : σ} {key key' : String} {value value' : Json}
    (h : r.field state key value = .ok between) (h' : r.field between key' value' = .ok after) :
    ∃ between', r.field state key' value' = .ok between'
      ∧ r.field between' key value = .ok after := by
  obtain ⟨slot, hslot, hkey, hempty, a, ha, rfl⟩ := hr.field_iff.1 h
  obtain ⟨slot', hslot', hkey', hempty', b, hb, rfl⟩ := hr.field_iff.1 h'
  have hne : slot ≠ slot' := by
    rintro rfl
    rw [hr.get_set slot hslot] at hempty'
    cases hempty'
  have hindependent : slot.Independent slot' :=
    hr.independent.forall hslot hslot' hne
  rw [hindependent.get_second] at hempty'
  refine ⟨slot'.set b state, hr.field_iff.2 ⟨slot', hslot', hkey', hempty', b, hb, rfl⟩,
    hr.field_iff.2 ⟨slot, hslot, hkey, ?_, a, ha, hindependent.set_comm state a b⟩⟩
  rw [hindependent.get_first, hempty]

section Members

variable {r : Record σ α} {slots : List (Slot σ)} {members members' : List (String × Json)}

theorem takeMembers_cons_eq_ok_iff {closed : Bool} {state after : σ} {key : String} {value : Json} :
    r.takeMembers closed state ((key, value) :: members) = .ok after
      ↔ ∃ between, r.field state key value = .ok between
        ∧ r.takeMembers closed between members = .ok after := by
  constructor
  · intro h
    exact exists_of_bind_eq_ok h
  · rintro ⟨between, hfield, h⟩
    rw [takeMembers, hfield]
    exact h

theorem takeMembers_of_perm (hr : r.HasSlots slots) (hperm : members.Perm members') {closed : Bool}
    {state after : σ} (h : r.takeMembers closed state members = .ok after) :
    r.takeMembers closed state members' = .ok after := by
  -- on the permutation: only a swap of two neighbours needs that slots are independent
  induction hperm generalizing state with
  | nil => exact h
  | cons member _ ih =>
      obtain ⟨key, value⟩ := member
      obtain ⟨between, hfield, h⟩ := takeMembers_cons_eq_ok_iff.1 h
      exact takeMembers_cons_eq_ok_iff.2 ⟨between, hfield, ih h⟩
  | swap first second rest =>
      obtain ⟨key, value⟩ := first
      obtain ⟨key', value'⟩ := second
      obtain ⟨between, hsecond, h⟩ := takeMembers_cons_eq_ok_iff.1 h
      obtain ⟨both, hfirst, h⟩ := takeMembers_cons_eq_ok_iff.1 h
      obtain ⟨between', hfirst', hsecond'⟩ := hr.field_comm hsecond hfirst
      exact takeMembers_cons_eq_ok_iff.2
        ⟨between', hfirst', takeMembers_cons_eq_ok_iff.2 ⟨both, hsecond', h⟩⟩
  | trans _ _ ih ih' => exact ih' (ih h)

/-- A record is decoded whatever the order of its members. -/
theorem decode_of_perm (hr : r.HasSlots slots) (hperm : members.Perm members') {a : α}
    (h : r.decode (ofMembers members) = .ok a) : r.decode (ofMembers members') = .ok a := by
  obtain ⟨after, hmembers, hfinish⟩ := exists_of_bind_eq_ok h
  show r.takeMembers true r.start members' >>= r.finish = _
  rw [takeMembers_of_perm hr hperm hmembers]
  exact hfinish

end Members

end Record

end Linkage.Json
