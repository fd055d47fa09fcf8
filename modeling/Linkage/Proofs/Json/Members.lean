import Linkage.Proofs.Json.Record
import Mathlib.Data.List.Nodup

set_option autoImplicit false

/-! # Which members make up a record

A record whose fields are slots takes up a member only if a slot with its key is still empty
and can decode its value, and that slot is full from then on. So the members of an object are
taken up exactly if their keys are different and each of them fits its slot
(`IsMadeOf.exists_takeMembers_iff`), and then the full slots are those with a member
(`IsMadeOf.isSome_get_of_takeMembers`). The record is complete if its required slots are among
them (`IsMadeOf.exists_decode_iff`).

In particular no record is made of an object with an unknown key, a repeated key or a missing
one, whatever its values are (`IsMadeOf.not_illFormed`).
-/

namespace Linkage.Json

open Schema (Fault)
open Traversal (exists_of_bind_eq_ok)

/-- The members of an object make up no record with certain keys: there is one with another
key, two have the same key, or a required key is missing. -/
inductive IllFormed (known required : List String) (members : List (String × Json)) : Prop
  | unknown (key : String) (hkey : key ∈ members.map Prod.fst) (hother : key ∉ known)
  | repeated (h : ¬(members.map Prod.fst).Nodup)
  | missing (key : String) (hkey : key ∈ required) (hmissing : key ∉ members.map Prod.fst)

namespace Record

variable {σ α : Type} {r : Record σ α} {slots : List (Slot σ)} {slot : Slot σ}
  {state between after : σ} {key : String} {value : Json} {members : List (String × Json)}
  {closed : Bool}

/-- The fields of a record are those of some slots with different keys. They are empty at the
start, and the record is complete if the required ones are full. -/
structure IsMadeOf (r : Record σ α) (slots : List (Slot σ)) : Prop extends r.HasSlots slots where
  keys : (slots.map Slot.key).Nodup
  start : ∀ slot ∈ slots, slot.get r.start = none
  finish_iff : ∀ {state}, (∃ a, r.finish state = .ok a)
    ↔ ∀ slot ∈ slots.take r.required, (slot.get state).isSome = true

/-- A slot can decode the value of a member with its key. -/
def Slot.Fits (slot : Slot σ) (member : String × Json) : Prop :=
  slot.key = member.1 ∧ ∃ a, slot.decode member.2 = .ok a

/-! ## One member -/

/-- Slots are told apart by their keys. -/
theorem IsMadeOf.eq_of_key_eq (hr : r.IsMadeOf slots) {slot' : Slot σ} (h : slot ∈ slots)
    (h' : slot' ∈ slots) (hkey : slot.key = slot'.key) : slot = slot' :=
  List.inj_on_of_nodup_map hr.keys h h' hkey

/-- Taking up a member fills the slot with its key. -/
theorem IsMadeOf.get_of_field (hr : r.IsMadeOf slots)
    (hfield : r.field state key value = .ok after) (hslot : slot ∈ slots) :
    slot.key = key ∧ slot.get state = none ∧ (slot.get after).isSome = true
      ∨ slot.key ≠ key ∧ slot.get after = slot.get state := by
  obtain ⟨taker, htaker, hkey, hempty, a, -, rfl⟩ := hr.field_iff.1 hfield
  by_cases hsame : slot = taker
  · left
    rw [hsame, hr.get_set taker htaker]
    exact ⟨hkey.symm, hempty, rfl⟩
  · right
    constructor
    · intro hslotKey
      exact hsame (hr.eq_of_key_eq hslot htaker (hslotKey.trans hkey))
    · have hindependent : slot.Independent taker := hr.independent.forall hslot htaker hsame
      exact hindependent.get_first state a

/-- A member is taken up exactly if a slot that it fits is empty. -/
theorem IsMadeOf.exists_field_iff (hr : r.IsMadeOf slots) :
    (∃ after, r.field state key value = .ok after)
      ↔ ∃ slot ∈ slots, slot.Fits (key, value) ∧ slot.get state = none := by
  constructor
  · rintro ⟨after, hfield⟩
    obtain ⟨slot, hslot, hkey, hempty, a, ha, -⟩ := hr.field_iff.1 hfield
    exact ⟨slot, hslot, ⟨hkey.symm, a, ha⟩, hempty⟩
  · rintro ⟨slot, hslot, ⟨hkey, a, ha⟩, hempty⟩
    exact ⟨slot.set a state, hr.field_iff.2 ⟨slot, hslot, hkey.symm, hempty, a, ha, rfl⟩⟩

/-! ## All members -/

/-- After some members were taken up, the slots with a member are full and the others are as
they were. -/
theorem IsMadeOf.isSome_get_of_takeMembers (hr : r.IsMadeOf slots)
    (h : r.takeMembers closed state members = .ok after) (hslot : slot ∈ slots) :
    (slot.get after).isSome = true
      ↔ (slot.get state).isSome = true ∨ slot.key ∈ members.map Prod.fst := by
  induction members generalizing state with
  | nil =>
      have hsame : after = state := by
        rw [takeMembers] at h
        split at h
        · exact (Except.ok.inj h).symm
        · cases h
      simp [hsame]
  | cons member rest ih =>
      obtain ⟨key, value⟩ := member
      obtain ⟨between, hfield, hrest⟩ := takeMembers_cons_eq_ok_iff.1 h
      rw [ih hrest, List.map_cons, List.mem_cons]
      rcases hr.get_of_field hfield hslot with ⟨hkey, -, hfull⟩ | ⟨hkey, hsame⟩
      · simp [hkey, hfull]
      · simp [hkey, hsame]

/-- The members of an object are taken up exactly if the object is closed, their keys are
different, and each of them fits a slot that was empty. -/
theorem IsMadeOf.exists_takeMembers_iff (hr : r.IsMadeOf slots) :
    (∃ after, r.takeMembers closed state members = .ok after)
      ↔ closed = true ∧ (members.map Prod.fst).Nodup
        ∧ ∀ member ∈ members, ∃ slot ∈ slots, slot.Fits member ∧ slot.get state = none := by
  -- on the members: the slot of the first one is full for those after it
  induction members generalizing state with
  | nil =>
      cases closed with
      | true => simp [takeMembers]
      | false => simp [takeMembers]
  | cons member rest ih =>
      obtain ⟨key, value⟩ := member
      rw [List.map_cons, List.nodup_cons, List.forall_mem_cons]
      constructor
      · rintro ⟨after, h⟩
        obtain ⟨between, hfield, hrest⟩ := takeMembers_cons_eq_ok_iff.1 h
        obtain ⟨hclosed, hnodup, hall⟩ := ih.1 ⟨after, hrest⟩
        have hempty : ∀ slot ∈ slots, slot.get between = none →
            slot.key ≠ key ∧ slot.get state = none := by
          intro slot hslot hnone
          rcases hr.get_of_field hfield hslot with ⟨-, -, hfull⟩ | ⟨hkey, hsame⟩
          · rw [hnone] at hfull
            cases hfull
          · exact ⟨hkey, hsame ▸ hnone⟩
        refine ⟨hclosed, ⟨?_, hnodup⟩, hr.exists_field_iff.1 ⟨between, hfield⟩, ?_⟩
        · intro hkey
          obtain ⟨member, hmember, hsame⟩ := List.mem_map.1 hkey
          obtain ⟨slot, hslot, hfits, hnone⟩ := hall member hmember
          exact (hempty slot hslot hnone).1 (hfits.1.trans hsame)
        · intro member hmember
          obtain ⟨slot, hslot, hfits, hnone⟩ := hall member hmember
          exact ⟨slot, hslot, hfits, (hempty slot hslot hnone).2⟩
      · rintro ⟨hclosed, ⟨hkey, hnodup⟩, hfirst, hall⟩
        obtain ⟨between, hfield⟩ := hr.exists_field_iff.2 hfirst
        have hrest : ∀ member ∈ rest, ∃ slot ∈ slots, slot.Fits member
            ∧ slot.get between = none := by
          intro member hmember
          obtain ⟨slot, hslot, hfits, hnone⟩ := hall member hmember
          refine ⟨slot, hslot, hfits, ?_⟩
          rcases hr.get_of_field hfield hslot with ⟨hsame, -, -⟩ | ⟨-, hsame⟩
          · have hmem : key ∈ rest.map Prod.fst :=
              List.mem_map.2 ⟨member, hmember, hfits.1.symm.trans hsame⟩
            exact absurd hmem hkey
          · exact hsame.trans hnone
        obtain ⟨after, h⟩ := ih.2 ⟨hclosed, hnodup, hrest⟩
        exact ⟨after, takeMembers_cons_eq_ok_iff.2 ⟨between, hfield, h⟩⟩

/-! ## Objects -/

/-- **Exactly which objects are records**: those that are closed, have every key once, have a
value that fits under every key, and have the required keys. -/
theorem IsMadeOf.exists_decode_iff (hr : r.IsMadeOf slots) :
    (∃ a, r.decode (object members closed) = .ok a)
      ↔ closed = true ∧ (members.map Prod.fst).Nodup
        ∧ (∀ member ∈ members, ∃ slot ∈ slots, slot.Fits member)
        ∧ ∀ slot ∈ slots.take r.required, slot.key ∈ members.map Prod.fst := by
  have hstart : (∃ after, r.takeMembers closed r.start members = .ok after)
      ↔ closed = true ∧ (members.map Prod.fst).Nodup
        ∧ ∀ member ∈ members, ∃ slot ∈ slots, slot.Fits member := by
    rw [hr.exists_takeMembers_iff]
    constructor
    · rintro ⟨hclosed, hnodup, hall⟩
      refine ⟨hclosed, hnodup, fun member hmember => ?_⟩
      obtain ⟨slot, hslot, hfits, -⟩ := hall member hmember
      exact ⟨slot, hslot, hfits⟩
    · rintro ⟨hclosed, hnodup, hall⟩
      refine ⟨hclosed, hnodup, fun member hmember => ?_⟩
      obtain ⟨slot, hslot, hfits⟩ := hall member hmember
      exact ⟨slot, hslot, hfits, hr.start slot hslot⟩
  have hfull : ∀ {after}, r.takeMembers closed r.start members = .ok after →
      ((∃ a, r.finish after = .ok a)
        ↔ ∀ slot ∈ slots.take r.required, slot.key ∈ members.map Prod.fst) := by
    intro after hmembers
    rw [hr.finish_iff]
    apply forall₂_congr
    intro slot hrequired
    have hslot : slot ∈ slots := List.mem_of_mem_take hrequired
    rw [hr.isSome_get_of_takeMembers hmembers hslot, hr.start slot hslot]
    simp
  constructor
  · rintro ⟨a, h⟩
    obtain ⟨after, hmembers, hfinish⟩ := exists_of_bind_eq_ok h
    obtain ⟨hclosed, hnodup, hall⟩ := hstart.1 ⟨after, hmembers⟩
    exact ⟨hclosed, hnodup, hall, (hfull hmembers).1 ⟨a, hfinish⟩⟩
  · rintro ⟨hclosed, hnodup, hall, hrequired⟩
    obtain ⟨after, hmembers⟩ := hstart.2 ⟨hclosed, hnodup, hall⟩
    obtain ⟨a, hfinish⟩ := (hfull hmembers).2 hrequired
    refine ⟨a, ?_⟩
    show r.takeMembers closed r.start members >>= r.finish = _
    rw [hmembers]
    exact hfinish

/-- The members of an object that is a record are not ill-formed. -/
theorem IsMadeOf.not_illFormed (hr : r.IsMadeOf slots) {a : α}
    (h : r.decode (object members closed) = .ok a) :
    ¬IllFormed (slots.map Slot.key) ((slots.take r.required).map Slot.key) members := by
  obtain ⟨-, hnodup, hall, hrequired⟩ := hr.exists_decode_iff.1 ⟨a, h⟩
  rintro (⟨key, hkey, hother⟩ | hrepeated | ⟨key, hkey, hmissing⟩)
  · obtain ⟨member, hmember, rfl⟩ := List.mem_map.1 hkey
    obtain ⟨slot, hslot, hfits, -⟩ := hall member hmember
    exact hother (List.mem_map.2 ⟨slot, hslot, hfits⟩)
  · exact hrepeated hnodup
  · obtain ⟨slot, hslot, rfl⟩ := List.mem_map.1 hkey
    exact hmissing (hrequired slot hslot)

end Record

/-- The items of an array that is decoded are decoded. -/
theorem exists_of_mem_of_decodeItems {α : Type} {decode : Json → Except Fault α} {closed : Bool}
    {items : List Json} {as : List α} (h : decodeItems decode closed items = .ok as) {item : Json}
    (hitem : item ∈ items) : ∃ a, decode item = .ok a := by
  induction items generalizing as with
  | nil => cases hitem
  | cons first rest ih =>
      obtain ⟨a, hfirst, h⟩ := exists_of_bind_eq_ok h
      obtain ⟨others, hrest, -⟩ := exists_of_bind_eq_ok h
      rcases List.mem_cons.1 hitem with rfl | hmem
      · exact ⟨a, hfirst⟩
      · exact ih hrest hmem

end Linkage.Json
