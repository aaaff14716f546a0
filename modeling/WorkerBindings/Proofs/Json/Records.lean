import Mathlib.Data.List.Forall2
import WorkerBindings.Proofs.Json.Values
import WorkerBindings.Proofs.Traversal

/-!
# Records read back

A record is written as an object that has the members of its fields in their order, some of them
left out. Reading such an object goes through the fields in the same order, whatever else the record
is: `Fills` states what each member adds to it, and `record_of_fills` that nothing else happens.
-/

namespace WorkerBindings

namespace Json

theorem areIntegral_map {α : Type} {encode : α → Json} {values : List α}
    (integral : ∀ value ∈ values, (encode value).IsIntegral) :
    AreIntegral (values.map encode) := by
  induction values with
  | nil => trivial
  | cons first rest ih =>
    obtain ⟨here, later⟩ := List.forall_mem_cons.mp integral
    exact ⟨here, ih later⟩

theorem membersAreIntegral_append {first second : List (String × Json)}
    (left : MembersAreIntegral first) (right : MembersAreIntegral second) :
    MembersAreIntegral (first ++ second) := by
  induction first with
  | nil => exact right
  | cons member rest ih => exact ⟨left.1, ih left.2⟩

theorem membersAreIntegral_optional {α : Type} {encode : α → Json} {value : Option α}
    (integral : ∀ inner, value = some inner → (encode inner).IsIntegral) (key : String) :
    MembersAreIntegral (optional key encode value) := by
  cases value with
  | none => trivial
  | some inner => exact ⟨integral inner rfl, trivial⟩

theorem membersAreIntegral_optionalText (key : String) (text : Option String) :
    MembersAreIntegral (optional key .string text) := by
  cases text with
  | none => trivial
  | some inner => exact ⟨trivial, trivial⟩

theorem membersAreIntegral_nonEmpty {items : List Json} (integral : AreIntegral items)
    (key : String) : MembersAreIntegral (nonEmpty key items) := by
  cases items with
  | nil => trivial
  | cons first rest => exact ⟨integral, trivial⟩

end Json

namespace Decoder

variable {α β : Type}

theorem optional_eq_ok {item : Decoder β} {reading : Reading} {value : β}
    (present : reading ≠ .null) (reads : item reading = .ok value) :
    optional item reading = .ok (some value) := by
  unfold optional
  split
  · exact absurd rfl present
  · rw [reads]
    rfl

/-- An array is read item by item. -/
theorem items_map {item : Decoder β} {encode : β → Json} {values : List β}
    (reads : ∀ value ∈ values, item (Reading.ofJson (encode value)) = .ok value) :
    items item (Reading.ofJson (.array (values.map encode))) = .ok values := by
  have readings : Reading.ofItems (values.map encode) =
      values.map fun value => Reading.ofJson (encode value) := by
    clear reads
    induction values with
    | nil => rfl
    | cons first rest ih => exact congrArg (Reading.ofJson (encode first) :: ·) ih
  change (Reading.ofItems (values.map encode)).mapM item = .ok values
  rw [readings, mapM_eq_ok_iff, List.forall₂_map_left_iff, List.forall₂_same]
  exact reads

theorem uint32_ofJson (count : UInt32) :
    uint32 (Reading.ofJson (.nat count.toNat)) = .ok count := by
  have fits : (0 : Int) ≤ count.toNat ∧ (count.toNat : Int) ≤ 4294967295 := by
    have bound := count.toNat_lt
    omega
  have between : intBetween 0 4294967295 (Reading.ofJson (.nat count.toNat)) =
      .ok (count.toNat : Int) := if_pos fits
  rw [uint32, between]
  change Except.ok (UInt32.ofNat (count.toNat : Int).toNat) = _
  rw [Int.toNat_natCast, UInt32.ofNat_toNat]

/-- `Fills fields members before after` says that members in the order of the fields, some of them
left out, turn the one record into the other. -/
inductive Fills : List (Field α) → List (String × Json) → α → α → Prop where
  | done (record : α) : Fills [] [] record record
  | stored {field : Field α} {fields : List (Field α)} {value : Json}
      {members : List (String × Json)} {before between after : α}
      (reads : field.store (Reading.ofJson value) before = .ok between)
      (others : Fills fields members between after) :
      Fills (field :: fields) ((field.key, value) :: members) before after
  | leftOut {field : Field α} {fields : List (Field α)} {members : List (String × Json)}
      {before after : α} (mayLack : field.required = false)
      (others : Fills fields members before after) :
      Fills (field :: fields) members before after

namespace Fills

variable {key : String} {item : Decoder β} {fields : List (Field α)} {value : Json}
  {members : List (String × Json)} {after : α}

/-- A member for a field that has to be there. -/
theorem required {put : β → α → α} {before : α} {decoded : β}
    (reads : item (Reading.ofJson value) = .ok decoded)
    (others : Fills fields members (put decoded before) after) :
    Fills (Decoder.required key item put :: fields) ((key, value) :: members) before after := by
  have stored : (Decoder.required key item put).store (Reading.ofJson value) before =
      .ok (put decoded before) := congrArg (Except.map (put · before)) reads
  exact .stored stored others

/-- A member for a field that might have been left out. -/
theorem defaulted {put : β → α → α} {before : α} {decoded : β}
    (reads : item (Reading.ofJson value) = .ok decoded)
    (others : Fills fields members (put decoded before) after) :
    Fills (Decoder.defaulted key item put :: fields) ((key, value) :: members) before after := by
  have stored : (Decoder.defaulted key item put).store (Reading.ofJson value) before =
      .ok (put decoded before) := congrArg (Except.map (put · before)) reads
  exact .stored stored others

/-- A member that is there exactly if there is something to write. The record says that there is
nothing before it is read. -/
theorem optional {encode : β → Json} {put : Option β → α → α} {before : α} {stated : Option β}
    (empty : put none before = before)
    (present : ∀ inner, Reading.ofJson (encode inner) ≠ .null)
    (reads : ∀ inner, stated = some inner → item (Reading.ofJson (encode inner)) = .ok inner)
    (others : Fills fields members (put stated before) after) :
    Fills (Decoder.defaulted key (Decoder.optional item) put :: fields)
      (Json.optional key encode stated ++ members) before after := by
  cases stated with
  | none =>
    rw [empty] at others
    exact .leftOut rfl others
  | some inner => exact .defaulted (optional_eq_ok (present inner) (reads inner rfl)) others

/-- Such a member when no other follows. -/
theorem optionalLast {encode : β → Json} {put : Option β → α → α} {before : α}
    {stated : Option β} (empty : put none before = before)
    (present : ∀ inner, Reading.ofJson (encode inner) ≠ .null)
    (reads : ∀ inner, stated = some inner → item (Reading.ofJson (encode inner)) = .ok inner) :
    Fills [Decoder.defaulted key (Decoder.optional item) put] (Json.optional key encode stated)
      before (put stated before) := by
  have last : Fills [Decoder.defaulted key (Decoder.optional item) put]
      (Json.optional key encode stated ++ []) before (put stated before) :=
    .optional empty present reads (.done _)
  rwa [List.append_nil] at last

end Fills

theorem find?_key {fields : List (Field α)} (distinct : (fields.map (·.key)).Nodup)
    {field : Field α} (member : field ∈ fields) :
    fields.find? (·.key == field.key) = some field := by
  induction fields with
  | nil => cases member
  | cons first rest ih =>
    obtain ⟨fresh, distinctRest⟩ := List.nodup_cons.mp distinct
    rcases List.mem_cons.mp member with rfl | later
    · simp
    · have different : first.key ≠ field.key := fun same =>
        fresh (List.mem_map.mpr ⟨field, later, same.symm⟩)
      rw [List.find?_cons_of_neg (by simpa using different)]
      exact ih distinctRest later

/-- Members that fill some of the fields of a record are stored one after another, and what has to
be there has been seen. The keys seen before belong to other fields. -/
theorem Fills.foldlM_storeMember {all fields : List (Field α)} {members : List (String × Json)}
    {before after : α} (fills : Fills fields members before after)
    (found : ∀ field ∈ fields, all.find? (·.key == field.key) = some field)
    (distinct : (fields.map (·.key)).Nodup) {seen : List String}
    (unseen : ∀ field ∈ fields, field.key ∉ seen) :
    ∃ seenAfter, (Reading.ofMembers members).foldlM (storeMember all) (before, seen) =
        .ok (after, seenAfter) ∧ seen ⊆ seenAfter ∧
      ∀ field ∈ fields, field.required = true → field.key ∈ seenAfter := by
  induction fills generalizing seen with
  | done record => exact ⟨seen, rfl, List.Subset.refl seen, by simp⟩
  | @stored field fields value members before between after reads others ih =>
    obtain ⟨foundHere, foundLater⟩ := List.forall_mem_cons.mp found
    obtain ⟨fresh, distinctLater⟩ := List.nodup_cons.mp distinct
    obtain ⟨unseenHere, unseenLater⟩ := List.forall_mem_cons.mp unseen
    have unseenStill : ∀ other ∈ fields, other.key ∉ field.key :: seen := by
      intro other member inside
      rcases List.mem_cons.mp inside with same | before
      · exact fresh (List.mem_map.mpr ⟨other, member, same⟩)
      · exact unseenLater other member before
    obtain ⟨seenAfter, folded, kept, required⟩ := ih foundLater distinctLater unseenStill
    have stored : storeMember all (before, seen) (some field.key, Reading.ofJson value) =
        .ok (between, field.key :: seen) := by
      simp [storeMember, foundHere, unseenHere, reads, Except.map]
    refine ⟨seenAfter, ?_, fun key member => kept (List.mem_cons_of_mem _ member), ?_⟩
    · rw [Reading.ofMembers, List.foldlM_cons, stored]
      exact folded
    · exact List.forall_mem_cons.mpr ⟨fun _ => kept List.mem_cons_self, required⟩
  | leftOut mayLack others ih =>
    obtain ⟨seenAfter, folded, kept, required⟩ := ih (List.forall_mem_cons.mp found).2
      (List.nodup_cons.mp distinct).2 (List.forall_mem_cons.mp unseen).2
    refine ⟨seenAfter, folded, kept, List.forall_mem_cons.mpr ⟨fun needed => ?_, required⟩⟩
    rw [mayLack] at needed
    cases needed

/-- An object whose members fill the fields of a record in their order is read as that record. -/
theorem record_of_fills {fields : List (Field α)} {members : List (String × Json)}
    {blank filled : α} (distinct : (fields.map (·.key)).Nodup)
    (fills : Fills fields members blank filled) :
    record fields blank (Reading.ofJson (.object members)) = .ok filled := by
  have unseen : ∀ field ∈ fields, field.key ∉ ([] : List String) := fun _ _ => List.not_mem_nil
  obtain ⟨seen, folded, _, required⟩ := fills.foldlM_storeMember
    (fun _ member => find?_key distinct member) distinct unseen
  have complete : (fields.all fun field => !field.required || seen.contains field.key) = true := by
    rw [List.all_eq_true]
    intro field member
    cases needed : field.required with
    | false => rfl
    | true => simpa using required field member needed
  rw [Reading.ofJson, record, folded]
  exact if_pos complete

end Decoder

end WorkerBindings
