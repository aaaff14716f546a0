import WorkerBindings.Proofs.Json.Records

/-!
# What a record holds

A record that has been read holds, in each of its fields, what its document states for that field:
the member with the key of the field in an object, the item at its place in an array. A field for
which nothing is stated keeps the value that the record started out with, and a field that has to be
there is stated. All that it takes is that no other field of the record touches what the field
stores (`Owns`).
-/

namespace WorkerBindings

/-- What a reading of a record states for a field with a key and a place. -/
def Reading.field? (key : String) (place : Nat) : Reading → Option Reading
  | .object members => (members.find? fun member => member.1 == some key).map (·.2)
  | .array items => items[place]?
  | _ => none

namespace Decoder

variable {α β γ : Type}

theorem nested_eq_ok {budget : Nat} {inside : Nat → Decoder α} {reading : Reading} {result : α}
    (decoded : nested budget inside reading = .ok result) :
    ∃ inner, inside inner reading = .ok result := by
  unfold nested at decoded
  split at decoded
  · cases decoded
  · exact ⟨_, decoded⟩

theorem optional_eq_ok_iff {item : Decoder β} {reading : Reading} {result : Option β} :
    optional item reading = .ok result ↔
      (reading = .null ∧ result = none) ∨
        (reading ≠ .null ∧ ∃ value, item reading = .ok value ∧ result = some value) := by
  have some_iff : (item reading).map some = .ok result ↔
      ∃ value, item reading = .ok value ∧ result = some value := by
    rw [map_eq_ok_iff]
    exact exists_congr fun value => and_congr_right fun _ => eq_comm
  cases reading with
  | null => simp [optional, eq_comm]
  | bool | number | string | valueless | array | object | cut => simpa [optional] using some_iff

theorem list_eq_ok {budget : Nat} {item : Nat → Decoder β} {reading : Reading} {values : List β}
    (decoded : list budget item reading = .ok values) :
    ∃ inner readings, reading = .array readings ∧
      List.Forall₂ (fun reading value => item inner reading = .ok value) readings values := by
  obtain ⟨inner, decoded⟩ := nested_eq_ok decoded
  cases reading with
  | array readings => exact ⟨inner, readings, rfl, (mapM_eq_ok_iff _ _ _).mp decoded⟩
  | null | bool | number | string | valueless | object | cut => cases decoded

/-- A field that stores what `item` decodes where `get` looks for it. -/
def Stores (field : Field α) (item : Decoder β) (get : α → β) : Prop :=
  ∀ reading before after, field.store reading before = .ok after → item reading = .ok (get after)

/-- A field that leaves alone what `get` looks at. -/
def Keeps (field : Field α) (get : α → β) : Prop :=
  ∀ reading before after, field.store reading before = .ok after → get after = get before

theorem stores_of_put {field : Field α} {item : Decoder β} {put : β → α → α} {get : α → β}
    (puts : field.store = fun reading record => (item reading).map (put · record))
    (put_get : ∀ value record, get (put value record) = value) : Stores field item get := by
  intro reading before after stored
  rw [puts] at stored
  obtain ⟨value, reads, rfl⟩ := map_eq_ok_iff.mp stored
  rw [reads, put_get]

theorem keeps_of_put {field : Field α} {item : Decoder γ} {put : γ → α → α} {get : α → β}
    (puts : field.store = fun reading record => (item reading).map (put · record))
    (put_get : ∀ value record, get (put value record) = get record) : Keeps field get := by
  intro reading before after stored
  rw [puts] at stored
  obtain ⟨value, _, rfl⟩ := map_eq_ok_iff.mp stored
  exact put_get value before

/-- `Owns fields place field item get` says that the field at the place stores what `item` decodes
where `get` looks for it, and that no other field of the record does. -/
structure Owns (fields : List (Field α)) (place : Nat) (field : Field α) (item : Decoder β)
    (get : α → β) : Prop where
  here : fields[place]? = some field
  distinct : (fields.map (·.key)).Nodup
  stores : Stores field item get
  keeps : ∀ other ∈ fields, other.key ≠ field.key → Keeps other get

/-- What comes to stand in a field: the value of the reading that is stated for it, else, unless the
field has to be there, the value from before. -/
inductive Obtains (field : Field α) (item : Decoder β) (before : β) :
    Option Reading → β → Prop where
  | stated {reading : Reading} {value : β} (reads : item reading = .ok value) :
      Obtains field item before (some reading) value
  | leftOut {value : β} (mayLack : field.required = false) (kept : value = before) :
      Obtains field item before none value

variable {fields : List (Field α)} {field : Field α} {item : Decoder β} {get : α → β}

/-- A member is taken in if nothing is to be done with it, or if it is the first one for a field and
that field stores it. -/
theorem storeMember_eq_ok {before after : α} {seen seenAfter : List String}
    {member : Option String × Reading}
    (stored : storeMember fields (before, seen) member = .ok (after, seenAfter)) :
    ∃ key, member.1 = some key ∧
      ((fields.find? (·.key == key) = none ∧ after = before ∧ seenAfter = seen) ∨
        ∃ field, fields.find? (·.key == key) = some field ∧ key ∉ seen ∧
          field.store member.2 before = .ok after ∧ seenAfter = key :: seen) := by
  obtain ⟨key?, reading⟩ := member
  cases key? with
  | none => cases stored
  | some key =>
    refine ⟨key, rfl, ?_⟩
    unfold storeMember at stored
    dsimp only at stored
    split at stored
    · rename_i unknown
      obtain ⟨_, _, same⟩ := map_eq_ok_iff.mp stored
      cases same
      exact .inl ⟨unknown, rfl, rfl⟩
    · rename_i field known
      split at stored
      · cases stored
      · rename_i fresh
        obtain ⟨record, takes, same⟩ := map_eq_ok_iff.mp stored
        cases same
        exact .inr ⟨field, known, by simpa using fresh, takes, rfl⟩

/-- What stands in a field after a number of members, when none of its key has been seen before. -/
inductive ObtainsMember (key : String) (item : Decoder β) (before : β)
    (members : List (Option String × Reading)) (seenAfter : List String) : β → Prop where
  | stated {reading : Reading} {value : β}
      (found : (members.find? fun member => member.1 == some key) = some (some key, reading))
      (reads : item reading = .ok value) : ObtainsMember key item before members seenAfter value
  | leftOut {value : β} (missing : (members.find? fun member => member.1 == some key) = none)
      (unseen : key ∉ seenAfter) (kept : value = before) :
      ObtainsMember key item before members seenAfter value

section

variable (known : fields.find? (·.key == field.key) = some field)
  (stores : Stores field item get) (keeps : ∀ other ∈ fields, other.key ≠ field.key →
    Keeps other get)

include keeps

/-- Once the member of a field has been seen, the field keeps its value. -/
theorem foldlM_storeMember_seen {members : List (Option String × Reading)} {before after : α}
    {seen seenAfter : List String} (isSeen : field.key ∈ seen)
    (folded : members.foldlM (storeMember fields) (before, seen) = .ok (after, seenAfter)) :
    get after = get before := by
  induction members generalizing before seen with
  | nil =>
    cases folded
    rfl
  | cons member rest ih =>
    rw [List.foldlM_cons, bind_eq_ok_iff] at folded
    obtain ⟨⟨between, seenBetween⟩, stored, folded⟩ := folded
    obtain ⟨key, _, ⟨_, rfl, rfl⟩ | ⟨other, isOther, fresh, takes, rfl⟩⟩ := storeMember_eq_ok stored
    · exact ih isSeen folded
    · have otherKey : other.key = key := by simpa using List.find?_some isOther
      have different : other.key ≠ field.key := by
        rintro same
        exact fresh (otherKey ▸ same ▸ isSeen)
      rw [ih (List.mem_cons_of_mem key isSeen) folded]
      exact keeps other (List.mem_of_find?_eq_some isOther) different _ _ _ takes

include known stores

/-- The first member with the key of a field is the one that the field stores. -/
theorem foldlM_storeMember_field {members : List (Option String × Reading)} {before after : α}
    {seen seenAfter : List String} (unseen : field.key ∉ seen)
    (folded : members.foldlM (storeMember fields) (before, seen) = .ok (after, seenAfter)) :
    ObtainsMember field.key item (get before) members seenAfter (get after) := by
  induction members generalizing before seen with
  | nil =>
    cases folded
    exact .leftOut rfl unseen rfl
  | cons member rest ih =>
    rw [List.foldlM_cons, bind_eq_ok_iff] at folded
    obtain ⟨⟨between, seenBetween⟩, stored, folded⟩ := folded
    obtain ⟨key, isKey, step⟩ := storeMember_eq_ok stored
    obtain ⟨key?, reading⟩ := member
    cases isKey
    by_cases here : key = field.key
    · subst here
      obtain ⟨unknown, _⟩ | ⟨other, isOther, _, takes, rfl⟩ := step
      · rw [known] at unknown
        cases unknown
      · cases isOther.symm.trans known
        have kept := foldlM_storeMember_seen keeps List.mem_cons_self folded
        exact .stated (List.find?_cons_of_pos (by simp)) (kept ▸ stores _ _ _ takes)
    · have passed : ((some key, reading) :: rest).find? (fun member => member.1 == some field.key) =
          rest.find? fun member => member.1 == some field.key :=
        List.find?_cons_of_neg (by simpa using here)
      have kept : get between = get before ∧ field.key ∉ seenBetween := by
        obtain ⟨_, rfl, rfl⟩ | ⟨other, isOther, _, takes, rfl⟩ := step
        · exact ⟨rfl, unseen⟩
        · have otherKey : other.key = key := by simpa using List.find?_some isOther
          exact ⟨keeps other (List.mem_of_find?_eq_some isOther) (otherKey ▸ here) _ _ _ takes,
            List.not_mem_cons_of_ne_of_not_mem (Ne.symm here) unseen⟩
      have later := ih kept.2 folded
      rw [kept.1] at later
      cases later with
      | stated found reads => exact .stated (passed.trans found) reads
      | leftOut missing unseenAfter same =>
        exact .leftOut (passed.trans missing) unseenAfter same

end

/-- Items for fields that all keep a value leave it as it was. -/
theorem storeItems_kept {items : List Reading} {before after : α}
    (keeps : ∀ other ∈ fields, Keeps other get)
    (stored : storeItems fields items before = .ok after) : get after = get before := by
  induction fields generalizing items before with
  | nil =>
    cases items with
    | nil =>
      cases stored
      rfl
    | cons item rest => cases stored
  | cons first rest ih =>
    obtain ⟨keepsFirst, keepsRest⟩ := List.forall_mem_cons.mp keeps
    cases items with
    | nil =>
      unfold storeItems at stored
      split at stored
      · cases stored
      · exact ih keepsRest stored
    | cons reading later =>
      rw [storeItems, bind_eq_ok_iff] at stored
      obtain ⟨between, takes, stored⟩ := stored
      rw [ih keepsRest stored]
      exact keepsFirst _ _ _ takes

/-- The item at the place of a field is the one that the field stores. -/
theorem storeItems_field {place : Nat} (owns : Owns fields place field item get)
    {items : List Reading} {before after : α}
    (stored : storeItems fields items before = .ok after) :
    Obtains field item (get before) items[place]? (get after) := by
  obtain ⟨here, distinct, stores, keeps⟩ := owns
  induction fields generalizing place items before with
  | nil => cases here
  | cons first rest ih =>
    obtain ⟨fresh, distinctRest⟩ := List.nodup_cons.mp distinct
    obtain ⟨keepsFirst, keepsRest⟩ := List.forall_mem_cons.mp keeps
    cases place with
    | zero =>
      cases here
      have others : ∀ other ∈ rest, Keeps other get := fun other member =>
        keepsRest other member fun same => fresh (List.mem_map.mpr ⟨other, member, same⟩)
      cases items with
      | nil =>
        unfold storeItems at stored
        split at stored
        · cases stored
        · rename_i mayLack
          exact .leftOut (Bool.eq_false_iff.mpr mayLack) (storeItems_kept others stored)
      | cons reading later =>
        rw [storeItems, bind_eq_ok_iff] at stored
        obtain ⟨between, takes, stored⟩ := stored
        rw [storeItems_kept others stored]
        exact .stated (stores _ _ _ takes)
    | succ place =>
      rw [List.getElem?_cons_succ] at here
      have different : first.key ≠ field.key := fun same =>
        fresh (List.mem_map.mpr ⟨field, List.mem_of_getElem? here, same.symm⟩)
      cases items with
      | nil =>
        unfold storeItems at stored
        split at stored
        · cases stored
        · have obtains := ih stored here distinctRest keepsRest
          exact obtains
      | cons reading later =>
        rw [storeItems, bind_eq_ok_iff] at stored
        obtain ⟨between, takes, stored⟩ := stored
        have obtains := ih stored here distinctRest keepsRest
        rw [keepsFirst different _ _ _ takes] at obtains
        exact obtains

/-- A record holds in a field what its document states for it. -/
theorem record_field {place : Nat} (owns : Owns fields place field item get) {blank result : α}
    {reading : Reading} (decoded : record fields blank reading = .ok result) :
    Obtains field item (get blank) (reading.field? field.key place) (get result) := by
  cases reading with
  | object members =>
    rw [record, bind_eq_ok_iff] at decoded
    obtain ⟨⟨filled, seen⟩, folded, decoded⟩ := decoded
    dsimp only at decoded
    split at decoded
    · rename_i complete
      cases decoded
      have member : field ∈ fields := List.mem_of_getElem? owns.here
      have known := find?_key owns.distinct member
      cases foldlM_storeMember_field known owns.stores owns.keeps List.not_mem_nil folded with
      | stated found reads =>
        rw [Reading.field?, found]
        exact .stated reads
      | leftOut missing unseen kept =>
        have mayLack : field.required = false := by
          have stated := List.all_eq_true.mp complete field member
          simpa [unseen] using stated
        simp only [Reading.field?, missing, Option.map_none]
        exact .leftOut mayLack kept
    · cases decoded
  | array items => exact storeItems_field owns decoded
  | null | bool | number | string | valueless | cut => cases decoded

/-- A field that has to be there holds what its document states for it. -/
theorem record_requiredField {place : Nat} (owns : Owns fields place field item get)
    (isRequired : field.required = true) {blank result : α} {reading : Reading}
    (decoded : record fields blank reading = .ok result) :
    ∃ stated, reading.field? field.key place = some stated ∧ item stated = .ok (get result) := by
  generalize isStated : reading.field? field.key place = stated
  have obtains := record_field owns decoded
  rw [isStated] at obtains
  cases obtains with
  | stated reads => exact ⟨_, rfl, reads⟩
  | leftOut mayLack =>
    rw [isRequired] at mayLack
    cases mayLack

end Decoder

end WorkerBindings
