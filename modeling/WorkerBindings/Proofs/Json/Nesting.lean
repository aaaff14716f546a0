import WorkerBindings.Proofs.Json.Records

/-!
# Values read back within a budget

A decoder of nested values has a budget of arrays and objects that may still be opened, and reads
back every value that does not nest deeper than that. `Decoder.Restores` says so of a decoder and a
value; from it follows the same for lists and records of such values.
-/

namespace WorkerBindings

namespace Json

mutual

/-- The number of arrays and objects that are open at one time in a value. -/
def depth : Json → Nat
  | .array items => itemsDepth items + 1
  | .object members => membersDepth members + 1
  | _ => 0

/-- The same for several values. -/
def itemsDepth : List Json → Nat
  | [] => 0
  | item :: rest => max item.depth (itemsDepth rest)

/-- The same for the values of members. -/
def membersDepth : List (String × Json) → Nat
  | [] => 0
  | (_, value) :: rest => max value.depth (membersDepth rest)

end

theorem depth_le_of_mem {items : List Json} {item : Json} (member : item ∈ items) :
    item.depth ≤ itemsDepth items := by
  induction items with
  | nil => cases member
  | cons first rest ih =>
    rw [itemsDepth]
    rcases List.mem_cons.mp member with rfl | later
    · exact Nat.le_max_left _ _
    · exact (ih later).trans (Nat.le_max_right _ _)

@[simp] theorem membersDepth_nil : membersDepth [] = 0 := by
  rw [membersDepth]

@[simp] theorem membersDepth_cons (key : String) (value : Json) (rest : List (String × Json)) :
    membersDepth ((key, value) :: rest) = max value.depth (membersDepth rest) := by
  rw [membersDepth]

@[simp] theorem membersDepth_append (first second : List (String × Json)) :
    membersDepth (first ++ second) = max (membersDepth first) (membersDepth second) := by
  induction first with
  | nil => simp
  | cons member rest ih =>
    obtain ⟨key, value⟩ := member
    rw [List.cons_append, membersDepth_cons, membersDepth_cons, ih, Nat.max_assoc]

end Json

namespace Decoder

variable {α β : Type}

/-- Whenever the budget allows for its nesting, the decoder reads the value as the given result. -/
def Restores (decoder : Nat → Decoder α) (value : Json) (result : α) : Prop :=
  ∀ budget, value.depth ≤ budget → decoder budget (Reading.ofJson value) = .ok result

namespace Restores

/-- A value that opens something is never read without a budget. -/
theorem opening {decoder : Nat → Decoder α} {value : Json} {result : α} (opens : 0 < value.depth)
    (reads : ∀ budget, value.depth ≤ budget + 1 →
      decoder (budget + 1) (Reading.ofJson value) = .ok result) :
    Restores decoder value result := by
  intro budget enough
  cases budget with
  | zero => exact absurd (Nat.lt_of_lt_of_le opens enough) (Nat.lt_irrefl 0)
  | succ budget => exact reads budget enough

/-- A list is read back if its items are. -/
theorem list {item : Nat → Decoder β} {encode : β → Json} {values : List β}
    (each : ∀ value ∈ values, Restores item (encode value) value) :
    Restores (fun budget => list budget item) (.array (values.map encode)) values := by
  refine opening (by rw [Json.depth]; exact Nat.succ_pos _) fun budget enough => ?_
  rw [Json.depth] at enough
  refine items_map fun value member => each value member budget ?_
  exact (Json.depth_le_of_mem (List.mem_map_of_mem member)).trans (Nat.le_of_succ_le_succ enough)

/-- A list of texts is read back. -/
theorem strings (values : List String) :
    Restores (fun budget => Decoder.list budget fun _ => Decoder.string)
      (.array (values.map .string)) values :=
  list fun _ _ _ _ => rfl

/-- A list without items is read back by a decoder of its own. -/
theorem nil {item : Nat → Decoder β} {items : Nat → Decoder (List β)}
    (opens : ∀ budget, items (budget + 1) = Decoder.items (item budget)) :
    Restores items (.array []) [] := by
  refine opening (Nat.succ_pos _) fun budget _ => ?_
  rw [opens]
  rfl

/-- A list is read back by a decoder of its own if the first item and the list of the others are. -/
theorem cons {item : Nat → Decoder β} {items : Nat → Decoder (List β)}
    (opens : ∀ budget, items (budget + 1) = Decoder.items (item budget)) {encoded : Json}
    {others : List Json} {first : β} {rest : List β} (here : Restores item encoded first)
    (later : Restores items (.array others) rest) :
    Restores items (.array (encoded :: others)) (first :: rest) := by
  refine opening (by rw [Json.depth]; exact Nat.succ_pos _) fun budget enough => ?_
  rw [Json.depth, Json.itemsDepth, Nat.add_le_add_iff_right] at enough
  have readFirst := here budget ((Nat.le_max_left _ _).trans enough)
  have readRest := later (budget + 1) (by
    rw [Json.depth]
    exact Nat.succ_le_succ ((Nat.le_max_right _ _).trans enough))
  rw [opens] at readRest ⊢
  exact (mapM_cons_eq_ok_iff ..).mpr ⟨first, rest, readFirst, readRest, rfl⟩

/-- A record is read back if its members fill its fields. -/
theorem record {decoder : Nat → Decoder α} {fields : Nat → List (Field α)}
    {members : List (String × Json)} {blank filled : α}
    (opens : ∀ budget, decoder (budget + 1) = Decoder.record (fields budget) blank)
    (distinct : ∀ budget, ((fields budget).map (·.key)).Nodup)
    (fills : ∀ budget, Json.membersDepth members ≤ budget →
      Fills (fields budget) members blank filled) :
    Restores decoder (.object members) filled := by
  refine opening (by rw [Json.depth]; exact Nat.succ_pos _) fun budget enough => ?_
  rw [Json.depth] at enough
  rw [opens]
  exact record_of_fills (distinct budget) (fills budget (Nat.le_of_succ_le_succ enough))

end Restores

/-- A member that is there exactly if a list is not empty. The record says that the list is empty
before it is read. -/
theorem Fills.nonEmpty {key : String} {decoder : Nat → Decoder (List β)} {budget : Nat}
    {fields : List (Field α)} {members : List (String × Json)} {put : List β → α → α}
    {encoded : List Json} {stated : List β} {before after : α}
    (unset : put [] before = before) (empty : encoded = [] → stated = [])
    (restores : Restores decoder (.array encoded) stated)
    (enough : Json.membersDepth (Json.nonEmpty key encoded) ≤ budget)
    (others : Fills fields members (put stated before) after) :
    Fills (Decoder.defaulted key (decoder budget) put :: fields)
      (Json.nonEmpty key encoded ++ members) before after := by
  cases encoded with
  | nil =>
    rw [empty rfl, unset] at others
    exact .leftOut rfl others
  | cons first rest =>
    refine .defaulted (restores budget ?_) others
    simpa [Json.nonEmpty] using enough

end Decoder

end WorkerBindings
