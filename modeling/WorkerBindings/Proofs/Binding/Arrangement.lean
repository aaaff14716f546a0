import WorkerBindings.Proofs.Binding.Entries
import WorkerBindings.Proofs.Binding.Order

/-!
# Property maps under any operations

A property map is an arrangement: a list of pairs with distinct keys, in the order in which the keys
came. What each operation makes of an arrangement is stated here by plain operations of lists, and
`Properties.run_arranges` says that a map which goes through any sequence of operations holds what
they make of the pairs that it started with, and has given their answers.
-/

namespace WorkerBindings

namespace Properties

/-- What can be done to a map. -/
inductive Operation where
  | insert (key value : String)
  | erase (key : String)
  /-- Go on with the copy without some keys. -/
  | without (keys : List String)
  /-- Go on with the map of a list of pairs. -/
  | collect (pairs : List (String × String))
  /-- Go on with the map that a text holds, if it holds one. -/
  | parse (text : String)

/-- What an operation answers. -/
inductive Answer where
  | previous (value : Option String)
  | done
  | refused
  deriving DecidableEq

/-- Do one operation. -/
def perform (properties : Properties) : Operation → Answer × Properties
  | .insert key value =>
    let (previous, changed) := properties.getThenInsert? key value
    (.previous previous, changed)
  | .erase key =>
    let (previous, changed) := properties.getThenErase? key
    (.previous previous, changed)
  | .without keys => (.done, properties.without keys)
  | .collect pairs => (.done, ofPairs pairs)
  | .parse text =>
    match ofText text with
    | .ok parsed => (.done, parsed)
    | .error _ => (.refused, properties)

/-- Do operations one after another. -/
def run (properties : Properties) : List Operation → List Answer × Properties
  | [] => ([], properties)
  | operation :: rest =>
    let (answer, changed) := properties.perform operation
    let (answers, final) := changed.run rest
    (answer :: answers, final)

end Properties

/-- Pairs of a key and its value, in the order in which the keys came. -/
abbrev Arrangement := List (String × String)

namespace Arrangement

open Properties

/-- The same pairs with another value for a key. -/
def replace (pairs : Arrangement) (key value : String) : Arrangement :=
  pairs.map fun pair => if pair.1 = key then (key, value) else pair

/-- A new key goes to the end; a key that is there gets the new value in its place. -/
def insert (pairs : Arrangement) (key value : String) : Arrangement :=
  if key ∈ pairs.map Prod.fst then pairs.replace key value else pairs ++ [(key, value)]

/-- The pairs with other keys, in their order. -/
def without (pairs : Arrangement) (keys : List String) : Arrangement :=
  pairs.filter fun pair => decide (pair.1 ∉ keys)

/-- Each key at its first place with its last value. -/
def collect (pairs : List (String × String)) : Arrangement :=
  (pairs.map Prod.fst).eraseDups.filterMap fun key =>
    (pairs.reverse.lookup key).map fun value => (key, value)

/-- A member of an object as a pair, if its value is a text. -/
def textMember? : Option String × Reading → Option (String × String)
  | (some key, .string value) => some (key, value)
  | _ => none

/-- The members of an object whose values are all texts. -/
def members? : Reading → Option (List (String × String))
  | .object members => members.mapM textMember?
  | _ => none

/-- The members that a text states, if it is one JSON object whose values are all texts. -/
def stated? (text : String) : Option (List (String × String)) :=
  let document := Reading.ofText text
  if document.complete then members? document.value else none

/-- What an operation makes of an arrangement. -/
def perform (pairs : Arrangement) : Operation → Answer × Arrangement
  | .insert key value => (.previous (pairs.lookup key), pairs.insert key value)
  | .erase key => (.previous (pairs.lookup key), pairs.without [key])
  | .without keys => (.done, pairs.without keys)
  | .collect stated => (.done, collect stated)
  | .parse text =>
    match stated? text with
    | some stated => (.done, collect stated)
    | none => (.refused, pairs)

/-- What operations make of an arrangement one after another. -/
def run (pairs : Arrangement) : List Operation → List Answer × Arrangement
  | [] => ([], pairs)
  | operation :: rest =>
    let (answer, changed) := pairs.perform operation
    let (answers, final) := changed.run rest
    (answer :: answers, final)

end Arrangement

namespace Properties

open Association

theorem replace_of_notMem {key : String} {pairs : List (String × String)}
    (missing : key ∉ keysOf pairs) (value : String) :
    Arrangement.replace pairs key value = pairs := by
  have same : ∀ pair ∈ pairs, (if pair.1 = key then (key, value) else pair) = pair :=
    fun pair member => if_neg fun (found : pair.1 = key) =>
      missing (found ▸ List.mem_map_of_mem member)
  rw [Arrangement.replace, List.map_congr_left same, List.map_id']

/-- With distinct keys, the pair that is met first is the only one to replace. -/
theorem put_of_mem {key : String} {pairs : List (String × String)}
    (distinct : (keysOf pairs).Nodup) (known : key ∈ keysOf pairs) (value : String) :
    put key value pairs = Arrangement.replace pairs key value := by
  induction pairs with
  | nil => cases known
  | cons pair rest ih =>
    obtain ⟨other, old⟩ := pair
    obtain ⟨fresh, distinctRest⟩ := List.nodup_cons.mp distinct
    rw [put, Arrangement.replace, List.map_cons]
    by_cases here : other = key
    · subst here
      rw [if_pos rfl, if_pos rfl]
      exact congrArg _ (replace_of_notMem fresh value).symm
    · rw [if_neg here, if_neg here]
      have knownLater := (List.mem_cons.mp known).resolve_left (Ne.symm here)
      exact congrArg _ (ih distinctRest knownLater)

theorem entries_insert (properties : Properties) (key value : String) :
    (properties.insert key value).entries = Arrangement.insert properties.entries key value := by
  unfold Arrangement.insert
  split
  · rename_i known
    exact put_of_mem properties.distinct known value
  · rename_i missing
    exact put_of_notMem missing value

theorem entries_erase (properties : Properties) (key : String) :
    (properties.erase key).entries = Arrangement.without properties.entries [key] := by
  refine (drop_eq_filter key properties.distinct).trans (List.filter_congr fun pair _ => ?_)
  simp

theorem entries_without (properties : Properties) (keys : List String) :
    (properties.without keys).entries = Arrangement.without properties.entries keys := by
  refine List.filter_congr fun pair _ => ?_
  simp

theorem get?_insertAll (properties : Properties) (pairs : List (String × String)) (key : String) :
    (properties.insertAll pairs).get? key =
      (pairs.reverse.lookup key).or (properties.get? key) := by
  induction pairs generalizing properties with
  | nil => rfl
  | cons pair rest ih =>
    obtain ⟨first, value⟩ := pair
    have step : properties.insertAll ((first, value) :: rest) =
        (properties.insert first value).insertAll rest := rfl
    rw [step, ih, get?_insert, List.reverse_cons, List.lookup_append, Option.or_assoc]
    by_cases same : key = first
    · simp [same]
    · simp [same, lookup_cons_ne same]

/-- The map of a list of pairs has each key at its first place with its last value. -/
theorem entries_ofPairs_eq (pairs : List (String × String)) :
    (ofPairs pairs).entries = Arrangement.collect pairs := by
  have keys : (ofPairs pairs).keys = (pairs.map Prod.fst).eraseDups := by
    rw [ofPairs, keys_insertAll]
    simp [keys, empty, keysOf]
  rw [entries_eq_filterMap, keys, Arrangement.collect]
  refine List.filterMap_congr fun key _ => ?_
  rw [ofPairs, get?_insertAll, get?_empty, Option.or_none]

theorem toOption_bind {ε α β : Type} (step : Except ε α) (next : α → Except ε β) :
    (step >>= next).toOption = step.toOption.bind fun found => (next found).toOption := by
  cases step <;> rfl

/-- A member is inserted if its value is a text, and refused otherwise. -/
theorem toOption_insertMember (properties : Properties) (member : Option String × Reading) :
    (insertMember properties member).toOption =
      (Arrangement.textMember? member).map fun pair => properties.insert pair.1 pair.2 := by
  obtain ⟨key?, value⟩ := member
  cases key? with
  | none => rfl
  | some key => cases value <;> rfl

theorem toOption_foldlM_insertMember (properties : Properties)
    (members : List (Option String × Reading)) :
    (members.foldlM insertMember properties).toOption =
      (members.mapM Arrangement.textMember?).map properties.insertAll := by
  induction members generalizing properties with
  | nil => rfl
  | cons member rest ih =>
    rw [List.foldlM_cons, toOption_bind, toOption_insertMember, List.mapM_cons]
    cases Arrangement.textMember? member with
    | none => rfl
    | some pair =>
      simp only [Option.map_some, Option.bind_some, ih]
      cases rest.mapM Arrangement.textMember? <;> rfl

theorem toOption_decode (reading : Reading) :
    (decode Decoder.maxNesting reading).toOption = (Arrangement.members? reading).map ofPairs := by
  cases reading with
  | object members => exact toOption_foldlM_insertMember empty members
  | _ => rfl

/-- A text is a map exactly if it is one object of texts, and then it is the map of its members. -/
theorem toOption_ofText (text : String) :
    (ofText text).toOption = (Arrangement.stated? text).map ofPairs := by
  unfold ofText Decoder.decodeText Arrangement.stated?
  obtain ⟨value, complete⟩ := Reading.ofText text
  rw [toOption_bind, toOption_decode]
  cases stated : Arrangement.members? value with
  | none => cases complete <;> simp [stated]
  | some pairs => cases complete <;> simp [stated, Except.toOption]

theorem ofText_of_stated {text : String} {pairs : List (String × String)}
    (stated : Arrangement.stated? text = some pairs) : ofText text = .ok (ofPairs pairs) := by
  have parsed := toOption_ofText text
  rw [stated] at parsed
  cases found : ofText text with
  | ok map =>
    rw [found] at parsed
    exact congrArg Except.ok (Option.some.inj parsed)
  | error reason =>
    rw [found] at parsed
    cases parsed

theorem ofText_of_unstated {text : String} (unstated : Arrangement.stated? text = none) :
    ∃ reason, ofText text = .error reason := by
  have parsed := toOption_ofText text
  rw [unstated] at parsed
  cases found : ofText text with
  | ok map =>
    rw [found] at parsed
    cases parsed
  | error reason => exact ⟨reason, rfl⟩

theorem mapM_textMember?_ofMembers (pairs : List (String × String)) :
    (Reading.ofMembers (Json.textMembers pairs)).mapM Arrangement.textMember? = some pairs := by
  induction pairs with
  | nil => rfl
  | cons pair rest ih =>
    have here : Reading.ofMembers (Json.textMembers (pair :: rest)) =
        (some pair.1, .string pair.2) :: Reading.ofMembers (Json.textMembers rest) := rfl
    rw [here, List.mapM_cons, ih]
    rfl

/-- An object of texts states its members in their order, repeated keys included, whether it is
written on one line or on several. -/
theorem stated?_object (pairs : List (String × String)) :
    Arrangement.stated? (Json.object (Json.textMembers pairs)).compact = some pairs ∧
      Arrangement.stated? (Json.object (Json.textMembers pairs)).pretty = some pairs := by
  have integral := Json.textMembers_integral pairs
  unfold Arrangement.stated?
  rw [Reading.ofText_compact integral, Reading.ofText_pretty integral]
  exact ⟨mapM_textMember?_ofMembers pairs, mapM_textMember?_ofMembers pairs⟩

theorem ofText_text (properties : Properties) : ofText properties.text = .ok properties := by
  rw [ofText, text, Decoder.decodeText_compact decode properties.toJson_isIntegral]
  exact decode_toJson 126 properties

theorem perform_arranges (properties : Properties) (operation : Operation) :
    (properties.perform operation).1 = (Arrangement.perform properties.entries operation).1 ∧
      (properties.perform operation).2.entries =
        (Arrangement.perform properties.entries operation).2 := by
  cases operation with
  | insert key value => exact ⟨rfl, entries_insert properties key value⟩
  | erase key => exact ⟨rfl, entries_erase properties key⟩
  | without keys => exact ⟨rfl, entries_without properties keys⟩
  | collect pairs => exact ⟨rfl, entries_ofPairs_eq pairs⟩
  | parse text =>
    cases stated : Arrangement.stated? text with
    | none =>
      obtain ⟨reason, refused⟩ := ofText_of_unstated stated
      simp only [perform, Arrangement.perform, stated, refused, and_self]
    | some pairs =>
      simp only [perform, Arrangement.perform, stated, ofText_of_stated stated, entries_ofPairs_eq,
        and_self]

theorem run_entries (properties : Properties) (operations : List Operation) :
    (properties.run operations).1 = (Arrangement.run properties.entries operations).1 ∧
      (properties.run operations).2.entries =
        (Arrangement.run properties.entries operations).2 := by
  induction operations generalizing properties with
  | nil => exact ⟨rfl, rfl⟩
  | cons operation rest ih =>
    obtain ⟨answer, entries⟩ := perform_arranges properties operation
    obtain ⟨answers, final⟩ := ih (properties.perform operation).2
    rw [entries] at answers final
    exact ⟨congrArg₂ List.cons answer answers, final⟩

/-- The construction from pairs inserts them one after another. -/
theorem collect_eq_foldl (pairs : List (String × String)) :
    Arrangement.collect pairs =
      pairs.foldl (fun arranged pair => Arrangement.insert arranged pair.1 pair.2) [] := by
  have inserted (properties : Properties) : (properties.insertAll pairs).entries =
      pairs.foldl (fun arranged pair => Arrangement.insert arranged pair.1 pair.2)
        properties.entries := by
    induction pairs generalizing properties with
    | nil => rfl
    | cons pair rest ih =>
      rw [List.foldl_cons, ← entries_insert]
      exact ih (properties.insert pair.1 pair.2)
  rw [← entries_ofPairs_eq]
  exact inserted empty

/-- A map holds an arrangement: it has these pairs in this order, no key twice, answers for each key
as they do, and is read back from its text. -/
structure Holds (properties : Properties) (pairs : Arrangement) : Prop where
  entries : properties.entries = pairs
  distinct : (pairs.map Prod.fst).Nodup
  keys : properties.keys = pairs.map Prod.fst
  get? : ∀ key, properties.get? key = pairs.lookup key
  contains : ∀ key, properties.contains key = true ↔ key ∈ pairs.map Prod.fst
  reread : ofText properties.text = .ok properties

theorem contains_iff (properties : Properties) (key : String) :
    properties.contains key = true ↔ key ∈ properties.keys := by
  rw [contains, get?, List.lookup_isSome_iff, keys, keysOf, List.mem_map]
  simp only [beq_iff_eq, eq_comm (a := key)]

theorem holds_entries (properties : Properties) : properties.Holds properties.entries where
  entries := rfl
  distinct := properties.distinct
  keys := rfl
  get? _ := rfl
  contains := properties.contains_iff
  reread := properties.ofText_text

/-- A map that goes through any sequence of operations gives the answers that they give on the pairs
that it started with, and holds in the end what they make of these pairs. Pairs are collected as by
inserting them one after another, and the text of an object states its members. -/
theorem run_arranges (start : Properties) (operations : List Operation) :
    (start.run operations).1 = (Arrangement.run start.entries operations).1 ∧
      (start.run operations).2.Holds (Arrangement.run start.entries operations).2 ∧
      ∀ pairs : List (String × String),
        Arrangement.collect pairs =
            pairs.foldl (fun arranged pair => Arrangement.insert arranged pair.1 pair.2) [] ∧
          Arrangement.stated? (Json.object (Json.textMembers pairs)).compact = some pairs ∧
          Arrangement.stated? (Json.object (Json.textMembers pairs)).pretty = some pairs := by
  obtain ⟨answers, entries⟩ := run_entries start operations
  refine ⟨answers, ?_, fun pairs => ⟨collect_eq_foldl pairs, stated?_object pairs⟩⟩
  rw [← entries]
  exact (start.run operations).2.holds_entries

/-- A key keeps its place with a new value, and loses it by being erased. -/
example : (empty.run [.insert "name" "a", .insert "isBatched" "true", .insert "type" "b",
      .insert "name" "c", .erase "isBatched", .insert "isBatched" "false"]).2.entries =
    [("name", "c"), ("type", "b"), ("isBatched", "false")] := by
  decide

end Properties

end WorkerBindings
