import WorkerBindings.Json.Decoder
import WorkerBindings.Json.Text

/-!
# Ordered properties

A map from texts to texts that keeps the order in which its keys were first put in. A new value for
a key goes where the old one was, and only a removed key that comes back goes to the end. The type
carries the proof that no key occurs twice.
-/

namespace WorkerBindings

namespace Properties

/-- The keys of a list of pairs. -/
def keysOf (pairs : List (String × String)) : List String :=
  pairs.map Prod.fst

/-- A list of pairs with one key set: in place if it is there, else at the end. -/
def put (key value : String) : List (String × String) → List (String × String)
  | [] => [(key, value)]
  | (other, old) :: rest =>
    if other = key then (other, value) :: rest else (other, old) :: put key value rest

/-- A list of pairs without the first pair of a key. -/
def drop (key : String) : List (String × String) → List (String × String)
  | [] => []
  | (other, old) :: rest => if other = key then rest else (other, old) :: drop key rest

theorem keysOf_put (key value : String) (pairs : List (String × String)) :
    keysOf (put key value pairs) =
      if key ∈ keysOf pairs then keysOf pairs else keysOf pairs ++ [key] := by
  induction pairs with
  | nil => simp [put, keysOf]
  | cons pair rest ih =>
    obtain ⟨other, old⟩ := pair
    by_cases same : other = key
    · subst same
      simp [put, keysOf]
    · have notSame : ¬ key = other := fun h => same h.symm
      simp only [keysOf] at ih
      by_cases found : key ∈ rest.map Prod.fst <;>
        simp [put, keysOf, same, notSame, found] at ih ⊢ <;> simp_all

theorem nodup_keysOf_put (key value : String) {pairs : List (String × String)}
    (distinct : (keysOf pairs).Nodup) : (keysOf (put key value pairs)).Nodup := by
  rw [keysOf_put]
  split
  · exact distinct
  · rename_i missing
    rw [List.nodup_append]
    refine ⟨distinct, by simp, ?_⟩
    intro left leftMem right rightMem same
    simp only [List.mem_singleton] at rightMem
    subst rightMem
    exact missing (same ▸ leftMem)

theorem keysOf_drop_sublist (key : String) (pairs : List (String × String)) :
    (keysOf (drop key pairs)).Sublist (keysOf pairs) := by
  induction pairs with
  | nil => exact List.Sublist.slnil
  | cons pair rest ih =>
    obtain ⟨other, old⟩ := pair
    by_cases same : other = key
    · simp only [drop, same, if_true, keysOf, List.map_cons]
      exact List.sublist_cons_self _ _
    · simp only [drop, same, if_false, keysOf, List.map_cons]
      exact List.Sublist.cons_cons _ ih

end Properties

/-- An insertion-ordered map of texts. -/
structure Properties where
  entries : List (String × String)
  distinct : (Properties.keysOf entries).Nodup
  deriving DecidableEq

namespace Properties

/-- The map without entries. -/
def empty : Properties :=
  ⟨[], List.nodup_nil⟩

/-- The value of a key. -/
def get? (properties : Properties) (key : String) : Option String :=
  properties.entries.lookup key

/-- Whether a key has a value. -/
def contains (properties : Properties) (key : String) : Bool :=
  (properties.get? key).isSome

/-- Give a key a value. -/
def insert (properties : Properties) (key value : String) : Properties :=
  ⟨put key value properties.entries, nodup_keysOf_put key value properties.distinct⟩

/-- Take a key out. -/
def erase (properties : Properties) (key : String) : Properties :=
  ⟨drop key properties.entries,
    properties.distinct.sublist (keysOf_drop_sublist key properties.entries)⟩

/-- Give a key a value, and get the one that it had before. -/
def getThenInsert? (properties : Properties) (key value : String) : Option String × Properties :=
  (properties.get? key, properties.insert key value)

/-- Take a key out, and get the value that it had. -/
def getThenErase? (properties : Properties) (key : String) : Option String × Properties :=
  (properties.get? key, properties.erase key)

/-- The number of keys. -/
def size (properties : Properties) : Nat :=
  properties.entries.length

/-- Whether there is no key. -/
def isEmpty (properties : Properties) : Bool :=
  properties.entries.isEmpty

/-- The keys in order. -/
def keys (properties : Properties) : List String :=
  keysOf properties.entries

/-- The entries whose keys are not among those given, in order. -/
def without (properties : Properties) (keys : List String) : Properties :=
  ⟨properties.entries.filter fun entry => !keys.contains entry.1,
    properties.distinct.sublist (List.filter_sublist.map Prod.fst)⟩

/-- Insert pairs one after another. -/
def insertAll (properties : Properties) (pairs : List (String × String)) : Properties :=
  pairs.foldl (fun map (key, value) => map.insert key value) properties

/-- The map of a list of pairs: each key at its first place with its last value. -/
def ofPairs (pairs : List (String × String)) : Properties :=
  empty.insertAll pairs

/-- The map as an object, keys in order. -/
def toJson (properties : Properties) : Json :=
  .object (properties.entries.map fun (key, value) => (key, .string value))

/-- The map as compact JSON text. -/
def text (properties : Properties) : String :=
  properties.toJson.compact

/-- Insert one member of an object. -/
def insertMember (properties : Properties) (member : Option String × Reading) :
    Except DecodeError Properties :=
  match member with
  | (some key, reading) => (Decoder.string reading).map (properties.insert key)
  | (none, _) => .error .malformed

/-- A map from an object of texts; a key may come again. -/
def decode (budget : Nat) : Decoder Properties :=
  Decoder.nested budget fun _ reading =>
    match reading with
    | .object members => members.foldlM insertMember empty
    | _ => .error .malformed

/-- A map from its JSON text. -/
def ofText (text : String) : Except DecodeError Properties :=
  Decoder.decodeText decode text

end Properties

end WorkerBindings
