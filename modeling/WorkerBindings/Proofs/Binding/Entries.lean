import WorkerBindings.Binding.Basic
import WorkerBindings.Proofs.Json.Records

/-!
# Entries in their order

A property map that is put together from pairs with different keys has exactly these pairs, in their
order, whether they come one by one or as the members of a document.
-/

namespace WorkerBindings

namespace Properties

/-- A map is its entries. -/
theorem eq_of_entries {left right : Properties} (same : left.entries = right.entries) :
    left = right := by
  cases left
  cases right
  cases same
  rfl

theorem put_of_notMem {key : String} {pairs : List (String × String)}
    (missing : key ∉ keysOf pairs) (value : String) :
    put key value pairs = pairs ++ [(key, value)] := by
  induction pairs with
  | nil => rfl
  | cons pair rest ih =>
    obtain ⟨other, old⟩ := pair
    have different : other ≠ key := (List.ne_of_not_mem_cons missing).symm
    rw [put, if_neg different, ih (List.not_mem_of_not_mem_cons missing), List.cons_append]

/-- New keys go to the end one after another. -/
theorem entries_insertAll (properties : Properties) {pairs : List (String × String)}
    (distinct : (keysOf (properties.entries ++ pairs)).Nodup) :
    (properties.insertAll pairs).entries = properties.entries ++ pairs := by
  induction pairs generalizing properties with
  | nil => exact (List.append_nil _).symm
  | cons pair rest ih =>
    obtain ⟨key, value⟩ := pair
    have missing : key ∉ keysOf properties.entries := by
      intro inside
      rw [keysOf, List.map_append, List.nodup_append] at distinct
      exact distinct.2.2 key inside key List.mem_cons_self rfl
    have inserted : (properties.insert key value).entries = properties.entries ++ [(key, value)] :=
      put_of_notMem missing value
    have regrouped : properties.entries ++ (key, value) :: rest =
        (properties.insert key value).entries ++ rest := by
      rw [inserted, List.append_assoc, List.singleton_append]
    rw [regrouped] at distinct ⊢
    exact ih (properties.insert key value) distinct

theorem entries_ofPairs {pairs : List (String × String)} (distinct : (keysOf pairs).Nodup) :
    (ofPairs pairs).entries = pairs :=
  empty.entries_insertAll distinct

theorem foldlM_insertMember (properties : Properties) (pairs : List (String × String)) :
    (Reading.ofMembers (Json.textMembers pairs)).foldlM insertMember properties =
      .ok (properties.insertAll pairs) := by
  induction pairs generalizing properties with
  | nil => rfl
  | cons pair rest ih => exact ih (properties.insert pair.1 pair.2)

/-- A map is read back from its document. -/
theorem decode_toJson (budget : Nat) (properties : Properties) :
    decode (budget + 1) (Reading.ofJson properties.toJson) = .ok properties := by
  have folded := foldlM_insertMember empty properties.entries
  have same : empty.insertAll properties.entries = properties :=
    eq_of_entries (entries_ofPairs properties.distinct)
  rw [same] at folded
  exact folded

theorem toJson_isIntegral (properties : Properties) : properties.toJson.IsIntegral :=
  Json.textMembers_integral properties.entries

end Properties

theorem Direction.decode_name (budget : Nat) (direction : Direction) :
    Direction.decode budget (.string direction.name) = .ok direction := by
  cases direction <;> rfl

theorem PayloadHint.decode_name (budget : Nat) (hint : PayloadHint) :
    PayloadHint.decode budget (.string hint.name) = .ok hint := by
  cases hint <;> rfl

namespace StructuredBinding

theorem nodup_fields (budget : Nat) : ((fields budget).map (·.key)).Nodup := by
  change ["name", "direction", "bindingType", "dataType", "properties"].Nodup
  decide

/-- A structured binding is read back from its document, where properties are left out if there are
none. -/
theorem decode_toJson (budget : Nat) (binding : StructuredBinding) :
    decode (budget + 2) (Reading.ofJson binding.toJson) = .ok binding := by
  refine Decoder.record_of_fills (nodup_fields (budget + 1)) ?_
  refine .required rfl (.required (Direction.decode_name _ _) (.required rfl ?_))
  refine .optional rfl (fun _ => Reading.noConfusion) (fun _ _ => PayloadHint.decode_name _ _) ?_
  by_cases none : binding.properties.isEmpty = true
  · have empty : Properties.empty = binding.properties :=
      Properties.eq_of_entries (List.isEmpty_iff.mp none).symm
    rw [if_pos none, empty]
    exact .leftOut rfl (.done binding)
  · rw [if_neg none]
    exact .defaulted (Properties.decode_toJson _ _) (.done binding)

theorem toJson_isIntegral (binding : StructuredBinding) : binding.toJson.IsIntegral := by
  have hint : Json.MembersAreIntegral
      (Json.optional "dataType" (fun hint => .string hint.name) binding.hint) := by
    refine Json.membersAreIntegral_optional ?_ _
    exact fun _ _ => trivial
  refine Json.membersAreIntegral_append
    (Json.membersAreIntegral_append ⟨trivial, trivial, trivial, trivial⟩ hint) ?_
  split
  · trivial
  · exact ⟨binding.properties.toJson_isIntegral, trivial⟩

end StructuredBinding

end WorkerBindings
