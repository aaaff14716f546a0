import WorkerBindings.Json.Decoder
import WorkerBindings.Proofs.Association
import WorkerBindings.Proofs.Json.RoundTrip

/-!
# Objects of texts read back

The members of an object are sorted when it is decoded as a plain value. What matters to a reader is
what it finds under a key, and for members with distinct keys that is what was written there.
-/

namespace WorkerBindings

namespace Json

/-- Members that hold texts. -/
def textMembers (pairs : List (String × String)) : List (String × Json) :=
  pairs.map fun (key, value) => (key, .string value)

theorem textMembers_integral (pairs : List (String × String)) :
    (Json.object (textMembers pairs)).IsIntegral := by
  change MembersAreIntegral (textMembers pairs)
  induction pairs with
  | nil => trivial
  | cons pair rest ih => exact ⟨trivial, ih⟩

end Json

namespace Decoder

open Association

/-- Insert members that hold texts one after another. -/
def insertTexts (pairs : List (String × String)) (found : List (String × Json)) :
    List (String × Json) :=
  pairs.foldl (fun found (key, value) => insertSorted key (.string value) found) found

theorem lookup_insertSorted (key : String) (value : Json) (other : String)
    (members : List (String × Json)) :
    (insertSorted key value members).lookup other =
      if other = key then some value else members.lookup other := by
  induction members with
  | nil => by_cases same : other = key <;> simp [insertSorted, same]
  | cons member rest ih =>
    obtain ⟨first, old⟩ := member
    by_cases here : key = first
    · subst here
      by_cases same : other = key
      · simp [insertSorted, same]
      · simp [insertSorted, same, lookup_cons_ne same]
    · by_cases before : key < first
      · by_cases same : other = key
        · simp [insertSorted, here, before, same]
        · simp [insertSorted, here, before, same, lookup_cons_ne same]
      · by_cases atFirst : other = first
        · have different : other ≠ key := fun same => here (same.symm.trans atFirst)
          subst atFirst
          simp [insertSorted, here, before, different]
        · simp [insertSorted, here, before, lookup_cons_ne atFirst, ih]

theorem perm_insertSorted {key : String} {members : List (String × Json)}
    (missing : key ∉ members.map Prod.fst) (value : Json) :
    (insertSorted key value members).Perm ((key, value) :: members) := by
  induction members with
  | nil => exact .refl _
  | cons member rest ih =>
    obtain ⟨first, old⟩ := member
    rw [insertSorted, if_neg (List.ne_of_not_mem_cons missing)]
    split
    · exact .refl _
    · exact ((ih (List.not_mem_of_not_mem_cons missing)).cons _).trans (.swap _ _ _)

/-- The members are sorted by key, and no key stands twice. -/
def Sorted (members : List (String × Json)) : Prop :=
  (members.map Prod.fst).Pairwise (· < ·)

theorem mem_keys_insertSorted {key : String} {value : Json} {members : List (String × Json)}
    {other : String} (inside : other ∈ (insertSorted key value members).map Prod.fst) :
    other = key ∨ other ∈ members.map Prod.fst := by
  induction members with
  | nil => exact .inl (List.mem_singleton.mp inside)
  | cons member rest ih =>
    obtain ⟨first, old⟩ := member
    rw [insertSorted] at inside
    split at inside
    · rcases List.mem_cons.mp inside with here | behind
      · exact .inl here
      · exact .inr (List.mem_cons_of_mem _ behind)
    · split at inside
      · exact List.mem_cons.mp inside
      · rcases List.mem_cons.mp inside with here | behind
        · exact .inr (List.mem_cons.mpr (.inl here))
        · exact (ih behind).imp_right (List.mem_cons_of_mem _)

/-- Insertion keeps members sorted, also where it replaces the value of a key. -/
theorem Sorted.insertSorted {members : List (String × Json)} (sorted : Sorted members)
    (key : String) (value : Json) : Sorted (insertSorted key value members) := by
  induction members with
  | nil => exact List.pairwise_singleton _ _
  | cons member rest ih =>
    obtain ⟨first, old⟩ := member
    obtain ⟨behind, sortedRest⟩ := List.pairwise_cons.mp sorted
    rw [Decoder.insertSorted]
    split
    · rename_i same
      subst same
      exact sorted
    · rename_i different
      split
      · rename_i before
        refine List.pairwise_cons.mpr ⟨?_, sorted⟩
        exact List.forall_mem_cons.mpr
          ⟨before, fun other inside => String.lt_trans before (behind other inside)⟩
      · rename_i notBefore
        have after : first < key :=
          Std.lt_of_le_of_ne (String.not_lt.mp notBefore) (Ne.symm different)
        refine List.pairwise_cons.mpr ⟨fun other inside => ?_, ih sortedRest⟩
        rcases mem_keys_insertSorted inside with rfl | inRest
        · exact after
        · exact behind other inRest

theorem Sorted.nodup {members : List (String × Json)} (sorted : Sorted members) :
    (members.map Prod.fst).Nodup := by
  refine List.Pairwise.imp ?_ sorted
  rintro key _ before rfl
  exact String.lt_irrefl key before

/-- Members that hold texts come to stand in the order of their keys, and none is lost. -/
theorem insertTexts_sorted {pairs : List (String × String)} {found : List (String × Json)}
    (sorted : Sorted found) (distinct : (found.map Prod.fst ++ pairs.map Prod.fst).Nodup) :
    (insertTexts pairs found).Perm (found ++ Json.textMembers pairs) ∧
      Sorted (insertTexts pairs found) := by
  induction pairs generalizing found with
  | nil =>
    refine ⟨?_, sorted⟩
    rw [Json.textMembers, List.map_nil, List.append_nil]
    exact .refl _
  | cons pair rest ih =>
    obtain ⟨key, value⟩ := pair
    have missing : key ∉ found.map Prod.fst := fun inside =>
      (List.nodup_append.mp distinct).2.2 key inside key List.mem_cons_self rfl
    have inserted := perm_insertSorted missing (.string value)
    have distinctStill :
        ((insertSorted key (.string value) found).map Prod.fst ++ rest.map Prod.fst).Nodup := by
      have moved : ((insertSorted key (.string value) found).map Prod.fst ++
          rest.map Prod.fst).Perm (found.map Prod.fst ++ key :: rest.map Prod.fst) :=
        ((inserted.map Prod.fst).append_right _).trans List.perm_middle.symm
      exact moved.nodup_iff.mpr distinct
    obtain ⟨perm, sortedAll⟩ := ih (sorted.insertSorted key (.string value)) distinctStill
    refine ⟨perm.trans ?_, sortedAll⟩
    exact (inserted.append_right _).trans List.perm_middle.symm

/-- A key of one of several pairs with distinct keys is found with the value of its pair. -/
theorem lookup_insertTexts {pairs : List (String × String)}
    (distinct : (pairs.map Prod.fst).Nodup) (key : String) (found : List (String × Json)) :
    (insertTexts pairs found).lookup key =
      match pairs.lookup key with
      | some value => some (.string value)
      | none => found.lookup key := by
  induction pairs generalizing found with
  | nil => rfl
  | cons pair rest ih =>
    obtain ⟨first, value⟩ := pair
    obtain ⟨fresh, distinctRest⟩ := List.nodup_cons.mp distinct
    have inserted : insertTexts ((first, value) :: rest) found =
        insertTexts rest (insertSorted first (.string value) found) := rfl
    rw [inserted, ih distinctRest, lookup_insertSorted]
    by_cases same : key = first
    · subst same
      have missing : rest.lookup key = none := by
        rw [List.lookup_eq_none_iff]
        intro pair member
        have inside : pair.1 ∈ rest.map Prod.fst := List.mem_map_of_mem member
        have different : key ≠ pair.1 := fun same => fresh (same ▸ inside)
        simpa using different
      simp [missing]
    · simp [same, lookup_cons_ne same]

theorem valueMembers_texts (budget : Nat) (pairs : List (String × String))
    (found : List (String × Json)) :
    valueMembers budget (Reading.ofMembers (Json.textMembers pairs)) found =
      .ok (insertTexts pairs found) := by
  induction pairs generalizing found with
  | nil => rfl
  | cons pair rest ih => exact ih (insertSorted pair.1 (.string pair.2) found)

/-- A decoder that is given the text of a value decodes that value. -/
theorem decodeText_compact {α : Type} (decoder : Nat → Decoder α) {document : Json}
    (integral : document.IsIntegral) :
    decodeText decoder document.compact = decoder maxNesting (Reading.ofJson document) := by
  simp only [decodeText, Reading.ofText_compact integral]
  cases decoder maxNesting (Reading.ofJson document) <;> rfl

/-- The same for the text on several lines. -/
theorem decodeText_pretty {α : Type} (decoder : Nat → Decoder α) {document : Json}
    (integral : document.IsIntegral) :
    decodeText decoder document.pretty = decoder maxNesting (Reading.ofJson document) := by
  simp only [decodeText, Reading.ofText_pretty integral]
  cases decoder maxNesting (Reading.ofJson document) <;> rfl

/-- The text of an object of texts is decoded as that object, sorted. -/
theorem decodeText_texts (pairs : List (String × String)) :
    decodeText value (Json.object (Json.textMembers pairs)).compact =
      .ok (.object (insertTexts pairs [])) := by
  rw [decodeText_compact value (Json.textMembers_integral pairs)]
  change (valueMembers 126 (Reading.ofMembers (Json.textMembers pairs)) []).map Json.object = _
  rw [valueMembers_texts]
  rfl

end Decoder

end WorkerBindings
