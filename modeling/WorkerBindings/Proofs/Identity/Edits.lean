import Mathlib.Data.List.Basic
import WorkerBindings.Identity
import WorkerBindings.Proofs.Text.Digits

/-!
# Identities after a small edit

A step of either fold can be undone, because the multiplier is odd: what differs before it differs
after it. Two texts that differ in a single UTF-16 unit therefore have different fingerprints,
however long they are and wherever the unit stands, and so have two functions of which one field was
edited like that.
-/

namespace WorkerBindings

namespace Text

/-- Two texts have equally many UTF-16 units and differ in exactly one of them. -/
def OneUnitApart (left right : String) : Prop :=
  (units left).length = (units right).length ∧
    ∃! place : Nat, (units left)[place]? ≠ (units right)[place]?

/-- Where two texts are one unit apart, they are the same before the unit and behind it. -/
theorem oneUnitApart_iff {left right : String} :
    OneUnitApart left right ↔ ∃ before unit other after,
      units left = before ++ unit :: after ∧ units right = before ++ other :: after ∧
        unit ≠ other := by
  unfold OneUnitApart
  generalize units left = first
  generalize units right = second
  constructor
  · rintro ⟨sameLength, place, differ, only⟩
    have same {index : Nat} (elsewhere : index ≠ place) : first[index]? = second[index]? :=
      Decidable.byContradiction fun differs => elsewhere (only index differs)
    have insideFirst : place < first.length := by
      by_contra outside
      refine differ ?_
      rw [List.getElem?_eq_none (by omega), List.getElem?_eq_none (by omega)]
    have insideSecond : place < second.length := sameLength ▸ insideFirst
    have before : first.take place = second.take place := by
      refine List.ext_getElem? fun index => ?_
      rw [List.getElem?_take, List.getElem?_take]
      split
      · exact same (by omega)
      · rfl
    have after : first.drop (place + 1) = second.drop (place + 1) := by
      refine List.ext_getElem? fun index => ?_
      rw [List.getElem?_drop, List.getElem?_drop]
      exact same (by omega)
    refine ⟨first.take place, first[place], second[place], first.drop (place + 1), ?_, ?_, ?_⟩
    · rw [← List.drop_eq_getElem_cons insideFirst, List.take_append_drop]
    · rw [before, after, ← List.drop_eq_getElem_cons insideSecond, List.take_append_drop]
    · intro equal
      refine differ ?_
      rw [List.getElem?_eq_getElem insideFirst, List.getElem?_eq_getElem insideSecond, equal]
  · rintro ⟨before, unit, other, after, rfl, rfl, differ⟩
    refine ⟨by simp only [List.length_append, List.length_cons], before.length, ?_, ?_⟩
    · simpa using differ
    · intro index differs
      by_contra elsewhere
      refine differs ?_
      rcases Nat.lt_or_gt_of_ne elsewhere with earlier | later
      · rw [List.getElem?_append_left earlier, List.getElem?_append_left earlier]
      · obtain ⟨offset, rfl⟩ := Nat.exists_eq_add_of_lt later
        have behind : before.length ≤ before.length + offset + 1 := by omega
        rw [List.getElem?_append_right behind, List.getElem?_append_right behind]
        have offsetIs : before.length + offset + 1 - before.length = offset + 1 := by omega
        rw [offsetIs, List.getElem?_cons_succ, List.getElem?_cons_succ]

theorem units_lt {text : String} {unit : Nat} (member : unit ∈ units text) : unit < 65536 := by
  obtain ⟨character, _, isUnit⟩ := List.mem_flatMap.mp member
  have valid : character.toNat < 0x110000 := by
    rcases character.valid with low | ⟨_, high⟩
    · change character.toNat < 0xD800 at low
      omega
    · exact high
  unfold unitsOf at isUnit
  dsimp only at isUnit
  split at isUnit
  · rename_i basic
    rw [List.mem_singleton.mp isUnit]
    exact basic
  · simp only [List.mem_cons, List.not_mem_nil, or_false] at isUnit
    rcases isUnit with high | low <;> omega

end Text

namespace Identity

open Text

/-- What undoes a multiplication by the multiplier. -/
def inverse : UInt32 := 3186588639

theorem multiplier_mul_inverse : multiplier * inverse = 1 := by decide

/-- The fingerprint before a step can be told from the one after it. -/
theorem step_left_injective (next : UInt32) : Function.Injective fun hash => step hash next := by
  intro hash other same
  have scaled : hash * multiplier = other * multiplier := (UInt32.add_left_inj next).mp same
  calc hash = hash * multiplier * inverse := by
        rw [UInt32.mul_assoc, multiplier_mul_inverse, UInt32.mul_one]
    _ = other * multiplier * inverse := by rw [scaled]
    _ = other := by rw [UInt32.mul_assoc, multiplier_mul_inverse, UInt32.mul_one]

/-- What a step adds can be told from its result. -/
theorem step_right_injective (hash : UInt32) : Function.Injective (step hash) :=
  fun _ _ same => (UInt32.add_right_inj (hash * multiplier)).mp same

variable {α : Type} {weigh : α → UInt32}

/-- The steps over a list, each of which adds the weight of an item. -/
def steps (weigh : α → UInt32) (items : List α) (hash : UInt32) : UInt32 :=
  items.foldl (fun hash item => step hash (weigh item)) hash

theorem ofText_eq (text : String) :
    ofText text = steps (fun unit => UInt32.ofNat unit) (units text) textSeed := rfl

theorem steps_injective (items : List α) : Function.Injective (steps weigh items) := by
  induction items with
  | nil => exact fun _ _ same => same
  | cons item rest ih => exact ih.comp (step_left_injective (weigh item))

/-- Two lists that differ in the weight of one item lead to different fingerprints. -/
theorem steps_ne {item other : α} (differ : weigh item ≠ weigh other) (before after : List α)
    (start : UInt32) :
    steps weigh (before ++ item :: after) start ≠ steps weigh (before ++ other :: after) start := by
  intro same
  rw [steps, steps, List.foldl_append, List.foldl_append] at same
  exact differ (step_right_injective _ (steps_injective after same))

/-- `OneUnitEdit fields others` says that the same fields are present on both sides, and that one of
them has one UTF-16 unit changed while the others are the same. -/
inductive OneUnitEdit : List (Option String) → List (Option String) → Prop where
  | here {left right : String} {rest : List (Option String)} (apart : OneUnitApart left right) :
      OneUnitEdit (some left :: rest) (some right :: rest)
  | there {field : Option String} {fields others : List (Option String)}
      (edit : OneUnitEdit fields others) : OneUnitEdit (field :: fields) (field :: others)

/-- The texts that are present are the same but for one, which was edited. -/
theorem OneUnitEdit.present {fields others : List (Option String)}
    (edit : OneUnitEdit fields others) :
    ∃ before left right after, fields.filterMap id = before ++ left :: after ∧
      others.filterMap id = before ++ right :: after ∧ OneUnitApart left right := by
  induction edit with
  | @here left right rest apart => exact ⟨[], left, right, rest.filterMap id, rfl, rfl, apart⟩
  | @there field fields others _ ih =>
    obtain ⟨before, left, right, after, isFields, isOthers, apart⟩ := ih
    cases field with
    | none => exact ⟨before, left, right, after, isFields, isOthers, apart⟩
    | some text =>
      refine ⟨text :: before, left, right, after, ?_, ?_, apart⟩
      · exact congrArg (List.cons text) isFields
      · exact congrArg (List.cons text) isOthers

/-- Texts that are one unit apart have different fingerprints. -/
theorem ofText_ne {left right : String} (apart : OneUnitApart left right) :
    ofText left ≠ ofText right := by
  obtain ⟨before, unit, other, after, isLeft, isRight, differ⟩ := oneUnitApart_iff.mp apart
  have unitSmall : unit < UInt32.size :=
    Nat.lt_trans (units_lt (isLeft ▸ List.mem_append_cons_self)) (by decide)
  have otherSmall : other < UInt32.size :=
    Nat.lt_trans (units_lt (isRight ▸ List.mem_append_cons_self)) (by decide)
  have weighed : UInt32.ofNat unit ≠ UInt32.ofNat other := by
    intro same
    have back := congrArg UInt32.toNat same
    rw [UInt32.toNat_ofNat_of_lt' unitSmall, UInt32.toNat_ofNat_of_lt' otherSmall] at back
    exact differ back
  rw [ofText_eq, ofText_eq, isLeft, isRight]
  exact steps_ne weighed before after textSeed

theorem ofFields_eq {name scriptFile entryPoint : Option String} {before after : List String}
    {text : String}
    (present : [name, scriptFile, entryPoint].filterMap id = before ++ text :: after) :
    ofFields name scriptFile entryPoint =
      some (steps ofText (before ++ text :: after) fieldsSeed) := by
  rw [ofFields, present]
  split
  · rename_i empty
    simp at empty
  · rfl

/-- A function has another identity, and another text for it, after one unit of one of its fields
was changed. -/
theorem ofFields_separates {name scriptFile entryPoint : Option String}
    {otherName otherScriptFile otherEntryPoint : Option String}
    (edit : OneUnitEdit [name, scriptFile, entryPoint]
      [otherName, otherScriptFile, otherEntryPoint]) :
    ∃ hash otherHash, ofFields name scriptFile entryPoint = some hash ∧
      ofFields otherName otherScriptFile otherEntryPoint = some otherHash ∧ hash ≠ otherHash ∧
      ∃ text otherText, textOfFields name scriptFile entryPoint = some text ∧
        textOfFields otherName otherScriptFile otherEntryPoint = some otherText ∧
        text ≠ otherText := by
  obtain ⟨before, left, right, after, isFields, isOthers, apart⟩ := edit.present
  have hashes := ofFields_eq isFields
  have otherHashes := ofFields_eq isOthers
  have differ := steps_ne (ofText_ne apart) before after fieldsSeed
  refine ⟨_, _, hashes, otherHashes, differ, _, _, congrArg (Option.map _) hashes,
    congrArg (Option.map _) otherHashes, fun sameText => differ ?_⟩
  exact UInt32.toNat_inj.mp (ofNat_injective sameText)

/-- The second unit of a pair of surrogates is enough. -/
theorem ofFields_separates_surrogates :
    OneUnitEdit [some "Run", some "a😀.dll", none] [some "Run", some "a😁.dll", none] ∧
      ∃ hash otherHash, ofFields (some "Run") (some "a😀.dll") none = some hash ∧
        ofFields (some "Run") (some "a😁.dll") none = some otherHash ∧ hash ≠ otherHash := by
  have apart : OneUnitApart "a😀.dll" "a😁.dll" := oneUnitApart_iff.mpr
    ⟨[0x61, 0xD83D], 0xDE00, 0xDE01, [0x2E, 0x64, 0x6C, 0x6C], by decide, by decide, by decide⟩
  have edit : OneUnitEdit [some "Run", some "a😀.dll", none] [some "Run", some "a😁.dll", none] :=
    .there (.here apart)
  obtain ⟨hash, otherHash, isHash, isOther, differ, _⟩ := ofFields_separates edit
  exact ⟨edit, hash, otherHash, isHash, isOther, differ⟩

end Identity

end WorkerBindings
