import WorkerBindings.Proofs.Identity.Edits

/-!
# Identities of absent and empty fields

A field that is absent is passed over, and one that is empty is not: its fingerprint is the seed of
texts, which is odd. A step adds thirty times the fingerprint so far and what it is given, so an odd
text never leaves a fingerprint as it was, and what differs at one field differs after all of them.
-/

namespace WorkerBindings.Identity

/-- A step with an odd number changes the parity of the fingerprint. -/
theorem step_ne_self {next : UInt32} (odd : next.toNat % 2 = 1) (hash : UInt32) :
    step hash next ≠ hash := by
  intro same
  have parity : (step hash next).toNat % 2 = (hash.toNat + next.toNat) % 2 := by
    have factor : multiplier.toNat = 31 := by decide
    rw [step, UInt32.toNat_add, UInt32.toNat_mul, factor]
    omega
  rw [same] at parity
  omega

variable {α : Type} {weigh : α → UInt32}

/-- An item of odd weight is never put into a list without a trace. -/
theorem steps_ne_inserted {item : α} (odd : (weigh item).toNat % 2 = 1) (before after : List α)
    (start : UInt32) :
    steps weigh (before ++ after) start ≠ steps weigh (before ++ item :: after) start := by
  intro same
  rw [steps, steps, List.foldl_append, List.foldl_append] at same
  exact step_ne_self odd _ (steps_injective after same).symm

theorem ofText_empty : ofText "" = textSeed := by decide

/-- `EmptiedIn fields others` says that one field is absent on the left and empty on the right, and
that the others are the same on both sides. -/
inductive EmptiedIn : List (Option String) → List (Option String) → Prop where
  | here {rest : List (Option String)} : EmptiedIn (none :: rest) (some "" :: rest)
  | there {field : Option String} {fields others : List (Option String)}
      (emptied : EmptiedIn fields others) : EmptiedIn (field :: fields) (field :: others)

/-- The texts that are present are the same but for one more, which is empty. -/
theorem EmptiedIn.present {fields others : List (Option String)}
    (emptied : EmptiedIn fields others) :
    ∃ before after, fields.filterMap id = before ++ after ∧
      others.filterMap id = before ++ "" :: after := by
  induction emptied with
  | @here rest => exact ⟨[], rest.filterMap id, rfl, rfl⟩
  | @there field fields others _ ih =>
    obtain ⟨before, after, isFields, isOthers⟩ := ih
    cases field with
    | none => exact ⟨before, after, isFields, isOthers⟩
    | some text =>
      exact ⟨text :: before, after, congrArg (List.cons text) isFields,
        congrArg (List.cons text) isOthers⟩

/-- There is an identity unless all fields are absent. -/
theorem ofFields_eq_none_iff {name scriptFile entryPoint : Option String} :
    ofFields name scriptFile entryPoint = none ↔
      name = none ∧ scriptFile = none ∧ entryPoint = none := by
  have absent : ofFields name scriptFile entryPoint = none ↔
      [name, scriptFile, entryPoint].filterMap id = [] := by
    unfold ofFields
    split
    · rename_i none
      exact iff_of_true rfl none
    · rename_i some
      exact iff_of_false (Option.some_ne_none _) some
  rw [absent, List.filterMap_eq_nil_iff]
  simp

/-- A function has an identity unless all its fields are absent, and it has another one once an
absent field is empty instead, whatever the other fields hold. -/
theorem ofFields_tells_absent (name scriptFile entryPoint : Option String) :
    (ofFields name scriptFile entryPoint = none ↔
        name = none ∧ scriptFile = none ∧ entryPoint = none) ∧
      ∀ otherName otherScriptFile otherEntryPoint : Option String,
        EmptiedIn [name, scriptFile, entryPoint]
            [otherName, otherScriptFile, otherEntryPoint] →
          ofFields name scriptFile entryPoint ≠
              ofFields otherName otherScriptFile otherEntryPoint ∧
            textOfFields name scriptFile entryPoint ≠
              textOfFields otherName otherScriptFile otherEntryPoint := by
  refine ⟨ofFields_eq_none_iff, fun otherName otherScriptFile otherEntryPoint emptied => ?_⟩
  have differ : ofFields name scriptFile entryPoint ≠
      ofFields otherName otherScriptFile otherEntryPoint := by
    obtain ⟨before, after, isFields, isOthers⟩ := emptied.present
    rw [ofFields_eq isOthers]
    by_cases absent : before ++ after = []
    · rw [ofFields, isFields, absent]
      exact (Option.some_ne_none _).symm
    · obtain ⟨first, rest, present⟩ := List.exists_cons_of_ne_nil absent
      have inFront : [name, scriptFile, entryPoint].filterMap id = [] ++ first :: rest :=
        isFields.trans present
      rw [ofFields_eq inFront, List.nil_append, ← present]
      have odd : (ofText "").toNat % 2 = 1 := by rw [ofText_empty]; decide
      exact fun same => steps_ne_inserted odd before after fieldsSeed (Option.some.inj same)
  refine ⟨differ, fun sameText => differ ?_⟩
  refine Option.map_injective (fun hash other same => ?_) sameText
  exact UInt32.toNat_inj.mp (Text.ofNat_injective same)

/-- A name alone, and the same name with an empty entry point behind an absent script file. -/
theorem ofFields_tells_absent_entryPoint :
    EmptiedIn [some "Run", none, none] [some "Run", none, some ""] ∧
      ofFields (some "Run") none none ≠ ofFields (some "Run") none (some "") ∧
      ofFields (some "Run") none none = some 768259 := by
  have emptied : EmptiedIn [some "Run", none, none] [some "Run", none, some ""] :=
    .there (.there .here)
  exact ⟨emptied, ((ofFields_tells_absent (some "Run") none none).2 _ _ _ emptied).1,
    by decide +kernel⟩

end WorkerBindings.Identity
