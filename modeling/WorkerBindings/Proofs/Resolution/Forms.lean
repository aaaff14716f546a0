import WorkerBindings.Proofs.Binding.Entries
import WorkerBindings.Proofs.Resolution.Emitted

/-!
# The two forms of a record

A rich record states its bindings twice: in structured form and as raw text. A host that finds the
structured form reads the same bindings as one that goes by the raw texts, as long as no property is
taken for a payload hint. What the two see differs in the order of the properties, which the raw
texts lose, and in the hints, which only the structured form states.
-/

namespace WorkerBindings

namespace ResolvedBinding

theorem textsOf_textMembers (pairs : List (String × String)) :
    textsOf (Json.textMembers pairs) = pairs := by
  unfold textsOf Json.textMembers
  rw [List.filterMap_map]
  exact List.filterMap_some

theorem keysOf_textsOf_sublist (members : List (String × Json)) :
    (Properties.keysOf (textsOf members)).Sublist (members.map Prod.fst) := by
  induction members with
  | nil => exact .slnil
  | cons member rest ih =>
    unfold textsOf
    cases text : textOf? member.2 with
    | none =>
      rw [List.filterMap_cons_none (by rw [text]; rfl)]
      exact ih.cons _
    | some value =>
      rw [List.filterMap_cons_some (b := (member.1, value)) (by rw [text]; rfl)]
      exact ih.cons_cons _

theorem nodup_keysOf_textsOf {members : List (String × Json)} (sorted : Decoder.Sorted members)
    (kept : String × Json → Bool) : (Properties.keysOf (textsOf (members.filter kept))).Nodup :=
  sorted.nodup.sublist ((keysOf_textsOf_sublist _).trans (List.filter_sublist.map Prod.fst))

theorem textsOf_perm {first second : List (String × Json)} (perm : first.Perm second) :
    (textsOf first).Perm (textsOf second) :=
  perm.filterMap _

/-- A structured binding and a raw one describe the same binding. The raw one has its properties in
the order of their keys. -/
structure AgreesWith (structured raw : ResolvedBinding) : Prop where
  name : structured.name = raw.name
  direction : structured.direction = raw.direction
  bindingType : structured.bindingType = raw.bindingType
  properties : structured.properties.entries.Perm raw.properties.entries
  sorted : raw.properties.keys.Pairwise (· < ·)

theorem membersOf_sorted (binding : Binding) :
    (membersOf binding).Perm (Json.textMembers binding.properties.entries) ∧
      Decoder.Sorted (membersOf binding) :=
  Decoder.insertTexts_sorted .nil binding.properties.distinct

theorem rawProperties_sorted (binding : Binding) :
    (Properties.keysOf (rawProperties binding)).Pairwise (· < ·) :=
  (membersOf_sorted binding).2.sublist
    ((keysOf_textsOf_sublist _).trans (List.filter_sublist.map Prod.fst))

/-- The raw text keeps the properties whose keys a host does not take for anything else. -/
theorem rawProperties_perm (binding : Binding) :
    (rawProperties binding).Perm (binding.properties.entries.filter
      fun entry => !(hintKey :: reservedKeys).contains entry.1) := by
  have filtered : (Json.textMembers binding.properties.entries).filter
        (fun member => !(hintKey :: reservedKeys).contains member.1) =
      Json.textMembers (binding.properties.entries.filter
        fun entry => !(hintKey :: reservedKeys).contains entry.1) :=
    List.filter_map
  have found := textsOf_perm ((membersOf_sorted binding).1.filter
    fun member => !(hintKey :: reservedKeys).contains member.1)
  rwa [filtered, textsOf_textMembers] at found

/-- Without a property for the hint, the two forms have the same properties. -/
theorem without_perm {binding : Binding} (unhinted : binding.properties.get? hintKey = none) :
    (binding.properties.without reservedKeys).entries.Perm (rawProperties binding) := by
  have kept : (binding.properties.without reservedKeys).entries =
      binding.properties.entries.filter
        fun entry => !(hintKey :: reservedKeys).contains entry.1 := by
    refine List.filter_congr fun entry member => ?_
    have different : hintKey ≠ entry.1 := by
      simpa using List.lookup_eq_none_iff.mp unhinted entry member
    rw [List.contains_cons, beq_false_of_ne different.symm, Bool.false_or]
  rw [kept]
  exact (rawProperties_perm binding).symm

/-- What a host sees in a binding that fits a request, in either form. -/
theorem exists_agreesWith {binding : Binding} {request : Request} (fits : binding.Fits request)
    (unhinted : binding.properties.get? hintKey = none) :
    ∃ structured raw, ofStructured binding.structured = .ok structured ∧
      ofRawText binding.rawText = .ok raw ∧ structured.AgreesWith raw := by
  have hint : rawHint? (membersOf binding) = .ok none := by
    rw [rawHint?, lookup_membersOf, unhinted]
    rfl
  have raw := ofRawText_of_fits fits
  rw [hint] at raw
  have distinct : (Properties.keysOf (rawProperties binding)).Nodup :=
    nodup_keysOf_textsOf (membersOf_sorted binding).2 _
  have entries := Properties.entries_ofPairs distinct
  refine ⟨_, _, rfl, raw, ?_⟩
  exact {
    name := fits.name
    direction := by
      change ((binding.properties.get? directionKey).bind Direction.parse?).getD _ = _
      rw [fits.statedDirection, Option.bind_some, Direction.parse?_name]
      rfl
    bindingType := by
      change (binding.properties.get? typeKey).getD "" = _
      rw [fits.statedType]
      rfl
    properties := by
      rw [entries]
      exact without_perm unhinted
    sorted := by
      rw [Properties.keys, entries]
      exact rawProperties_sorted binding }

theorem exists_forall₂_agreesWith {bindings : List Binding}
    (fits : ∀ binding ∈ bindings, ∃ request, binding.Fits request)
    (unhinted : ∀ binding ∈ bindings, binding.properties.get? hintKey = none) :
    ∃ structured raw, (bindings.map (·.structured)).mapM ofStructured = .ok structured ∧
      (bindings.map (·.rawText)).mapM ofRawText = .ok raw ∧
      List.Forall₂ AgreesWith structured raw := by
  induction bindings with
  | nil => exact ⟨[], [], rfl, rfl, .nil⟩
  | cons binding rest ih =>
    obtain ⟨⟨request, fitsHere⟩, fitsRest⟩ := List.forall_mem_cons.mp fits
    obtain ⟨unhintedHere, unhintedRest⟩ := List.forall_mem_cons.mp unhinted
    obtain ⟨structured, raw, fromStructured, fromRaw, agrees⟩ :=
      exists_agreesWith fitsHere unhintedHere
    obtain ⟨others, rawOthers, fromOthers, fromRawOthers, agreesOthers⟩ := ih fitsRest unhintedRest
    refine ⟨structured :: others, raw :: rawOthers, ?_, ?_, .cons agrees agreesOthers⟩
    · exact (mapM_cons_eq_ok_iff _ _ _ _).mpr ⟨_, _, fromStructured, fromOthers, rfl⟩
    · exact (mapM_cons_eq_ok_iff _ _ _ _).mpr ⟨_, _, fromRaw, fromRawOthers, rfl⟩

theorem names_of_agreesWith {structured raw : List ResolvedBinding}
    (agree : List.Forall₂ AgreesWith structured raw) :
    structured.map (·.name) = raw.map (·.name) := by
  induction agree with
  | nil => rfl
  | cons first _ ih => rw [List.map_cons, List.map_cons, first.name, ih]

end ResolvedBinding

namespace FunctionRecord

/-- The record without its structured bindings, which a host reads from the raw texts. -/
def withoutStructured (record : FunctionRecord) : FunctionRecord :=
  { record with generatedBindings := none }

/-- Two outcomes of resolving: the same bindings one by one, or the same error. -/
inductive ResolvedAlike : Except ResolutionError (List ResolvedBinding) →
    Except ResolutionError (List ResolvedBinding) → Prop where
  | resolved {structured raw : List ResolvedBinding}
      (agree : List.Forall₂ ResolvedBinding.AgreesWith structured raw) :
      ResolvedAlike (.ok structured) (.ok raw)
  | refused (reason : ResolutionError) : ResolvedAlike (.error reason) (.error reason)

/-- Records whose bindings agree one by one are resolved alike: what else is looked at is whether
there are bindings and which names they have. -/
theorem resolvedAlike_of_each {first second : FunctionRecord}
    {structured raw : List ResolvedBinding}
    (fromFirst : first.resolveEach = .ok structured) (fromSecond : second.resolveEach = .ok raw)
    (agree : List.Forall₂ ResolvedBinding.AgreesWith structured raw) :
    ResolvedAlike first.resolve second.resolve := by
  have names := ResolvedBinding.names_of_agreesWith agree
  have sameEmpty : structured.isEmpty = raw.isEmpty := by cases agree <;> rfl
  unfold resolve
  rw [fromFirst, fromSecond]
  simp only [bind, Except.bind, names, sameEmpty]
  split
  · exact .refused .noBindings
  · split
    · exact .refused (.duplicateName _)
    · exact .resolved agree

end FunctionRecord

/-- A binding that a built-in generator has returned. -/
def Binding.IsGenerated (binding : Binding) : Prop :=
  ∃ (registry : Registry) (request : Request) (cache : SymbolCache),
    registry.IsBuiltIn ∧ binding ∈ (registry.generate request cache).1.bindings

theorem Binding.IsGenerated.exists_fits {binding : Binding} (generated : binding.IsGenerated) :
    ∃ request, binding.Fits request := by
  obtain ⟨registry, request, cache, builtIn, member⟩ := generated
  cases builtIn.lawful.answers request cache with
  | bound answer only fits =>
    rw [only, List.mem_singleton] at member
    exact ⟨request, member ▸ fits⟩
  | refused unbound _ =>
    rw [unbound] at member
    cases member

namespace ModuleContext

theorem isRich_record_iff (context : ModuleContext) (declaration : Declaration) :
    (context.record declaration).isRich = true ↔ declaration.isParsable = true := by
  unfold record
  split <;> simp_all [FunctionRecord.isRich, minimalRecord]

/-- A rich record is resolved as it would be without its structured bindings: to bindings that agree
one by one, or with the same error. -/
theorem resolve_withoutStructured (context : ModuleContext) {declaration : Declaration}
    (generated : ∀ binding ∈ declaration.bindings, binding.IsGenerated)
    (unhinted : ∀ binding ∈ declaration.bindings,
      binding.properties.get? ResolvedBinding.hintKey = none)
    (rich : (context.record declaration).isRich = true) :
    FunctionRecord.ResolvedAlike (context.record declaration).resolve
      (context.record declaration).withoutStructured.resolve := by
  have parsable := (context.isRich_record_iff declaration).mp rich
  obtain ⟨structured, raw, fromStructured, fromRaw, agree⟩ :=
    ResolvedBinding.exists_forall₂_agreesWith
      (fun binding member => (generated binding member).exists_fits) unhinted
  refine FunctionRecord.resolvedAlike_of_each ?_ ?_ agree
  · rw [record, if_pos parsable]
    exact fromStructured
  · rw [record, if_pos parsable]
    exact fromRaw

/-- A function with a batched trigger, whose arguments try to rename it and hold text that JSON has
to escape, and with an output. -/
def batchImport : Declaration where
  functionName := "Import"
  methodName := "Orders.Import.Run"
  containingType := "Orders.Import"
  bindings :=
    let trigger : Attribute := {
      className := "QueueTriggerAttribute"
      interfaces := [Names.cardinalityMarker]
      arguments := [⟨"Name", .string "other"⟩, ⟨"queueName", .string "orders\n\"é\""⟩]
      namedArguments := [⟨"IsBatched", .bool true⟩, ⟨"Direction", .string "Out"⟩] }
    let output : Attribute := {
      className := "BlobOutputAttribute"
      arguments := [⟨"blobPath", .string "out/{name}"⟩, ⟨"access", .string ""⟩] }
    let requests : List Request := [
      ⟨trigger, .trigger, ⟨"order", .array (.named "string"), none⟩⟩,
      ⟨output, .output, ⟨"$return", .named "string", none⟩⟩]
    requests.flatMap fun request => (Registry.builtIn.generate request .empty).1.bindings
  retry := none

theorem resolve_withoutStructured_batchImport :
    (∀ binding ∈ batchImport.bindings, binding.IsGenerated) ∧
      (∀ binding ∈ batchImport.bindings,
        binding.properties.get? ResolvedBinding.hintKey = none) ∧
      ((ofAssembly "Orders").record batchImport).isRich = true ∧
      FunctionRecord.ResolvedAlike ((ofAssembly "Orders").record batchImport).resolve
        ((ofAssembly "Orders").record batchImport).withoutStructured.resolve ∧
      batchImport.bindings.map (·.name) = ["order", "$return"] := by
  have generated : ∀ binding ∈ batchImport.bindings, binding.IsGenerated := by
    intro binding member
    obtain ⟨request, _, answered⟩ := List.mem_flatMap.mp member
    exact ⟨.builtIn, request, .empty, Registry.isBuiltIn_builtIn, answered⟩
  have unhinted : ∀ binding ∈ batchImport.bindings,
      binding.properties.get? ResolvedBinding.hintKey = none := by
    decide +kernel
  have rich : ((ofAssembly "Orders").record batchImport).isRich = true := by
    decide +kernel
  have names : batchImport.bindings.map (·.name) = ["order", "$return"] := by
    decide +kernel
  exact ⟨generated, unhinted, rich,
    resolve_withoutStructured (ofAssembly "Orders") generated unhinted rich, names⟩

end ModuleContext

end WorkerBindings
