import WorkerBindings.Assembly.Module
import WorkerBindings.Proofs.Assembly.Sessions
import WorkerBindings.Proofs.SymbolCache.Provenance

/-!
# What assembling looks up

Assembling asks the cache only about the types and attributes that occur on its method. So whatever
the cache keeps afterwards it kept before, or it is true of one of those. This holds of every run
with the built-in generators, also of one that is cancelled, and without any consistency among the
symbols.
-/

namespace WorkerBindings

open SymbolCache

namespace Assembling

variable {α β : Type} {symbols : Symbols}

/-- However it ends, the step asks the cache about nothing but these symbols; a value that it ends
with has the postcondition. -/
def LooksUp (symbols : Symbols) (step : Assembling α) (post : α → Prop) : Prop :=
  ∀ session : Session, Learned symbols session.cache (step session).2.cache ∧
    ∀ value after, step session = (.ok value, after) → post value

namespace LooksUp

theorem pure {value : α} {post : α → Prop} (holds : post value) :
    LooksUp symbols (Pure.pure value) post := by
  refine fun session => ⟨.refl session.cache, ?_⟩
  rintro _ _ ⟨⟩
  exact holds

theorem bind {step : Assembling α} {next : α → Assembling β} {middle : α → Prop}
    {post : β → Prop} (first : LooksUp symbols step middle)
    (second : ∀ value, middle value → LooksUp symbols (next value) post) :
    LooksUp symbols (step >>= next) post := by
  intro session
  obtain ⟨learnedFirst, holds⟩ := first session
  rw [bind_apply]
  match ran : step session with
  | (.ok value, between) =>
    rw [ran] at learnedFirst
    obtain ⟨learnedSecond, holdsAfter⟩ := second value (holds value between ran) between
    exact ⟨learnedFirst.trans learnedSecond, holdsAfter⟩
  | (.error reason, stopped) =>
    rw [ran] at learnedFirst
    refine ⟨learnedFirst, ?_⟩
    rintro _ _ ⟨⟩

/-- A step that only touches the cache through lookups, of whose value nothing is needed. -/
theorem of_learned {step : Assembling α}
    (learned : ∀ session : Session, Learned symbols session.cache (step session).2.cache) :
    LooksUp symbols step fun _ => True :=
  fun session => ⟨learned session, fun _ _ _ => trivial⟩

theorem checkpoint : LooksUp symbols checkpoint fun _ => True :=
  .of_learned fun session => .refl session.cache

theorem arrive (interruption : Interruption) (place : Nat) :
    LooksUp symbols (arrive interruption place) fun _ => True :=
  .of_learned fun session => .refl session.cache

theorem capabilitiesOf {attr : Attribute} (member : attr ∈ symbols.attributes) :
    LooksUp symbols (cached (SymbolCache.capabilitiesOf attr)) fun _ => True :=
  .of_learned fun session => .capabilitiesOf member session.cache

theorem classify {type : DeclaredType} (member : type ∈ symbols.types) :
    LooksUp symbols (cached (SymbolCache.classify type)) fun _ => True :=
  .of_learned fun session => .classify member session.cache

theorem generate {registry : Registry} (builtIn : registry.IsBuiltIn) (interruption : Interruption)
    {request : Request} (attr : request.attr ∈ symbols.attributes)
    (type : request.target.type ∈ symbols.types) :
    LooksUp symbols (generate registry interruption request) fun _ => True :=
  .of_learned fun session => builtIn.modest attr type session.cache

end LooksUp

end Assembling

namespace Method

open Assembling

variable {registry : Registry} {symbols : Symbols} {method : Method}

/-- The attributes that are selected are among those to select from. -/
theorem selectAttributes_looksUp (test : Capabilities → Bool) {attributes : List Attribute}
    (inside : attributes ⊆ symbols.attributes) :
    LooksUp symbols (selectAttributes test attributes) (· ⊆ symbols.attributes) := by
  induction attributes with
  | nil => exact .pure (List.nil_subset _)
  | cons attr rest ih =>
    obtain ⟨attrInside, restInside⟩ := List.cons_subset.mp inside
    refine .bind (.capabilitiesOf attrInside) fun capabilities _ => ?_
    refine .bind (ih restInside) fun others othersInside => .pure ?_
    split
    · exact List.cons_subset.mpr ⟨attrInside, othersInside⟩
    · exact othersInside

theorem parameterOutput_looksUp (builtIn : registry.IsBuiltIn) (interruption : Interruption)
    (within : method.symbols.Within symbols) {parameter : Parameter}
    (member : parameter ∈ method.parameters) :
    LooksUp symbols (parameterOutput registry interruption method parameter) fun _ => True := by
  have inside : parameter.attributes ⊆ symbols.attributes := fun _ attrMember =>
    within.attributes (parameterAttributes_subset member attrMember)
  refine .bind (selectAttributes_looksUp bindsParameter inside) fun selected selectedInside => ?_
  split
  · exact .pure trivial
  · obtain ⟨attrInside, _⟩ := List.cons_subset.mp selectedInside
    refine .bind (.capabilitiesOf attrInside) fun capabilities _ => ?_
    exact .generate builtIn interruption attrInside (within.types (parameterType_mem member))
  · exact .pure trivial

theorem parameterOutputs_looksUp (builtIn : registry.IsBuiltIn) (interruption : Interruption)
    (within : method.symbols.Within symbols) {parameters : List Parameter}
    (inside : parameters ⊆ method.parameters) :
    LooksUp symbols (parameterOutputs registry interruption method parameters)
      fun _ => True := by
  induction parameters with
  | nil => exact .pure trivial
  | cons parameter rest ih =>
    obtain ⟨member, restInside⟩ := List.cons_subset.mp inside
    refine .bind .checkpoint fun _ _ => ?_
    refine .bind (parameterOutput_looksUp builtIn interruption within member) fun first _ => ?_
    exact .bind (ih restInside) fun others _ => .pure trivial

theorem targetOutputs_looksUp (builtIn : registry.IsBuiltIn) (interruption : Interruption)
    {target : Target} (type : target.type ∈ symbols.types) {attributes : List Attribute}
    (inside : attributes ⊆ symbols.attributes) :
    LooksUp symbols (targetOutputs registry interruption target attributes) fun _ => True := by
  induction attributes with
  | nil => exact .pure trivial
  | cons attr rest ih =>
    obtain ⟨attrInside, restInside⟩ := List.cons_subset.mp inside
    refine .bind (.capabilitiesOf attrInside) fun capabilities _ => ?_
    split
    · refine .bind (.generate builtIn interruption attrInside type) fun first _ => ?_
      exact .bind (ih restInside) fun others _ => .pure trivial
    · exact ih restInside

theorem propertyOutputs_looksUp (builtIn : registry.IsBuiltIn) (interruption : Interruption)
    (within : method.symbols.Within symbols) (isCollection : Bool) (found : PropertyOutputs)
    {properties : List ResultProperty} (inside : properties ⊆ method.resultProperties) :
    LooksUp symbols (propertyOutputs registry interruption method isCollection found properties)
      fun _ => True := by
  induction properties generalizing found with
  | nil => exact .pure trivial
  | cons property rest ih =>
    obtain ⟨member, restInside⟩ := List.cons_subset.mp inside
    have attributesInside : property.attributes ⊆ symbols.attributes := fun _ attrMember =>
      within.attributes (propertyAttributes_subset member attrMember)
    have typeInside : property.type ∈ symbols.types := within.types (propertyType_mem member)
    refine .bind .checkpoint fun _ _ => ?_
    refine .bind (targetOutputs_looksUp builtIn interruption typeInside attributesInside)
      fun output _ => ?_
    split
    · exact ih _ restInside
    · split
      · exact .pure trivial
      · exact ih _ restInside

theorem outputs_looksUp (builtIn : registry.IsBuiltIn) (interruption : Interruption)
    (within : method.symbols.Within symbols) (functionName : String) :
    LooksUp symbols (outputs registry interruption method functionName) fun _ => True := by
  have typeInside : method.returnType ∈ symbols.types := within.types returnType_mem
  have attributesInside : method.attributes ⊆ symbols.attributes := fun _ member =>
    within.attributes (attributes_subset member)
  refine .bind (.classify typeInside) fun classified _ => ?_
  split
  · exact .pure trivial
  · refine .bind (propertyOutputs_looksUp builtIn interruption within _ _ (List.Subset.refl _))
      fun found _ => ?_
    split
    · exact .pure trivial
    · refine .bind (targetOutputs_looksUp builtIn interruption typeInside attributesInside)
        fun own _ => ?_
      split
      · exact .pure trivial
      · exact .pure trivial

/-- Assembling a method asks the cache about nothing but the symbols of the method. -/
theorem assemble_looksUp (builtIn : registry.IsBuiltIn) (interruption : Interruption)
    (within : method.symbols.Within symbols) :
    LooksUp symbols (method.assemble registry interruption) fun _ => True := by
  refine .bind .checkpoint fun _ _ => ?_
  split
  · exact .pure trivial
  · exact .pure trivial
  · refine LooksUp.bind (?_ : LooksUp symbols _ fun _ => True) fun outcome _ => .pure trivial
    refine .bind (parameterOutputs_looksUp builtIn interruption within (List.Subset.refl _))
      fun parameters _ => ?_
    split
    · exact .pure trivial
    · exact .bind (outputs_looksUp builtIn interruption within _) fun outputs _ => .pure trivial

end Method

namespace WorkerModule

open Assembling

variable {registry : Registry} {symbols : Symbols}

theorem assembleFrom_looksUp (builtIn : registry.IsBuiltIn) (interruption : Interruption)
    (place : Nat) {methods : List Method}
    (within : ∀ method ∈ methods, method.symbols.Within symbols) :
    LooksUp symbols (assembleFrom registry interruption place methods) fun _ => True := by
  induction methods generalizing place with
  | nil => exact .pure trivial
  | cons method rest ih =>
    obtain ⟨methodWithin, restWithin⟩ := List.forall_mem_cons.mp within
    refine .bind (.arrive interruption place) fun _ _ => ?_
    refine .bind (Method.assemble_looksUp builtIn interruption methodWithin) fun first _ => ?_
    exact .bind (ih (place + 1) restWithin) fun others _ => .pure trivial

/-- Running a module asks the cache about nothing but the symbols of the module. -/
theorem run_looksUp (builtIn : registry.IsBuiltIn) (interruption : Interruption)
    {module : WorkerModule} (within : ∀ method ∈ module.methods, method.symbols.Within symbols)
    (context : ModuleContext) (generatedAt : String) :
    LooksUp symbols (module.run registry interruption context generatedAt) fun _ => True := by
  refine .bind (assembleFrom_looksUp builtIn interruption 0 within) fun outcomes _ => ?_
  exact .bind .checkpoint fun _ _ => .pure trivial

end WorkerModule

end WorkerBindings
