import WorkerBindings.Command.Generate
import WorkerBindings.Proofs.Text.Pieces

/-!
# Which setting counts

A script file can be stated by a request, by the settings and by the document of a module, a
namespace root by a request and by the settings. The first text that is stated counts, whatever it
is, and only then is it found to be blank: a blank text hides the texts behind it, and the build
falls back on what it does without any of them. `settled` says so in terms of the first text that is
not blank.
-/

namespace WorkerBindings

namespace Text

/-- Trimming again changes nothing. -/
theorem trim_trim (text : String) : trim (trim text) = trim text := by
  rw [trim, trim, String.toList_ofList, trimCharacters_trimCharacters]

/-- What is not blank is not blank when it is trimmed. -/
theorem isBlankText_trim {text : String} (solid : isBlankText text = false) :
    isBlankText (trim text) = false := by
  rw [Bool.eq_false_iff] at solid ⊢
  intro blank
  refine solid ?_
  unfold isBlankText trim at *
  rw [String.toList_ofList, List.all_eq_true] at blank
  obtain ⟨front, back, whole, blankFront, blankBack⟩ := eq_append_trimCharacters text.toList
  rw [whole, List.all_append, List.all_append, Bool.and_eq_true, Bool.and_eq_true,
    List.all_eq_true, List.all_eq_true, List.all_eq_true]
  exact ⟨⟨blankFront, blank⟩, blankBack⟩

theorem nonBlank?_trim {text : String} (solid : isBlankText text = false) :
    nonBlank? (trim text) = some (trim text) := by
  rw [nonBlank?, isBlankText_trim solid, if_neg Bool.false_ne_true, trim_trim]

/-- A text that is not blank is taken as it is once it has been trimmed. -/
theorem nonBlank?_bind (source : Option String) :
    (source.bind nonBlank?).bind nonBlank? = source.bind nonBlank? := by
  cases source with
  | none => rfl
  | some text =>
    rw [Option.bind_some, nonBlank?]
    split
    · rfl
    · rename_i solid
      rw [Option.bind_some, nonBlank?_trim (Bool.eq_false_iff.mpr solid)]

/-- The first of several texts that is stated and not blank, trimmed. -/
def firstReal? (sources : List (Option String)) : Option String :=
  sources.findSome? fun source => source.bind nonBlank?

/-- Whether the first of several texts that is stated is blank, although a later one is not. -/
def hidesReal : List (Option String) → Bool
  | [] => false
  | none :: rest => hidesReal rest
  | some text :: rest => isBlankText text && (firstReal? rest).isSome

/-- What several texts come to: the first that is not blank, or a default if there is none or if it
is hidden. -/
def settled (sources : List (Option String)) (default : String) : String :=
  if hidesReal sources then default else (firstReal? sources).getD default

/-- Taking the first text that is stated, unless it is blank, comes to what is settled. -/
theorem firstStated_eq_settled (sources : List (Option String)) (default : String) :
    ((sources.findSome? id).bind nonBlank?).getD default = settled sources default := by
  induction sources with
  | nil => rfl
  | cons source rest ih =>
    cases source with
    | none => exact ih
    | some text =>
      have stated : (some text :: rest).findSome? id = some text := rfl
      have real : firstReal? (some text :: rest) = (nonBlank? text).or (firstReal? rest) := by
        rw [firstReal?, List.findSome?_cons]
        cases found : nonBlank? text <;> simp [found, firstReal?]
      rw [stated, Option.bind_some, settled, hidesReal, real, nonBlank?]
      cases isBlankText text with
      | false => rfl
      | true => cases firstReal? rest <;> rfl

theorem isSome_firstReal?_of_hidesReal {sources : List (Option String)}
    (hides : hidesReal sources = true) : (firstReal? sources).isSome = true := by
  induction sources with
  | nil => cases hides
  | cons source rest ih =>
    cases source with
    | none => exact ih hides
    | some text =>
      rw [hidesReal, Bool.and_eq_true] at hides
      have none : nonBlank? text = none := if_pos hides.1
      rw [firstReal?, List.findSome?_cons, Option.bind_some, none]
      exact hides.2

/-- What several texts come to is the first that is not blank, or a default if there is none,
exactly unless that text is hidden and differs from the default. -/
theorem settled_eq_iff (sources : List (Option String)) (default : String) :
    settled sources default = (firstReal? sources).getD default ↔
      (hidesReal sources = true → firstReal? sources = some default) := by
  unfold settled
  cases hides : hidesReal sources with
  | false => simp
  | true =>
    obtain ⟨real, found⟩ := Option.isSome_iff_exists.mp (isSome_firstReal?_of_hidesReal hides)
    simp [found, eq_comm]

end Text

namespace ModuleContext

variable (context : ModuleContext) (source : Option String)

theorem withScriptFile_eq : context.withScriptFile source =
    { context with scriptFile := (source.bind Text.nonBlank?).getD context.scriptFile } := by
  unfold withScriptFile
  cases source.bind Text.nonBlank? <;> rfl

theorem withNamespaceRoot_eq : context.withNamespaceRoot source =
    { context with namespaceRoot := (source.bind Text.nonBlank?).getD context.namespaceRoot } := by
  unfold withNamespaceRoot
  cases source.bind Text.nonBlank? <;> rfl

end ModuleContext

theorem Settings.contextFor_eq (settings : Settings) (module : WorkerModule) :
    settings.contextFor module = {
      assemblyName := module.assemblyName
      scriptFile := ((settings.scriptFile.orElse fun _ => module.scriptFile).bind
        Text.nonBlank?).getD (module.assemblyName ++ ".dll")
      namespaceRoot := (settings.outputNamespace.bind Text.nonBlank?).getD
        ModuleContext.defaultNamespaceRoot
      autoRegister := settings.switches.autoRegister } := by
  unfold contextFor
  dsimp only
  rw [ModuleContext.withScriptFile_eq, ModuleContext.withNamespaceRoot_eq, switches,
    Text.nonBlank?_bind]
  rfl

namespace GenerateRequest

variable (request : GenerateRequest) (settings : Settings) (module : WorkerModule)

/-- Where the script file of a module can be stated. -/
def scriptFiles : List (Option String) :=
  [request.scriptFile, settings.scriptFile, module.scriptFile]

/-- Where a namespace root can be stated. -/
def namespaceRoots : List (Option String) :=
  [request.namespaceRoot, settings.outputNamespace]

/-- The script file of a module in a run. -/
def settledScriptFile : String :=
  Text.settled (request.scriptFiles settings module) (module.assemblyName ++ ".dll")

/-- The namespace root of a run. -/
def settledNamespaceRoot : String :=
  Text.settled (request.namespaceRoots settings) ModuleContext.defaultNamespaceRoot

/-- The context that a run has for a module. -/
theorem contextFor_applyTo : (request.applyTo settings).contextFor module = {
    assemblyName := module.assemblyName
    scriptFile := request.settledScriptFile settings module
    namespaceRoot := request.settledNamespaceRoot settings
    autoRegister := (request.applyTo settings).switches.autoRegister } := by
  have scriptFile : ((request.applyTo settings).scriptFile.orElse fun _ => module.scriptFile) =
      (request.scriptFiles settings module).findSome? id := by
    unfold applyTo scriptFiles
    cases request.scriptFile <;> cases settings.scriptFile <;> cases module.scriptFile <;> rfl
  have namespaceRoot : (request.applyTo settings).outputNamespace =
      (request.namespaceRoots settings).findSome? id := by
    unfold applyTo namespaceRoots
    cases request.namespaceRoot <;> cases settings.outputNamespace <;> rfl
  rw [Settings.contextFor_eq, scriptFile, namespaceRoot, Text.firstStated_eq_settled,
    Text.firstStated_eq_settled]
  rfl

end GenerateRequest

end WorkerBindings
