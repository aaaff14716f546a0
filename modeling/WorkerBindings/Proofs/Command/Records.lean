import WorkerBindings.Proofs.Command.Generating
import WorkerBindings.Proofs.Command.Precedence
import WorkerBindings.Proofs.Emission.Tiers
import WorkerBindings.Proofs.Settings.Loading
import WorkerBindings.Proofs.Symbol.Modules
import WorkerBindings.Proofs.Workspace.Additions

/-!
# The script file and the namespace of every record

Whichever way a run ends, each file that it has written is the log or the manifest of a module that
was discovered, and the records in it have the script file and the namespace that are settled by
the request, the settings and the document of the module.
-/

namespace WorkerBindings

open Workspace Console

variable {α β : Type} {kind : String → Prop}

namespace Commanding

/-- What is produced by a command that may end at its first step. -/
theorem bind_produces {step : Commanding (StateM Workspace) α}
    {next : α → Commanding (StateM Workspace) β} {workspace : Workspace}
    (first : Produces kind workspace (step workspace).2)
    (second : ∀ value after, step workspace = (.ok value, after) →
      Produces kind after (next value after).2) :
    Produces kind workspace ((step >>= next : Commanding (StateM Workspace) β) workspace).2 := by
  rw [bind_apply]
  split
  · rename_i value after ran
    rw [ran] at first
    exact first.trans (second value after ran)
  · rename_i reason after ran
    rw [ran] at first
    exact first

theorem settle_snd {ε : Type} (wrap : ε → CommandError) (outcome : StateM Workspace (Except ε α))
    (workspace : Workspace) :
    ((settle wrap outcome : Commanding (StateM Workspace) α) workspace).2 =
      (outcome workspace).2 := by
  unfold settle ExceptT.mk
  rw [Workspace.bind_apply]
  rcases outcome workspace with ⟨result, left⟩
  cases result <;> rfl

end Commanding

namespace Command

variable {console : Console} {settings : Settings} {outputPath : String}

theorem reportOutcome_producing (apart : console.LogsApart) (outcome : ModuleOutcome) :
    Producing kind (reportOutcome console outcome : StateM Workspace Unit) := by
  refine .bind (.forM fun diagnostic => report_producing apart diagnostic) fun _ => ?_
  split
  · exact say_producing apart _ _
  · exact .pure ()

theorem writeOutcome_producing (apart : console.LogsApart) {outcome : ModuleOutcome}
    (isKind : ∀ manifest, outcome.manifest = some manifest → kind manifest.text) :
    Producing kind (writeOutcome console outputPath outcome :
      Commanding (StateM Workspace) Unit) := by
  intro workspace
  unfold writeOutcome
  cases written : outcome.manifest with
  | none => exact say_producing apart _ _ workspace
  | some manifest =>
    refine Commanding.bind_produces ?_ fun _ after _ => say_producing apart _ _ after
    rw [Commanding.settle_snd]
    exact Manifest.save_producing (suffix_target outputPath outcome) (isKind manifest written)
      workspace

/-- A module adds its manifest at most. -/
theorem generateModule_produces (apart : console.LogsApart) {session : Session}
    {module : WorkerModule} {workspace : Workspace}
    (isKind : ∀ outcome next, (settings.jobFor workspace.documentTime module).run .builtIn .never
      session = (.ok outcome, next) →
        ∀ manifest, outcome.manifest = some manifest → kind manifest.text) :
    Produces kind workspace ((generateModule console settings outputPath session module :
      Commanding (StateM Workspace) _) workspace).2 := by
  unfold generateModule
  refine Commanding.bind_produces (.refl workspace) fun time same asked => ?_
  cases asked
  generalize ran : module.run .builtIn .never (settings.contextFor module) workspace.documentTime
    session = ended
  rcases ended with ⟨reason | outcome, next⟩
  · have said : Produces kind workspace ((console.say .failure s!"{module.assemblyName} failed" :
        StateM Workspace Unit) workspace).2 := say_producing apart _ _ workspace
    exact Commanding.bind_produces said fun _ after _ => .refl after
  · refine Commanding.bind_produces (reportOutcome_producing apart outcome workspace) ?_
    intro _ after _
    refine Commanding.bind_produces
      (writeOutcome_producing apart (isKind outcome next ran) after) ?_
    exact fun _ left _ => .refl left

/-- Several documents add the manifests of their modules at most. All of them but the first are
loaded as they were, because nothing that is added is named as they are. -/
theorem generateAll_produces (apart : console.LogsApart) {known : WorkerModule → Prop}
    (isKind : ∀ module, known module → ∀ time session outcome next,
      (settings.jobFor time module).run .builtIn .never session = (.ok outcome, next) →
        ∀ manifest, outcome.manifest = some manifest → kind manifest.text)
    {session : Session} {workspace : Workspace} {paths : List String}
    (isKnown : ∀ path ∈ paths, ∀ module, workspace.moduleAt path = .ok module → known module)
    (documents : ∀ path ∈ paths.tail, workspace.HasDocument path) :
    Produces kind workspace ((generateAll console settings outputPath session paths :
      Commanding (StateM Workspace) Nat) workspace).2 := by
  induction paths generalizing session workspace with
  | nil => exact .refl workspace
  | cons path rest ih =>
    obtain ⟨knownHere, knownLater⟩ := List.forall_mem_cons.mp isKnown
    rw [generateAll]
    refine Commanding.bind_produces ?_ fun module after load => ?_
    · rw [Commanding.settle_snd, WorkerModule.load_apply]
      exact .refl workspace
    rw [Commanding.settle_eq_ok, WorkerModule.load_apply] at load
    obtain ⟨found, rfl⟩ := Prod.mk.inj load
    have generated := @generateModule_produces kind console settings outputPath apart session module
      workspace (isKind module (knownHere module found) workspace.documentTime session)
    refine Commanding.bind_produces generated ?_
    rintro ⟨errors, next⟩ between ran
    rw [ran] at generated
    have document := fun path member =>
      generated.evolves.document Produces.apart (documents path member)
    refine Commanding.bind_produces (ih ?_ ?_) fun _ left _ => .refl left
    · intro path member module loaded
      rw [(document path member).2] at loaded
      exact knownLater path member module loaded
    · exact fun path member => (document path (List.mem_of_mem_tail member)).1

/-- The documents that a search lists are loaded after a message as before it. One that is given
itself may have any name but that of the log; all others are named as symbol documents. -/
theorem modules_said {input : String} {workspace between : Workspace} (apart : console.LogsApart)
    (proper : workspace.files.isProper = true)
    (inputApart : ∀ location, workspace.Leads input location → ¬ console.LogsAt workspace location)
    (said : Evolves (console.LogsAt workspace) workspace between) :
    (∀ path ∈ Discovery.modules input (workspace.files.find? workspace.current input),
      between.moduleAt path = workspace.moduleAt path) ∧
    ∀ path ∈ (Discovery.modules input (workspace.files.find? workspace.current input)).tail,
      between.HasDocument path := by
  have logApart : ∀ location, console.LogsAt workspace location →
      Discovery.isNamed Discovery.moduleSuffix location = false := fun location logsAt =>
    Discovery.isNamed_disjoint (by decide) (apart.isLog logsAt)
  constructor
  · intro path member
    obtain ⟨location, content, leads, isFile, named | ⟨rfl, _⟩⟩ :=
      Discovery.mem_modules proper member
    · exact (said.document logApart ⟨location, content, leads, isFile, named⟩).2
    · exact said.moduleAt leads isFile (inputApart location leads)
  · intro path member
    obtain ⟨location, content, leads, isFile, named | ⟨_, alone⟩⟩ :=
      Discovery.mem_modules proper (List.mem_of_mem_tail member)
    · exact (said.document logApart ⟨location, content, leads, isFile, named⟩).1
    · rw [alone] at member
      cases member

/-- Generating adds the manifests of the modules that were discovered at most. -/
theorem generateUnder_produces {environment : Environment} {input : String}
    (apart : console.LogsApart) {workspace : Workspace} (proper : workspace.files.isProper = true)
    (inputApart : ∀ location, workspace.Leads input location → ¬ console.LogsAt workspace location)
    (isKind : ∀ path ∈ Discovery.modules input (workspace.files.find? workspace.current input),
      ∀ module, workspace.moduleAt path = .ok module → ∀ time session outcome next,
        (settings.jobFor time module).run .builtIn .never session = (.ok outcome, next) →
          ∀ manifest, outcome.manifest = some manifest → kind manifest.text) :
    Produces kind workspace ((generateUnder environment console settings input :
      Commanding (StateM Workspace) Unit) workspace).2 := by
  unfold generateUnder
  split
  · exact say_producing apart _ _ workspace
  refine Commanding.bind_produces (.refl workspace) fun found same outlined => ?_
  cases outlined
  dsimp only
  rw [Discovery.modules_outline]
  split
  · exact .refl workspace
  let known (module : WorkerModule) : Prop :=
    ∃ path ∈ Discovery.modules input (workspace.files.find? workspace.current input),
      workspace.moduleAt path = .ok module
  have isKindOf : ∀ module, known module → ∀ time session outcome next,
      (settings.jobFor time module).run .builtIn .never session = (.ok outcome, next) →
        ∀ manifest, outcome.manifest = some manifest → kind manifest.text :=
    fun module ⟨path, member, loaded⟩ => isKind path member module loaded
  refine Commanding.bind_produces (say_producing apart _ _ workspace) fun _ start said => ?_
  rw [Commanding.lift_apply] at said
  obtain ⟨_, rfl⟩ := Prod.mk.inj said
  obtain ⟨same, documents⟩ := modules_said apart proper inputApart
    (say_evolves console .debug _ workspace)
  refine Commanding.bind_produces (generateAll_produces apart isKindOf ?_ documents) ?_
  · exact fun path member module loaded => ⟨path, member, same path member ▸ loaded⟩
  · intro errors after _
    split <;> exact .refl after

end Command

/-- A manifest of a module has the script file in all its records, and the namespace, that are
settled by the request, the settings and the document of the module. -/
structure Manifest.Follows (manifest : Manifest) (request : GenerateRequest) (settings : Settings)
    (module : WorkerModule) : Prop where
  assemblyName : manifest.assemblyName = module.assemblyName
  scriptFile : ∀ record ∈ manifest.functions,
    record.scriptFile = request.settledScriptFile settings module
  providerNamespace : manifest.providerNamespace =
    request.settledNamespaceRoot settings ++ "." ++ module.assemblyName

namespace Command

variable {console : Console}

theorem follows_of_run {request : GenerateRequest} {settings : Settings} {module : WorkerModule}
    {time : String} {session next : Session} {outcome : ModuleOutcome} {manifest : Manifest}
    (ran : ((request.applyTo settings).jobFor time module).run .builtIn .never session =
      (.ok outcome, next)) (written : outcome.manifest = some manifest) :
    manifest.Follows request settings module := by
  obtain ⟨outcomes, _, rfl⟩ := WorkerModule.exists_assembled_of_run ran
  have emitted : ((request.applyTo settings).contextFor module).emit? time
      (outcomes.filterMap (·.declaration)) = some manifest := written
  rw [GenerateRequest.contextFor_applyTo, ModuleContext.emit?] at emitted
  split at emitted
  · cases emitted
  · cases emitted
    refine ⟨rfl, fun record member => ?_, rfl⟩
    obtain ⟨declaration, _, rfl⟩ := List.mem_map.mp member
    exact ModuleContext.record_scriptFile _ declaration

/-- A content is that of a manifest which follows from a request: the settings could be loaded, and
so could the document of its module, which was discovered. -/
def IsGenerated (environment : Environment) (request : GenerateRequest) (workspace : Workspace)
    (content : String) : Prop :=
  ∃ (settings : Settings) (path : String) (module : WorkerModule) (manifest : Manifest),
    workspace.settingsFor environment = .ok settings ∧
      path ∈ Discovery.modules request.input
        (workspace.files.find? workspace.current request.input) ∧
      workspace.moduleAt path = .ok module ∧ content = manifest.text ∧
      manifest.Follows request settings module

/-- Every manifest that a module gets on a request has the script file and the namespace that are
settled for the module. A run adds no file but such manifests, of modules that were discovered, and
the log, whichever way it ends. What is settled is the first text of several that is not blank, or a
default if there is none, exactly unless a blank text hides that one and it differs from the
default. -/
theorem runGenerate_follows {environment : Environment} {request : GenerateRequest}
    (logs : console.logFile = none ∨ console.logFile = some environment.logFile)
    {workspace : Workspace} (proper : workspace.files.isProper = true)
    (apart : ∀ location, workspace.Leads request.input location →
      ¬ console.LogsAt workspace location) :
    (∀ settings module time session outcome next manifest,
      ((request.applyTo settings).jobFor time module).run .builtIn .never session =
        (.ok outcome, next) → outcome.manifest = some manifest →
          manifest.Follows request settings module) ∧
    (∀ location content,
      ((runGenerate environment console request : Commanding (StateM Workspace) Unit)
        workspace).2.HasFile location content →
      workspace.HasFile location content ∨ IsLog location ∨
        IsGenerated environment request workspace content) ∧
    ∀ sources default, Text.settled sources default = (Text.firstReal? sources).getD default ↔
      (Text.hidesReal sources = true → Text.firstReal? sources = some default) := by
  refine ⟨fun _ _ _ _ _ _ _ ran written => follows_of_run ran written, ?_, Text.settled_eq_iff⟩
  have produced : Produces (IsGenerated environment request workspace) workspace
      ((runGenerate environment console request : Commanding (StateM Workspace) Unit)
        workspace).2 := by
    unfold runGenerate
    refine Commanding.bind_produces ?_ fun settings after loaded => ?_
    · rw [Commanding.settle_snd, Settings.load_apply]
      exact .refl workspace
    rw [Commanding.settle_eq_ok, Settings.load_apply] at loaded
    obtain ⟨found, rfl⟩ := Prod.mk.inj loaded
    refine generateUnder_produces (logsApart_logFile logs) proper apart ?_
    intro path member module isModule time session outcome next ran manifest written
    exact ⟨settings, path, module, manifest, found, member, isModule, rfl,
      follows_of_run ran written⟩
  exact produced.new

/-- A module with one function, whose document states the script file. -/
def scripted : WorkerModule :=
  { oneFunction "Place" with scriptFile := some " Real.dll" }

/-- The symbol document of the module, and no settings. -/
def lone : Workspace where
  files := .directory [("app.symbols.json", .file scripted.toJson.pretty)]
  current := []
  output := ""
  messages := ""
  documentTime := ""
  logTime := ""

/-- A request for the manifest of the module, which may state a script file itself. -/
def scriptRequest (scriptFile : Option String) : GenerateRequest where
  input := "app.symbols.json"
  outputDirectory := some "out"
  executionModel := some "isolated"
  enableGeneration := true
  scriptFile

theorem moduleAt_lone : lone.moduleAt "app.symbols.json" = .ok scripted := by
  have text : lone.read "app.symbols.json" = .ok scripted.toJson.pretty := rfl
  have integral := scripted.toJson_isIntegral (by decide)
  rw [moduleAt_of_read text, WorkerModule.ofDocument, WorkerModule.ofText,
    Decoder.decodeText_pretty _ integral, scripted.restores Decoder.maxNesting (by decide)]
  exact if_neg (by decide : ¬ Text.isBlankText "App" = true)

theorem settingsFor_lone : lone.settingsFor atRoot = .ok {} := by
  rfl

/-- The module under a request in a run without settings. -/
def scriptedJob (scriptFile : Option String) : ModuleRun :=
  ((scriptRequest scriptFile).applyTo {}).jobFor "" scripted

theorem exists_isSingle_scripted (scriptFile : Option String)
    (counts : ((scriptedJob scriptFile).run .builtIn .never (Session.ofCache .empty)).1.toOption.map
      (fun outcome => (outcome.assemblyName, outcome.accepted, outcome.rejected,
        outcome.diagnostics)) = some ("App", 1, 0, []))
    (functions : ((scriptedJob scriptFile).run .builtIn .never
      (Session.ofCache .empty)).1.toOption.map (fun outcome => outcome.manifest.map fun manifest =>
        manifest.functions.map fun record => (record.name, record.retry.isNone)) =
      some (some [("Place", true)])) :
    ∃ outcome next manifest,
      (scriptedJob scriptFile).run .builtIn .never (Session.ofCache .empty) = (.ok outcome, next) ∧
        IsSingle outcome "Place" manifest := by
  obtain ⟨outcome, next, ran, _⟩ := WorkerModule.run_completes .builtIn (scriptedJob scriptFile)
    (rfl : (Session.ofCache .empty).cancelled = false)
  rw [ran] at counts functions
  obtain ⟨manifest, single⟩ :=
    exists_isSingle (Option.some.inj counts) (Option.some.inj functions)
  exact ⟨outcome, next, manifest, ran, single⟩

/-- The run ends well and writes the manifest. -/
theorem runGenerate_lone {scriptFile : Option String} {outcome : ModuleOutcome} {next : Session}
    {manifest : Manifest}
    (ran : (scriptedJob scriptFile).run .builtIn .never (Session.ofCache .empty) =
      (.ok outcome, next)) (single : IsSingle outcome "Place" manifest) :
    ∃ after, (runGenerate atRoot errorsOnly (scriptRequest scriptFile) :
        Commanding (StateM Workspace) Unit) lone = (.ok (), after) ∧
      after.HasFile ["out", "App.metadata.json"] manifest.text := by
  let settings := (scriptRequest scriptFile).applyTo {}
  let after := ((manifest.save "/out/App.metadata.json" : StateM Workspace _) lone).2
  have outputPath : settings.outputPath atRoot = enabled.outputPath atRoot := rfl
  have saved : (manifest.save (outcome.target (settings.outputPath atRoot)) : StateM Workspace _)
      lone = (.ok (), after) := by
    rw [outputPath, single.target_eq]
    exact Prod.ext rfl rfl
  have ranAll : (generateAll errorsOnly settings (settings.outputPath atRoot)
      (Session.ofCache .empty) ["app.symbols.json"] : Commanding (StateM Workspace) Nat) lone =
        (.ok (0 + 0), after) :=
    generateAll_cons_of_silent moduleAt_lone ran single.silent single.written saved rfl
  have loaded : (Commanding.settle .settings (Settings.load atRoot) :
      Commanding (StateM Workspace) Settings) lone = (.ok {}, lone) := by
    rw [Commanding.settle_eq_ok, Settings.load_apply, settingsFor_lone]
  have found : Discovery.modules "app.symbols.json"
      (lone.files.find? lone.current "app.symbols.json") = ["app.symbols.json"] := rfl
  refine ⟨after, ?_, rfl⟩
  rw [runGenerate, Commanding.bind_apply, loaded]
  exact generateUnder_of_generateAll rfl found ranAll

theorem unlogged_lone (location : List String) :
    ¬ errorsOnly.LogsAt lone location := by
  rintro ⟨path, logged, _⟩
  cases logged

/-- Nothing hides the script file that the document states, and it is in the manifest, trimmed. -/
theorem runGenerate_follows_scripted : ∃ (after : Workspace) (content : String),
    errorsOnly.logFile = none ∧ lone.files.isProper = true ∧
      (∀ location, lone.Leads "app.symbols.json" location → ¬ errorsOnly.LogsAt lone location) ∧
      (runGenerate atRoot errorsOnly (scriptRequest none) : Commanding (StateM Workspace) Unit)
        lone = (.ok (), after) ∧
      after.HasFile ["out", "App.metadata.json"] content ∧
      IsGenerated atRoot (scriptRequest none) lone content ∧
      (scriptRequest none).settledScriptFile {} scripted = "Real.dll" := by
  obtain ⟨outcome, next, manifest, ranModule, single⟩ :=
    exists_isSingle_scripted none (by decide +kernel) (by decide +kernel)
  obtain ⟨after, ran, found⟩ := runGenerate_lone ranModule single
  have unlogged : ∀ location, lone.Leads "app.symbols.json" location →
      ¬ errorsOnly.LogsAt lone location := fun location _ => unlogged_lone location
  have follows := (@runGenerate_follows errorsOnly atRoot (scriptRequest none) (.inl rfl) lone
    (by decide) unlogged).2.1
  rw [ran] at follows
  refine ⟨after, manifest.text, rfl, by decide, unlogged, ran, found, ?_, by decide⟩
  rcases follows _ _ found with before | isLog | generated
  · cases before
  · cases isLog
  · exact generated

/-- A blank text on request hides it: the record has the default instead. -/
theorem runGenerate_hidesReal : ∃ (after : Workspace) (manifest : Manifest)
    (record : FunctionRecord),
    (runGenerate atRoot errorsOnly (scriptRequest (some "  ")) : Commanding (StateM Workspace) Unit)
        lone = (.ok (), after) ∧
      after.HasFile ["out", "App.metadata.json"] manifest.text ∧ manifest.functions = [record] ∧
      lone.settingsFor atRoot = .ok {} ∧ lone.moduleAt "app.symbols.json" = .ok scripted ∧
      Text.firstReal? ((scriptRequest (some "  ")).scriptFiles {} scripted) = some "Real.dll" ∧
      record.scriptFile = "App.dll" := by
  obtain ⟨outcome, next, manifest, ranModule, single⟩ :=
    exists_isSingle_scripted (some "  ") (by decide +kernel) (by decide +kernel)
  obtain ⟨after, ran, found⟩ := runGenerate_lone ranModule single
  obtain ⟨record, only, _⟩ := single.functions
  have follows := follows_of_run ranModule single.written
  refine ⟨after, manifest, record, ran, found, only, settingsFor_lone, moduleAt_lone, by decide, ?_⟩
  rw [follows.scriptFile record (by rw [only]; exact List.mem_singleton_self record)]
  decide

end Command

end WorkerBindings
