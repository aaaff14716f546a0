import WorkerBindings.Proofs.Command.Modules
import WorkerBindings.Proofs.Files.Discovered

/-!
# What generating leaves in the files

Generating writes one manifest after another into the output directory, each under the name of its
assembly. `Command.generateUnder_writes` says that a run without an error has loaded every document
as it was at the start, and that the manifest of a module is there in the end unless a later module
writes to the same place. Where two modules do so, the functions of the earlier one are in no
manifest (`Command.generateUnder_overwrites`).
-/

namespace WorkerBindings

open Workspace Console

namespace Command

variable {console : Console} {settings : Settings} {outputPath : String}

/-- A run that ends well has found documents, said so, and generated their manifests. -/
theorem generateUnder_eq_ok {environment : Environment} {input : String} (apart : console.LogsApart)
    (generates : settings.switches.generates = true) {workspace after : Workspace}
    (ran : (generateUnder environment console settings input :
      Commanding (StateM Workspace) Unit) workspace = (.ok (), after)) :
    ∃ start modules outcomes, Evolves (console.LogsAt workspace) workspace start ∧
      Generates settings (settings.outputPath environment) (Session.ofCache .empty) start
        (Discovery.modules input (workspace.files.find? workspace.current input)) modules outcomes
        after := by
  unfold generateUnder at ran
  rw [generates, Bool.not_true, if_neg Bool.false_ne_true] at ran
  obtain ⟨found, between, outlined, ran⟩ := Commanding.bind_eq_ok ran
  cases outlined
  dsimp only at ran
  rw [Discovery.modules_outline] at ran
  split at ran
  · cases ran
  · obtain ⟨_, start, said, continued⟩ := Commanding.bind_eq_ok ran
    obtain ⟨errors, ended, ranAll, judged⟩ := Commanding.bind_eq_ok continued
    rw [Commanding.lift_apply] at said
    obtain ⟨_, rfl⟩ := Prod.mk.inj said
    have same : ended = after := by
      split at judged
      · cases judged
      · cases judged
        rfl
    subst same
    obtain ⟨modules, outcomes, generated⟩ := generateAll_generates apart ranAll
    exact ⟨_, modules, outcomes, say_evolves console .debug _ workspace, generated⟩

/-- Whatever documents are discovered, they were loaded as they had been before the message that
starts a run. A document that is given itself may have any name but that of the log; it is loaded
before anything but the log has been written. -/
theorem loaded_at_start {input : String} {workspace start after : Workspace}
    (apart : console.LogsApart) (proper : workspace.files.isProper = true)
    (inputApart : ∀ location, workspace.Leads input location → ¬ console.LogsAt workspace location)
    (said : Evolves (console.LogsAt workspace) workspace start) {session : Session}
    {modules : List WorkerModule} {outcomes : List ModuleOutcome}
    (generated : Generates settings outputPath session start
      (Discovery.modules input (workspace.files.find? workspace.current input)) modules outcomes
      after) :
    List.Forall₂ (fun path module => workspace.moduleAt path = .ok module)
      (Discovery.modules input (workspace.files.find? workspace.current input)) modules := by
  have found := @Discovery.mem_modules _ workspace.files proper workspace.current input
  by_cases alone :
      Discovery.modules input (workspace.files.find? workspace.current input) = [input]
  · rw [alone] at generated ⊢
    obtain ⟨location, content, leads, isFile, _⟩ := found (by simp [alone] : input ∈ _)
    have same := said.moduleAt leads isFile (inputApart location leads)
    cases generated with
    | module loaded ran writes others =>
      cases others
      rw [same] at loaded
      exact .cons loaded .nil
  · have documents : ∀ path ∈ Discovery.modules input
        (workspace.files.find? workspace.current input), workspace.HasDocument path := by
      intro path member
      obtain ⟨location, content, leads, isFile, named | ⟨_, single⟩⟩ := found member
      · exact ⟨location, content, leads, isFile, named⟩
      · exact absurd single alone
    have logApart : ∀ location, console.LogsAt workspace location →
        Discovery.isNamed Discovery.moduleSuffix location = false := fun location logsAt =>
      Discovery.isNamed_disjoint (by decide) (apart.isLog logsAt)
    refine said.modulesAt logApart documents (generated.loaded fun path member => ?_)
    exact (said.document logApart (documents path member)).1

/-- A console that shows errors only and keeps no log. -/
def errorsOnly : Console :=
  ⟨0, true, false, none⟩

theorem generateModule_of_silent {session next : Session} {module : WorkerModule}
    {outcome : ModuleOutcome} {manifest : Manifest} {before after : Workspace}
    (ran : (settings.jobFor before.documentTime module).run .builtIn .never session =
      (.ok outcome, next))
    (silent : outcome.diagnostics = [] ∧ outcome.rejected = 0)
    (written : outcome.manifest = some manifest)
    (saved : (manifest.save (outcome.target outputPath) : StateM Workspace _) before =
      (.ok (), after)) :
    (generateModule errorsOnly settings outputPath session module :
      Commanding (StateM Workspace) _) before = (.ok (0, next), after) := by
  have reported : (reportOutcome errorsOnly outcome : StateM Workspace Unit) before =
      ((), before) := by
    rw [reportOutcome, silent.1, silent.2]
    rfl
  have wrote : (writeOutcome errorsOnly outputPath outcome : Commanding (StateM Workspace) Unit)
      before = (.ok (), after) := by
    have settled : (Commanding.settle .save (manifest.save
        (Path.join outputPath (Manifest.fileName outcome.assemblyName))) :
          Commanding (StateM Workspace) Unit) before = (.ok (), after) :=
      Commanding.settle_eq_ok.mpr saved
    unfold writeOutcome
    rw [written]
    dsimp only
    rw [Commanding.bind_apply, settled]
    rfl
  have counted : outcome.errorCount = 0 := by
    rw [ModuleOutcome.errorCount, silent.1]
    rfl
  have ranModule : module.run .builtIn .never (settings.contextFor module) before.documentTime
    session = (.ok outcome, next) := ran
  unfold generateModule
  rw [Commanding.bind_apply, Commanding.lift_apply]
  simp only [Platform.documentTime]
  rw [ranModule]
  dsimp only
  rw [Commanding.bind_apply, Commanding.lift_apply, reported]
  dsimp only
  rw [Commanding.bind_apply, wrote, counted]
  rfl

theorem generateAll_cons_of_silent {session next : Session} {module : WorkerModule} {path : String}
    {rest : List String} {outcome : ModuleOutcome} {manifest : Manifest}
    {before between after : Workspace} {errors : Nat}
    (loaded : before.moduleAt path = .ok module)
    (ran : (settings.jobFor before.documentTime module).run .builtIn .never session =
      (.ok outcome, next))
    (silent : outcome.diagnostics = [] ∧ outcome.rejected = 0)
    (written : outcome.manifest = some manifest)
    (saved : (manifest.save (outcome.target outputPath) : StateM Workspace _) before =
      (.ok (), between))
    (others : (generateAll errorsOnly settings outputPath next rest :
      Commanding (StateM Workspace) Nat) between = (.ok errors, after)) :
    (generateAll errorsOnly settings outputPath session (path :: rest) :
      Commanding (StateM Workspace) Nat) before = (.ok (0 + errors), after) := by
  have load : (Commanding.settle .load (WorkerModule.load path) :
      Commanding (StateM Workspace) WorkerModule) before = (.ok module, before) := by
    rw [Commanding.settle_eq_ok, WorkerModule.load_apply, loaded]
  rw [generateAll, Commanding.bind_apply, load]
  dsimp only
  rw [Commanding.bind_apply, generateModule_of_silent ran silent written saved]
  dsimp only
  rw [Commanding.bind_apply, others]
  rfl

theorem generateUnder_of_generateAll {environment : Environment} {input path : String}
    {rest : List String} {workspace after : Workspace}
    (generates : settings.switches.generates = true)
    (found : Discovery.modules input (workspace.files.find? workspace.current input) = path :: rest)
    (ran : (generateAll errorsOnly settings (settings.outputPath environment)
      (Session.ofCache .empty) (path :: rest) : Commanding (StateM Workspace) Nat) workspace =
        (.ok 0, after)) :
    (generateUnder environment errorsOnly settings input : Commanding (StateM Workspace) Unit)
      workspace = (.ok (), after) := by
  unfold generateUnder
  rw [generates, Bool.not_true, if_neg Bool.false_ne_true, Commanding.bind_apply,
    Commanding.lift_apply]
  simp only [Platform.outline]
  rw [Discovery.modules_outline, found]
  dsimp only [List.isEmpty_cons]
  rw [if_neg Bool.false_ne_true, Commanding.bind_apply, Commanding.lift_apply]
  change ((generateAll errorsOnly settings (settings.outputPath environment)
    (Session.ofCache .empty) (path :: rest) >>= fun errors => _ :
      Commanding (StateM Workspace) Unit) workspace) = _
  rw [Commanding.bind_apply, ran]
  rfl

/-- A module with one function, which a queue message triggers. -/
def oneFunction (function : String) : WorkerModule where
  assemblyName := "App"
  methods := [
    { methodName := "Run"
      containingType := "App.Jobs"
      attributes := [
        { className := Names.functionClass
          namespaceName := some Names.workerNamespace
          arguments := [⟨"name", .string function⟩] }]
      parameters := [
        { name := "message"
          type := DeclaredType.named "string"
          attributes := [
            { className := "QueueTriggerAttribute", baseTypes := [Names.triggerBase] }] }]
      returnType := DeclaredType.void }]

theorem ofDocument_oneFunction (path function : String) :
    WorkerModule.ofDocument path (oneFunction function).toJson.pretty =
      .ok (oneFunction function) := by
  have integral : (oneFunction function).toJson.IsIntegral := by
    repeat' constructor
  have decoded : WorkerModule.decode Decoder.maxNesting
      (Reading.ofJson (oneFunction function).toJson) = .ok (oneFunction function) := rfl
  rw [WorkerModule.ofDocument, WorkerModule.ofText, Decoder.decodeText_pretty _ integral, decoded]
  exact if_neg (by decide : ¬ Text.isBlankText "App" = true)

/-- The symbol documents of two modules that name the same assembly. -/
def twins : Workspace where
  files := .directory [("in", .directory [
    ("a.symbols.json", .file (oneFunction "Place").toJson.pretty),
    ("b.symbols.json", .file (oneFunction "Cancel").toJson.pretty)])]
  current := []
  output := ""
  messages := ""
  documentTime := ""
  logTime := ""

/-- The settings of a project for which manifests are generated. -/
def enabled : Settings where
  executionModel := some "isolated"
  enableGeneration := some true
  outputDirectory := some "out"

/-- A user whose working directory is the root. -/
def atRoot : Environment :=
  ⟨"/home", "/", none, false⟩

theorem modules_twins : Discovery.modules "in" (twins.files.find? twins.current "in") =
    ["in/a.symbols.json", "in/b.symbols.json"] := by
  have listed : Discovery.modules "in" (twins.files.find? twins.current "in") =
      ([["a.symbols.json"], ["b.symbols.json"]].mergeSort Discovery.precedes).map
        (Discovery.pathBelow "in") := rfl
  rw [listed, List.mergeSort_of_pairwise (by decide)]
  rfl

theorem moduleAt_twins :
    twins.moduleAt "in/a.symbols.json" = .ok (oneFunction "Place") ∧
      twins.moduleAt "in/b.symbols.json" = .ok (oneFunction "Cancel") := by
  have first : twins.read "in/a.symbols.json" = .ok (oneFunction "Place").toJson.pretty := rfl
  have second : twins.read "in/b.symbols.json" = .ok (oneFunction "Cancel").toJson.pretty := rfl
  rw [moduleAt_of_read first, moduleAt_of_read second]
  exact ⟨ofDocument_oneFunction _ _, ofDocument_oneFunction _ _⟩

/-- A module of which one function was accepted, and which has nothing to say. -/
structure IsSingle (outcome : ModuleOutcome) (function : String) (manifest : Manifest) : Prop where
  assemblyName : outcome.assemblyName = "App"
  accepted : outcome.accepted = 1
  silent : outcome.diagnostics = [] ∧ outcome.rejected = 0
  written : outcome.manifest = some manifest
  functions : ∃ record, manifest.functions = [record] ∧ record.name = function ∧
    record.retry = none

theorem exists_isSingle {outcome : ModuleOutcome} {function : String}
    (counts : (outcome.assemblyName, outcome.accepted, outcome.rejected, outcome.diagnostics) =
      ("App", 1, 0, []))
    (functions : outcome.manifest.map (fun manifest =>
      manifest.functions.map fun record => (record.name, record.retry.isNone)) =
        some [(function, true)]) :
    ∃ manifest, IsSingle outcome function manifest := by
  obtain ⟨manifest, written, listed⟩ := Option.map_eq_some_iff.mp functions
  obtain ⟨record, only, same⟩ := List.map_eq_singleton_iff.mp listed
  simp only [Prod.mk.injEq, Option.isNone_iff_eq_none] at counts same
  obtain ⟨assemblyName, accepted, rejected, diagnostics⟩ := counts
  exact ⟨manifest, assemblyName, accepted, ⟨diagnostics, rejected⟩, written, record, only, same⟩

/-- Manifests of functions of different names have different texts. -/
theorem IsSingle.text_ne {outcome other : ModuleOutcome} {function otherFunction : String}
    {manifest otherManifest : Manifest} (single : IsSingle outcome function manifest)
    (otherSingle : IsSingle other otherFunction otherManifest)
    (differs : function ≠ otherFunction) : manifest.text ≠ otherManifest.text := by
  obtain ⟨record, only, rfl, unretried⟩ := single.functions
  obtain ⟨otherRecord, otherOnly, rfl, otherUnretried⟩ := otherSingle.functions
  have exact : manifest.IsExact := Manifest.isExact_of_unretried (by simp [only, unretried])
  have otherExact : otherManifest.IsExact :=
    Manifest.isExact_of_unretried (by simp [otherOnly, otherUnretried])
  intro same
  have read := Manifest.ofText_text exact
  rw [same, Manifest.ofText_text otherExact] at read
  cases read
  rw [only] at otherOnly
  cases otherOnly
  exact differs rfl

theorem runEach_twins : ∃ first second next last firstManifest secondManifest,
    (enabled.jobFor "" (oneFunction "Place")).run .builtIn .never (Session.ofCache .empty) =
        (.ok first, next) ∧
      (enabled.jobFor "" (oneFunction "Cancel")).run .builtIn .never next = (.ok second, last) ∧
      WorkerModule.runEach .builtIn
        ([oneFunction "Place", oneFunction "Cancel"].map (enabled.jobFor ""))
        (Session.ofCache .empty) = (.ok [first, second], last) ∧
      IsSingle first "Place" firstManifest ∧ IsSingle second "Cancel" secondManifest := by
  obtain ⟨first, next, ranFirst, uncancelled⟩ := WorkerModule.run_completes .builtIn
    (enabled.jobFor "" (oneFunction "Place")) (rfl : (Session.ofCache .empty).cancelled = false)
  obtain ⟨second, last, ranSecond, _⟩ := WorkerModule.run_completes .builtIn
    (enabled.jobFor "" (oneFunction "Cancel")) uncancelled
  have ran : WorkerModule.runEach .builtIn
      ([oneFunction "Place", oneFunction "Cancel"].map (enabled.jobFor ""))
      (Session.ofCache .empty) = (.ok [first, second], last) := by
    rw [List.map_cons, List.map_singleton, WorkerModule.runEach, Assembling.bind_apply, ranFirst]
    dsimp only
    rw [WorkerModule.runEach, Assembling.bind_apply, Assembling.bind_apply, ranSecond]
    rfl
  have counts : ((WorkerModule.runEach .builtIn
      ([oneFunction "Place", oneFunction "Cancel"].map (enabled.jobFor ""))
      (Session.ofCache .empty)).1.toOption.getD []).map (fun outcome =>
        (outcome.assemblyName, outcome.accepted, outcome.rejected, outcome.diagnostics)) =
      [("App", 1, 0, []), ("App", 1, 0, [])] := by
    decide +kernel
  have functions : ((WorkerModule.runEach .builtIn
      ([oneFunction "Place", oneFunction "Cancel"].map (enabled.jobFor ""))
      (Session.ofCache .empty)).1.toOption.getD []).map (fun outcome =>
        outcome.manifest.map fun manifest =>
          manifest.functions.map fun record => (record.name, record.retry.isNone)) =
      [some [("Place", true)], some [("Cancel", true)]] := by
    decide +kernel
  rw [ran] at counts functions
  obtain ⟨countsFirst, countsSecond⟩ := List.cons.inj counts
  obtain ⟨functionsFirst, functionsSecond⟩ := List.cons.inj functions
  obtain ⟨firstManifest, isFirst⟩ := exists_isSingle countsFirst functionsFirst
  obtain ⟨secondManifest, isSecond⟩ :=
    exists_isSingle (List.cons.inj countsSecond).1 (List.cons.inj functionsSecond).1
  exact ⟨first, second, next, last, firstManifest, secondManifest, ranFirst, ranSecond, ran,
    isFirst, isSecond⟩

/-- Where the manifest of any module of the assembly goes. -/
theorem IsSingle.target_eq {outcome : ModuleOutcome} {function : String} {manifest : Manifest}
    (single : IsSingle outcome function manifest) :
    outcome.target (enabled.outputPath atRoot) = "/out/App.metadata.json" := by
  rw [ModuleOutcome.target, single.assemblyName]
  rfl

/-- Generating from the two documents ends well and leaves the manifest of the second module. -/
theorem generateUnder_twins : ∃ first second last firstManifest secondManifest after,
    WorkerModule.runEach .builtIn
        ([oneFunction "Place", oneFunction "Cancel"].map (enabled.jobFor ""))
        (Session.ofCache .empty) = (.ok [first, second], last) ∧
      IsSingle first "Place" firstManifest ∧ IsSingle second "Cancel" secondManifest ∧
      (generateUnder atRoot errorsOnly enabled "in" : Commanding (StateM Workspace) Unit) twins =
        (.ok (), after) ∧
      after.read "/out/App.metadata.json" = .ok secondManifest.text := by
  obtain ⟨first, second, next, last, firstManifest, secondManifest, ranFirst, ranSecond, ran,
    isFirst, isSecond⟩ := runEach_twins
  let between := ((firstManifest.save "/out/App.metadata.json" : StateM Workspace _) twins).2
  let after := ((secondManifest.save "/out/App.metadata.json" : StateM Workspace _) between).2
  have savedFirst : (firstManifest.save (first.target (enabled.outputPath atRoot)) :
      StateM Workspace _) twins = (.ok (), between) := by
    rw [isFirst.target_eq]
    exact Prod.ext rfl rfl
  have savedSecond : (secondManifest.save (second.target (enabled.outputPath atRoot)) :
      StateM Workspace _) between = (.ok (), after) := by
    rw [isSecond.target_eq]
    exact Prod.ext rfl rfl
  have document : between.read "in/b.symbols.json" = .ok (oneFunction "Cancel").toJson.pretty := rfl
  have loadedSecond : between.moduleAt "in/b.symbols.json" = .ok (oneFunction "Cancel") := by
    rw [moduleAt_of_read document]
    exact ofDocument_oneFunction _ _
  have ranAll : (generateAll errorsOnly enabled (enabled.outputPath atRoot) (Session.ofCache .empty)
      ["in/a.symbols.json", "in/b.symbols.json"] : Commanding (StateM Workspace) Nat) twins =
        (.ok (0 + (0 + 0)), after) := by
    refine generateAll_cons_of_silent moduleAt_twins.1 ranFirst isFirst.silent isFirst.written
      savedFirst ?_
    exact generateAll_cons_of_silent loadedSecond ranSecond isSecond.silent isSecond.written
      savedSecond rfl
  exact ⟨first, second, last, firstManifest, secondManifest, after, ran, isFirst, isSecond,
    generateUnder_of_generateAll rfl modules_twins ranAll, rfl⟩

/-- Generating that ends well has loaded every document as it was at the start and run the modules
one after another; and wherever the manifest of a module with accepted functions was written, it is
there in the end, unless a later module with accepted functions is written to the same place. -/
theorem generateUnder_writes {environment : Environment} {input : String}
    (logs : console.logFile = none ∨ console.logFile = some environment.logFile)
    (generates : settings.switches.generates = true) {workspace after : Workspace}
    (proper : workspace.files.isProper = true)
    (apart : ∀ location, workspace.Leads input location → ¬ console.LogsAt workspace location)
    (ran : (generateUnder environment console settings input :
      Commanding (StateM Workspace) Unit) workspace = (.ok (), after)) :
    ∃ modules outcomes last,
      List.Forall₂ (fun path module => workspace.moduleAt path = .ok module)
        (Discovery.modules input (workspace.files.find? workspace.current input)) modules ∧
      WorkerModule.runEach .builtIn (modules.map (settings.jobFor workspace.documentTime))
        (Session.ofCache .empty) = (.ok outcomes, last) ∧
      ∀ earlier outcome later, outcomes = earlier ++ outcome :: later → 0 < outcome.accepted →
        ∃ manifest location, outcome.manifest = some manifest ∧
          after.Leads (outcome.target (settings.outputPath environment)) location ∧
          ((∀ other ∈ later, 0 < other.accepted →
            ¬ after.Leads (other.target (settings.outputPath environment)) location) →
              after.read (outcome.target (settings.outputPath environment)) =
                .ok manifest.text) := by
  obtain ⟨start, modules, outcomes, said, generated⟩ :=
    generateUnder_eq_ok (logsApart_logFile logs) generates ran
  obtain ⟨last, ranEach⟩ := generated.runEach
  rw [said.documentTime] at ranEach
  refine ⟨modules, outcomes, last, loaded_at_start (logsApart_logFile logs) proper apart said
    generated, ranEach, ?_⟩
  intro earlier outcome later split accepted
  obtain ⟨manifest, written⟩ := Option.isSome_iff_exists.mp
    ((generated.manifest_isSome_iff outcome (by simp [split])).mpr accepted)
  obtain ⟨location, leads, stored⟩ := generated.stored earlier outcome later split manifest written
  refine ⟨manifest, location, written, leads, fun alone => ?_⟩
  refine read_of_hasFile leads (stored fun other member otherWritten => alone other member ?_)
  exact (generated.manifest_isSome_iff other (by simp [split, member])).mp otherWritten

/-- The manifest of the second of two modules of one assembly is there in the end. -/
theorem generateUnder_writes_twins : ∃ (after : Workspace) (manifest : Manifest),
    errorsOnly.logFile = none ∧ enabled.switches.generates = true ∧ twins.files.isProper = true ∧
      (∀ location, twins.Leads "in" location → ¬ errorsOnly.LogsAt twins location) ∧
      (generateUnder atRoot errorsOnly enabled "in" : Commanding (StateM Workspace) Unit) twins =
        (.ok (), after) ∧
      after.read "/out/App.metadata.json" = .ok manifest.text ∧
      manifest.functions.map (·.name) = ["Cancel"] := by
  obtain ⟨first, second, last, firstManifest, secondManifest, after, ranEach, isFirst, isSecond,
    ran, _⟩ := generateUnder_twins
  have unlogged : ∀ location, twins.Leads "in" location → ¬ errorsOnly.LogsAt twins location := by
    rintro location _ ⟨path, logged, _⟩
    cases logged
  obtain ⟨modules, outcomes, _, loaded, ranModules, each⟩ :=
    generateUnder_writes (.inl rfl) rfl rfl unlogged ran
  rw [modules_twins] at loaded
  have same : modules = [oneFunction "Place", oneFunction "Cancel"] := by
    cases loaded with
    | cons loadedFirst others =>
      cases others with
      | cons loadedSecond others =>
        cases others
        rw [moduleAt_twins.1] at loadedFirst
        rw [moduleAt_twins.2] at loadedSecond
        cases loadedFirst
        cases loadedSecond
        rfl
  rw [same, show twins.documentTime = "" from rfl, ranEach] at ranModules
  cases ranModules
  obtain ⟨manifest, location, written, _, found⟩ :=
    each [first] second [] rfl (by rw [isSecond.accepted]; exact Nat.one_pos)
  rw [isSecond.written] at written
  cases written
  rw [isSecond.target_eq] at found
  obtain ⟨record, only, named, _⟩ := isSecond.functions
  refine ⟨after, secondManifest, rfl, rfl, rfl, unlogged, ran, found nofun, ?_⟩
  rw [only, List.map_singleton, named]

/-- The manifest of the first is not: its function was accepted, and generating ended well, but what
is read in its place is something else. -/
theorem generateUnder_overwrites : ∃ modules first second last after,
    enabled.switches.generates = true ∧ twins.files.isProper = true ∧
      (generateUnder atRoot errorsOnly enabled "in" : Commanding (StateM Workspace) Unit) twins =
        (.ok (), after) ∧
      List.Forall₂ (fun path module => twins.moduleAt path = .ok module)
        (Discovery.modules "in" (twins.files.find? twins.current "in")) modules ∧
      WorkerModule.runEach .builtIn (modules.map (enabled.jobFor twins.documentTime))
        (Session.ofCache .empty) = (.ok [first, second], last) ∧
      0 < first.accepted ∧ ∀ manifest, first.manifest = some manifest →
        after.read (first.target (enabled.outputPath atRoot)) ≠ .ok manifest.text := by
  obtain ⟨first, second, last, firstManifest, secondManifest, after, ranEach, isFirst, isSecond,
    ran, found⟩ := generateUnder_twins
  refine ⟨[oneFunction "Place", oneFunction "Cancel"], first, second, last, after, rfl, rfl, ran,
    ?_, ranEach, by rw [isFirst.accepted]; exact Nat.one_pos, ?_⟩
  · rw [modules_twins]
    exact .cons moduleAt_twins.1 (.cons moduleAt_twins.2 .nil)
  · intro manifest written
    rw [isFirst.written] at written
    cases written
    rw [isFirst.target_eq, found]
    intro same
    exact isFirst.text_ne isSecond (by decide) (Except.ok.inj same).symm

end Command

end WorkerBindings
