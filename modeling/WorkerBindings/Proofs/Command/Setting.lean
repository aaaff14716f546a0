import WorkerBindings.Command.Configure
import WorkerBindings.Proofs.Command.Generating
import WorkerBindings.Proofs.Settings.Saving

/-!
# Making settings one after another

Making a setting changes nothing at all if it fails: the settings file is no settings file, or there
is no such setting, or the text is none for a switch. Otherwise the settings that are loaded from
then on are the same but for the one, and no other file has changed but the log. So after any number
of requests every setting shows the text of the last one that was met.

That is so as long as the settings file is a file of its own. A log in the same place is written
into the settings, and a pointer file in the same place is replaced by them.
-/

namespace WorkerBindings

open Workspace

namespace Environment

variable (environment : Environment)

theorem settingsDirectory_ne : environment.settingsDirectory ≠ "" := by
  intro empty
  have ends := Path.suffix_join (Path.join environment.home ".config") "fnmeta"
  unfold settingsDirectory at empty
  rw [empty] at ends
  exact absurd ends (by decide)

/-- The log and the pointer file lie side by side. -/
theorem placeOf_logFile_ne (workspace : Workspace) :
    workspace.placeOf environment.logFile ≠ workspace.placeOf environment.pointerFile := by
  have named := environment.settingsDirectory_ne
  have isLog : Path.IsName "fnmeta.log" := Path.isName_iff.mp (by decide)
  have isPointer : Path.IsName ".fnmeta_config_path" := Path.isName_iff.mp (by decide)
  unfold placeOf logFile pointerFile
  rw [Path.destination_join isLog named, Path.destination_join isPointer named]
  intro same
  exact absurd (List.append_cancel_left same) (by decide)

end Environment

/-- Settings can be saved, and if a pointer file decides where, it is another file than theirs and
can be read if it is there. -/
structure Workspace.KeepsSettings (workspace : Workspace) (environment : Environment) : Prop where
  saves : ∀ settings : Settings,
    ((settings.save environment : StateM Workspace _) workspace).1 = .ok ()
  pointer : environment.settingsVariable.bind Text.nonBlank? = none →
    workspace.placeOf environment.pointerFile ≠
      workspace.placeOf (workspace.settingsFile environment) ∧
    workspace.Reaches environment.pointerFile

/-- The console keeps no log, or the log of the user, and that is another file than the settings. -/
def Console.LogsBeside (console : Console) (environment : Environment) (workspace : Workspace) :
    Prop :=
  console.logFile = none ∨ console.logFile = some environment.logFile ∧
    workspace.placeOf environment.logFile ≠ workspace.placeOf (workspace.settingsFile environment)

variable {environment : Environment} {console : Console} {workspace between after : Workspace}

namespace Console.LogsBeside

theorem eq_logFile (beside : console.LogsBeside environment workspace)
    (current : between.current = workspace.current) {location : List String}
    (logs : console.LogsAt between location) :
    location = workspace.placeOf environment.logFile := by
  obtain ⟨path, logged, leads⟩ := logs
  rcases beside with silent | ⟨logs, _⟩
  · rw [silent] at logged
    cases logged
  · rw [logs] at logged
    cases logged
    rw [eq_placeOf_of_leads leads, placeOf, placeOf, current]

theorem not_logsAt_settingsFile (beside : console.LogsBeside environment workspace)
    (current : between.current = workspace.current) :
    ¬ console.LogsAt between (workspace.placeOf (workspace.settingsFile environment)) := by
  intro logs
  rcases beside with silent | ⟨isLog, apart⟩
  · obtain ⟨path, logged, _⟩ := logs
    rw [silent] at logged
    cases logged
  · exact apart (eq_logFile (.inr ⟨isLog, apart⟩) current logs).symm

/-- Whether the log is apart depends on the places only. -/
theorem congr (beside : console.LogsBeside environment workspace)
    (current : after.current = workspace.current)
    (sameFile : after.settingsFile environment = workspace.settingsFile environment) :
    console.LogsBeside environment after := by
  refine beside.imp_right fun ⟨logs, apart⟩ => ⟨logs, ?_⟩
  rw [sameFile, placeOf, placeOf, current]
  exact apart

end Console.LogsBeside

namespace Workspace.KeepsSettings

/-- There is no directory where settings can be saved. -/
theorem not_directory (keeps : workspace.KeepsSettings environment) {location : List String}
    (leads : workspace.Leads (workspace.settingsFile environment) location) :
    ¬ workspace.files.HasDirectory location := by
  intro isDirectory
  have saved := keeps.saves .empty
  rw [Settings.save_apply] at saved
  obtain ⟨read, alters⟩ := Settings.saveTo_alters (Prod.ext saved rfl)
  obtain ⟨_, found⟩ := read_eq_ok_iff.mp read
  rw [alters.placeOf, ← eq_placeOf_of_leads leads] at found
  -- The file that is there now would still be a directory.
  obtain ⟨entries, there⟩ := alters.evolves.files.directories location isDirectory
  rw [HasFile, there] at found
  cases found

/-- What has been saved is in use after the message about it, and can be changed again. -/
theorem saved (keeps : workspace.KeepsSettings environment)
    (beside : console.LogsBeside environment workspace) {settings : Settings}
    (saved : (settings.save environment : StateM Workspace _) workspace = (.ok (), between))
    (said : Alters (console.LogsAt between) between after) :
    after.KeepsSettings environment ∧
      after.settingsFile environment = workspace.settingsFile environment ∧
      after.settingsFor environment = .ok settings ∧
      Alters (fun location => location = workspace.placeOf (workspace.settingsFile environment) ∨
        location = workspace.placeOf environment.logFile) workspace after := by
  rw [Settings.save_apply] at saved
  obtain ⟨read, written⟩ := Settings.saveTo_alters saved
  have current := written.evolves.current
  have alters := (written.mono fun _ => .inl).trans
    (said.mono fun _ logs => Or.inr (beside.eq_logFile current logs))
  have untouched := beside.not_logsAt_settingsFile current
  -- The pointer file is neither of the two that were written, so it names the same settings file.
  have unaltered (free : environment.settingsVariable.bind Text.nonBlank? = none) :=
    not_or.mpr ⟨(keeps.pointer free).1, (environment.placeOf_logFile_ne workspace).symm⟩
  have sameFile : after.settingsFile environment = workspace.settingsFile environment :=
    settingsFile_of_read fun free _ =>
      alters.read_eq_ok_iff (unaltered free) (keeps.pointer free).2
  have readAfter : after.read (after.settingsFile environment) = .ok settings.text := by
    rw [sameFile]
    obtain ⟨leads, found⟩ := read_eq_ok_iff.mp read
    refine read_of_hasFile (said.evolves.leads leads) (said.evolves.hasFile ?_ found)
    rw [written.placeOf]
    exact untouched
  refine ⟨⟨fun others => ?_, fun free => ?_⟩, sameFile, ?_, alters⟩
  · rw [Settings.save_apply, sameFile]
    refine Settings.saveTo_again saved said.evolves ?_ others
    rw [written.placeOf]
    exact untouched
  · rw [sameFile, alters.placeOf, alters.placeOf]
    exact ⟨(keeps.pointer free).1, alters.reaches (unaltered free) (keeps.pointer free).2⟩
  · rw [settingsFor_of_read readAfter, Settings.ofText?_text]

end Workspace.KeepsSettings

namespace Commanding

theorem settle_eq_error {ε α : Type} {wrap : ε → CommandError}
    {outcome : StateM Workspace (Except ε α)} {reason : ε}
    (failed : outcome workspace = (.error reason, after)) :
    (settle wrap outcome : Commanding (StateM Workspace) α) workspace =
      (.error (wrap reason), after) := by
  unfold settle ExceptT.mk
  rw [Workspace.bind_apply, failed]
  rfl

end Commanding

namespace Command

/-- A request to make a setting, and the console at which it is made. -/
structure SettingRequest where
  console : Console
  key : String
  value : String
  deriving Repr, DecidableEq

variable {request : SettingRequest} {requests : List SettingRequest}
  {outcome : Except CommandError Unit} {outcomes : List (Except CommandError Unit)}

/-- What a request to make a setting comes to. -/
inductive Sets (environment : Environment) (request : SettingRequest) (before : Workspace) :
    Except CommandError Unit → Workspace → Prop
  /-- The settings file is no settings file, and nothing changes. -/
  | invalidFile {text : String}
      (found : before.read (before.settingsFile environment) = .ok text)
      (isNone : Settings.ofText? text = none) :
      Sets environment request before (.error (.settings .malformed)) before
  /-- The setting cannot be made, and nothing changes. -/
  | refused {settings : Settings} {reason : SettingsError}
      (loaded : before.settingsFor environment = .ok settings)
      (sets : settings.Sets request.key request.value (.error reason)) :
      Sets environment request before (.error (.settings reason)) before
  /-- The settings with the one made are in use, and no file but theirs and the log has changed. -/
  | made {settings changed : Settings} {after : Workspace}
      (loaded : before.settingsFor environment = .ok settings)
      (sets : settings.Sets request.key request.value (.ok changed))
      (holds : after.settingsFor environment = .ok changed)
      (alters : Alters (fun location =>
        location = before.placeOf (before.settingsFile environment) ∨
          location = before.placeOf environment.logFile) before after) :
      Sets environment request before (.ok ()) after

/-- Every request to make a setting comes to one of these, and afterwards settings can be changed as
before. -/
theorem runSet_sets (keeps : workspace.KeepsSettings environment)
    (beside : request.console.LogsBeside environment workspace) :
    ∃ outcome after, (runSet environment request.console request.key request.value :
        Commanding (StateM Workspace) Unit) workspace = (outcome, after) ∧
      Sets environment request workspace outcome after ∧ after.KeepsSettings environment ∧
      ∀ console : Console, console.LogsBeside environment workspace →
        console.LogsBeside environment after := by
  have load := Settings.load_apply environment workspace
  have loads := workspace.settingsFor_loads environment
  unfold runSet
  rw [Commanding.bind_apply]
  cases loaded : workspace.settingsFor environment with
  | error reason =>
    rw [loaded] at load loads
    rw [Commanding.settle_eq_error load]
    refine ⟨_, _, rfl, ?_, keeps, fun _ beside => beside⟩
    cases loads with
    | invalid found isNone => exact .invalidFile found isNone
    | directory leads isDirectory => exact absurd isDirectory (keeps.not_directory leads)
  | ok settings =>
    rw [loaded] at load
    rw [Commanding.settle_eq_ok.mpr load]
    dsimp only
    rw [Commanding.bind_apply]
    have sets := settings.set_sets request.key request.value
    have answer : (pure (settings.set request.key request.value) : StateM Workspace _) workspace =
        (settings.set request.key request.value, workspace) := rfl
    cases result : settings.set request.key request.value with
    | error reason =>
      rw [result] at sets answer
      rw [Commanding.settle_eq_error answer]
      exact ⟨_, _, rfl, .refused loaded sets, keeps, fun _ beside => beside⟩
    | ok changed =>
      rw [result] at sets answer
      rw [Commanding.settle_eq_ok.mpr answer]
      dsimp only
      have saved : (changed.save environment : StateM Workspace _) workspace = (.ok (), _) :=
        Prod.ext (keeps.saves changed) rfl
      have said := Console.say_alters request.console .success
        s!"Set {request.key} = {request.value}"
        ((changed.save environment : StateM Workspace _) workspace).2
      obtain ⟨keepsAfter, sameFile, holds, alters⟩ := keeps.saved beside saved said
      rw [Commanding.bind_apply, Commanding.settle_eq_ok.mpr saved]
      exact ⟨_, _, rfl, .made loaded sets holds alters, keepsAfter,
        fun _ beside => beside.congr alters.evolves.current sameFile⟩

/-- Make several settings one after another, each whatever those before it came to. -/
def runSets (environment : Environment) (requests : List SettingRequest) :
    StateM Workspace (List (Except CommandError Unit)) :=
  requests.mapM fun request =>
    (runSet environment request.console request.key request.value :
      Commanding (StateM Workspace) Unit).run

/-- What several requests come to, each in the workspace that those before it left. -/
inductive SetsAll (environment : Environment) :
    Workspace → List SettingRequest → List (Except CommandError Unit) → Workspace → Prop
  | nil {workspace : Workspace} : SetsAll environment workspace [] [] workspace
  | cons {request : SettingRequest} {outcome : Except CommandError Unit}
      {before between after : Workspace} {requests : List SettingRequest}
      {outcomes : List (Except CommandError Unit)}
      (first : Sets environment request before outcome between)
      (rest : SetsAll environment between requests outcomes after) :
      SetsAll environment before (request :: requests) (outcome :: outcomes) after

theorem runSets_cons (request : SettingRequest) (requests : List SettingRequest)
    (workspace : Workspace) {outcome : Except CommandError Unit} {between : Workspace}
    (first : (runSet environment request.console request.key request.value :
      Commanding (StateM Workspace) Unit) workspace = (outcome, between)) :
    runSets environment (request :: requests) workspace =
      (outcome :: (runSets environment requests between).1,
        (runSets environment requests between).2) := by
  unfold runSets
  rw [List.mapM_cons, Workspace.bind_apply, ExceptT.run, first]
  rfl

theorem runSets_setsAll (keeps : workspace.KeepsSettings environment)
    (beside : ∀ request ∈ requests, request.console.LogsBeside environment workspace) :
    ∃ outcomes after, runSets environment requests workspace = (outcomes, after) ∧
      SetsAll environment workspace requests outcomes after := by
  induction requests generalizing workspace with
  | nil => exact ⟨[], workspace, rfl, .nil⟩
  | cons request rest ih =>
    obtain ⟨besideHere, besideLater⟩ := List.forall_mem_cons.mp beside
    obtain ⟨outcome, between, ran, sets, keepsThen, stays⟩ := runSet_sets keeps besideHere
    obtain ⟨outcomes, after, ranRest, setsRest⟩ :=
      ih keepsThen fun other member => stays _ (besideLater other member)
    refine ⟨outcome :: outcomes, after, ?_, .cons sets setsRest⟩
    rw [runSets_cons request rest workspace ran, ranRest]

/-- The text of the last request for a key that was met. -/
def lastSet? (key : String) : List (SettingRequest × Except CommandError Unit) → Option String
  | [] => none
  | (request, .ok ()) :: rest =>
    (lastSet? key rest).or (if request.key = key then some request.value else none)
  | (_, .error _) :: rest => lastSet? key rest

/-- A setting shows what it takes the last text for, or is as it was if there is none. -/
def Holds (before after : Settings) (key : SettingKey) : Option String → Prop
  | some text => ∃ shown, key.Takes text shown ∧ after.get? key.name = some shown
  | none => after.value? key = before.value? key

theorem Holds.made {before between after : Settings} {name text : String}
    (sets : before.Sets name text (.ok between)) {key : SettingKey} {last : Option String}
    (holds : Holds between after key last) :
    Holds before after key (last.or (if name = key.name then some text else none)) := by
  cases last with
  | some later => exact holds
  | none =>
    change after.value? key = between.value? key at holds
    rw [Option.none_or]
    cases sets with
    | made named takes shows others =>
      rename_i changedKey shown
      by_cases same : key = changedKey
      · subst same
        rw [if_pos named.symm]
        refine ⟨shown, takes, ?_⟩
        rw [Settings.get?_name, holds, ← Settings.get?_name, named]
        exact shows
      · have differs : name ≠ key.name := fun equal =>
          same (SettingKey.name_injective (named.trans equal).symm)
        rw [if_neg differs]
        exact holds.trans (others key same)

/-- Requests leave every setting with the last text that it was given. -/
theorem SetsAll.holds {before after : Workspace}
    (all : SetsAll environment before requests outcomes after) {settings : Settings}
    (loaded : before.settingsFor environment = .ok settings) :
    ∃ final, after.settingsFor environment = .ok final ∧
      ∀ key : SettingKey, Holds settings final key (lastSet? key.name (requests.zip outcomes)) := by
  induction all generalizing settings with
  | nil => exact ⟨settings, loaded, fun key => rfl⟩
  | cons first rest ih =>
    cases first with
    | invalidFile found isNone =>
      rw [settingsFor_of_read found, isNone] at loaded
      cases loaded
    | refused loadedFirst sets => exact ih loaded
    | made loadedFirst sets holds alters =>
      rw [loaded] at loadedFirst
      cases loadedFirst
      obtain ⟨final, loadedAfter, values⟩ := ih holds
      exact ⟨final, loadedAfter, fun key => .made sets (values key)⟩

/-- Each of several requests to make a setting changes nothing or makes the one, and in the end
every setting shows the text of the last request for it that was met, and is as it was if there is
none. -/
theorem runSets_keeps_last (keeps : workspace.KeepsSettings environment)
    (beside : ∀ request ∈ requests, request.console.LogsBeside environment workspace) :
    ∃ outcomes after, runSets environment requests workspace = (outcomes, after) ∧
      SetsAll environment workspace requests outcomes after ∧
      ∀ settings, workspace.settingsFor environment = .ok settings →
        ∃ final, after.settingsFor environment = .ok final ∧ ∀ key : SettingKey,
          Holds settings final key (lastSet? key.name (requests.zip outcomes)) := by
  obtain ⟨outcomes, after, ran, all⟩ := runSets_setsAll keeps beside
  exact ⟨outcomes, after, ran, all, fun _ loaded => all.holds loaded⟩

/-- A console that shows errors only and keeps the log of a user. -/
def logging (environment : Environment) : Console :=
  { errorsOnly with logFile := some environment.logFile }

/-- Requests of which two are refused, and two are for the same setting. -/
def rounds : List SettingRequest := [
  ⟨logging atRoot, "output-dir", "bin"⟩,
  ⟨logging atRoot, "colour", "red"⟩,
  ⟨logging atRoot, "auto-register", " TRUE "⟩,
  ⟨errorsOnly, "auto-register", "perhaps"⟩,
  ⟨logging atRoot, "output-dir", "out"⟩]

theorem keepsSettings_blank : Workspace.blank.KeepsSettings atRoot where
  saves _ := rfl
  pointer _ := ⟨by decide +kernel, nofun⟩

theorem logsBeside_rounds :
    ∀ request ∈ rounds, request.console.LogsBeside atRoot .blank := by
  have logs : (logging atRoot).LogsBeside atRoot .blank := .inr ⟨rfl, by decide +kernel⟩
  have silent : errorsOnly.LogsBeside atRoot .blank := .inl rfl
  simp only [rounds, List.forall_mem_cons]
  exact ⟨logs, logs, logs, silent, logs, nofun⟩

/-- Without settings at first, two settings are made in the end. -/
theorem runSets_keeps_last_rounds :
    Workspace.blank.KeepsSettings atRoot ∧
    (∀ request ∈ rounds, request.console.LogsBeside atRoot .blank) ∧
    ∃ outcomes after final, runSets atRoot rounds .blank = (outcomes, after) ∧
      SetsAll atRoot .blank rounds outcomes after ∧
      outcomes = [.ok (), .error (.settings (.unknownKey "colour")), .ok (),
        .error (.settings (.invalidSwitch .autoRegister "perhaps")), .ok ()] ∧
      after.settingsFor atRoot = .ok final ∧ Holds .empty final .outputDirectory (some "out") ∧
      Holds .empty final .autoRegister (some " TRUE ") ∧ Holds .empty final .scriptFile none := by
  refine ⟨keepsSettings_blank, logsBeside_rounds, ?_⟩
  obtain ⟨outcomes, after, ran, all, last⟩ :=
    runSets_keeps_last keepsSettings_blank logsBeside_rounds
  have met : (runSets atRoot rounds .blank).1 =
      [.ok (), .error (.settings (.unknownKey "colour")), .ok (),
        .error (.settings (.invalidSwitch .autoRegister "perhaps")), .ok ()] := by
    decide +kernel
  rw [ran] at met
  subst met
  obtain ⟨final, loaded, holds⟩ := last .empty (by decide +kernel)
  exact ⟨_, after, final, ran, all, rfl, loaded, holds .outputDirectory, holds .autoRegister,
    holds .scriptFile⟩

/-- What a request comes to, and the settings that are loaded afterwards. -/
def loadedAfter (environment : Environment) (request : SettingRequest) (workspace : Workspace) :
    Except CommandError Unit × Except SettingsError Settings :=
  let (outcome, after) := (runSet environment request.console request.key request.value :
    Commanding (StateM Workspace) Unit) workspace
  (outcome, after.settingsFor environment)

/-- A user whose settings file is the log. -/
def inLog : Environment :=
  { atRoot with settingsVariable := some "/home/.config/fnmeta/fnmeta.log" }

/-- A user whose home directory is named through a directory that need not be there. -/
def upward : Environment :=
  { atRoot with home := "/missing/../home" }

/-- A workspace with a pointer file at home. -/
def pointing (path : String) : Workspace :=
  { Workspace.blank with files := .directory [
      ("#", .directory []),
      ("home", .directory [(".config", .directory [("fnmeta", .directory [
        (".fnmeta_config_path", .file path)])])])] }

/-- A setting is lost though the request for it ends well, if the message about it goes into the
settings file, or if the settings file replaces the pointer file that points to it, or if the
pointer file is found only when directories have been made on the way to the settings file. -/
theorem runSet_loses :
    Workspace.blank.settingsFor inLog = .ok .empty ∧
    loadedAfter inLog ⟨logging inLog, "output-dir", "out"⟩ .blank = (.ok (), .error .malformed) ∧
    (pointing "#/../home/.config/fnmeta/.fnmeta_config_path").settingsFor atRoot = .ok .empty ∧
    loadedAfter atRoot ⟨logging atRoot, "output-dir", "out"⟩
      (pointing "#/../home/.config/fnmeta/.fnmeta_config_path") = (.ok (), .ok .empty) ∧
    (pointing "other.toml").settingsFor upward = .ok .empty ∧
    loadedAfter upward ⟨logging upward, "output-dir", "out"⟩ (pointing "other.toml") =
      (.ok (), .ok .empty) := by
  decide +kernel

end Command

end WorkerBindings
