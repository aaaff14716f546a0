import WorkerBindings.Proofs.Documents.Asking
import WorkerBindings.Proofs.Documents.Saving

/-!
# Providers of files over time

A provider of a file reads it when it is first asked and can do so, and keeps to what it read. While
files come, change and go, the providers of an aggregate therefore speak of different moments.
`Provider.Reads` says which: those at which each provider was asked and found its file readable for
the first time, where a provider is asked only from the moment on at which the one before it first
found its own. `Provider.calls_recall` says that the answers are made from these readings and from
nothing else.
-/

namespace WorkerBindings.Provider

/-- What may happen: someone changes the files, or the provider is asked. -/
inductive Event where
  | change (how : Workspace → Workspace)
  | call

namespace Event

/-- A file is written. -/
def write (path content : String) : Event :=
  .change fun workspace => (workspace.write path content).2

/-- A file is removed. -/
def remove (path : String) : Event :=
  .change fun workspace => (workspace.remove path).2

end Event

/-- A call of a provider: the workspace in which it was asked, and its answer. -/
structure Call where
  workspace : Workspace
  answer : Except ProviderFailure (List FunctionRecord)

/-- The calls of a provider in the course of events that start in a workspace. -/
def calls : Provider → Workspace → List Event → List Call
  | _, _, [] => []
  | provider, workspace, .change how :: rest => calls provider (how workspace) rest
  | provider, workspace, .call :: rest =>
    let ((answer, provider), after) := (provider.call : StateM Workspace _) workspace
    ⟨workspace, answer⟩ :: calls provider after rest

theorem calls_write (provider : Provider) (workspace : Workspace) (path content : String)
    (rest : List Event) :
    calls provider workspace (.write path content :: rest) =
      calls provider (workspace.write path content).2 rest :=
  rfl

theorem calls_remove (provider : Provider) (workspace : Workspace) (path : String)
    (rest : List Event) :
    calls provider workspace (.remove path :: rest) =
      calls provider (workspace.remove path).2 rest :=
  rfl

theorem calls_call_aggregate (name : String) (providers : List Provider) (workspace : Workspace)
    (rest : List Event) :
    calls (.aggregate name providers) workspace (.call :: rest) =
      ⟨workspace, gather workspace providers⟩ ::
        calls (.aggregate name (learnedEach workspace providers)) workspace rest := by
  rw [calls, call_aggregate]

/-- The manifest at a path cannot be loaded. -/
def Unreadable (path : String) (moment : Workspace) : Prop :=
  ∃ reason, moment.manifestAt path = .error reason

/-- `Reads paths moments manifests unread` says which manifests the providers of these files have
read if the first of them was asked at these moments, and which files are still unread. The
providers behind one are asked from that moment on at which it first reads its file, and once it has
read it a provider does not read it again. -/
inductive Reads : List String → List Workspace → List Manifest → List String → Prop where
  | done {moments : List Workspace} : Reads [] moments [] []
  | waiting {path : String} {rest : List String} {moments : List Workspace}
      (unreadable : ∀ moment ∈ moments, Unreadable path moment) :
      Reads (path :: rest) moments [] (path :: rest)
  | first {path : String} {rest : List String} {earlier later : List Workspace} {now : Workspace}
      {manifest : Manifest} {manifests : List Manifest} {unread : List String}
      (unreadable : ∀ moment ∈ earlier, Unreadable path moment)
      (found : now.manifestAt path = .ok manifest)
      (others : Reads rest (now :: later) manifests unread) :
      Reads (path :: rest) (earlier ++ now :: later) (manifest :: manifests) unread

/-- `Tells now manifests unread answer` says that the answer is the functions of the manifests, if
nothing is unread, and else that the first unread file cannot be loaded now. -/
inductive Tells (now : Workspace) (manifests : List Manifest) :
    List String → Except ProviderFailure (List FunctionRecord) → Prop where
  | complete : Tells now manifests [] (.ok (manifests.flatMap (·.functions)))
  | stuck {path : String} {rest : List String} {reason : LoadError}
      (fails : now.manifestAt path = .error reason) :
      Tells now manifests (path :: rest) (.error ⟨path, reason.message⟩)

theorem Reads.start (paths : List String) : Reads paths [] [] paths := by
  cases paths with
  | nil => exact .done
  | cons path rest => exact .waiting fun _ member => nomatch member

/-- The files that are unread are those behind the ones that have been read. -/
theorem Reads.unread_eq {paths : List String} {moments : List Workspace} {manifests : List Manifest}
    {unread : List String} (reads : Reads paths moments manifests unread) :
    unread = paths.drop manifests.length := by
  induction reads with
  | done => rfl
  | waiting => rfl
  | first _ _ _ ih => exact ih

/-- There is one way only to cut moments at the first one at which a file can be read. -/
theorem firstReadable_unique {path : String} {before others later rest : List Workspace}
    {now other : Workspace} {manifest otherManifest : Manifest}
    (unreadable : ∀ moment ∈ before, Unreadable path moment)
    (found : now.manifestAt path = .ok manifest)
    (unreadableOthers : ∀ moment ∈ others, Unreadable path moment)
    (foundOther : other.manifestAt path = .ok otherManifest)
    (same : before ++ now :: later = others ++ other :: rest) :
    before = others ∧ now = other ∧ later = rest := by
  induction before generalizing others with
  | nil =>
    cases others with
    | nil => simpa using same
    | cons first others =>
      obtain ⟨rfl, -⟩ := List.cons.inj same
      obtain ⟨reason, fails⟩ := unreadableOthers now List.mem_cons_self
      rw [found] at fails
      cases fails
  | cons first before ih =>
    obtain ⟨unreadableFirst, unreadableRest⟩ := List.forall_mem_cons.mp unreadable
    cases others with
    | nil =>
      obtain ⟨rfl, -⟩ := List.cons.inj same
      obtain ⟨reason, fails⟩ := unreadableFirst
      rw [foundOther] at fails
      cases fails
    | cons head others =>
      obtain ⟨rfl, sameRest⟩ := List.cons.inj same
      obtain ⟨-, unreadableOthers⟩ := List.forall_mem_cons.mp unreadableOthers
      obtain ⟨rfl, rfl, rfl⟩ := ih unreadableRest unreadableOthers sameRest
      exact ⟨rfl, rfl, rfl⟩

/-- What has been read by some moment is still what has been read at every later one. -/
theorem Reads.isPrefix {paths : List String} {moments more : List Workspace}
    {known manifests : List Manifest} {waiting unread : List String}
    (before : Reads paths moments known waiting)
    (after : Reads paths (moments ++ more) manifests unread) : known <+: manifests := by
  induction before generalizing manifests unread with
  | done => exact List.nil_prefix
  | waiting => exact List.nil_prefix
  | @first path rest earlier later now manifest known waiting unreadable found _ ih =>
    rw [List.append_assoc, List.cons_append] at after
    generalize split : earlier ++ now :: (later ++ more) = moments at after
    cases after with
    | waiting unreadableAll =>
      have member : now ∈ moments := by simp [← split]
      obtain ⟨reason, fails⟩ := unreadableAll now member
      rw [found] at fails
      cases fails
    | first unreadableOthers foundOther others =>
      obtain ⟨rfl, rfl, rfl⟩ :=
        firstReadable_unique unreadable found unreadableOthers foundOther split
      rw [found] at foundOther
      cases foundOther
      exact List.cons_prefix_cons.mpr ⟨rfl, ih others⟩

variable {now : Workspace}

/-- The providers of files of which the first have been read. -/
def remembering (paths : List String) (manifests : List Manifest) (unread : List String) :
    List Provider :=
  List.zipWith (fun path manifest => .file path (some manifest)) paths manifests ++
    unread.map ofFile

theorem remembering_nil (paths unread : List String) :
    remembering paths [] unread = unread.map ofFile := by
  rw [remembering, List.zipWith_nil_right, List.nil_append]

theorem remembering_cons (path : String) (paths : List String) (manifest : Manifest)
    (manifests : List Manifest) (unread : List String) :
    remembering (path :: paths) (manifest :: manifests) unread =
      .file path (some manifest) :: remembering paths manifests unread :=
  rfl

theorem Tells.cons {manifest : Manifest} {manifests : List Manifest} {unread : List String}
    {provider : Provider} {providers : List Provider}
    (here : provider.answer now = .ok manifest.functions)
    (others : Tells now manifests unread (gather now providers)) :
    Tells now (manifest :: manifests) unread (gather now (provider :: providers)) := by
  rw [gather_cons, here]
  generalize gather now providers = result at others
  cases others with
  | complete => exact .complete
  | stuck fails => exact .stuck fails

/-- One call: the providers read what they can, remember it, and answer by it. The induction is on
the providers; each hands those behind it the moments at which they are asked. -/
theorem Reads.call {paths : List String} {moments : List Workspace} {known : List Manifest}
    {waiting : List String} (reads : Reads paths moments known waiting) (now : Workspace) :
    ∃ manifests unread, Reads paths (moments ++ [now]) manifests unread ∧
      learnedEach now (remembering paths known waiting) = remembering paths manifests unread ∧
      Tells now manifests unread (gather now (remembering paths known waiting)) := by
  induction paths generalizing moments known waiting with
  | nil =>
    cases reads
    exact ⟨[], [], .done, rfl, .complete⟩
  | cons path rest ih =>
    cases reads with
    | waiting unreadable =>
      rw [remembering_nil, List.map_cons, ofFile]
      cases attempt : now.manifestAt path with
      | error reason =>
        obtain ⟨answers, learns⟩ := file_unreadable attempt
        refine ⟨[], path :: rest, .waiting ?_, ?_, ?_⟩
        · intro moment member
          rcases List.mem_append.mp member with past | present
          · exact unreadable moment past
          · rw [List.mem_singleton.mp present]
            exact ⟨reason, attempt⟩
        · rw [learnedEach_cons_of_error answers, learns, remembering_nil]
          rfl
        · rw [gather_cons, answers]
          exact .stuck attempt
      | ok manifest =>
        obtain ⟨answers, learns⟩ := file_readable attempt
        obtain ⟨manifests, unread, readsRest, learnsRest, tells⟩ := ih (.start rest)
        rw [remembering_nil] at learnsRest tells
        refine ⟨manifest :: manifests, unread, .first unreadable attempt readsRest, ?_, ?_⟩
        · rw [learnedEach_cons_of_ok answers, learns, learnsRest, remembering_cons]
        · exact tells.cons answers
    | @first _ _ earlier later before manifest known _ unreadable found readsBefore =>
      obtain ⟨manifests, unread, readsRest, learnsRest, tells⟩ := ih readsBefore
      have answers : (file path (some manifest)).answer now = .ok manifest.functions := rfl
      rw [remembering_cons]
      refine ⟨manifest :: manifests, unread, ?_, ?_, tells.cons answers⟩
      · rw [List.append_assoc]
        exact .first unreadable found readsRest
      · rw [learnedEach_cons_of_ok answers, learnsRest, remembering_cons]
        rfl

/-- All calls in the course of events, from providers on that remember their readings. -/
theorem Reads.calls {paths : List String} {moments : List Workspace} {known : List Manifest}
    {waiting : List String} (reads : Reads paths moments known waiting) (name : String)
    {workspace : Workspace} {events : List Event} {earlier later : List Call} {call : Call}
    (made : Provider.calls (.aggregate name (remembering paths known waiting)) workspace events =
      earlier ++ call :: later) :
    ∃ manifests unread,
      Reads paths (moments ++ earlier.map (·.workspace) ++ [call.workspace]) manifests unread ∧
      Tells call.workspace manifests unread call.answer := by
  induction events generalizing workspace moments known waiting earlier with
  | nil => simp [Provider.calls] at made
  | cons event rest ih =>
    cases event with
    | change how => exact ih reads made
    | call =>
      obtain ⟨manifests, unread, readsNow, learns, tells⟩ := reads.call workspace
      rw [calls_call_aggregate, learns] at made
      cases earlier with
      | nil =>
        obtain ⟨rfl, -⟩ := List.cons.inj made
        exact ⟨manifests, unread, by simpa using readsNow, tells⟩
      | cons first earlier =>
        obtain ⟨rfl, madeLater⟩ := List.cons.inj made
        obtain ⟨manifests, unread, reads, tells⟩ := ih readsNow madeLater
        exact ⟨manifests, unread, by simpa using reads, tells⟩

/-- However files change between the calls of an aggregate of files, each call answers with what its
providers have read by then, each at the first moment at which it was asked and could; and if one
has not read its file yet, with the reason why the leftmost of these cannot do so now. What had been
read before an earlier call is still what it was. -/
theorem calls_recall (name : Option String) (paths : List String) (workspace : Workspace)
    (events : List Event) :
    ∀ earlier call later,
      calls (aggregateOf name (paths.map fun path => some (ofFile path))) workspace events =
        earlier ++ call :: later →
      ∃ manifests unread,
        Reads paths (earlier.map (·.workspace) ++ [call.workspace]) manifests unread ∧
        unread = paths.drop manifests.length ∧
        Tells call.workspace manifests unread call.answer ∧
        ∀ before more known waiting, earlier = before ++ more →
          Reads paths (before.map (·.workspace)) known waiting → known <+: manifests := by
  intro earlier call later made
  have fresh : aggregateOf name (paths.map fun path => some (ofFile path)) =
      .aggregate (name.getD defaultName) (remembering paths [] paths) := by
    rw [aggregateOf, remembering_nil, List.filterMap_map]
    exact congrArg _ (congrFun List.filterMap_eq_map' paths)
  rw [fresh] at made
  obtain ⟨manifests, unread, reads, tells⟩ := (Reads.start paths).calls _ made
  rw [List.nil_append] at reads
  refine ⟨manifests, unread, reads, reads.unread_eq, tells, ?_⟩
  rintro before more known waiting rfl readsBefore
  rw [List.map_append, List.append_assoc] at reads
  exact readsBefore.isPrefix reads

/-- A manifest of one function. -/
def singleManifest (name : String) : Manifest :=
  ⟨"AzureFunctionInternals", name, false, "", [{ FunctionRecord.blank with name }]⟩

/-- Where a manifest of one function has been written, it is loaded. -/
theorem manifestAt_single {name : String}
    (written : now.read path = .ok (singleManifest name).text) :
    now.manifestAt path = .ok (singleManifest name) := by
  have exact : (singleManifest name).IsExact := by
    refine Manifest.isExact_of_unretried fun record member => ?_
    rw [List.mem_singleton.mp member]
    rfl
  rw [Workspace.manifestAt, Manifest.load_of_read written (Manifest.ofText_text exact)]

/-- The first file is there from the start; the second comes only after a call has failed, and by
then the first is gone. -/
def lateArrival : List Event := [
  .write "Main.metadata.json" (singleManifest "Main").text,
  .call,
  .remove "Main.metadata.json",
  .write "Orders.metadata.json" (singleManifest "Orders").text,
  .call]

theorem calls_recall_lateArrival :
    ∃ failed succeeded manifests unread,
      calls (aggregateOf none (["Main.metadata.json", "Orders.metadata.json"].map fun path =>
          some (ofFile path))) .blank lateArrival = [failed] ++ succeeded :: [] ∧
        Reads ["Main.metadata.json", "Orders.metadata.json"]
          [failed.workspace, succeeded.workspace] manifests unread ∧
        failed.answer = .error ⟨"Orders.metadata.json",
          (LoadError.unreadable "Orders.metadata.json" .missing).message⟩ ∧
        succeeded.answer = .ok ((singleManifest "Main").functions ++
          (singleManifest "Orders").functions) := by
  let first := (Workspace.blank.write "Main.metadata.json" (singleManifest "Main").text).2
  let second := ((first.remove "Main.metadata.json").2.write "Orders.metadata.json"
    (singleManifest "Orders").text).2
  have main : first.manifestAt "Main.metadata.json" = .ok (singleManifest "Main") :=
    manifestAt_single rfl
  have missing : first.manifestAt "Orders.metadata.json" =
      .error (.unreadable "Orders.metadata.json" .missing) := rfl
  have orders : second.manifestAt "Orders.metadata.json" = .ok (singleManifest "Orders") :=
    manifestAt_single rfl
  have made : calls (aggregateOf none
      (["Main.metadata.json", "Orders.metadata.json"].map fun path => some (ofFile path)))
      .blank lateArrival =
        [⟨first, gather first [ofFile "Main.metadata.json", ofFile "Orders.metadata.json"]⟩] ++
          ⟨second, gather second (learnedEach first
            [ofFile "Main.metadata.json", ofFile "Orders.metadata.json"])⟩ :: [] := by
    rw [aggregateOf, lateArrival, calls_write, calls_call_aggregate, calls_remove, calls_write,
      calls_call_aggregate]
    rfl
  obtain ⟨manifests, unread, reads, _⟩ :=
    calls_recall none ["Main.metadata.json", "Orders.metadata.json"] .blank lateArrival [_] _ []
      made
  refine ⟨_, _, manifests, unread, made, reads, ?_, ?_⟩
  · rw [gather_cons, ofFile, (file_readable main).1, gather_cons, ofFile,
      (file_unreadable missing).1]
    rfl
  · rw [ofFile, ofFile, learnedEach_cons_of_ok (file_readable main).1, (file_readable main).2,
      learnedEach_cons_of_error (file_unreadable missing).1, (file_unreadable missing).2,
      gather_cons, gather_cons, (file_readable orders).1]
    rfl

end WorkerBindings.Provider
