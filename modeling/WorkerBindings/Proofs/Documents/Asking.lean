import WorkerBindings.Documents.Provider
import WorkerBindings.Proofs.Traversal
import WorkerBindings.Proofs.Workspace.Steps

/-!
# Asking providers

What a provider answers in a workspace, and what it remembers of that. Asking leaves the workspace
alone. An aggregate has three ways to ask: none of its providers, the only one, or several in a row;
they come to one rule (`call_aggregate`), which is all that is used of them later.
-/

namespace WorkerBindings

/-- What loading the manifest at a path comes to. -/
def Workspace.manifestAt (workspace : Workspace) (path : String) : Except LoadError Manifest :=
  ((Manifest.load path : StateM Workspace _) workspace).1

/-- Loading a manifest changes nothing. -/
theorem Manifest.load_apply (path : String) (workspace : Workspace) :
    (Manifest.load path : StateM Workspace _) workspace =
      (workspace.manifestAt path, workspace) := by
  refine Prod.ext rfl ?_
  unfold Manifest.load
  rw [Workspace.bind_apply]
  simp only [Platform.readFile]
  cases workspace.read path with
  | error fault => rfl
  | ok text =>
    dsimp only
    cases Manifest.ofText text <;> rfl

/-- A manifest that was loaded was read from the text of the file. -/
theorem Manifest.manifestAt_eq_ok {workspace : Workspace} {path : String} {manifest : Manifest}
    (loaded : workspace.manifestAt path = .ok manifest) :
    ∃ text, workspace.read path = .ok text ∧ ofText text = .ok manifest := by
  unfold Workspace.manifestAt load at loaded
  rw [Workspace.bind_apply] at loaded
  simp only [Platform.readFile] at loaded
  cases found : workspace.read path with
  | error fault =>
    rw [found] at loaded
    cases loaded
  | ok text =>
    rw [found] at loaded
    cases reads : ofText text with
    | error reason =>
      simp only [reads] at loaded
      cases loaded
    | ok document =>
      simp only [reads] at loaded
      cases loaded
      exact ⟨text, rfl, reads⟩

namespace Provider

/-- What a provider answers in a workspace. -/
def answer (workspace : Workspace) (provider : Provider) :
    Except ProviderFailure (List FunctionRecord) :=
  ((provider.call : StateM Workspace _) workspace).1.1

/-- What a provider is after it has been asked in a workspace. -/
def learned (workspace : Workspace) (provider : Provider) : Provider :=
  ((provider.call : StateM Workspace _) workspace).1.2

/-- What several providers are after they have been asked from left to right, up to the first that
fails. -/
def learnedEach (workspace : Workspace) : List Provider → List Provider
  | [] => []
  | provider :: rest =>
    match provider.answer workspace with
    | .error _ => provider.learned workspace :: rest
    | .ok _ => provider.learned workspace :: learnedEach workspace rest

/-- The lists of several providers joined, or the failure of the leftmost that fails. -/
def gather (workspace : Workspace) (providers : List Provider) :
    Except ProviderFailure (List FunctionRecord) :=
  (providers.mapM (answer workspace)).map List.flatten

variable {workspace : Workspace}

/-- Asking the provider changes nothing in the workspace. -/
def IsSilent (workspace : Workspace) (provider : Provider) : Prop :=
  ((provider.call : StateM Workspace _) workspace).2 = workspace

theorem IsSilent.call_apply {provider : Provider} (silent : provider.IsSilent workspace) :
    (provider.call : StateM Workspace _) workspace =
      ((provider.answer workspace, provider.learned workspace), workspace) :=
  Prod.ext rfl silent

theorem callEach_of_silent {providers : List Provider}
    (silent : ∀ provider ∈ providers, provider.IsSilent workspace) :
    (callEach providers : StateM Workspace _) workspace =
      ((providers.mapM (answer workspace), learnedEach workspace providers), workspace) := by
  induction providers with
  | nil => rfl
  | cons provider rest ih =>
    obtain ⟨here, others⟩ := List.forall_mem_cons.mp silent
    rw [callEach, Workspace.bind_apply, here.call_apply, List.mapM_cons, learnedEach]
    cases provider.answer workspace with
    | error failure => rfl
    | ok functions =>
      dsimp only
      rw [Workspace.bind_apply, ih others]
      cases rest.mapM (answer workspace) <;> rfl

theorem call_aggregate_of_silent (name : String) {providers : List Provider}
    (silent : ∀ provider ∈ providers, provider.IsSilent workspace) :
    ((aggregate name providers).call : StateM Workspace _) workspace =
      ((gather workspace providers, .aggregate name (learnedEach workspace providers)),
        workspace) := by
  unfold gather
  match providers with
  | [] => rfl
  | [single] =>
    have here := silent single List.mem_cons_self
    rw [call, Workspace.bind_apply, here.call_apply, List.mapM_cons, List.mapM_nil, learnedEach]
    cases single.answer workspace with
    | error failure => rfl
    | ok functions =>
      -- What the single provider says is passed on as it is: joining one list is that list.
      change _ = ((Except.ok [functions].flatten, _), _)
      rw [List.flatten_singleton]
      rfl
  | first :: second :: rest =>
    rw [call, Workspace.bind_apply, callEach_of_silent silent]
    · rfl
    all_goals simp

mutual

theorem isSilent (workspace : Workspace) : ∀ provider : Provider, provider.IsSilent workspace
  | .fixed _ _ => rfl
  | .file _ (some _) => rfl
  | .file path none => by
    rw [IsSilent, call, Workspace.bind_apply, Manifest.load_apply]
    cases workspace.manifestAt path <;> rfl
  | .failing _ => rfl
  | .aggregate name providers => by
    rw [IsSilent, call_aggregate_of_silent name (isSilentEach workspace providers)]

theorem isSilentEach (workspace : Workspace) :
    ∀ providers : List Provider, ∀ provider ∈ providers, provider.IsSilent workspace
  | [] => fun _ member => nomatch member
  | first :: rest =>
    List.forall_mem_cons.mpr ⟨isSilent workspace first, isSilentEach workspace rest⟩

end

/-- However many providers an aggregate has, it answers with their lists joined, or with the failure
of the leftmost that fails, and its providers are left as they are after being asked in a row. -/
theorem call_aggregate (name : String) (providers : List Provider) :
    ((aggregate name providers).call : StateM Workspace _) workspace =
      ((gather workspace providers, .aggregate name (learnedEach workspace providers)),
        workspace) :=
  call_aggregate_of_silent name (isSilentEach workspace providers)

theorem answer_aggregate (name : String) (providers : List Provider) :
    (aggregate name providers).answer workspace = gather workspace providers := by
  rw [answer, call_aggregate]

theorem gather_cons (provider : Provider) (rest : List Provider) :
    gather workspace (provider :: rest) =
      provider.answer workspace >>= fun first => gather workspace rest >>= fun others =>
        pure (first ++ others) := by
  rw [gather, gather, List.mapM_cons]
  cases provider.answer workspace with
  | error failure => rfl
  | ok first => cases rest.mapM (answer workspace) <;> rfl

theorem gather_append (providers others : List Provider) :
    gather workspace (providers ++ others) =
      gather workspace providers >>= fun first => gather workspace others >>= fun later =>
        pure (first ++ later) := by
  induction providers with
  | nil =>
    rw [List.nil_append]
    change _ = gather workspace others >>= pure
    rw [bind_pure]
  | cons provider rest ih =>
    rw [List.cons_append, gather_cons, gather_cons, ih]
    simp only [bind_assoc, pure_bind, List.append_assoc]

/-- Joining the lists of one provider is asking that provider. -/
theorem gather_singleton (provider : Provider) :
    gather workspace [provider] = provider.answer workspace := by
  rw [← answer_aggregate defaultName, answer, call, Workspace.bind_apply]
  rfl

theorem learnedEach_cons_of_ok {provider : Provider} {functions : List FunctionRecord}
    (answers : provider.answer workspace = .ok functions) (rest : List Provider) :
    learnedEach workspace (provider :: rest) =
      provider.learned workspace :: learnedEach workspace rest := by
  rw [learnedEach, answers]

theorem learnedEach_cons_of_error {provider : Provider} {failure : ProviderFailure}
    (answers : provider.answer workspace = .error failure) (rest : List Provider) :
    learnedEach workspace (provider :: rest) = provider.learned workspace :: rest := by
  rw [learnedEach, answers]

theorem file_unreadable {path : String} {reason : LoadError}
    (fails : workspace.manifestAt path = .error reason) :
    (file path none).answer workspace = .error ⟨path, reason.message⟩ ∧
      (file path none).learned workspace = .file path none := by
  unfold answer learned
  rw [call, Workspace.bind_apply, Manifest.load_apply, fails]
  exact ⟨rfl, rfl⟩

theorem file_readable {path : String} {manifest : Manifest}
    (reads : workspace.manifestAt path = .ok manifest) :
    (file path none).answer workspace = .ok manifest.functions ∧
      (file path none).learned workspace = .file path (some manifest) := by
  unfold answer learned
  rw [call, Workspace.bind_apply, Manifest.load_apply, reads]
  exact ⟨rfl, rfl⟩

end Provider

end WorkerBindings
