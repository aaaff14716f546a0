import WorkerBindings.Proofs.Documents.Asking

/-!
# Trees of aggregates

Aggregates may hold aggregates, to any depth, and may be made from entries some of which are absent.
None of this can be told from their answers: `ProviderTree.provider_answers` says that an aggregate
answers as its leaves do from left to right, so that trees that differ in grouping alone
(`ProviderTree.Regrouped`) answer alike.
-/

namespace WorkerBindings

/-- What aggregates are made from: providers that are asked themselves, and aggregates of entries
that may be absent. -/
inductive ProviderTree where
  | leaf (provider : Provider)
  | node (name : Option String) (entries : List (Option ProviderTree))

namespace ProviderTree

open Provider

mutual

/-- The provider that is made from a tree. -/
def provider : ProviderTree → Provider
  | .leaf provider => provider
  | .node name entries => aggregateOf name (providers entries)

/-- The providers that are made from the entries of an aggregate. -/
def providers : List (Option ProviderTree) → List (Option Provider)
  | [] => []
  | none :: rest => none :: providers rest
  | some tree :: rest => some tree.provider :: providers rest

end

mutual

/-- The leaves of a tree from left to right. -/
def leaves : ProviderTree → List Provider
  | .leaf provider => [provider]
  | .node _ entries => leavesOf entries

/-- The leaves of several entries from left to right. -/
def leavesOf : List (Option ProviderTree) → List Provider
  | [] => []
  | none :: rest => leavesOf rest
  | some tree :: rest => tree.leaves ++ leavesOf rest

end

theorem leavesOf_append (entries others : List (Option ProviderTree)) :
    leavesOf (entries ++ others) = leavesOf entries ++ leavesOf others := by
  induction entries with
  | nil => rfl
  | cons entry rest ih =>
    cases entry with
    | none => exact ih
    | some tree => rw [List.cons_append, leavesOf, leavesOf, ih, List.append_assoc]

variable {workspace : Workspace}

mutual

theorem answer_provider : ∀ tree : ProviderTree,
    tree.provider.answer workspace = gather workspace tree.leaves
  | .leaf provider => (gather_singleton provider).symm
  | .node name entries => by
    rw [provider, aggregateOf, answer_aggregate, leaves]
    exact gather_providers entries

theorem gather_providers : ∀ entries : List (Option ProviderTree),
    gather workspace ((providers entries).filterMap id) = gather workspace (leavesOf entries)
  | [] => rfl
  | none :: rest => by
    rw [providers, List.filterMap_cons_none rfl, leavesOf]
    exact gather_providers rest
  | some tree :: rest => by
    rw [providers, List.filterMap_cons_some (f := id) rfl, gather_cons, answer_provider tree,
      gather_providers rest, leavesOf, gather_append]

end

/-- The ways to group a tree differently: to wrap it into an aggregate of its own, to drop an absent
entry, to take the entries of an aggregate into the one around it (if it has none, this drops it),
to do any of this further down, and to undo it. -/
inductive Regrouped : ProviderTree → ProviderTree → Prop where
  | refl (tree : ProviderTree) : Regrouped tree tree
  | symm {tree other : ProviderTree} (regrouped : Regrouped tree other) : Regrouped other tree
  | trans {first second third : ProviderTree} (earlier : Regrouped first second)
      (later : Regrouped second third) : Regrouped first third
  | wrapped (name : Option String) (tree : ProviderTree) : Regrouped tree (.node name [some tree])
  | absent (name : Option String) (before after : List (Option ProviderTree)) :
      Regrouped (.node name (before ++ none :: after)) (.node name (before ++ after))
  | nested (name innerName : Option String) (before inner after : List (Option ProviderTree)) :
      Regrouped (.node name (before ++ some (.node innerName inner) :: after))
        (.node name (before ++ inner ++ after))
  | inside (name : Option String) (before after : List (Option ProviderTree))
      {tree other : ProviderTree} (regrouped : Regrouped tree other) :
      Regrouped (.node name (before ++ some tree :: after))
        (.node name (before ++ some other :: after))

/-- Grouping differently keeps the leaves in their order. -/
theorem Regrouped.leaves_eq {tree other : ProviderTree} (regrouped : Regrouped tree other) :
    tree.leaves = other.leaves := by
  induction regrouped with
  | refl => rfl
  | symm _ ih => exact ih.symm
  | trans _ _ first second => exact first.trans second
  | wrapped name tree => simp only [leaves, leavesOf, List.append_nil]
  | absent name before after => simp only [leaves, leavesOf_append, leavesOf]
  | nested name innerName before inner after =>
    simp only [leaves, leavesOf_append, leavesOf, List.append_assoc]
  | inside name before after _ ih => simp only [leaves, leavesOf_append, leavesOf, ih]

/-- What the leaves answer that ask no others: a fixed provider its records, and the provider of a
file the records of the manifest in it, or why there is none. -/
theorem leaf_answers (workspace : Workspace) :
    (∀ name functions, (Provider.fixed name functions).answer workspace = .ok functions) ∧
    (∀ path manifest, workspace.manifestAt path = .ok manifest →
      (ofFile path).answer workspace = .ok manifest.functions) ∧
    ∀ path reason, workspace.manifestAt path = .error reason →
      (ofFile path).answer workspace = .error ⟨path, reason.message⟩ :=
  ⟨fun _ _ => rfl, fun _ _ reads => (file_readable reads).1,
    fun _ _ fails => (file_unreadable fails).1⟩

/-- The provider that is made from a tree answers with the lists of the leaves joined from left to
right if every leaf has one, and else with the failure of the leftmost leaf that fails. It makes no
difference how the leaves are grouped, and asking makes none to the files. -/
theorem provider_answers (tree : ProviderTree) (workspace : Workspace) :
    ((tree.provider.call : StateM Workspace _) workspace).2 = workspace ∧
    (∀ records, tree.provider.answer workspace = .ok records ↔
      ∃ lists, List.Forall₂ (fun leaf list => leaf.answer workspace = .ok list) tree.leaves lists ∧
        records = lists.flatten) ∧
    (∀ failure, tree.provider.answer workspace = .error failure ↔
      ∃ before leaf after, tree.leaves = before ++ leaf :: after ∧
        (∀ earlier ∈ before, ∃ list, earlier.answer workspace = .ok list) ∧
        leaf.answer workspace = .error failure) ∧
    ∀ other, Regrouped tree other →
      other.provider.answer workspace = tree.provider.answer workspace := by
  refine ⟨isSilent workspace tree.provider, fun records => ?_, fun failure => ?_, ?_⟩
  · simp only [answer_provider, gather, ← mapM_eq_ok_iff]
    cases tree.leaves.mapM (answer workspace) with
    | error failure => simp [Except.map]
    | ok lists => simp [Except.map, eq_comm]
  · rw [answer_provider, gather, ← mapM_eq_error_iff]
    cases tree.leaves.mapM (answer workspace) <;> simp [Except.map]
  · intro other regrouped
    rw [answer_provider, answer_provider, regrouped.leaves_eq]

/-- A provider of one function. -/
def singleFunction (name : String) : ProviderTree :=
  .leaf (.fixed name [{ FunctionRecord.blank with name }])

/-- A build with an absent entry, an aggregate without entries, and references of its own. -/
def build : ProviderTree :=
  .node none [
    some (singleFunction "Main"),
    none,
    some (.node (some "references") [
      some (.node none []),
      some (singleFunction "Orders"),
      some (.leaf (.ofFile "Billing.metadata.json"))])]

/-- The same leaves without any grouping. -/
def flatBuild : ProviderTree :=
  .node none [
    some (singleFunction "Main"),
    some (singleFunction "Orders"),
    some (.leaf (.ofFile "Billing.metadata.json"))]

theorem provider_answers_build :
    Regrouped build flatBuild ∧
      flatBuild.provider.answer .blank = build.provider.answer .blank ∧
      build.provider.answer .blank = .error ⟨"Billing.metadata.json",
        (LoadError.unreadable "Billing.metadata.json" .missing).message⟩ := by
  have regrouped : Regrouped build flatBuild := by
    refine .trans (.absent none [_] _) (.trans (.nested none (some "references") [_] _ []) ?_)
    exact .nested none none [_] [] _
  obtain ⟨_, _, failures, alike⟩ := provider_answers build .blank
  refine ⟨regrouped, alike flatBuild regrouped, (failures _).mpr ?_⟩
  refine ⟨build.leaves.take 2, .ofFile "Billing.metadata.json", [], rfl, ?_, rfl⟩
  intro earlier member
  simp only [build, singleFunction, leaves, leavesOf, List.nil_append, List.append_nil,
    List.cons_append, List.take_succ_cons, List.take_zero, List.mem_cons, List.not_mem_nil,
    or_false] at member
  rcases member with rfl | rfl
  · exact ⟨_, rfl⟩
  · exact ⟨_, rfl⟩

end ProviderTree

end WorkerBindings
