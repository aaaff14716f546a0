import WorkerBindings.Proofs.Resolution.Forms

/-!
# What a host makes of a record

A host goes through the entries of a record in order, the structured bindings if there is a list of
them and the raw ones otherwise. `BindingEntry.Reads` has one case for each way in which it can be
done with one entry, and `FunctionRecord.Resolution` one for each way in which it can be done with
the record: the first entry that cannot be read comes before everything else, then a record without
entries, then the first name that has occurred before. Validation lists the records that cannot be
resolved, in their order.
-/

namespace WorkerBindings

namespace Decoder

theorem valueMembers_sorted {budget : Nat} {readings : List (Option String × Reading)}
    {found members : List (String × Json)} (sorted : Sorted found)
    (decoded : valueMembers budget readings found = .ok members) : Sorted members := by
  induction readings generalizing found with
  | nil =>
    rw [valueMembers] at decoded
    cases decoded
    exact sorted
  | cons member rest ih =>
    obtain ⟨key, reading⟩ := member
    cases key with
    | none => cases decoded
    | some key =>
      rw [valueMembers] at decoded
      obtain ⟨member, _, rest⟩ := bind_eq_ok_iff.mp decoded
      exact ih (sorted.insertSorted key member) rest

theorem value_sorted {budget : Nat} {reading : Reading} {members : List (String × Json)}
    (decoded : value budget reading = .ok (.object members)) : Sorted members := by
  cases reading with
  | object readings =>
    cases budget with
    | zero => cases decoded
    | succ budget =>
      rw [value] at decoded
      obtain ⟨found, inside, same⟩ := map_eq_ok_iff.mp decoded
      cases same
      exact valueMembers_sorted (show Sorted [] from .nil) inside
  | array readings =>
    cases budget with
    | zero => cases decoded
    | succ budget =>
      rw [value] at decoded
      obtain ⟨_, _, other⟩ := map_eq_ok_iff.mp decoded
      cases other
  | null | bool | number | string | valueless | cut => cases budget <;> cases decoded

/-- The members of an object come out sorted by key, and no key twice. -/
theorem sorted_of_decodeText {text : String} {members : List (String × Json)}
    (decoded : decodeText value text = .ok (.object members)) : Sorted members := by
  obtain ⟨document, read, complete⟩ := bind_eq_ok_iff.mp decoded
  split at complete
  · cases complete
    exact value_sorted read
  · cases complete

end Decoder

namespace ResolvedBinding

/-- The text of the member with a key, if there is one and it is not null. -/
def textAt (members : List (String × Json)) (key : String) : Option String :=
  (members.lookup key).bind textOf?

/-- Which hint the members state, if they do so in a way that can be read. -/
inductive StatesHint (members : List (String × Json)) : Option PayloadHint → Prop where
  | unstated (missing : members.lookup hintKey = none) : StatesHint members none
  | stated {value : Json} {hint : PayloadHint} (found : members.lookup hintKey = some value)
      (parsed : (textOf? value).bind PayloadHint.parse? = some hint) :
      StatesHint members (some hint)

/-- The members of an object describe a binding. -/
structure DescribedBy (binding : ResolvedBinding) (members : List (String × Json)) : Prop where
  /-- A binding without a name has the empty one. -/
  name : binding.name = (textAt members nameKey).getD ""
  direction : (textAt members directionKey).bind Direction.parse? = some binding.direction
  bindingType : textAt members typeKey = some binding.bindingType
  hint : StatesHint members binding.hint
  /-- The other members that are not null, in the order of their keys. -/
  properties : binding.properties.entries =
    textsOf (members.filter fun member => !(hintKey :: reservedKeys).contains member.1)

theorem rawHint?_eq_ok_iff {members : List (String × Json)} {hint : Option PayloadHint} :
    rawHint? members = .ok hint ↔ StatesHint members hint := by
  unfold rawHint?
  constructor
  · intro read
    split at read
    · rename_i missing
      cases read
      exact .unstated missing
    · rename_i value found
      cases parsed : (textOf? value).bind PayloadHint.parse? with
      | none => simp only [parsed, reduceCtorEq] at read
      | some hint =>
        simp only [parsed, Except.ok.injEq] at read
        subst read
        exact .stated found parsed
  · rintro (missing | ⟨found, parsed⟩)
    · rw [missing]
    · simp only [found, parsed]

theorem rawHint?_eq_error_iff {members : List (String × Json)} {reason : ResolutionError} :
    rawHint? members = .error reason ↔
      ∃ value, members.lookup hintKey = some value ∧
        (textOf? value).bind PayloadHint.parse? = none ∧
        reason = .invalidHint ((textOf? value).getD "") := by
  unfold rawHint?
  constructor
  · intro refused
    split at refused
    · cases refused
    · rename_i value found
      cases parsed : (textOf? value).bind PayloadHint.parse? with
      | none =>
        simp only [parsed, Except.error.injEq] at refused
        exact ⟨value, found, parsed, refused.symm⟩
      | some hint => simp only [parsed, reduceCtorEq] at refused
  · rintro ⟨value, found, unknown, rfl⟩
    simp only [found, unknown]

theorem exists_textAt_iff {members : List (String × Json)} {key : String} :
    (∃ text, textAt members key = some text) ↔
      ∃ value, members.lookup key = some value ∧ value ≠ .null := by
  unfold textAt
  cases members.lookup key with
  | none => simp
  | some value => cases value <;> simp [textOf?]

theorem exists_statesHint_iff {members : List (String × Json)} :
    (∃ hint, StatesHint members hint) ↔ ∀ value, members.lookup hintKey = some value →
      ∃ hint, (textOf? value).bind PayloadHint.parse? = some hint := by
  constructor
  · rintro ⟨_, missing | ⟨here, parsed⟩⟩ value found
    · cases missing.symm.trans found
    · cases here.symm.trans found
      exact ⟨_, parsed⟩
  · intro readable
    cases found : members.lookup hintKey with
    | none => exact ⟨none, .unstated found⟩
    | some value =>
      obtain ⟨hint, parsed⟩ := readable value found
      exact ⟨some hint, .stated found parsed⟩

/-- The binding that members describe once direction, type and hint have been read. -/
def assembled (members : List (String × Json)) (direction : Direction) (bindingType : String)
    (hint : Option PayloadHint) : ResolvedBinding :=
  ⟨(textAt members nameKey).getD "", direction, bindingType, hint, Properties.ofPairs
    (textsOf (members.filter fun member => !(hintKey :: reservedKeys).contains member.1))⟩

/-- Direction and type are looked for before the hint. -/
theorem ofMembers_eq (members : List (String × Json)) :
    ofMembers members =
      match (textAt members directionKey).bind Direction.parse?, textAt members typeKey with
      | some direction, some bindingType =>
        (rawHint? members).map (assembled members direction bindingType)
      | _, _ => .error .missingDirectionOrType := by
  unfold ofMembers textAt
  dsimp only
  cases ((members.lookup directionKey).bind textOf?).bind Direction.parse? with
  | none => rfl
  | some direction =>
    cases (members.lookup typeKey).bind textOf? with
    | none => rfl
    | some bindingType => cases rawHint? members <;> rfl

/-- Members with distinct keys are read to the binding that they describe. -/
theorem ofMembers_eq_ok_iff {members : List (String × Json)} (sorted : Decoder.Sorted members)
    (binding : ResolvedBinding) :
    ofMembers members = .ok binding ↔ binding.DescribedBy members := by
  have entries := Properties.entries_ofPairs (nodup_keysOf_textsOf sorted
    fun member => !(hintKey :: reservedKeys).contains member.1)
  rw [ofMembers_eq]
  constructor
  · intro read
    split at read
    · rename_i direction bindingType directed typed
      obtain ⟨hint, stated, rfl⟩ := map_eq_ok_iff.mp read
      exact ⟨rfl, directed, typed, rawHint?_eq_ok_iff.mp stated, entries⟩
    · cases read
  · intro described
    have stated := rawHint?_eq_ok_iff.mpr described.hint
    have same : assembled members binding.direction binding.bindingType binding.hint = binding := by
      unfold assembled
      rw [← described.name, Properties.eq_of_entries (entries.trans described.properties.symm)]
    simp only [described.direction, described.bindingType, stated, Except.map, same]

/-- What is missing is direction or type, or else the hint is one that nobody knows. -/
theorem ofMembers_eq_error_iff {members : List (String × Json)} {reason : ResolutionError} :
    ofMembers members = .error reason ↔
      ((textAt members directionKey).bind Direction.parse? = none ∨
          textAt members typeKey = none) ∧ reason = .missingDirectionOrType ∨
        (∃ direction, (textAt members directionKey).bind Direction.parse? = some direction) ∧
          (∃ bindingType, textAt members typeKey = some bindingType) ∧
          rawHint? members = .error reason := by
  rw [ofMembers_eq]
  cases (textAt members directionKey).bind Direction.parse? with
  | none => simp [eq_comm]
  | some direction =>
    cases textAt members typeKey with
    | none => simp [eq_comm]
    | some bindingType => cases rawHint? members <;> simp [Except.map]

end ResolvedBinding

open ResolvedBinding

/-- One entry of the list that a host goes through. -/
inductive BindingEntry where
  | structured (binding : StructuredBinding)
  | raw (text : String)

namespace BindingEntry

/-- What a host makes of one entry. -/
def read : BindingEntry → Except ResolutionError ResolvedBinding
  | .structured binding => ofStructured binding
  | .raw text => ofRawText text

/-- The ways in which a host can be done with one entry. -/
inductive Reads : BindingEntry → Except ResolutionError ResolvedBinding → Prop where
  | structured {binding : StructuredBinding} {hint : PayloadHint}
      (stated : binding.hint = some hint) :
      Reads (.structured binding) (.ok ⟨binding.name, binding.direction, binding.bindingType,
        some hint, binding.properties⟩)
  | unhinted {binding : StructuredBinding} (unstated : binding.hint = none) :
      Reads (.structured binding) (.error (.invalidHint ""))
  | malformed {text : String} {reason : DecodeError}
      (refused : Decoder.decodeText Decoder.value text = .error reason) :
      Reads (.raw text) (.error .malformed)
  | noObject {text : String} {value : Json}
      (decoded : Decoder.decodeText Decoder.value text = .ok value)
      (other : ∀ members, value ≠ .object members) :
      Reads (.raw text) (.error .missingDirectionOrType)
  | undirected {text : String} {members : List (String × Json)}
      (decoded : Decoder.decodeText Decoder.value text = .ok (.object members))
      (unknown : (textAt members directionKey).bind Direction.parse? = none) :
      Reads (.raw text) (.error .missingDirectionOrType)
  | untyped {text : String} {members : List (String × Json)}
      (decoded : Decoder.decodeText Decoder.value text = .ok (.object members))
      (missing : textAt members typeKey = none) :
      Reads (.raw text) (.error .missingDirectionOrType)
  | misread {text : String} {members : List (String × Json)} {direction : Direction}
      {bindingType : String} {value : Json}
      (decoded : Decoder.decodeText Decoder.value text = .ok (.object members))
      (directed : (textAt members directionKey).bind Direction.parse? = some direction)
      (typed : textAt members typeKey = some bindingType)
      (found : members.lookup hintKey = some value)
      (unknown : (textOf? value).bind PayloadHint.parse? = none) :
      Reads (.raw text) (.error (.invalidHint ((textOf? value).getD "")))
  | raw {text : String} {members : List (String × Json)} {binding : ResolvedBinding}
      (decoded : Decoder.decodeText Decoder.value text = .ok (.object members))
      (described : binding.DescribedBy members) : Reads (.raw text) (.ok binding)

theorem Reads.read_eq {entry : BindingEntry} {result : Except ResolutionError ResolvedBinding}
    (reads : entry.Reads result) : entry.read = result := by
  cases reads with
  | structured stated => simp only [read, ofStructured, stated]
  | unhinted unstated => simp only [read, ofStructured, unstated]
  | malformed refused => simp only [read, ofRawText, refused]
  | @noObject text value decoded other =>
    cases value with
    | object members => exact absurd rfl (other members)
    | _ => simp only [read, ofRawText, decoded]
  | undirected decoded unknown =>
    simp only [read, ofRawText, decoded]
    exact ofMembers_eq_error_iff.mpr (.inl ⟨.inl unknown, rfl⟩)
  | untyped decoded missing =>
    simp only [read, ofRawText, decoded]
    exact ofMembers_eq_error_iff.mpr (.inl ⟨.inr missing, rfl⟩)
  | misread decoded directed typed found unknown =>
    simp only [read, ofRawText, decoded]
    exact ofMembers_eq_error_iff.mpr
      (.inr ⟨⟨_, directed⟩, ⟨_, typed⟩, rawHint?_eq_error_iff.mpr ⟨_, found, unknown, rfl⟩⟩)
  | raw decoded described =>
    simp only [read, ofRawText, decoded]
    exact (ofMembers_eq_ok_iff (Decoder.sorted_of_decodeText decoded) _).mpr described

theorem reads_read (entry : BindingEntry) : entry.Reads entry.read := by
  cases entry with
  | structured binding =>
    change (structured binding).Reads (ofStructured binding)
    unfold ofStructured
    cases stated : binding.hint with
    | none => exact .unhinted stated
    | some hint => exact .structured stated
  | raw text =>
    change (raw text).Reads (ofRawText text)
    unfold ofRawText
    split
    · rename_i refused
      exact .malformed refused
    · rename_i members decoded
      cases made : ofMembers members with
      | ok binding =>
        exact .raw decoded
          ((ofMembers_eq_ok_iff (Decoder.sorted_of_decodeText decoded) binding).mp made)
      | error reason =>
        rcases ofMembers_eq_error_iff.mp made with
          ⟨unknown | missing, rfl⟩ | ⟨⟨_, directed⟩, ⟨_, typed⟩, misread⟩
        · exact .undirected decoded unknown
        · exact .untyped decoded missing
        · obtain ⟨value, found, unknown, rfl⟩ := rawHint?_eq_error_iff.mp misread
          exact .misread decoded directed typed found unknown
    · rename_i value noObject decoded
      exact .noObject decoded noObject

/-- A host is done with an entry in the one way that its case says. -/
theorem read_eq_iff (entry : BindingEntry) (result : Except ResolutionError ResolvedBinding) :
    entry.read = result ↔ entry.Reads result := by
  constructor
  · rintro rfl
    exact entry.reads_read
  · exact Reads.read_eq

/-- A host can read an entry: a structured one has to state its hint, and a raw one has to be the
text of an object with a direction, a type and no hint but a known one. -/
def IsReadable : BindingEntry → Prop
  | .structured binding => binding.hint ≠ none
  | .raw text => ∃ members, Decoder.decodeText Decoder.value text = .ok (.object members) ∧
      (∃ direction, (textAt members directionKey).bind Direction.parse? = some direction) ∧
      (∃ value, members.lookup typeKey = some value ∧ value ≠ .null) ∧
      ∀ value, members.lookup hintKey = some value →
        ∃ hint, (textOf? value).bind PayloadHint.parse? = some hint

theorem readable_iff (entry : BindingEntry) :
    (∃ binding, entry.Reads (.ok binding)) ↔ entry.IsReadable := by
  constructor
  · rintro ⟨binding, reads⟩
    cases reads with
    | structured stated => exact fun unstated => nomatch stated.symm.trans unstated
    | raw decoded described =>
      exact ⟨_, decoded, ⟨_, described.direction⟩,
        exists_textAt_iff.mp ⟨_, described.bindingType⟩,
        exists_statesHint_iff.mp ⟨_, described.hint⟩⟩
  · intro readable
    cases entry with
    | structured binding =>
      obtain ⟨hint, stated⟩ := Option.ne_none_iff_exists'.mp readable
      exact ⟨_, .structured stated⟩
    | raw text =>
      obtain ⟨members, decoded, ⟨direction, directed⟩, typed, hinted⟩ := readable
      obtain ⟨bindingType, typed⟩ := exists_textAt_iff.mpr typed
      obtain ⟨hint, stated⟩ := exists_statesHint_iff.mpr hinted
      exact ⟨assembled members direction bindingType hint, .raw decoded
        ⟨rfl, directed, typed, stated, Properties.entries_ofPairs
          (nodup_keysOf_textsOf (Decoder.sorted_of_decodeText decoded) _)⟩⟩

end BindingEntry

namespace FunctionRecord

/-- The entries that a host goes through: the structured bindings if there is a list of them, be it
empty, and the raw ones otherwise. -/
def entries (record : FunctionRecord) : List BindingEntry :=
  match record.generatedBindings with
  | some bindings => bindings.map .structured
  | none => record.rawBindings.map .raw

theorem resolveEach_eq (record : FunctionRecord) :
    record.resolveEach = record.entries.mapM BindingEntry.read := by
  unfold resolveEach entries
  cases record.generatedBindings with
  | none => exact (List.mapM_map (f := BindingEntry.raw) (g := BindingEntry.read)).symm
  | some bindings =>
    exact (List.mapM_map (f := BindingEntry.structured) (g := BindingEntry.read)).symm

/-- The bindings that the entries of a record are read as, in order. -/
abbrev ReadAs (record : FunctionRecord) (bindings : List ResolvedBinding) : Prop :=
  List.Forall₂ (fun entry binding => entry.Reads (.ok binding)) record.entries bindings

theorem resolveEach_eq_ok_iff (record : FunctionRecord) (bindings : List ResolvedBinding) :
    record.resolveEach = .ok bindings ↔ record.ReadAs bindings := by
  rw [resolveEach_eq, mapM_eq_ok_iff]
  simp only [BindingEntry.read_eq_iff]

/-- The ways in which a host can be done with a record. -/
inductive Resolution (record : FunctionRecord) :
    Except ResolutionError (List ResolvedBinding) → Prop where
  | resolved {bindings : List ResolvedBinding} (each : record.ReadAs bindings)
      (nonempty : record.entries ≠ []) (distinct : (bindings.map (·.name)).Nodup) :
      Resolution record (.ok bindings)
  | unreadable {before after : List BindingEntry} {entry : BindingEntry} {reason : ResolutionError}
      (split : record.entries = before ++ entry :: after)
      (earlier : ∀ other ∈ before, other.IsReadable) (refused : entry.Reads (.error reason)) :
      Resolution record (.error reason)
  | empty (none : record.entries = []) : Resolution record (.error .noBindings)
  | repeated {bindings : List ResolvedBinding} {before after : List String} {name : String}
      (each : record.ReadAs bindings) (split : bindings.map (·.name) = before ++ name :: after)
      (distinct : before.Nodup) (again : name ∈ before) :
      Resolution record (.error (.duplicateName name))

/-- The first name that has been seen or has occurred before. -/
theorem firstRepeated?_eq_some_iff (seen names : List String) (name : String) :
    firstRepeated? seen names = some name ↔
      ∃ before after, names = before ++ name :: after ∧ before.Nodup ∧
        (∀ other ∈ before, other ∉ seen) ∧ (name ∈ seen ∨ name ∈ before) := by
  induction names generalizing seen with
  | nil => simp [firstRepeated?]
  | cons first rest ih =>
    rw [firstRepeated?]
    by_cases repeated : first ∈ seen
    · rw [if_pos (by simpa using repeated), Option.some.injEq]
      constructor
      · rintro rfl
        exact ⟨[], rest, rfl, .nil, by simp, .inl repeated⟩
      · rintro ⟨before, after, split, _, fresh, _⟩
        cases before with
        | nil => exact (List.cons.inj split).1
        | cons head before =>
          obtain ⟨rfl, _⟩ := List.cons.inj split
          exact absurd repeated (fresh _ List.mem_cons_self)
    · rw [if_neg (by simpa using repeated), ih]
      constructor
      · rintro ⟨before, after, rfl, distinct, fresh, again⟩
        have unrepeated : first ∉ before := fun inside => fresh first inside List.mem_cons_self
        refine ⟨first :: before, after, rfl, List.nodup_cons.mpr ⟨unrepeated, distinct⟩,
          List.forall_mem_cons.mpr ⟨repeated, fun other inside seen =>
            fresh other inside (List.mem_cons_of_mem _ seen)⟩, ?_⟩
        rcases again with seenOrFirst | inside
        · rcases List.mem_cons.mp seenOrFirst with rfl | inSeen
          · exact .inr List.mem_cons_self
          · exact .inl inSeen
        · exact .inr (List.mem_cons_of_mem _ inside)
      · rintro ⟨before, after, split, distinct, fresh, again⟩
        cases before with
        | nil =>
          obtain ⟨rfl, _⟩ := List.cons.inj split
          exact absurd again (by simpa using repeated)
        | cons head before =>
          obtain ⟨rfl, rfl⟩ := List.cons.inj split
          obtain ⟨unrepeated, distinct⟩ := List.nodup_cons.mp distinct
          refine ⟨before, after, rfl, distinct, fun other inside => ?_, ?_⟩
          · rw [List.mem_cons, not_or]
            exact ⟨fun same => unrepeated (same ▸ inside),
              fresh other (List.mem_cons_of_mem _ inside)⟩
          · rw [List.mem_cons]
            rcases again with inSeen | inside
            · exact .inl (.inr inSeen)
            · rcases List.mem_cons.mp inside with rfl | inside
              · exact .inl (.inl rfl)
              · exact .inr inside

/-- A record without entries is read as no bindings, and no other record is. -/
theorem ReadAs.eq_nil_iff {record : FunctionRecord} {bindings : List ResolvedBinding}
    (each : record.ReadAs bindings) : bindings = [] ↔ record.entries = [] := by
  rw [← List.length_eq_zero_iff, ← List.length_eq_zero_iff, each.length_eq]

/-- Once every entry has been read, it is only the number of bindings and their names that
matter. -/
theorem resolve_of_readAs {record : FunctionRecord} {bindings : List ResolvedBinding}
    (each : record.ReadAs bindings) :
    record.resolve =
      if bindings = [] then .error .noBindings
      else match firstRepeated? [] (bindings.map (·.name)) with
        | some name => .error (.duplicateName name)
        | none => .ok bindings := by
  unfold resolve
  rw [(record.resolveEach_eq_ok_iff bindings).mpr each]
  cases bindings with
  | nil => rfl
  | cons first rest =>
    rw [if_neg (List.cons_ne_nil first rest)]
    rfl

theorem resolve_of_resolution {record : FunctionRecord}
    {result : Except ResolutionError (List ResolvedBinding)} (done : record.Resolution result) :
    record.resolve = result := by
  cases done with
  | resolved each nonempty distinct =>
    exact (record.resolve_eq_ok_iff _).mpr ⟨(record.resolveEach_eq_ok_iff _).mpr each,
      fun none => nonempty (each.eq_nil_iff.mp none), distinct⟩
  | @unreadable before after entry reason split earlier refused =>
    have stuck : record.resolveEach = .error reason := by
      rw [resolveEach_eq, mapM_eq_error_iff]
      refine ⟨before, entry, after, split, fun other inside => ?_, refused.read_eq⟩
      obtain ⟨binding, reads⟩ := (BindingEntry.readable_iff other).mpr (earlier other inside)
      exact ⟨binding, reads.read_eq⟩
    exact bind_eq_error_iff.mpr (.inl stuck)
  | empty none =>
    have each : record.ReadAs [] := by
      rw [ReadAs, none]
      exact .nil
    rw [resolve_of_readAs each, if_pos rfl]
  | @repeated bindings before after name each split distinct again =>
    have repeated : firstRepeated? [] (bindings.map (·.name)) = some name :=
      (firstRepeated?_eq_some_iff _ _ _).mpr
        ⟨before, after, split, distinct, by simp, .inr again⟩
    have nonempty : bindings ≠ [] := by
      rintro rfl
      cases before <;> cases split
    rw [resolve_of_readAs each, if_neg nonempty, repeated]

theorem resolution_resolve (record : FunctionRecord) : record.Resolution record.resolve := by
  cases each : record.resolveEach with
  | error reason =>
    have stopped : record.resolve = .error reason := bind_eq_error_iff.mpr (.inl each)
    rw [resolveEach_eq, mapM_eq_error_iff] at each
    obtain ⟨before, entry, after, split, earlier, refused⟩ := each
    rw [stopped]
    refine .unreadable split (fun other inside => ?_) ((entry.read_eq_iff _).mp refused)
    obtain ⟨binding, reads⟩ := earlier other inside
    exact (BindingEntry.readable_iff other).mp ⟨binding, (other.read_eq_iff _).mp reads⟩
  | ok bindings =>
    have read := (record.resolveEach_eq_ok_iff bindings).mp each
    rw [resolve_of_readAs read]
    by_cases none : bindings = []
    · rw [if_pos none]
      exact .empty (read.eq_nil_iff.mp none)
    · rw [if_neg none]
      cases repeated : firstRepeated? [] (bindings.map (·.name)) with
      | some name =>
        obtain ⟨before, after, split, distinct, _, again⟩ :=
          (firstRepeated?_eq_some_iff _ _ _).mp repeated
        exact .repeated read split distinct (again.resolve_left List.not_mem_nil)
      | none =>
        have distinct := ((firstRepeated?_eq_none _ _).mp repeated).1
        exact .resolved read (fun empty => none (read.eq_nil_iff.mpr empty)) distinct

/-- A host is done with a record in the one way that its case says. -/
theorem resolve_eq_iff (record : FunctionRecord)
    (result : Except ResolutionError (List ResolvedBinding)) :
    record.resolve = result ↔ record.Resolution result := by
  constructor
  · rintro rfl
    exact record.resolution_resolve
  · exact resolve_of_resolution

/-- A list of structured bindings counts even if it is empty, whatever the raw texts say. -/
example (record : FunctionRecord) :
    { record with generatedBindings := some [] }.resolve = .error .noBindings :=
  rfl

end FunctionRecord

namespace Manifest

/-- The records that cannot be resolved, in their order and each with the reason. -/
inductive Failing : List FunctionRecord → List (String × ResolutionError) → Prop where
  | done : Failing [] []
  | passed {record : FunctionRecord} {bindings : List ResolvedBinding}
      {rest : List FunctionRecord} {failures : List (String × ResolutionError)}
      (resolved : record.Resolution (.ok bindings)) (others : Failing rest failures) :
      Failing (record :: rest) failures
  | failed {record : FunctionRecord} {reason : ResolutionError}
      {rest : List FunctionRecord} {failures : List (String × ResolutionError)}
      (refused : record.Resolution (.error reason)) (others : Failing rest failures) :
      Failing (record :: rest) ((record.name, reason) :: failures)

/-- What a record adds to the failures of a manifest. -/
def failure? (record : FunctionRecord) : Option (String × ResolutionError) :=
  match record.resolve with
  | .ok _ => none
  | .error reason => some (record.name, reason)

theorem failing_filterMap (records : List FunctionRecord) :
    Failing records (records.filterMap failure?) := by
  induction records with
  | nil => exact .done
  | cons record rest others =>
    rw [List.filterMap_cons, failure?]
    have verdict := record.resolution_resolve
    cases resolved : record.resolve with
    | ok bindings => exact .passed (resolved ▸ verdict) others
    | error reason => exact .failed (resolved ▸ verdict) others

theorem Failing.eq_filterMap {records : List FunctionRecord}
    {failures : List (String × ResolutionError)} (failing : Failing records failures) :
    records.filterMap failure? = failures := by
  induction failing with
  | done => rfl
  | passed resolved _ others =>
    rw [List.filterMap_cons, failure?, FunctionRecord.resolve_of_resolution resolved]
    exact others
  | failed refused _ others =>
    rw [List.filterMap_cons, failure?, FunctionRecord.resolve_of_resolution refused]
    exact congrArg (_ :: ·) others

/-- A manifest has the failures of its records. -/
theorem failures_eq_iff (manifest : Manifest) (failures : List (String × ResolutionError)) :
    manifest.failures = failures ↔ Failing manifest.functions failures := by
  constructor
  · rintro rfl
    exact failing_filterMap manifest.functions
  · exact Failing.eq_filterMap

/-- What a host makes of the records of a manifest: each is resolved to its entries in order, as
long as all of them can be read, there is one and no two have the same name, and otherwise the first
thing that is wrong with it is the error. The records with an error are listed in order. -/
theorem resolution_exact (manifest : Manifest) :
    (∀ (record : FunctionRecord) (result : Except ResolutionError (List ResolvedBinding)),
      record.resolve = result ↔ record.Resolution result) ∧
    (∀ entry : BindingEntry,
      (∃ binding, entry.Reads (.ok binding)) ↔ entry.IsReadable) ∧
    ∀ failures, manifest.failures = failures ↔ Failing manifest.functions failures :=
  ⟨FunctionRecord.resolve_eq_iff, BindingEntry.readable_iff, manifest.failures_eq_iff⟩

end Manifest

end WorkerBindings
