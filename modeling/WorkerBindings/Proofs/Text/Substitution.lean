import Mathlib.Data.List.Infix
import WorkerBindings.Text.Substitution

/-!
# Replacing inside a text

`scan` replaces from the left whatever a finder finds, and never looks again at what it has put in;
`substitute` is such a scan. A finder that never looks across a character leaves that character
where it is, so that the text can be cut there and each side replaced on its own.
-/

namespace WorkerBindings.Text

/-- `scan find? characters pending` replaces what `find?` finds at the front of a text, told by the
replacement and the width of what is replaced. The first `pending` characters belong to something
that is already replaced and are dropped. -/
def scan (find? : List Char → Option (List Char × Nat)) : List Char → Nat → List Char
  | [], _ => []
  | _ :: rest, pending + 1 => scan find? rest pending
  | character :: rest, 0 =>
    match find? (character :: rest) with
    | some (replacement, width) => replacement ++ scan find? rest (width - 1)
    | none => character :: scan find? rest 0

/-- What a finder finds lies at the front of the text, and it never looks across `separator`. -/
structure StopsAt (separator : Char) (find? : List Char → Option (List Char × Nat)) : Prop where
  inside : ∀ text replacement width, find? text = some (replacement, width) →
    0 < width ∧ width ≤ text.length
  apart : ∀ left right, find? (left ++ separator :: right) = find? left

section Scan

variable {find? : List Char → Option (List Char × Nat)}

theorem scan_nil (pending : Nat) : scan find? [] pending = [] := by
  cases pending <;> rfl

/-- Nothing is left of a text that belongs to something already replaced. -/
theorem scan_of_pending {text : List Char} {pending : Nat} (enough : text.length ≤ pending) :
    scan find? text pending = [] := by
  induction text generalizing pending with
  | nil => exact scan_nil pending
  | cons first rest ih =>
    cases pending with
    | zero => cases enough
    | succ pending => exact ih (Nat.le_of_succ_le_succ enough)

/-- A text in which nothing is found stays as it is. -/
theorem scan_of_none {text : List Char} (none : ∀ suffix, suffix <:+ text → find? suffix = none) :
    scan find? text 0 = text := by
  induction text with
  | nil => rfl
  | cons first rest ih =>
    rw [scan, none _ List.suffix_rfl]
    exact congrArg (first :: ·)
      (ih fun suffix ends => none suffix (List.suffix_cons_iff.mpr (.inr ends)))

theorem StopsAt.find?_nil {separator : Char} (stops : StopsAt separator find?) :
    find? [] = none := by
  cases found : find? [] with
  | none => rfl
  | some there =>
    obtain ⟨positive, fits⟩ := stops.inside [] _ _ found
    exact absurd (Nat.lt_of_lt_of_le positive fits) (Nat.lt_irrefl 0)

/-- A text can be cut where the finder stops. -/
theorem StopsAt.scan_append {separator : Char} (stops : StopsAt separator find?)
    {left : List Char} {pending : Nat} (within : pending ≤ left.length) (right : List Char) :
    scan find? (left ++ separator :: right) pending =
      scan find? left pending ++ separator :: scan find? right 0 := by
  induction left generalizing pending with
  | nil =>
    obtain rfl := Nat.le_zero.mp within
    have here : find? (separator :: right) = none := (stops.apart [] right).trans stops.find?_nil
    rw [List.nil_append, scan_nil, scan, here]
    rfl
  | cons first rest ih =>
    cases pending with
    | succ pending => exact ih (Nat.le_of_succ_le_succ within)
    | zero =>
      have same : find? (first :: (rest ++ separator :: right)) = find? (first :: rest) :=
        stops.apart (first :: rest) right
      rw [List.cons_append, scan, scan, same]
      cases found : find? (first :: rest) with
      | none => exact congrArg (first :: ·) (ih (Nat.zero_le _))
      | some there =>
        obtain ⟨_, fits⟩ := stops.inside _ _ _ found
        dsimp only
        rw [ih (Nat.sub_le_of_le_add fits), List.append_assoc]

end Scan

theorem afterPattern?_isSome_iff {pattern text : List Char} :
    (afterPattern? pattern text).isSome = true ↔ pattern <+: text := by
  induction pattern generalizing text with
  | nil => simp [afterPattern?]
  | cons expected pattern ih =>
    cases text with
    | nil => simp [afterPattern?]
    | cons found rest =>
      rw [afterPattern?, List.cons_prefix_cons]
      split
      · rename_i same
        rw [ih]
        exact (and_iff_right same).symm
      · rename_i differs
        exact iff_of_false Bool.false_ne_true fun both => differs both.1

/-- A pattern without some character lies in front of that character or not at all. -/
theorem prefix_append_separator_iff {pattern left right : List Char} {separator : Char}
    (absent : separator ∉ pattern) : pattern <+: left ++ separator :: right ↔ pattern <+: left := by
  refine ⟨fun leads => ?_, fun leads => leads.trans (List.prefix_append _ _)⟩
  induction pattern generalizing left with
  | nil => exact List.nil_prefix
  | cons expected pattern ih =>
    cases left with
    | nil =>
      obtain ⟨same, _⟩ := List.cons_prefix_cons.mp leads
      exact absurd (List.mem_cons.mpr (.inl same.symm)) absent
    | cons first rest =>
      obtain ⟨same, others⟩ := List.cons_prefix_cons.mp leads
      exact List.cons_prefix_cons.mpr ⟨same, ih (List.not_mem_of_not_mem_cons absent) others⟩

/-- A pattern without some character occurs on one side of that character. -/
theorem infix_append_separator_iff {pattern left right : List Char} {separator : Char}
    (absent : separator ∉ pattern) (nonempty : pattern ≠ []) :
    pattern <:+: left ++ separator :: right ↔ pattern <:+: left ∨ pattern <:+: right := by
  induction left with
  | nil =>
    have here : ¬ pattern <+: [] ++ separator :: right := by
      rw [prefix_append_separator_iff absent, List.prefix_nil]
      exact nonempty
    rw [List.nil_append] at here ⊢
    rw [List.infix_cons_iff, List.infix_nil, or_iff_right here, or_iff_right nonempty]
  | cons first rest ih =>
    have here : pattern <+: first :: (rest ++ separator :: right) ↔ pattern <+: first :: rest :=
      @prefix_append_separator_iff pattern (first :: rest) right separator absent
    rw [List.cons_append, List.infix_cons_iff, List.infix_cons_iff, ih, here, or_assoc]

/-- The finder of a pattern. -/
def findPattern (pattern replacement text : List Char) : Option (List Char × Nat) :=
  if pattern.isPrefixOf text then some (replacement, pattern.length) else none

theorem findPattern_eq_some_iff {pattern replacement text : List Char}
    {found : List Char × Nat} : findPattern pattern replacement text = some found ↔
      pattern <+: text ∧ found = (replacement, pattern.length) := by
  unfold findPattern
  rw [Option.ite_none_right_eq_some, List.isPrefixOf_iff_prefix, Option.some_inj,
    eq_comm (a := found)]

theorem findPattern_eq_none_iff {pattern replacement text : List Char} :
    findPattern pattern replacement text = none ↔ ¬ pattern <+: text := by
  unfold findPattern
  simp [List.isPrefixOf_iff_prefix]

theorem substitute_eq_scan (pattern replacement text : List Char) (pending : Nat) :
    substitute pattern replacement text pending =
      scan (findPattern pattern replacement) text pending := by
  induction text generalizing pending with
  | nil => exact (scan_nil pending).symm
  | cons first rest ih =>
    cases pending with
    | succ pending => exact ih pending
    | zero =>
      rw [substitute, scan, ih, ih]
      cases found : findPattern pattern replacement (first :: rest) with
      | none =>
        have missing : afterPattern? pattern (first :: rest) = none := by
          rw [← Option.not_isSome_iff_eq_none, afterPattern?_isSome_iff]
          exact findPattern_eq_none_iff.mp found
        rw [missing]
      | some found =>
        obtain ⟨leads, rfl⟩ := findPattern_eq_some_iff.mp found
        obtain ⟨after, there⟩ := Option.isSome_iff_exists.mp (afterPattern?_isSome_iff.mpr leads)
        rw [there]

section Pattern

variable {pattern replacement : List Char} {separator : Char}

theorem findPattern_stopsAt (nonempty : pattern ≠ []) (absent : separator ∉ pattern) :
    StopsAt separator (findPattern pattern replacement) where
  inside text replacement width found := by
    obtain ⟨leads, same⟩ := findPattern_eq_some_iff.mp found
    cases same
    exact ⟨List.length_pos_of_ne_nil nonempty, leads.length_le⟩
  apart left right := by
    unfold findPattern
    simp only [List.isPrefixOf_iff_prefix, prefix_append_separator_iff absent]

/-- Replacing goes on separately before and after a character that is not in the pattern. -/
theorem substitute_append_separator (nonempty : pattern ≠ []) (absent : separator ∉ pattern)
    (left right : List Char) :
    substitute pattern replacement (left ++ separator :: right) 0 =
      substitute pattern replacement left 0 ++
        separator :: substitute pattern replacement right 0 := by
  simp only [substitute_eq_scan]
  exact (findPattern_stopsAt nonempty absent).scan_append (Nat.zero_le _) right

/-- Where the pattern does not occur, nothing is replaced. -/
theorem substitute_of_absent {text : List Char} (absent : ¬ pattern <:+: text) :
    substitute pattern replacement text 0 = text := by
  rw [substitute_eq_scan]
  refine scan_of_none fun suffix ends => findPattern_eq_none_iff.mpr fun leads => ?_
  exact absent (leads.isInfix.trans ends.isInfix)

/-- The pattern itself is replaced as a whole. -/
theorem substitute_self (nonempty : pattern ≠ []) :
    substitute pattern replacement pattern 0 = replacement := by
  obtain ⟨first, rest, rfl⟩ := List.exists_cons_of_ne_nil nonempty
  have found : findPattern (first :: rest) replacement (first :: rest) =
      some (replacement, rest.length + 1) :=
    findPattern_eq_some_iff.mpr ⟨List.prefix_rfl, rfl⟩
  rw [substitute_eq_scan, scan, found]
  dsimp only
  rw [Nat.add_sub_cancel, scan_of_pending (Nat.le_refl rest.length), List.append_nil]

/-- Replacing takes away no character that is not in the pattern. -/
theorem count_le_count_substitute (nonempty : pattern ≠ []) (absent : separator ∉ pattern)
    (text : List Char) :
    text.count separator ≤ (substitute pattern replacement text 0).count separator := by
  by_cases inside : separator ∈ text
  · obtain ⟨left, right, shape⟩ := List.append_of_mem inside
    have before := count_le_count_substitute nonempty absent left
    have after := count_le_count_substitute nonempty absent right
    rw [shape, substitute_append_separator nonempty absent]
    simp only [List.count_append, List.count_cons_self]
    omega
  · rw [List.count_eq_zero_of_not_mem inside]
    exact Nat.zero_le _
termination_by text.length
decreasing_by
  · rw [shape, List.length_append, List.length_cons]
    omega
  · rw [shape, List.length_append, List.length_cons]
    omega

end Pattern

end WorkerBindings.Text
