import Mathlib.Data.List.TakeWhile
import WorkerBindings.Proofs.Text.Digits
import WorkerBindings.Text.Blank
import WorkerBindings.Text.Substitution

/-!
# Cutting a text that was put together

A text that was joined at a separator is cut into the parts it was joined from, as long as no part
holds the separator itself, and whatever a text is cut into, it was joined from. Trimming takes off
the blank characters at both ends of a text, all of them and no others.
-/

namespace WorkerBindings.Text

variable {separator : Char} {part : List Char}

theorem pieces_of_notMem (absent : separator ∉ part) : pieces separator part = [part] := by
  induction part with
  | nil => rfl
  | cons first rest ih =>
    have differs := List.ne_of_not_mem_cons absent
    have absentRest := List.not_mem_of_not_mem_cons absent
    rw [pieces, if_neg (Ne.symm differs), ih absentRest]

theorem pieces_append (absent : separator ∉ part) (rest : List Char) :
    pieces separator (part ++ separator :: rest) = part :: pieces separator rest := by
  induction part with
  | nil => rw [List.nil_append, pieces, if_pos rfl]
  | cons first others ih =>
    have differs := List.ne_of_not_mem_cons absent
    have absentOthers := List.not_mem_of_not_mem_cons absent
    rw [List.cons_append, pieces, if_neg (Ne.symm differs), ih absentOthers]

theorem pieces_ne_nil (characters : List Char) : pieces separator characters ≠ [] := by
  cases characters with
  | nil => simp [pieces]
  | cons first rest =>
    rw [pieces]
    split
    · simp
    · split <;> simp

/-- A separator cuts a text, whatever is before it. -/
theorem pieces_append_separator (front rest : List Char) :
    pieces separator (front ++ separator :: rest) =
      pieces separator front ++ pieces separator rest := by
  induction front with
  | nil => rw [List.nil_append, pieces.eq_2, if_pos rfl, pieces, List.singleton_append]
  | cons first others ih =>
    rw [List.cons_append, pieces, pieces, ih]
    by_cases cuts : first = separator
    · rw [if_pos cuts, if_pos cuts, List.cons_append]
    · rw [if_neg cuts, if_neg cuts]
      cases cut : pieces separator others with
      | nil => exact absurd cut (pieces_ne_nil others)
      | cons piece more => rfl

/-- What a text ends with is what its last part ends with, if it holds no separator. -/
theorem pieces_append_suffix {ending : List Char} (absent : separator ∉ ending)
    (front : List Char) :
    ∃ before last, pieces separator (front ++ ending) = before ++ [last ++ ending] := by
  induction front with
  | nil => exact ⟨[], [], pieces_of_notMem absent⟩
  | cons first others ih =>
    obtain ⟨before, last, cut⟩ := ih
    rw [List.cons_append, pieces, cut]
    by_cases cuts : first = separator
    · exact ⟨[] :: before, last, by rw [if_pos cuts, List.cons_append]⟩
    · rw [if_neg cuts]
      cases before with
      | nil => exact ⟨[], first :: last, rfl⟩
      | cons piece more => exact ⟨(first :: piece) :: more, last, rfl⟩

theorem cutAtFirst?_of_notMem (absent : separator ∉ part) : cutAtFirst? separator part = none := by
  induction part with
  | nil => rfl
  | cons first rest ih =>
    have differs := List.ne_of_not_mem_cons absent
    have absentRest := List.not_mem_of_not_mem_cons absent
    rw [cutAtFirst?, if_neg (Ne.symm differs), ih absentRest]
    rfl

theorem cutAtFirst?_append (absent : separator ∉ part) (rest : List Char) :
    cutAtFirst? separator (part ++ separator :: rest) = some (part, rest) := by
  induction part with
  | nil => rw [List.nil_append, cutAtFirst?, if_pos rfl]
  | cons first others ih =>
    have differs := List.ne_of_not_mem_cons absent
    have absentOthers := List.not_mem_of_not_mem_cons absent
    rw [List.cons_append, cutAtFirst?, if_neg (Ne.symm differs), ih absentOthers]
    rfl

/-- What a text is cut into at its first separator, it was joined from. -/
theorem cutAtFirst?_eq_some_iff {text before after : List Char} :
    cutAtFirst? separator text = some (before, after) ↔
      text = before ++ separator :: after ∧ separator ∉ before := by
  constructor
  · intro cut
    by_cases member : separator ∈ text
    · obtain ⟨front, rest, rfl, absent⟩ := List.eq_append_cons_of_mem member
      rw [cutAtFirst?_append absent] at cut
      cases cut
      exact ⟨rfl, absent⟩
    · rw [cutAtFirst?_of_notMem member] at cut
      cases cut
  · rintro ⟨rfl, absent⟩
    exact cutAtFirst?_append absent after

/-- A text is a single piece exactly without a separator. -/
theorem pieces_eq_singleton_iff {text : List Char} :
    pieces separator text = [part] ↔ text = part ∧ separator ∉ part := by
  constructor
  · intro cut
    by_cases member : separator ∈ text
    · obtain ⟨front, rest, rfl, absent⟩ := List.eq_append_cons_of_mem member
      rw [pieces_append absent] at cut
      exact absurd (List.cons.inj cut).2 (pieces_ne_nil rest)
    · rw [pieces_of_notMem member] at cut
      cases cut
      exact ⟨rfl, member⟩
  · rintro ⟨rfl, absent⟩
    exact pieces_of_notMem absent

/-- The first of several pieces ends at the first separator. -/
theorem pieces_eq_cons_cons_iff {text second : List Char} {others : List (List Char)} :
    pieces separator text = part :: second :: others ↔
      ∃ rest, text = part ++ separator :: rest ∧ separator ∉ part ∧
        pieces separator rest = second :: others := by
  constructor
  · intro cut
    by_cases member : separator ∈ text
    · obtain ⟨front, rest, rfl, absent⟩ := List.eq_append_cons_of_mem member
      rw [pieces_append absent] at cut
      obtain ⟨rfl, cutRest⟩ := List.cons.inj cut
      exact ⟨rest, rfl, absent, cutRest⟩
    · rw [pieces_of_notMem member] at cut
      cases cut
  · rintro ⟨rest, rfl, absent, cut⟩
    rw [pieces_append absent, cut]

theorem dropWhile_isBlank {characters : List Char}
    (solid : ∀ character ∈ characters, isBlank character = false) :
    characters.dropWhile isBlank = characters := by
  cases characters with
  | nil => rfl
  | cons first rest =>
    rw [List.dropWhile_cons_of_neg (Bool.eq_false_iff.mp (solid first List.mem_cons_self))]

theorem trimCharacters_of_solid {characters : List Char}
    (solid : ∀ character ∈ characters, isBlank character = false) :
    trimCharacters characters = characters := by
  rw [trimCharacters, dropWhile_isBlank solid, dropWhile_isBlank, List.reverse_reverse]
  exact fun character member => solid character (List.mem_reverse.mp member)

/-- What trimming takes off is blank. -/
theorem eq_append_trimCharacters (characters : List Char) :
    ∃ front back, characters = front ++ trimCharacters characters ++ back ∧
      (∀ character ∈ front, isBlank character = true) ∧
      ∀ character ∈ back, isBlank character = true := by
  let rest := characters.dropWhile isBlank
  refine ⟨characters.takeWhile isBlank, (rest.reverse.takeWhile isBlank).reverse, ?_,
    fun _ => List.mem_takeWhile_imp, fun _ member =>
      List.mem_takeWhile_imp (List.mem_reverse.mp member)⟩
  rw [trimCharacters, List.append_assoc, ← List.reverse_append, List.takeWhile_append_dropWhile,
    List.reverse_reverse, List.takeWhile_append_dropWhile]

/-- A text with blank characters around it is what is left of it when it is trimmed, if it neither
starts nor ends with one. -/
theorem trimCharacters_append {front middle back : List Char}
    (blankFront : ∀ character ∈ front, isBlank character = true)
    (blankBack : ∀ character ∈ back, isBlank character = true)
    (starts : ∀ character ∈ middle.head?, isBlank character = false)
    (ends : ∀ character ∈ middle.getLast?, isBlank character = false) :
    trimCharacters (front ++ middle ++ back) = middle := by
  have solid {characters : List Char}
      (starts : ∀ character ∈ characters.head?, isBlank character = false) :
      characters.dropWhile isBlank = characters := by
    cases characters with
    | nil => rfl
    | cons first rest => rw [List.dropWhile_cons_of_neg (Bool.eq_false_iff.mp (starts first rfl))]
  rw [trimCharacters, List.append_assoc, List.dropWhile_append_of_pos blankFront]
  cases middle with
  | nil =>
    have gone : back.dropWhile isBlank = [] := List.dropWhile_eq_nil_iff.mpr blankBack
    rw [List.nil_append, gone]
    rfl
  | cons first rest =>
    have front : (first :: rest ++ back).dropWhile isBlank = first :: rest ++ back := solid starts
    rw [front, List.reverse_append,
      List.dropWhile_append_of_pos fun _ member => blankBack _ (List.mem_reverse.mp member),
      solid (by rwa [List.head?_reverse]), List.reverse_reverse]

/-- What is left after trimming neither starts nor ends with a blank character, so that trimming it
again changes nothing. -/
theorem trimCharacters_trimCharacters (characters : List Char) :
    trimCharacters (trimCharacters characters) = trimCharacters characters := by
  have first (front : List Char) :
      ∀ character ∈ (front.dropWhile isBlank).head?, isBlank character = false := by
    intro character isFirst
    have stopped := List.head?_dropWhile_not isBlank front
    rw [isFirst] at stopped
    exact stopped
  have starts : ∀ character ∈ (trimCharacters characters).head?, isBlank character = false := by
    intro character isFirst
    refine first characters character ?_
    have kept := List.reverse_prefix.mpr
      (List.dropWhile_suffix isBlank (l := (characters.dropWhile isBlank).reverse))
    rw [List.reverse_reverse] at kept
    obtain ⟨rest, whole⟩ := kept
    rw [← whole, Option.mem_def, List.head?_append]
    exact Option.or_eq_some_iff.mpr (.inl isFirst)
  have ends : ∀ character ∈ (trimCharacters characters).getLast?, isBlank character = false := by
    rw [trimCharacters, List.getLast?_reverse]
    exact first _
  have none : ∀ character ∈ ([] : List Char), isBlank character = true := fun _ => (nomatch ·)
  simpa using trimCharacters_append none none starts ends

/-- No digit is a blank character. -/
theorem isBlank_of_isDigit {character : Char} (isDigit : isDigit character = true) :
    isBlank character = false := by
  obtain ⟨low, high⟩ : 0x30 ≤ character.toNat ∧ character.toNat ≤ 0x39 := by
    simpa [Text.isDigit, Char.le_def, UInt32.le_iff_toNat_le] using isDigit
  simp only [isBlank, Bool.or_eq_false_iff, Bool.and_eq_false_iff, decide_eq_false_iff_not,
    beq_eq_false_iff_ne]
  omega

end WorkerBindings.Text
