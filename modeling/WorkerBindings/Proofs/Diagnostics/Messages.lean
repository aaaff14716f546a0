import Mathlib.Data.List.Forall2
import Mathlib.Data.List.TakeWhile
import WorkerBindings.Diagnostic
import WorkerBindings.Proofs.Text.Digits
import WorkerBindings.Proofs.Text.Substitution

/-!
# Messages of diagnostics

A message is its template with the arguments in their places. Arguments are filled in one after
another, so that each comes out as it is after the later ones have been filled into it. Because the
places of every template stand apart, nothing else differs from filling them in all at once
(`Diagnostic.verbatim`): `report_message` says so, and that the message has its arguments as they
were given exactly if filling in the later ones does not change them.
-/

namespace WorkerBindings.Diagnostic

open Text

theorem placeholder_toList (index : Nat) :
    (placeholder index).toList = '\x7b' :: (digits index ++ ['\x7d']) := by
  simp [placeholder, ofNat]

theorem placeholder_ne_nil (index : Nat) : (placeholder index).toList ≠ [] := by
  rw [placeholder_toList]
  exact List.cons_ne_nil _ _

/-- Whether a character can stand inside a place. -/
def belongsToPlace (character : Char) : Bool :=
  character == '\x7b' || character == '\x7d' || isDigit character

theorem notMem_placeholder {separator : Char} (separates : belongsToPlace separator = false)
    (index : Nat) : separator ∉ (placeholder index).toList := by
  intro inside
  have belongs : belongsToPlace separator = true := by
    rw [placeholder_toList, List.mem_cons, List.mem_append, List.mem_singleton] at inside
    rcases inside with rfl | digit | rfl
    · rfl
    · simp [belongsToPlace, isDigit_of_mem_digits digit]
    · rfl
  rw [separates] at belongs
  cases belongs

theorem eq_of_placeholder_isPrefix {index other : Nat}
    (leads : (placeholder index).toList <+: (placeholder other).toList) : index = other := by
  rw [placeholder_toList, placeholder_toList, List.cons_prefix_cons] at leads
  obtain ⟨rest, same⟩ := leads.2
  have rows := congrArg (List.takeWhile isDigit) same
  have closing : isDigit '\x7d' = false := rfl
  rw [List.append_assoc, List.takeWhile_append_of_pos fun _ => isDigit_of_mem_digits,
    List.takeWhile_append_of_pos fun _ => isDigit_of_mem_digits] at rows
  simp only [List.singleton_append, List.takeWhile_cons, closing, Bool.false_eq_true, if_false,
    List.append_nil] at rows
  rw [← digitsValue_digits index, rows, digitsValue_digits]

/-- A text starts with one place at most. -/
theorem placeholder_unique {index other : Nat} {text : List Char}
    (first : (placeholder index).toList <+: text) (second : (placeholder other).toList <+: text) :
    index = other := by
  rcases List.prefix_or_prefix_of_prefix first second with leads | leads
  · exact eq_of_placeholder_isPrefix leads
  · exact (eq_of_placeholder_isPrefix leads).symm

theorem not_placeholder_isInfix {text : List Char} (plain : '\x7b' ∉ text) (index : Nat) :
    ¬ (placeholder index).toList <:+: text := by
  intro inside
  rw [placeholder_toList] at inside
  exact plain (inside.subset List.mem_cons_self)

/-- A place holds no other place. -/
theorem placeholder_infix_placeholder_iff {index other : Nat} :
    (placeholder index).toList <:+: (placeholder other).toList ↔ index = other := by
  refine ⟨fun inside => ?_, fun same => same ▸ List.infix_rfl⟩
  rw [placeholder_toList other, List.infix_cons_iff, ← placeholder_toList other] at inside
  rcases inside with leads | within
  · exact eq_of_placeholder_isPrefix leads
  · refine absurd within (not_placeholder_isInfix ?_ index)
    rw [List.mem_append, List.mem_singleton]
    rintro (digit | closing)
    · exact absurd (isDigit_of_mem_digits digit) (by decide)
    · exact absurd closing (by decide)

/-- The argument whose place a text starts with, and the width of that place. -/
def argumentAt? (arguments : List String) (text : List Char) : Option (List Char × Nat) :=
  (arguments.zipIdx.find? fun entry => (placeholder entry.2).toList.isPrefixOf text).map
    fun entry => (entry.1.toList, (placeholder entry.2).toList.length)

/-- The template with each place that has an argument replaced by it, whatever arguments hold. -/
def verbatim (template : String) (arguments : List String) : String :=
  String.ofList (scan (argumentAt? arguments) template.toList 0)

/-- A template has the place of the argument with this number. -/
def HasPlace (template : String) (index : Nat) : Prop :=
  (placeholder index).toList <:+: template.toList

section AtOnce

variable {arguments : List String} {text : List Char}

theorem argumentAt?_placeholder {index : Nat} (leads : (placeholder index).toList <+: text) :
    argumentAt? arguments text =
      arguments[index]?.map fun argument =>
        (argument.toList, (placeholder index).toList.length) := by
  unfold argumentAt?
  cases found : arguments.zipIdx.find? fun entry =>
      (placeholder entry.2).toList.isPrefixOf text with
  | none =>
    cases given : arguments[index]? with
    | none => rfl
    | some argument =>
      have listed : (argument, index) ∈ arguments.zipIdx :=
        List.mem_zipIdx_iff_getElem?.mpr given
      have missing : ¬ (placeholder index).toList.isPrefixOf text = true :=
        List.find?_eq_none.mp found (argument, index) listed
      exact absurd (List.isPrefixOf_iff_prefix.mpr leads) missing
  | some entry =>
    have leadsOther : (placeholder entry.2).toList.isPrefixOf text = true := by
      simpa using List.find?_some found
    have same : index = entry.2 :=
      placeholder_unique leads (List.isPrefixOf_iff_prefix.mp leadsOther)
    rw [same, List.mem_zipIdx_iff_getElem?.mp (List.mem_of_find?_eq_some found)]
    rfl

theorem argumentAt?_of_plain (plain : '\x7b' ∉ text) : argumentAt? arguments text = none := by
  unfold argumentAt?
  rw [Option.map_eq_none_iff, List.find?_eq_none]
  intro entry _ leads
  exact not_placeholder_isInfix plain entry.2 (List.isPrefixOf_iff_prefix.mp leads).isInfix

theorem argumentAt?_stopsAt {separator : Char} (separates : belongsToPlace separator = false) :
    StopsAt separator (argumentAt? arguments) where
  inside text replacement width found := by
    obtain ⟨entry, there, same⟩ := Option.map_eq_some_iff.mp found
    have leads : (placeholder entry.2).toList.isPrefixOf text = true := by
      simpa using List.find?_some there
    cases same
    exact ⟨List.length_pos_of_ne_nil (placeholder_ne_nil entry.2),
      (List.isPrefixOf_iff_prefix.mp leads).length_le⟩
  apart left right := by
    have same : ∀ index, (placeholder index).toList.isPrefixOf (left ++ separator :: right) =
        (placeholder index).toList.isPrefixOf left := by
      intro index
      rw [Bool.eq_iff_iff, List.isPrefixOf_iff_prefix, List.isPrefixOf_iff_prefix]
      exact prefix_append_separator_iff (notMem_placeholder separates index)
    simp only [argumentAt?, same]

theorem scan_of_plain (plain : '\x7b' ∉ text) : scan (argumentAt? arguments) text 0 = text :=
  scan_of_none fun _ ends => argumentAt?_of_plain fun inside => plain (ends.subset inside)

/-- A place alone becomes its argument, if there is one. -/
theorem scan_placeholder (index : Nat) :
    scan (argumentAt? arguments) (placeholder index).toList 0 =
      (arguments[index]?.map String.toList).getD (placeholder index).toList := by
  have found : argumentAt? arguments (placeholder index).toList = _ :=
    argumentAt?_placeholder List.prefix_rfl
  rw [placeholder_toList] at found ⊢
  rw [scan, found]
  cases arguments[index]? with
  | none =>
    have plain : '\x7b' ∉ digits index ++ ['\x7d'] := by
      rw [List.mem_append, List.mem_singleton]
      rintro (digit | closing)
      · exact absurd (isDigit_of_mem_digits digit) (by decide)
      · exact absurd closing (by decide)
    exact congrArg _ (scan_of_plain plain)
  | some argument =>
    dsimp only [Option.map_some, Option.getD_some]
    rw [List.length_cons, Nat.add_sub_cancel, scan_of_pending (Nat.le_refl _), List.append_nil]

end AtOnce

/-- Fill arguments into the characters of a message one by one, from the number `index` on. -/
def fillCharacters (index : Nat) (text : List Char) : List String → List Char
  | [] => text
  | argument :: rest =>
    fillCharacters (index + 1) (substitute (placeholder index).toList argument.toList text 0) rest

theorem toList_fillFrom (index : Nat) (message : String) (arguments : List String) :
    (fillFrom index message arguments).toList = fillCharacters index message.toList arguments := by
  induction arguments generalizing index message with
  | nil => rfl
  | cons argument rest ih =>
    rw [fillFrom, ih, replaceAll, String.toList_ofList]
    rfl

theorem fillCharacters_append {separator : Char} (separates : belongsToPlace separator = false)
    (index : Nat) (left right : List Char) (arguments : List String) :
    fillCharacters index (left ++ separator :: right) arguments =
      fillCharacters index left arguments ++
        separator :: fillCharacters index right arguments := by
  induction arguments generalizing index left right with
  | nil => rfl
  | cons argument rest ih =>
    rw [fillCharacters, substitute_append_separator (placeholder_ne_nil index)
      (notMem_placeholder separates index), ih]
    rfl

/-- Nothing changes in a text without any of the places that are filled. -/
theorem fillCharacters_of_absent {index : Nat} {text : List Char} {arguments : List String}
    (absent : ∀ later, index ≤ later → later < index + arguments.length →
      ¬ (placeholder later).toList <:+: text) :
    fillCharacters index text arguments = text := by
  induction arguments generalizing index with
  | nil => rfl
  | cons argument rest ih =>
    have here := absent index (Nat.le_refl _) (by rw [List.length_cons]; omega)
    rw [fillCharacters, substitute_of_absent here]
    exact ih fun later after before =>
      absent later (by omega) (by rw [List.length_cons]; omega)

/-- Filling in takes away no character that cannot stand inside a place. -/
theorem count_le_count_fillCharacters {separator : Char}
    (separates : belongsToPlace separator = false) (index : Nat) (text : List Char)
    (arguments : List String) :
    text.count separator ≤ (fillCharacters index text arguments).count separator := by
  induction arguments generalizing index text with
  | nil => exact Nat.le_refl _
  | cons argument rest ih =>
    exact (count_le_count_substitute (placeholder_ne_nil index)
      (notMem_placeholder separates index) text).trans (ih (index + 1) _)

/-- Each of several arguments with the later ones filled into it; the first has the number
`index`. -/
def refilled (index : Nat) : List String → List String
  | [] => []
  | argument :: rest => fillFrom (index + 1) argument rest :: refilled (index + 1) rest

theorem getElem?_refilled (index : Nat) (arguments : List String) (place : Nat) :
    (refilled index arguments)[place]? = arguments[place]?.map fun argument =>
      fillFrom (index + place + 1) argument (arguments.drop (place + 1)) := by
  induction arguments generalizing index place with
  | nil => rfl
  | cons argument rest ih =>
    cases place with
    | zero => rfl
    | succ place =>
      rw [refilled, List.getElem?_cons_succ, List.getElem?_cons_succ, ih, List.drop_succ_cons,
        Nat.add_right_comm index 1 place]
      rfl

/-- A place alone becomes its argument, into which the later ones have been filled. -/
theorem fillCharacters_placeholder {index place number : Nat} (numbered : index + place = number)
    (arguments : List String) :
    fillCharacters index (placeholder number).toList arguments =
      ((refilled index arguments)[place]?.map String.toList).getD (placeholder number).toList := by
  induction arguments generalizing index place with
  | nil => rfl
  | cons argument rest ih =>
    rw [fillCharacters, refilled]
    cases place with
    | zero =>
      obtain rfl : index = number := numbered
      rw [substitute_self (placeholder_ne_nil index), List.getElem?_cons_zero, Option.map_some,
        Option.getD_some, toList_fillFrom]
    | succ place =>
      have other : ¬ (placeholder index).toList <:+: (placeholder number).toList := by
        rw [placeholder_infix_placeholder_iff]
        omega
      rw [substitute_of_absent other, List.getElem?_cons_succ]
      exact ih (by omega)

/-- A row of characters that is the place of an argument, or holds the beginning of none. -/
def IsWord (word : List Char) : Prop :=
  (∃ index, word = (placeholder index).toList) ∨ '\x7b' ∉ word

/-- A template whose places stand apart: it is a row of words with characters between them that
cannot stand inside a place. -/
inductive Spaced : List Char → Prop where
  | word {word : List Char} (isWord : IsWord word) : Spaced word
  | words {word rest : List Char} {separator : Char} (isWord : IsWord word)
      (separates : belongsToPlace separator = false) (others : Spaced rest) :
      Spaced (word ++ separator :: rest)

/-- Whether a row of characters is a word. -/
def isWord (word : List Char) : Bool :=
  word == (placeholder (digitsValue 0 (word.filter isDigit))).toList || !word.contains '\x7b'

/-- Whether a template is spaced of which `word` and the characters behind it are left. -/
def isSpaced (word : List Char) : List Char → Bool
  | [] => isWord word
  | character :: rest =>
    if belongsToPlace character then isSpaced (word ++ [character]) rest
    else isWord word && isSpaced [] rest

theorem isWord_of_eq_true {word : List Char} (holds : isWord word = true) : IsWord word := by
  rw [isWord, Bool.or_eq_true, beq_iff_eq, Bool.not_eq_true', ← Bool.not_eq_true,
    List.contains_iff_mem] at holds
  exact holds.imp_left fun same => ⟨_, same⟩

theorem spaced_of_eq_true {word text : List Char} (holds : isSpaced word text = true) :
    Spaced (word ++ text) := by
  induction text generalizing word with
  | nil =>
    rw [List.append_nil]
    exact .word (isWord_of_eq_true holds)
  | cons character rest ih =>
    rw [isSpaced] at holds
    split at holds
    · have spaced := ih holds
      rwa [List.append_assoc, List.singleton_append] at spaced
    · rename_i separates
      obtain ⟨isWord, others⟩ := Bool.and_eq_true_iff.mp holds
      exact .words (isWord_of_eq_true isWord) (Bool.eq_false_iff.mpr separates) (ih others)

/-- The places of every template of the catalogue stand apart. -/
theorem template_spaced (problem : Problem) : Spaced problem.entry.template.toList := by
  have holds : isSpaced [] problem.entry.template.toList = true := by
    cases problem <;> decide +kernel
  exact spaced_of_eq_true holds

namespace Spaced

variable {template : List Char}

/-- Filling arguments in one after another is filling them in all at once, each with the later ones
filled into it. -/
theorem fillCharacters_eq (spaced : Spaced template) (arguments : List String) :
    fillCharacters 0 template arguments = scan (argumentAt? (refilled 0 arguments)) template 0 := by
  have ofWord : ∀ word, IsWord word → fillCharacters 0 word arguments =
      scan (argumentAt? (refilled 0 arguments)) word 0 := by
    rintro word (⟨index, rfl⟩ | plain)
    · rw [scan_placeholder]
      exact fillCharacters_placeholder (Nat.zero_add index) arguments
    · rw [scan_of_plain plain]
      exact fillCharacters_of_absent fun later _ _ => not_placeholder_isInfix plain later
  induction spaced with
  | word isWord => exact ofWord _ isWord
  | words isWord separates others ih =>
    rw [fillCharacters_append separates, ofWord _ isWord, ih,
      (argumentAt?_stopsAt separates).scan_append (Nat.zero_le _)]

end Spaced

/-- Each of the second arguments has at least as many of every character that cannot stand inside a
place as the first one with its number. -/
def Grows : List String → List String → Prop :=
  List.Forall₂ fun first second => ∀ separator, belongsToPlace separator = false →
    first.toList.count separator ≤ second.toList.count separator

theorem grows_refilled (index : Nat) (arguments : List String) :
    Grows arguments (refilled index arguments) := by
  induction arguments generalizing index with
  | nil => exact .nil
  | cons argument rest ih =>
    refine .cons (fun separator separates => ?_) (ih (index + 1))
    rw [toList_fillFrom]
    exact count_le_count_fillCharacters separates _ _ _

/-- Texts with as many separators in front of a separator are told apart there. -/
theorem append_inj_of_count {separator : Char} {left other right rest : List Char}
    (same : left ++ separator :: right = other ++ separator :: rest)
    (count : left.count separator = other.count separator) : left = other ∧ right = rest := by
  induction left generalizing other with
  | nil =>
    cases other with
    | nil => exact ⟨rfl, (List.cons.inj same).2⟩
    | cons first others =>
      rw [← (List.cons.inj same).1, List.count_cons_self] at count
      simp at count
  | cons first others ih =>
    cases other with
    | nil =>
      rw [(List.cons.inj same).1, List.count_cons_self] at count
      simp at count
    | cons second remaining =>
      obtain ⟨rfl, behind⟩ : first = second ∧
          others ++ separator :: right = remaining ++ separator :: rest := List.cons.inj same
      rw [List.count_cons, List.count_cons, Nat.add_right_cancel_iff] at count
      obtain ⟨rfl, rfl⟩ := ih behind count
      exact ⟨rfl, rfl⟩

theorem Grows.getElem? {first second : List String} (grows : Grows first second) (index : Nat) :
    (first[index]? = none ∧ second[index]? = none) ∨
      ∃ before after, first[index]? = some before ∧ second[index]? = some after ∧
        ∀ separator, belongsToPlace separator = false →
          before.toList.count separator ≤ after.toList.count separator := by
  induction grows generalizing index with
  | nil => exact .inl ⟨rfl, rfl⟩
  | cons here others ih =>
    cases index with
    | zero => exact .inr ⟨_, _, rfl, rfl, here⟩
    | succ index => exact ih index

namespace Spaced

variable {template : List Char} {first second : List String}

theorem count_le_of_word (grows : Grows first second) {separator : Char}
    (separates : belongsToPlace separator = false) {word : List Char} (isWord : IsWord word) :
    (scan (argumentAt? first) word 0).count separator ≤
      (scan (argumentAt? second) word 0).count separator := by
  rcases isWord with ⟨index, rfl⟩ | plain
  · rw [scan_placeholder, scan_placeholder]
    rcases grows.getElem? index with ⟨missing, alsoMissing⟩ | ⟨before, after, given, filled, more⟩
    · rw [missing, alsoMissing]
    · rw [given, filled]
      exact more separator separates
  · rw [scan_of_plain plain, scan_of_plain plain]

theorem count_le (spaced : Spaced template) (grows : Grows first second) {separator : Char}
    (separates : belongsToPlace separator = false) :
    (scan (argumentAt? first) template 0).count separator ≤
      (scan (argumentAt? second) template 0).count separator := by
  induction spaced with
  | word isWord => exact count_le_of_word grows separates isWord
  | words isWord separatesHere others ih =>
    rw [(argumentAt?_stopsAt separatesHere).scan_append (Nat.zero_le _),
      (argumentAt?_stopsAt separatesHere).scan_append (Nat.zero_le _), List.count_append,
      List.count_append, List.count_cons, List.count_cons]
    exact Nat.add_le_add (count_le_of_word grows separates isWord) (Nat.add_le_add_right ih _)

theorem scan_eq_iff_of_word (grows : Grows first second) {word : List Char}
    (isWord : IsWord word) :
    scan (argumentAt? second) word 0 = scan (argumentAt? first) word 0 ↔
      ∀ index, (placeholder index).toList <:+: word → second[index]? = first[index]? := by
  rcases isWord with ⟨place, rfl⟩ | plain
  · simp only [placeholder_infix_placeholder_iff, forall_eq, scan_placeholder]
    rcases grows.getElem? place with ⟨missing, alsoMissing⟩ | ⟨before, after, given, filled, _⟩
    · rw [missing, alsoMissing]
      exact iff_of_true rfl rfl
    · rw [given, filled]
      exact String.toList_inj.trans Option.some_inj.symm
  · rw [scan_of_plain plain, scan_of_plain plain]
    exact iff_of_true rfl fun index inside => absurd inside (not_placeholder_isInfix plain index)

/-- A template says the same with arguments that grew exactly if none of those that have a place in
it changed. -/
theorem scan_eq_iff (spaced : Spaced template) (grows : Grows first second) :
    scan (argumentAt? second) template 0 = scan (argumentAt? first) template 0 ↔
      ∀ index, (placeholder index).toList <:+: template → second[index]? = first[index]? := by
  induction spaced with
  | word isWord => exact scan_eq_iff_of_word grows isWord
  | @words word rest separator isWord separates others ih =>
    have split : ∀ index, (placeholder index).toList <:+: word ++ separator :: rest ↔
        (placeholder index).toList <:+: word ∨ (placeholder index).toList <:+: rest := fun index =>
      infix_append_separator_iff (notMem_placeholder separates index) (placeholder_ne_nil index)
    simp only [split, or_imp, forall_and, ← ih, ← scan_eq_iff_of_word grows isWord,
      (argumentAt?_stopsAt separates).scan_append (Nat.zero_le word.length)]
    refine ⟨fun same => ?_, fun ⟨sameWord, sameRest⟩ => by rw [sameWord, sameRest]⟩
    -- Both sides have more of the separator than before unless each has as many.
    have total := congrArg (List.count separator) same
    have inWord := count_le_of_word grows separates isWord
    have inRest := others.count_le grows separates
    simp only [List.count_append, List.count_cons_self] at total
    exact append_inj_of_count same (by omega)

end Spaced

/-- An argument that holds no place of a later one stays as it is. -/
theorem fillFrom_of_absent {index : Nat} {argument : String} {arguments : List String}
    (absent : ∀ later, index < later → later < arguments.length →
      ¬ (placeholder later).toList <:+: argument.toList) :
    fillFrom (index + 1) argument (arguments.drop (index + 1)) = argument := by
  rw [← String.toList_inj, toList_fillFrom]
  refine fillCharacters_of_absent fun later after before => absent later after ?_
  rw [List.length_drop] at before
  omega

theorem getElem?_refilled_eq_iff (arguments : List String) (index : Nat) :
    (refilled 0 arguments)[index]? = arguments[index]? ↔
      ∀ argument, arguments[index]? = some argument →
        fillFrom (index + 1) argument (arguments.drop (index + 1)) = argument := by
  rw [getElem?_refilled, Nat.zero_add]
  cases arguments[index]? <;> simp

/-- The message of a diagnostic is the template of its problem with each argument in its place, into
which the later arguments have been filled. It has the arguments as they were given exactly if
filling in the later ones changes none that has a place; and no argument changes that holds no place
of a later one. -/
theorem report_message (problem : Problem) (location : Option String) (arguments : List String) :
    (report problem location arguments).message =
        verbatim problem.entry.template (refilled 0 arguments) ∧
      ((report problem location arguments).message = verbatim problem.entry.template arguments ↔
        ∀ index argument, HasPlace problem.entry.template index →
          arguments[index]? = some argument →
            fillFrom (index + 1) argument (arguments.drop (index + 1)) = argument) ∧
      ((∀ index argument, HasPlace problem.entry.template index →
          arguments[index]? = some argument → ∀ later, index < later → later < arguments.length →
            ¬ (placeholder later).toList <:+: argument.toList) →
        (report problem location arguments).message =
          verbatim problem.entry.template arguments) := by
  have spaced := template_spaced problem
  have message : (report problem location arguments).message =
      verbatim problem.entry.template (refilled 0 arguments) := by
    rw [verbatim, ← spaced.fillCharacters_eq, ← toList_fillFrom, String.ofList_toList]
    rfl
  have unchanged : (report problem location arguments).message =
      verbatim problem.entry.template arguments ↔
        ∀ index argument, HasPlace problem.entry.template index →
          arguments[index]? = some argument →
            fillFrom (index + 1) argument (arguments.drop (index + 1)) = argument := by
    rw [message, verbatim, verbatim, String.ofList_inj,
      spaced.scan_eq_iff (grows_refilled 0 arguments)]
    simp only [getElem?_refilled_eq_iff]
    exact ⟨fun same index argument placed => same index placed argument,
      fun same index placed argument => same index argument placed⟩
  refine ⟨message, unchanged, fun absent => unchanged.mpr ?_⟩
  intro index argument placed given
  exact fillFrom_of_absent (absent index argument placed given)

/-- An argument that looks like the place of the next one is replaced by that. -/
theorem report_misplaces :
    (report .invalidArgument none ["\x7b1\x7d", "queueTrigger"]).message =
        "The value of the argument 'queueTrigger' could not be serialized for binding " ++
          "'queueTrigger'." ∧
      (report .invalidArgument none ["\x7b1\x7d", "queueTrigger"]).message ≠
        verbatim Problem.invalidArgument.entry.template ["\x7b1\x7d", "queueTrigger"] := by
  decide +kernel

end WorkerBindings.Diagnostic
