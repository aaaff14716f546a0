import WorkerBindings.Proofs.Json.Numbers
import WorkerBindings.Proofs.Json.Strings

/-!
# Layouts of JSON text

Compact and pretty text differ in the blank space between their parts and in nothing else. A
`Layout` says what that space is; `laidOut` writes a value with it, and both kinds of text are
instances.
-/

namespace WorkerBindings

namespace Reading

/-- The characters that may stand between the parts of a JSON text. -/
def isSpace (character : Char) : Bool :=
  character == ' ' || character == '\t' || character == '\n' || character == '\r'

end Reading

namespace Json

/-- The blank space of a JSON text. -/
structure Layout where
  /-- What stands in front of an item, a member or a closing bracket, by its level. -/
  lineStart : Nat → List Char
  /-- What stands between a colon and a value. -/
  afterColon : List Char
  lineStart_blank : ∀ level, ∀ character ∈ lineStart level, Reading.isSpace character = true
  afterColon_blank : ∀ character ∈ afterColon, Reading.isSpace character = true

namespace Layout

/-- The layout without any space. -/
def compact : Layout where
  lineStart _ := []
  afterColon := []
  lineStart_blank := by simp
  afterColon_blank := by simp

/-- The layout with one item or member a line. -/
def pretty : Layout where
  lineStart := lineBreak
  afterColon := [' ']
  lineStart_blank := by
    intro level character member
    rcases List.mem_cons.mp member with newline | indent
    · rw [newline]
      rfl
    · rw [(List.mem_replicate.mp indent).2]
      rfl
  afterColon_blank := by simp [Reading.isSpace]

end Layout

mutual

/-- A value in a layout; `level` is that of the line it starts on. -/
def laidOut (layout : Layout) (level : Nat) : Json → List Char
  | .null => ['n', 'u', 'l', 'l']
  | .bool true => ['t', 'r', 'u', 'e']
  | .bool false => ['f', 'a', 'l', 's', 'e']
  | .number value => numberText value
  | .string value => quoted value
  | .array [] => ['[', ']']
  | .array (item :: rest) =>
    '[' :: laidOutItems layout (level + 1) (item :: rest) ++ layout.lineStart level ++ [']']
  | .object [] => ['\x7b', '\x7d']
  | .object (member :: rest) =>
    '\x7b' :: laidOutMembers layout (level + 1) (member :: rest) ++ layout.lineStart level ++
      ['\x7d']

/-- Items in a layout with commas between them. -/
def laidOutItems (layout : Layout) (level : Nat) : List Json → List Char
  | [] => []
  | [item] => layout.lineStart level ++ laidOut layout level item
  | item :: next :: rest =>
    layout.lineStart level ++ laidOut layout level item ++
      ',' :: laidOutItems layout level (next :: rest)

/-- Members in a layout with commas between them. -/
def laidOutMembers (layout : Layout) (level : Nat) : List (String × Json) → List Char
  | [] => []
  | [(key, value)] =>
    layout.lineStart level ++ quoted key ++ ':' :: layout.afterColon ++ laidOut layout level value
  | (key, value) :: next :: rest =>
    layout.lineStart level ++ quoted key ++ ':' :: layout.afterColon ++
      laidOut layout level value ++ ',' :: laidOutMembers layout level (next :: rest)

end

mutual

/-- Compact text is laid out without space, at whatever level. -/
theorem compactText_eq (level : Nat) : ∀ value : Json,
    compactText value = laidOut .compact level value
  | .null => rfl
  | .bool true => rfl
  | .bool false => rfl
  | .number _ => rfl
  | .string _ => rfl
  | .array [] => rfl
  | .array (item :: rest) => by
    rw [compactText, laidOut, compactItems_eq (level + 1) (item :: rest)]
    simp [Layout.compact]
  | .object [] => rfl
  | .object (member :: rest) => by
    rw [compactText, laidOut, compactMembers_eq (level + 1) (member :: rest)]
    simp [Layout.compact]

theorem compactItems_eq (level : Nat) : ∀ items : List Json,
    compactItems items = laidOutItems .compact level items
  | [] => rfl
  | [item] => by
    rw [compactItems, laidOutItems, compactText_eq level item]
    rfl
  | item :: next :: rest => by
    rw [compactItems, laidOutItems, compactText_eq level item, compactItems_eq level (next :: rest)]
    rfl

theorem compactMembers_eq (level : Nat) : ∀ members : List (String × Json),
    compactMembers members = laidOutMembers .compact level members
  | [] => rfl
  | [(key, value)] => by
    rw [compactMembers, laidOutMembers, compactText_eq level value]
    simp [Layout.compact]
  | (key, value) :: next :: rest => by
    rw [compactMembers, laidOutMembers, compactText_eq level value,
      compactMembers_eq level (next :: rest)]
    simp [Layout.compact]

end

mutual

theorem prettyText_eq (level : Nat) : ∀ value : Json,
    prettyText level value = laidOut .pretty level value
  | .null => rfl
  | .bool true => rfl
  | .bool false => rfl
  | .number _ => rfl
  | .string _ => rfl
  | .array [] => rfl
  | .array (item :: rest) => by
    rw [prettyText, laidOut, prettyItems_eq (level + 1) (item :: rest)]
    · rfl
    · simp
  | .object [] => rfl
  | .object (member :: rest) => by
    rw [prettyText, laidOut, prettyMembers_eq (level + 1) (member :: rest)]
    · rfl
    · simp

theorem prettyItems_eq (level : Nat) : ∀ items : List Json,
    prettyItems level items = laidOutItems .pretty level items
  | [] => rfl
  | [item] => by
    rw [prettyItems, laidOutItems, prettyText_eq level item]
    rfl
  | item :: next :: rest => by
    rw [prettyItems, laidOutItems, prettyText_eq level item, prettyItems_eq level (next :: rest)]
    rfl

theorem prettyMembers_eq (level : Nat) : ∀ members : List (String × Json),
    prettyMembers level members = laidOutMembers .pretty level members
  | [] => rfl
  | [(key, value)] => by
    rw [prettyMembers, laidOutMembers, prettyText_eq level value]
    simp [Layout.pretty]
  | (key, value) :: next :: rest => by
    rw [prettyMembers, laidOutMembers, prettyText_eq level value,
      prettyMembers_eq level (next :: rest)]
    simp [Layout.pretty]

end

end Json

end WorkerBindings
