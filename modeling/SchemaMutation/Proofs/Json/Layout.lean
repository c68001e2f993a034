import SchemaMutation.Json.Printer
import SchemaMutation.Json.Token

/-!
# Layouts of a JSON text

The two written forms of a value differ in nothing but the blanks between its parts. A layout says which blanks stand
there; what holds of the text in every layout holds of both forms (`indented_chars`, `dense_chars`).
-/

namespace SchemaMutation.Json

def Blanks (cs : List Char) : Prop := ∀ c ∈ cs, isBlank c = true

/-- The blanks before a part that stands at a level, and those behind a colon. -/
structure Layout where
  newline : Nat → List Char
  gap : List Char
  newline_blanks : ∀ level, Blanks (newline level)
  gap_blanks : Blanks gap

namespace Layout

mutual
def chars (L : Layout) (level : Nat) : Json → List Char
  | .array (x :: xs) => '[' :: L.newline (level + 1) ++ chars L (level + 1) x ++ items L level xs
  | .object ((k, v) :: rest) =>
    '\x7b' :: L.newline (level + 1) ++ quoted k ++ ':' :: L.gap ++ chars L (level + 1) v ++ members L level rest
  | other => atom other

/-- The text of the further items of an array, up to its closing bracket. -/
def items (L : Layout) (level : Nat) : List Json → List Char
  | [] => L.newline level ++ [']']
  | x :: xs => ',' :: L.newline (level + 1) ++ chars L (level + 1) x ++ items L level xs

def members (L : Layout) (level : Nat) : List (String × Json) → List Char
  | [] => L.newline level ++ ['\x7d']
  | (k, v) :: rest =>
    ',' :: L.newline (level + 1) ++ quoted k ++ ':' :: L.gap ++ chars L (level + 1) v ++ members L level rest
end

def indented : Layout where
  newline := Json.newline
  gap := [' ']
  newline_blanks level c member := by
    rcases List.mem_cons.mp member with rfl | more
    · rfl
    · rw [(List.mem_replicate.mp more).2]
      rfl
  gap_blanks c member := by
    rw [List.mem_singleton.mp member]
    rfl

def dense : Layout where
  newline _ := []
  gap := []
  newline_blanks _ _ member := by cases member
  gap_blanks _ member := by cases member

mutual
theorem indented_chars (level : Nat) : ∀ j, indented.chars level j = prettyChars level j
  | .null => rfl
  | .bool _ => rfl
  | .number _ => rfl
  | .string _ => rfl
  | .array [] => rfl
  | .array (x :: xs) => by
    rw [chars, prettyChars, indented_chars (level + 1) x, indented_items level xs]
    rfl
  | .object [] => rfl
  | .object ((k, v) :: rest) => by
    rw [chars, prettyChars, indented_chars (level + 1) v, indented_members level rest]
    simp [indented]

theorem indented_items (level : Nat) : ∀ xs, indented.items level xs = prettyItems level xs
  | [] => rfl
  | x :: xs => by
    rw [items, prettyItems, indented_chars (level + 1) x, indented_items level xs]
    rfl

theorem indented_members (level : Nat) : ∀ ms, indented.members level ms = prettyMembers level ms
  | [] => rfl
  | (k, v) :: rest => by
    rw [members, prettyMembers, indented_chars (level + 1) v, indented_members level rest]
    simp [indented]
end

mutual
theorem dense_chars (level : Nat) : ∀ j, dense.chars level j = compactChars j
  | .null => rfl
  | .bool _ => rfl
  | .number _ => rfl
  | .string _ => rfl
  | .array [] => rfl
  | .array (x :: xs) => by
    rw [chars, compactChars, dense_chars (level + 1) x, dense_items level xs]
    rfl
  | .object [] => rfl
  | .object ((k, v) :: rest) => by
    rw [chars, compactChars, dense_chars (level + 1) v, dense_members level rest]
    simp [dense]

theorem dense_items (level : Nat) : ∀ xs, dense.items level xs = compactItems xs
  | [] => rfl
  | x :: xs => by
    rw [items, compactItems, dense_chars (level + 1) x, dense_items level xs]
    rfl

theorem dense_members (level : Nat) : ∀ ms, dense.members level ms = compactMembers ms
  | [] => rfl
  | (k, v) :: rest => by
    rw [members, compactMembers, dense_chars (level + 1) v, dense_members level rest]
    simp [dense]
end

end Layout

end SchemaMutation.Json
