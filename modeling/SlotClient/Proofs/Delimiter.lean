import Mathlib.Data.List.TakeWhile

/-!
# Searching for a delimiter

Lines end at a line feed, tags stand between braces, and a colon divides a host from its port. What
stands before the first delimiter and what is left from there on is found by skipping all else.
-/

namespace SlotClient

variable {Symbol : Type} [BEq Symbol] [LawfulBEq Symbol] {delimiter : Symbol}
  {front back : List Symbol}

theorem passes_of_notMem (absent : delimiter ∉ front) :
    ∀ symbol ∈ front, (symbol != delimiter) = true := by
  intro symbol member
  simpa using ne_of_mem_of_not_mem member absent

theorem takeWhile_ne_of_notMem (absent : delimiter ∉ front) :
    front.takeWhile (· != delimiter) = front :=
  List.takeWhile_eq_self_iff.mpr (passes_of_notMem absent)

theorem dropWhile_ne_of_notMem (absent : delimiter ∉ front) :
    front.dropWhile (· != delimiter) = [] :=
  List.dropWhile_eq_nil_iff.mpr (passes_of_notMem absent)

theorem takeWhile_ne_append_cons (absent : delimiter ∉ front) :
    (front ++ delimiter :: back).takeWhile (· != delimiter) = front := by
  rw [List.takeWhile_append_of_pos (passes_of_notMem absent)]
  simp

theorem dropWhile_ne_append_cons (absent : delimiter ∉ front) :
    (front ++ delimiter :: back).dropWhile (· != delimiter) = delimiter :: back := by
  rw [List.dropWhile_append_of_pos (passes_of_notMem absent)]
  simp

end SlotClient
