import Rollout.Text.Split

/-!
# Blank characters

Words are separated, and texts trimmed, at the characters of the Unicode property White_Space.

* `isBlank_of_isWhitespace`: the blanks of ASCII text are among them.
* `words` are the non-empty pieces between blanks, so no word holds a blank.
-/

namespace Rollout.Text

/-- The Unicode property White_Space. -/
def isBlank (c : Char) : Bool :=
  let n := c.toNat
  (9 ≤ n && n ≤ 13) || n == 0x20 || n == 0x85 || n == 0xA0 || n == 0x1680 ||
    (0x2000 ≤ n && n ≤ 0x200A) || n == 0x2028 || n == 0x2029 || n == 0x202F || n == 0x205F ||
    n == 0x3000

theorem isBlank_of_isWhitespace {c : Char} (h : c.isWhitespace = true) : isBlank c = true := by
  simp only [Char.isWhitespace, Bool.or_eq_true, decide_eq_true_eq] at h
  rcases h with ((h | h) | h) | h <;> subst h <;> decide

def trimStart (s : List Char) : List Char := s.dropWhile isBlank

def trimEnd (s : List Char) : List Char := (s.reverse.dropWhile isBlank).reverse

/-- A text without the blanks at its two ends. -/
def trim (s : List Char) : List Char := trimEnd (trimStart s)

/-- The words of a text: its non-empty pieces between blanks. -/
def words (s : List Char) : List (List Char) := (split isBlank s).filter (· ≠ [])

theorem not_isBlank_of_mem_words {s w : List Char} (h : w ∈ words s) : ∀ c ∈ w, isBlank c = false :=
  not_mem_of_mem_split (List.mem_filter.1 h).1

theorem ne_nil_of_mem_words {s w : List Char} (h : w ∈ words s) : w ≠ [] := by
  have := (List.mem_filter.1 h).2
  simpa using this

end Rollout.Text

namespace String

/-- Whether a string is empty or all blank. -/
def isAllBlank (s : String) : Bool := s.toList.all Rollout.Text.isBlank

end String
