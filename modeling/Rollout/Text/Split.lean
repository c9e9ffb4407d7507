/-!
# Cutting text into pieces

Text is cut at every character of a class; a text with `n` such characters has `n + 1` pieces, some
of them possibly empty. Words, lines and comma lists are all read from these pieces.

* `join_split`: the pieces put back together with their separators are the text.
* `lines` drops the empty piece after a final line feed, and one carriage return before each.
-/

namespace Rollout.Text

/-- The pieces of a text between the characters of class `p`. -/
def split (p : Char → Bool) : List Char → List (List Char)
  | [] => [[]]
  | c :: s =>
    if p c then [] :: split p s
    else match split p s with
      | [] => [[c]]
      | w :: ws => (c :: w) :: ws

/-- Pieces put side by side with `sep` between neighbours. -/
def join (sep : List Char) : List (List Char) → List Char
  | [] => []
  | [w] => w
  | w :: ws => w ++ sep ++ join sep ws

theorem split_ne_nil (p : Char → Bool) (s : List Char) : split p s ≠ [] := by
  cases s with
  | nil => simp [split]
  | cons c s =>
    simp only [split]
    split
    · simp
    · split <;> simp

theorem join_split (d : Char) (s : List Char) : join [d] (split (· == d) s) = s := by
  induction s with
  | nil => rfl
  | cons c s ih =>
    by_cases h : (c == d) = true
    · have hc : c = d := by simpa using h
      have hne := split_ne_nil (· == d) s
      simp only [split, h, if_true]
      cases hs : split (· == d) s with
      | nil => exact absurd hs hne
      | cons w ws => rw [hs] at ih; simp [join, ih, hc]
    · simp only [split, h]
      cases hs : split (· == d) s with
      | nil => exact absurd hs (split_ne_nil _ s)
      | cons w ws =>
        rw [hs] at ih
        cases ws with
        | nil => simpa [join] using ih
        | cons v vs => simpa [join] using ih

/-- No piece holds a character of the class it was cut at. -/
theorem not_mem_of_mem_split {p : Char → Bool} {s w : List Char} (h : w ∈ split p s) :
    ∀ c ∈ w, p c = false := by
  induction s generalizing w with
  | nil => simp [split] at h; simp [h]
  | cons d s ih =>
    simp only [split] at h
    split at h
    · rcases List.mem_cons.1 h with rfl | h
      · simp
      · exact ih h
    · rename_i hd
      split at h
      · simp at h; simp [h, hd]
      · rename_i v vs hs
        rcases List.mem_cons.1 h with rfl | h
        · intro c hc
          rcases List.mem_cons.1 hc with rfl | hc
          · simpa using hd
          · exact ih (by rw [hs]; exact List.mem_cons_self) c hc
        · exact ih (by rw [hs]; exact List.mem_cons_of_mem _ h)

/-- A line without the carriage return it may end in. -/
def dropReturn (w : List Char) : List Char :=
  if w.getLast? = some '\r' then w.dropLast else w

/-- The lines of a text: an end of line is a line feed, with a carriage return before it or not. The
piece after the last line feed is a line if it is not empty, and keeps its carriage return. -/
def lines (s : List Char) : List (List Char) :=
  let ws := split (· == '\n') s
  match ws.getLast? with
  | none => []
  | some last => ws.dropLast.map dropReturn ++ (if last = [] then [] else [last])

end Rollout.Text
