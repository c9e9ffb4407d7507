import Rollout.Number.Binary64

/-!
# How alike two words are

Two characters match if they are equal and stand at most about half the longer word apart; each
character matches once, with the first one that is free. The similarity of two words is the mean of
three shares: the matched part of either word, and the part of the matches that stand in the same
order. It is a number of 64 bits, every operation rounded, so that ties are decided the same way
everywhere.

* `similarity` compares two words; `similarTo` lists the words like a given one, the most similar last.
-/

namespace Rollout.Text

/-- How far apart matching characters may stand in words of these lengths. -/
def matchRange (m n : Nat) : Nat := max m n / 2 - 1

/-- Marks the first free `c` that stands from `low` up to before `high`, in a word whose first
character stands at `place`. -/
def claim? (c : Char) (low high place : Nat) : List (Char × Bool) → Option (List (Char × Bool))
  | [] => none
  | (d, taken) :: s =>
    if high ≤ place then none
    else if low ≤ place ∧ c = d ∧ ¬ taken then some ((d, true) :: s)
    else (claim? c low high (place + 1) s).map ((d, taken) :: ·)

/-- The characters of a word that match, from the one at `place` on, and the other word marked. -/
def claimAll (range place : Nat) : List Char → List (Char × Bool) → List Char × List (Char × Bool)
  | [], marks => ([], marks)
  | c :: s, marks =>
    match claim? c (place - range) (place + range + 1) 0 marks with
    | some marks =>
      let (matched, marks) := claimAll range (place + 1) s marks
      (c :: matched, marks)
    | none => claimAll range (place + 1) s marks

/-- The matching characters of two words, each in the order of its word. -/
def matching (s t : List Char) : List Char × List Char :=
  let (matched, marks) := claimAll (matchRange s.length t.length) 0 s (t.map (·, false))
  (matched, (marks.filter (·.2)).map (·.1))

/-- Half the number of places at which two words of equal length differ. -/
def transpositions (s t : List Char) : Nat := ((s.zip t).filter fun p => p.1 ≠ p.2).length / 2

/-- How alike two words are, from 0 to 1. -/
def similarity (s t : List Char) : Binary64 :=
  if s.isEmpty ∧ t.isEmpty then ⟨1, 0⟩
  else
    let (a, b) := matching s t
    let share (count total : Nat) : Binary64 := (Binary64.ofRatio? count total).getD .zero
    let sum (x y : Binary64) : Binary64 := (x.add? y).getD .zero
    if a.isEmpty then .zero
    else
      let matched := sum (share a.length s.length) (share a.length t.length)
      let ordered := share (a.length - transpositions a b) a.length
      ((sum matched ordered).div? ⟨3, 0⟩).getD .zero

/-- Whether two words are alike enough for one to be meant by the other: seven tenths is not enough. -/
def isSimilar (x : Binary64) : Bool := ((Binary64.ofRatio? 7 10).getD .zero).lt x

/-- A word put among others in order of similarity, after those that are as similar. -/
def insertBySimilarity (x : Binary64 × String) : List (Binary64 × String) → List (Binary64 × String)
  | [] => [x]
  | y :: ys => if x.1.lt y.1 then x :: y :: ys else y :: insertBySimilarity x ys

/-- The words that are like a given one, the most similar last. -/
def similarTo (word : String) (words : List String) : List String :=
  let scored := words.map fun w => (similarity word.toList w.toList, w)
  ((scored.filter fun x => isSimilar x.1).foldl (fun xs x => insertBySimilarity x xs) []).map (·.2)

end Rollout.Text
