import Rollout.Shell.State
import Rollout.Text.Order

/-!
# Patterns

A pattern matches texts character by character; a star matches any text, a question mark any
character, and a bracket any character of a set. A pattern with slashes stands for the names of files
it matches, in order. Quoted characters match only themselves.
-/

namespace Rollout.Shell

/-- A character of a field, and whether it may have a meaning in a pattern. -/
abbrev Field := List (Char × Bool)

namespace Field

def text (f : Field) : List Char := f.map (·.1)

def hasPattern (f : Field) : Bool := f.any fun (c, active) => active && (c = '*' || c = '?' || c = '[')

/-- The set after an opening bracket, and what follows it. The first character of a set never closes
it. -/
def set? : Bool → Field → Option (List Char × Field)
  | _, [] => none
  | first, (c, _) :: f =>
    if c = ']' ∧ ¬ first then some ([], f)
    else (set? false f).map fun (s, f) => (c :: s, f)

/-- Whether a set, with its ranges, has a character. -/
def inSet (c : Char) : List Char → Bool
  | a :: '-' :: b :: s => (a ≤ c && c ≤ b) || inSet c s
  | a :: s => a = c || inSet c s
  | [] => false

/-- Whether a pattern matches a text. -/
def isMatch : Nat → Field → List Char → Bool
  | 0, _, _ => false
  | _ + 1, [], s => s.isEmpty
  | fuel + 1, (c, active) :: f, s =>
    if active && c = '*' then
      isMatch fuel f s || match s with
        | _ :: t => isMatch fuel ((c, active) :: f) t
        | [] => false
    else match s with
      | [] => false
      | a :: t =>
        if active && c = '?' then isMatch fuel f t
        else if active && c = '[' then
          match set? true f with
          | some (cs, g) =>
            let (negated, cs) := match cs with
              | '!' :: cs => (true, cs)
              | cs => (false, cs)
            inSet a cs != negated && isMatch fuel g t
          | none => a = c && isMatch fuel f t
        else a = c && isMatch fuel f t

/-- Whether a pattern matches a text. -/
def matchesText (f : Field) (s : List Char) : Bool := isMatch (2 * (f.length + s.length) + 2) f s

/-- A text without what a pattern matches at its start or end: the longest such part, or the
shortest. -/
def cut (f : Field) (atEnd longest : Bool) (s : List Char) : List Char :=
  let sizes := List.range (s.length + 1)
  let found := (if longest then sizes.reverse else sizes).find? fun n =>
    f.matchesText (if atEnd then s.drop (s.length - n) else s.take n)
  match found with
  | some n => if atEnd then s.take (s.length - n) else s.drop n
  | none => s

/-- The components of a pattern between slashes. -/
def components (f : Field) : List Field :=
  f.foldr (fun c parts => match parts with
    | p :: ps => if c.1 = '/' then [] :: p :: ps else (c :: p) :: ps
    | [] => [[c]]) [[]]

/-- The paths that a pattern stands for, from paths that lead up to its components. -/
def expandFrom (t : Tree) : List Field → List (List Char) → List (List Char)
  | [], paths => paths
  | f :: fs, paths =>
    let last := fs.isEmpty
    let next := paths.flatMap fun p =>
      if f.hasPattern then
        let directory := if p = [] then ['.'] else p
        let names := match t.list directory with
          | .ok listing => listing.names
          | .error _ => []
        let names := names.filter fun n =>
          f.matchesText n && (n.head? ≠ some '.' || f.text.head? = some '.')
        (names.mergeSort Text.inOrder).map (p ++ ·)
      else
        let q := p ++ f.text
        match t.find (!last) (if q = [] then ['/'] else q) with
        | .ok (.found ..) => [q]
        | _ => if f.text = [] then [q] else []
    expandFrom t fs (if last then next else next.map (· ++ ['/']))

/-- The texts that a field stands for: the names it matches, or itself if it matches none. -/
def expand (t : Tree) (f : Field) : List (List Char) :=
  if f.hasPattern then
    match expandFrom t f.components [[]] with
    | [] => [f.text]
    | paths => paths
  else [f.text]

end Field

end Rollout.Shell
