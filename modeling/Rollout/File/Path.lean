import Rollout.Text.Split

/-!
# Paths

A path is a text of components between slashes. Empty components and single dots name no place of
their own.

* `components` and `fileName?` read a path as written, without looking at any file.
-/

namespace Rollout.Path

/-- The components of a path, the empty ones included. -/
def components (p : List Char) : List (List Char) := Text.split (· == '/') p

def isAbsolute (p : List Char) : Bool := p.head? == some '/'

/-- The last component that names something; a path that ends above its beginning has none. -/
def fileName? (p : List Char) : Option (List Char) :=
  match ((components p).filter fun c => c ≠ [] && c ≠ ['.']).getLast? with
  | some c => if c = ['.', '.'] then none else some c
  | none => none

/-- What follows the last dot of a name, unless the name begins with it. -/
def extension? (p : List Char) : Option (List Char) := do
  let name ← fileName? p
  let tail := (name.reverse.takeWhile (· ≠ '.')).reverse
  if tail.length + 1 < name.length then some tail else none

/-- A name in a directory. -/
def child (directory name : List Char) : List Char :=
  if directory = [] ∨ directory.getLast? = some '/' then directory ++ name
  else directory ++ '/' :: name

/-- The place of a file under its own name in a directory of another machine. -/
def remoteChild (directory file : List Char) : List Char :=
  (directory.reverse.dropWhile (· == '/')).reverse ++ '/' :: (fileName? file).getD []

end Rollout.Path
