/-!
# Shell commands

What a text for the shell says to do: words that are expanded, and the commands made of them.
-/

namespace Rollout.Shell

mutual

/-- A part of a word. What is quoted is neither split nor matched against names. -/
inductive Part where
  /-- A character outside of quotes. -/
  | bare (c : Char)
  /-- Text between quotes. -/
  | text (s : List Char)
  /-- The value of a parameter. -/
  | parameter (name : List Char) (change : Change) (quoted : Bool)
  /-- How long the value of a parameter is. -/
  | length (name : List Char)
  /-- What a command prints. -/
  | output (code : Code) (quoted : Bool)
  /-- The value of a sum, product or the like. -/
  | arithmetic (expression : List Part)
  /-- Braces that hold no parameter. -/
  | bad

/-- What is done with the value of a parameter before it is filled in. A parameter that is empty may
count as one without a value. -/
inductive Change where
  | keep
  /-- Another text stands for a missing value. -/
  | fallback (orEmpty : Bool) (word : List Part)
  /-- A missing value is set. -/
  | assign (orEmpty : Bool) (word : List Part)
  /-- Another text stands for a value that is there. -/
  | instead (orEmpty : Bool) (word : List Part)
  /-- What a pattern matches is cut off. -/
  | cut (atEnd longest : Bool) (pattern : List Part)

/-- A redirection of standard input, output or error output. -/
inductive Redirection where
  | input (word : List Part)
  | write (stream : Nat) (word : List Part)
  | append (stream : Nat) (word : List Part)
  | duplicate (stream other : Nat)
  /-- Input that stands in the text itself. -/
  | here (body : List Part)

inductive Code where
  | simple (assignments : List (List Char × List Part)) (words : List (List Part))
      (redirections : List Redirection)
  | redirected (body : Code) (redirections : List Redirection)
  | pipeline (parts : List Code)
  | not (body : Code)
  | both (first second : Code)
  | either (first second : Code)
  | sequence (parts : List Code)
  | subshell (body : Code)
  | branch (condition yes no : Code)
  /-- Repeats the body while the condition has the wanted outcome. -/
  | loop (wanted : Bool) (condition body : Code)
  | each (name : List Char) (words : List (List Part)) (body : Code)
  | choice (word : List Part) (cases : List (List (List Part) × Code))

end

end Rollout.Shell
