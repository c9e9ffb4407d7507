import Rollout.Text.Printable

/-!
# Quoted text

A text between quotation marks, written so that every character can be told from the result: quotes,
backslashes and the usual controls by a backslash and a letter, other characters without a glyph by
their code point.
-/

namespace Rollout.Text

/-- A number in base sixteen, in lower case. -/
def hexDigits (n : Nat) : List Char := Nat.toDigits 16 n

/-- One character of a quoted text. -/
def quoteChar (c : Char) : List Char :=
  if c = '\x00' then ['\\', '0']
  else if c = '\t' then ['\\', 't']
  else if c = '\r' then ['\\', 'r']
  else if c = '\n' then ['\\', 'n']
  else if c = '\\' then ['\\', '\\']
  else if c = '\"' then ['\\', '\"']
  else if isPrintable c then [c]
  else ['\\', 'u', '{'] ++ hexDigits c.toNat ++ ['}']

/-- A text between quotation marks. -/
def quote (s : List Char) : List Char := '\"' :: s.flatMap quoteChar ++ ['\"']

end Rollout.Text

namespace String

/-- A string between quotation marks. -/
def quoted (s : String) : String := String.ofList (Rollout.Text.quote s.toList)

end String
