import Rollout.Yaml.Cursor

/-!
# The scalars of YAML

A scalar is plain, quoted or a block. Line ends inside one are folded: a single end becomes a space,
and of more ends in a row all but the first remain; a literal block keeps them all.

* `plain?`, `quoted?` and `block?` read a scalar from where it begins; they answer nothing if it is
  not well formed.
-/

namespace Rollout.Yaml

/-- Line ends between two parts of a scalar: the first, and the others. -/
structure Gap where
  first : List Char := []
  others : List Char := []

/-- What a gap leaves in the scalar. -/
def Gap.fold (g : Gap) : List Char :=
  if g.first.head? = some '\n' then if g.others = [] then [' '] else g.others
  else g.first ++ g.others

/-- Blanks and line ends, from where they begin. Blanks that no line end follows are kept as
`blanks`; a gap under way is given as `gap`. In a block, a tab must not stand before column
`margin`. -/
def spacing (margin : Nat) :
    Nat → List Char → Option Gap → Cursor → Option (List Char × Option Gap × Cursor)
  | 0, blanks, gap, c => some (blanks, gap, c)
  | fuel + 1, blanks, gap, c =>
    match c.peek with
    | none => some (blanks, gap, c)
    | some a =>
      if isBlank a then
        match gap with
        | none => spacing margin fuel (blanks ++ [a]) none (c.advance 1)
        | some _ =>
          if a = '\t' ∧ c.column < margin then none
          else spacing margin fuel blanks gap (c.advance 1)
      else if isBreak a then
        let (text, c) := c.lineEnd
        match gap with
        | none => spacing margin fuel [] (some { first := text }) c
        | some g => spacing margin fuel blanks (some { g with others := g.others ++ text }) c
      else some (blanks, gap, c)

/-- What stands between two parts of a scalar. -/
def spacingText (blanks : List Char) : Option Gap → List Char
  | none => blanks
  | some g => g.fold

/-! ### Plain scalars -/

/-- The indicators that end a plain scalar in a flow collection. -/
def isFlowIndicator (c : Char) : Bool := c = ',' || c = '[' || c = ']' || c = '{' || c = '}'

/-- The run that a plain scalar begins or goes on with: up to a blank, a line end or an indicator that
ends it. In a flow collection, a colon must not touch an indicator. -/
def plainRun (flow : Bool) : List Char → Option (List Char)
  | [] => some []
  | a :: s =>
    let next := s.head?
    if endsWord (some a) then some []
    else if flow && a = ':' && next.any (fun b => isFlowIndicator b || b = '?') then none
    else if (a = ':' && endsWord next) || (flow && isFlowIndicator a) then some []
    else (plainRun flow s).map (a :: ·)

/-- The parts of a plain scalar; `between` stands before the next one. The answer tells whether the
scalar ends after a line end. -/
def plainFrom (flow : Bool) (margin : Nat) :
    Nat → List Char → List Char → Bool → Cursor → Option (List Char × Bool × Cursor)
  | 0, text, _, newLine, c => some (text, newLine, c)
  | fuel + 1, text, between, newLine, c =>
    if c.atDocumentMarker || c.isAt '#' then some (text, newLine, c)
    else do
      let run ← plainRun flow c.rest
      if run = [] then some (text, newLine, c)
      else
        let text := text ++ between ++ run
        let (blanks, gap, c) ← spacing margin (c.rest.length + 1) [] none (c.advance run.length)
        if blanks = [] ∧ gap.isNone then some (text, false, c)
        else if !flow && c.column < margin then some (text, gap.isSome, c)
        else plainFrom flow margin fuel text (spacingText blanks gap) gap.isSome c

/-- A plain scalar, and whether it ends after a line end. -/
def plain? (flow : Bool) (margin : Nat) (c : Cursor) : Option (List Char × Bool × Cursor) :=
  plainFrom flow margin (c.rest.length + 1) [] [] false c

/-! ### Quoted scalars -/

def hexValue? (c : Char) : Option Nat :=
  if c.isDigit then some (c.toNat - 48)
  else if 'a' ≤ c ∧ c ≤ 'f' then some (c.toNat - 87)
  else if 'A' ≤ c ∧ c ≤ 'F' then some (c.toNat - 55)
  else none

/-- The number that exactly `n` digits in base sixteen denote. -/
def hexNumber? (n : Nat) (s : List Char) : Option Nat :=
  if s.length < n then none
  else (s.take n).foldl (fun acc c => do return 16 * (← acc) + (← hexValue? c)) (some 0)

/-- The character of a code point, if there is one. -/
def charOf? (n : Nat) : Option Char :=
  if h : n.isValidChar then some (Char.ofNatAux n h) else none

/-- The character that an escape sequence stands for, from after its backslash. -/
def escape? (c : Cursor) : Option (Char × Cursor) := do
  let a ← c.peek
  let plain (n : Nat) : Option (Char × Cursor) := some (Char.ofNat n, c.advance 1)
  let coded (n : Nat) : Option (Char × Cursor) := do
    let code ← hexNumber? n (c.rest.drop 1)
    return (← charOf? code, c.advance (n + 1))
  match a with
  | '0' => plain 0
  | 'a' => plain 7
  | 'b' => plain 8
  | 't' | '\t' => plain 9
  | 'n' => plain 10
  | 'v' => plain 11
  | 'f' => plain 12
  | 'r' => plain 13
  | 'e' => plain 27
  | ' ' | '\"' | '/' | '\\' => plain a.toNat
  | 'N' => plain 0x85
  | '_' => plain 0xA0
  | 'L' => plain 0x2028
  | 'P' => plain 0x2029
  | 'x' => coded 2
  | 'u' => coded 4
  | 'U' => coded 8
  | _ => none

/-- One run of a quoted scalar without blanks, up to the closing quote, a blank or a line end. The
answer tells whether it ended at an escaped line end, which is read too. -/
def quotedRun (quote : Char) : Nat → Cursor → Option (List Char × Bool × Cursor)
  | 0, c => some ([], false, c)
  | fuel + 1, c =>
    let goOn (a : Char) (c : Cursor) : Option (List Char × Bool × Cursor) := do
      let (text, escaped, c) ← quotedRun quote fuel c
      return (a :: text, escaped, c)
    match c.peek with
    | none => some ([], false, c)
    | some a =>
      let next := c.ahead 1
      if endsWord (some a) then some ([], false, c)
      else if quote = '\'' && a = '\'' && next = some '\'' then goOn a (c.advance 2)
      else if a = quote then some ([], false, c)
      else if quote = '\"' && a = '\\' then
        if next.any isBreak then some ([], true, (c.advance 1).dropLineEnd)
        else do
          let (b, c) ← escape? (c.advance 1)
          goOn b c
      else goOn a (c.advance 1)

def quotedFrom (quote : Char) : Nat → List Char → Cursor → Option (List Char × Cursor)
  | 0, _, _ => none
  | fuel + 1, text, c =>
    if c.atDocumentMarker || c.peek.isNone then none
    else do
      let (run, escaped, c) ← quotedRun quote (c.rest.length + 1) c
      let text := text ++ run
      if c.isAt quote then some (text, c.advance 1)
      else
        let gap : Option Gap := if escaped then some {} else none
        let (blanks, gap, c) ← spacing 0 (c.rest.length + 1) [] gap c
        quotedFrom quote fuel (text ++ spacingText blanks gap) c

/-- A quoted scalar, from its opening quote. -/
def quoted? (quote : Char) (c : Cursor) : Option (List Char × Cursor) :=
  quotedFrom quote (c.rest.length + 1) [] (c.advance 1)

/-! ### Block scalars -/

/-- What becomes of the line ends after the last line of a block. -/
inductive Chomping where
  | strip
  | clip
  | keep
  deriving Repr, DecidableEq

/-- The header of a block, from after its indicator to the end of the line: the chomping, and the
indentation if it is given. -/
def blockHeader? (c : Cursor) : Option (Chomping × Option Nat × Cursor) := do
  let chomping (c : Cursor) : Chomping × Cursor :=
    if c.isAt '+' then (.keep, c.advance 1)
    else if c.isAt '-' then (.strip, c.advance 1)
    else (.clip, c)
  let indentation (c : Cursor) : Option (Option Nat × Cursor) :=
    match c.peek with
    | some a =>
      if a = '0' then none
      else if a.isDigit then some (some (a.toNat - 48), c.advance 1)
      else some (none, c)
    | none => some (none, c)
  let (first, c) := chomping c
  let (indent, c) ← indentation c
  let (second, c) := if first = .clip ∧ indent.isSome then chomping c else (first, c)
  let c := c.dropWhile isBlank
  let c := if c.isAt '#' then c.dropLine else c
  if endsLine c.peek then some (second, indent, c.dropLineEnd) else none

/-- Empty lines of a block, and the indentation of the line after them. Where the indentation is not
known it is that of the longest of these lines, but at least `least`. -/
def blockBreaks (least : Nat) :
    Nat → Option Nat → Nat → List Char → Cursor → Option (Nat × List Char × Cursor)
  | 0, _, _, _, _ => none
  | fuel + 1, indent, longest, breaks, c =>
    let c := match indent with
      | none => c.dropWhile (· = ' ')
      | some n => c.advance ((c.rest.take (n - c.column)).takeWhile (· = ' ')).length
    let longest := max longest c.column
    if c.isAt '\t' && indent.all (c.column < ·) then none
    else if c.peek.any isBreak then
      let (text, c) := c.lineEnd
      blockBreaks least fuel indent longest (breaks ++ text) c
    else some (indent.getD (max longest least), breaks, c)

/-- The lines of a block. `ending` is the end of the line before, `breaks` are the empty lines after
it, and `blank` tells whether that line began with a blank. -/
def blockLines (folded : Bool) (indent : Nat) :
    Nat → List Char → List Char → List Char → Bool → Cursor →
      Option (List Char × List Char × List Char × Cursor)
  | 0, _, _, _, _, _ => none
  | fuel + 1, text, ending, breaks, blank, c =>
    if c.column = indent ∧ c.peek.isSome then
      let starts := c.peek.any isBlank
      let joint :=
        if folded && ending.head? = some '\n' && !blank && !starts then
          if breaks = [] then [' '] else []
        else ending
      let (line, c) := c.takeWhile (!isBreak ·)
      let (ending, c) := c.lineEnd
      match blockBreaks indent (c.rest.length + 1) (some indent) 0 [] c with
      | none => none
      | some (_, after, c) =>
        blockLines folded indent fuel (text ++ joint ++ breaks ++ line) ending after starts c
    else some (text, ending, breaks, c)

/-- A block scalar, from its indicator; `outer` is the indentation of the block around it, if there is
one. -/
def block? (folded : Bool) (outer : Option Nat) (c : Cursor) : Option (List Char × Cursor) := do
  let (chomping, increment, c) ← blockHeader? (c.advance 1)
  let least := max (outer.elim 0 (· + 1)) 1
  let (indent, breaks, c) ←
    blockBreaks least (c.rest.length + 1) (increment.map (outer.getD 0 + ·)) 0 [] c
  let (text, ending, breaks, c) ← blockLines folded indent (c.rest.length + 1) [] [] breaks false c
  let text := if chomping = .strip then text else text ++ ending
  return (if chomping = .keep then text ++ breaks else text, c)

end Rollout.Yaml
