import Rollout.Yaml.Token

/-!
# The events of YAML

The tokens of a text say where its nodes begin and end; events are those beginnings and ends in order,
with the missing keys and values filled in as empty scalars. What is still to come is a stack of
goals: each takes some tokens, gives some events, and leaves goals in its place.

* `documents?` gives the events of every document of a text.
-/

namespace Rollout.Yaml

/-- What stands before a node. -/
structure Properties where
  anchor : Option (List Char) := none
  tag : Option (List Char) := none
  deriving Repr, DecidableEq

inductive Event where
  | alias (name : List Char)
  | scalar (p : Properties) (text : List Char) (style : ScalarStyle)
  | openSequence (p : Properties)
  | closeSequence
  | openMapping (p : Properties)
  | closeMapping
  deriving Repr, DecidableEq

/-- The scalar that stands for nothing. -/
def Event.empty : Event := .scalar {} [] .plain

/-- What is still to come. -/
inductive Goal where
  /-- A node, in a block or not; as the value of a key it may be a sequence that is not indented. -/
  | node (block indentless : Bool)
  | blockEntries
  | indentlessEntries
  | blockKey
  | blockValue
  | flowEntries (first : Bool)
  /-- The key of a single pair in a flow sequence. -/
  | pairKey
  | pairValue
  | pairEnd
  | flowKey (first : Bool)
  | flowValue
  /-- The value of a key that has none. -/
  | noValue
  deriving Repr, DecidableEq

/-- The handles of tags, with what they mean. -/
abbrev Handles := List (List Char × List Char)

/-- The handles that need no directive. -/
def Handles.standard : Handles :=
  [(['!'], ['!']),
    (['!', '!'], ['t', 'a', 'g', ':', 'y', 'a', 'm', 'l', '.', 'o', 'r', 'g', ',', '2', '0', '0',
      '2', ':'])]

/-- A tag in full. -/
def Handles.resolve? (hs : Handles) (handle suffix : List Char) : Option (List Char) :=
  if handle = [] then some suffix
  else (hs.find? (·.1 = handle)).map (·.2 ++ suffix)

/-- The anchor and the tag before a node, in either order. -/
def properties? (hs : Handles) : List Token → Option (Properties × List Token)
  | .anchor a :: .tag h s :: ts => do return ({ anchor := a, tag := ← hs.resolve? h s }, ts)
  | .tag h s :: .anchor a :: ts => do return ({ anchor := a, tag := ← hs.resolve? h s }, ts)
  | .anchor a :: ts => some ({ anchor := a }, ts)
  | .tag h s :: ts => do return ({ tag := ← hs.resolve? h s }, ts)
  | ts => some ({}, ts)

/-- What a goal takes, gives and leaves. -/
abbrev Progress := List Event × List Goal × List Token

def node? (hs : Handles) (block indentless : Bool) (ts : List Token) : Option Progress :=
  match ts with
  | .alias a :: ts => some ([.alias a], [], ts)
  | ts => do
    let (p, ts) ← properties? hs ts
    match ts with
    | .scalar s style :: ts => return ([.scalar p s style], [], ts)
    | .flowSequenceStart :: ts => return ([.openSequence p], [.flowEntries true], ts)
    | .flowMappingStart :: ts => return ([.openMapping p], [.flowKey true], ts)
    | t :: rest =>
      if indentless ∧ t = .blockEntry then return ([.openSequence p], [.indentlessEntries], ts)
      else if block ∧ t = .blockSequenceStart then
        return ([.openSequence p], [.blockEntries], rest)
      else if block ∧ t = .blockMappingStart then return ([.openMapping p], [.blockKey], rest)
      else if p ≠ {} then return ([.scalar p [] .plain], [], ts)
      else none
    | [] => none

/-- A node followed by `goal`, or nothing if one of the tokens `ends` comes next. -/
def nodeUnless (ends : List Token) (block indentless : Bool) (goal : Goal) (ts : List Token) :
    Progress :=
  if ts.head?.any ends.contains then ([.empty], [goal], ts)
  else ([], [.node block indentless, goal], ts)

def flowEntries? (first : Bool) (ts : List Token) : Option Progress :=
  let entry : List Token → Option Progress
    | .flowSequenceEnd :: ts => some ([.closeSequence], [], ts)
    | .key :: ts => some ([.openMapping {}], [.pairKey, .flowEntries false], ts)
    | ts => some ([], [.node false false, .flowEntries false], ts)
  match ts with
  | .flowSequenceEnd :: ts => some ([.closeSequence], [], ts)
  | .flowEntry :: rest => entry (if first then ts else rest)
  | ts => if first then entry ts else none

def flowKey? (first : Bool) (ts : List Token) : Option Progress :=
  let entry : List Token → Option Progress
    | .flowMappingEnd :: ts => some ([.closeMapping], [], ts)
    | .key :: ts =>
      some (nodeUnless [.value, .flowEntry, .flowMappingEnd] false false .flowValue ts)
    | ts => some ([], [.node false false, .noValue], ts)
  match ts with
  | .flowMappingEnd :: ts => some ([.closeMapping], [], ts)
  | .flowEntry :: rest => entry (if first then ts else rest)
  | ts => if first then entry ts else none

/-- One goal. -/
def Goal.step? (hs : Handles) (g : Goal) (ts : List Token) : Option Progress :=
  match g, ts with
  | .node block indentless, ts => node? hs block indentless ts
  | .blockEntries, .blockEntry :: ts =>
    some (nodeUnless [.blockEntry, .blockEnd] true false .blockEntries ts)
  | .blockEntries, .blockEnd :: ts => some ([.closeSequence], [], ts)
  | .blockEntries, _ => none
  | .indentlessEntries, .blockEntry :: ts =>
    some (nodeUnless [.blockEntry, .key, .value, .blockEnd] true false .indentlessEntries ts)
  | .indentlessEntries, ts => some ([.closeSequence], [], ts)
  | .blockKey, .key :: ts => some (nodeUnless [.key, .value, .blockEnd] true true .blockValue ts)
  | .blockKey, .blockEnd :: ts => some ([.closeMapping], [], ts)
  | .blockKey, _ => none
  | .blockValue, .value :: ts => some (nodeUnless [.key, .value, .blockEnd] true true .blockKey ts)
  | .blockValue, ts => some ([.empty], [.blockKey], ts)
  | .flowEntries first, ts => flowEntries? first ts
  | .pairKey, t :: ts =>
    if [Token.value, .flowEntry, .flowSequenceEnd].contains t then some ([.empty], [.pairValue], ts)
    else some ([], [.node false false, .pairValue], t :: ts)
  | .pairKey, [] => none
  | .pairValue, .value :: ts =>
    some (nodeUnless [.flowEntry, .flowSequenceEnd] false false .pairEnd ts)
  | .pairValue, ts => some ([.empty], [.pairEnd], ts)
  | .pairEnd, ts => some ([.closeMapping], [], ts)
  | .flowKey first, ts => flowKey? first ts
  | .flowValue, .value :: ts =>
    some (nodeUnless [.flowEntry, .flowMappingEnd] false false (.flowKey false) ts)
  | .flowValue, ts => some ([.empty], [.flowKey false], ts)
  | .noValue, ts => some ([.empty], [.flowKey false], ts)

/-- The events of all goals on a stack, and the tokens after them. -/
def reach? (hs : Handles) : Nat → List Goal → List Token → Option (List Event × List Token)
  | _, [], ts => some ([], ts)
  | 0, _ :: _, _ => none
  | fuel + 1, g :: goals, ts => do
    let (es, sub, ts) ← g.step? hs ts
    let (rest, ts) ← reach? hs fuel (sub ++ goals) ts
    return (es ++ rest, ts)

/-- How many goals a stack may pass before a token is taken: each token leaves two, and an entry may
be a pair. -/
def goalsPerToken : Nat := 8

/-- The node that a document holds. -/
def content? (hs : Handles) (ts : List Token) : Option (List Event × List Token) :=
  reach? hs (goalsPerToken * (ts.length + 1)) [.node true false] ts

/-- The directives before a document, with the handles they declare. A version may be given once, and
so may each handle. -/
def directives? : Bool → Handles → List Token → Option (Handles × List Token)
  | versioned, hs, .version major minor :: ts =>
    if versioned ∨ major ≠ 1 ∨ (minor ≠ 1 ∧ minor ≠ 2) then none else directives? true hs ts
  | versioned, hs, .tagDirective handle meaning :: ts =>
    if hs.any (·.1 = handle) then none else directives? versioned (hs ++ [(handle, meaning)]) ts
  | _, hs, ts => some (hs ++ Handles.standard, ts)

/-- Whether a token cannot begin the content of a document. -/
def Token.endsDocument : Token → Bool
  | .version .. | .tagDirective .. | .documentStart | .documentEnd | .streamEnd => true
  | _ => false

/-- A document with its directives and its start. -/
def explicit? (ts : List Token) : Option (List Event × List Token) := do
  let (hs, ts) ← directives? false [] ts
  match ts with
  | .documentStart :: ts =>
    if ts.head?.all Token.endsDocument then return ([.empty], ts) else content? hs ts
  | _ => none

def dropDocumentEnds : List Token → List Token
  | .documentEnd :: ts => dropDocumentEnds ts
  | ts => ts

/-- The documents after the first. -/
def others? : Nat → List Token → Option (List (List Event))
  | 0, _ => none
  | fuel + 1, ts =>
    match dropDocumentEnds ts with
    | [.streamEnd] => some []
    | ts => do
      let (es, ts) ← explicit? ts
      return es :: (← others? fuel ts)

/-- The documents of a text, by its tokens. The first one needs no start. -/
def documents? (ts : List Token) : Option (List (List Event)) :=
  match ts with
  | [.streamEnd] => some []
  | t :: _ => do
    let bare := !t.endsDocument || t = .documentEnd
    let (es, ts) ← if bare then content? Handles.standard ts else explicit? ts
    return es :: (← others? (ts.length + 1) ts)
  | [] => none

end Rollout.Yaml
