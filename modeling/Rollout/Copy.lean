import Rollout.Error
import Rollout.File.Tree

/-!
# Copying in chunks

A file is opened, and its content copied chunk by chunk, as it is read: each chunk is written, and only
then reported. The first write that fails ends the copy.

* `Copy.openSource` opens what is to be copied.
* `Copy.deliver` is the loop over the chunks; `Copy.run` starts it with a first report of nothing.
* `Copy.Outcome.followed` is what is done last, if nothing failed before.
* `Copy.chunks` cuts a content into full reads.
-/

namespace Rollout.Copy

/-- The longest read, in bytes. -/
def chunkSize : Nat := 32768

/-- What a copy left behind: the state of the destination, the reports as bytes sent of bytes in all,
and the failure that ended it. -/
structure Outcome (σ ε : Type) where
  state : σ
  reports : List (Nat × Nat)
  failure : Option ε

variable {σ δ ε : Type}

/-- What an action on the destination replied, with its failure told in other words. -/
def told (f : δ → ε) (r : Option δ × σ) : Option ε × σ := (r.1.map f, r.2)

/-- Writes chunks, `sent` bytes of `total` having been written before. -/
def deliver (write : List UInt8 → σ → Option ε × σ) (total : Nat) :
    Nat → List (List UInt8) → σ → Outcome σ ε
  | _, [], s => ⟨s, [], none⟩
  | sent, chunk :: chunks, s =>
    match write chunk s with
    | (some e, s) => ⟨s, [], some e⟩
    | (none, s) =>
      let sent := sent + chunk.length
      let o := deliver write total sent chunks s
      { o with reports := (sent, total) :: o.reports }

/-- Writes all chunks of a content of `total` bytes. -/
def run (write : List UInt8 → σ → Option ε × σ) (total : Nat) (chunks : List (List UInt8)) (s : σ) :
    Outcome σ ε :=
  let o := deliver write total 0 chunks s
  { o with reports := (0, total) :: o.reports }

/-- What is done after a copy that did not fail; it may fail itself. -/
def Outcome.followed (o : Outcome σ ε) (last : σ → Option ε × σ) : Outcome σ ε :=
  match o.failure with
  | some _ => o
  | none => { o with state := (last o.state).2, failure := (last o.state).1 }

/-- A content cut after every `size` bytes. -/
def chunksOf (size : Nat) : Nat → List UInt8 → List (List UInt8)
  | 0, _ => []
  | fuel + 1, s => if s = [] then [] else s.take size :: chunksOf size fuel (s.drop size)

/-- A content in full reads. -/
def chunks (s : List UInt8) : List (List UInt8) := chunksOf chunkSize (s.length / chunkSize + 1) s

/-- Opens the file that is to be copied, and asks for its size. -/
def openSource (t : Tree) (source : String) : Except DeployError (Location × Node) :=
  match t.openFile source.toList with
  | .error f => .error (.filesystem ("Failed to open local file: " ++ f.message) source)
  | .ok (place, node) =>
    match t.refusal? place .measure with
    | some f => .error (.filesystem ("Failed to stat local file: " ++ f.message) source)
    | none => .ok (place, node)

/-- How it is told that a source could not be read to its end. -/
def readFault (source : String) (f : FileFault) : DeployError :=
  .filesystem ("Failed to read local file: " ++ f.message) source

end Rollout.Copy
