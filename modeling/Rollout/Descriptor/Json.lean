import Rollout.Descriptor.Parts
import Rollout.Json.Decoder

/-!
# Descriptors in JSON

The three records of a descriptor, member by member. A member may be given once. The variables of a
package may be `null`.
-/

namespace Rollout

namespace Json

/-- A member that may be left out. -/
def optional {β γ : Type} (name : String) (get : β → Option γ) (set : β → γ → β) (d : Decoder γ) :
    Member β where
  name := name
  present x := (get x).isSome
  read x c := do
    let (y, c) ← d c
    .ok (set x y, c)
  absent := some

/-- A member that must be given. -/
def required {β γ : Type} (name : String) (get : β → Option γ) (set : β → γ → β) (d : Decoder γ) :
    Member β :=
  { optional name get set d with absent := fun _ => none }

def package : Record PackageParts Package where
  wanted := "struct Package"
  members := [
    optional "enable" (·.enable) (fun p x => { p with enable := some x }) bool,
    optional "order" (·.order) (fun p x => { p with order := some x }) int64,
    optional "commands" (·.commands) (fun p x => { p with commands := some x }) (list text),
    optional "variables" (·.values) (fun p x => { p with values := some x })
      (listOrNull text)]
  empty := {}
  finish p := .ok p.finish

def server : Record ServerParts Server where
  wanted := "struct Server"
  members := [
    required "host" (·.host) (fun s x => { s with host := some x }) text,
    optional "port" (·.port) (fun s x => { s with port := some x }) port,
    required "username" (·.username) (fun s x => { s with username := some x }) text,
    optional "password" (·.password) (fun s x => { s with password := some x }) text,
    optional "packages" (·.packages) (fun s x => { s with packages := some x })
      (list package.decode)]
  empty := {}
  finish s := s.finish.mapError .missingField

def descriptor : Record DescriptorParts Descriptor where
  wanted := "struct Descriptor"
  members := [
    optional "globals" (·.globals) (fun d x => { d with globals := some x }) (list text),
    optional "servers" (·.servers) (fun d x => { d with servers := some x }) (list server.decode)]
  empty := {}
  finish d := .ok d.finish

end Json

/-- The descriptor written in a JSON text. -/
def Descriptor.ofJson (s : String) : Except Json.Failure Descriptor :=
  Json.decodeText Json.descriptor.decode s.toList

end Rollout
