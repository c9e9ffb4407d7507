import Rollout.Descriptor.Parts
import Rollout.Yaml.Decoder

/-!
# Descriptors in YAML

The three records of a descriptor, member by member. A member may be given once. The variables of a
package may be null.
-/

namespace Rollout

namespace Yaml

def package : Decoder Package := record [
    .of "enable" (·.enable) (fun p x => { p with enable := some x }) bool,
    .of "order" (·.order) (fun p x => { p with order := some x }) int64,
    .of "commands" (·.commands) (fun p x => { p with commands := some x }) (list text),
    .of "variables" (·.values) (fun p x => { p with values := some x }) (listOrNull text)]
  {} fun (p : PackageParts) => some p.finish

def server : Decoder Server := record [
    .of "host" (·.host) (fun s x => { s with host := some x }) text,
    .of "port" (·.port) (fun s x => { s with port := some x }) port,
    .of "username" (·.username) (fun s x => { s with username := some x }) text,
    .of "password" (·.password) (fun s x => { s with password := some x }) text,
    .of "packages" (·.packages) (fun s x => { s with packages := some x }) (list package)]
  {} fun (s : ServerParts) => s.finish.toOption

def descriptor : Decoder Descriptor := record [
    .of "globals" (·.globals) (fun d x => { d with globals := some x }) (list text),
    .of "servers" (·.servers) (fun d x => { d with servers := some x }) (list server)]
  {} fun (d : DescriptorParts) => some d.finish

end Yaml

/-- The descriptor written in a YAML text. -/
def Descriptor.ofYaml? (s : String) : Option Descriptor :=
  Yaml.decodeText? Yaml.descriptor s.toList

end Rollout
