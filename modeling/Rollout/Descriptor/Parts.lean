import Rollout.Descriptor

/-!
# Descriptors in parts

The records of a descriptor while they are read, member by member. The host and the user of a server
must be given, everything else has a default.
-/

namespace Rollout

/-- A package of which some members have been read. -/
structure PackageParts where
  enable : Option Bool := none
  order : Option Int64 := none
  commands : Option (List String) := none
  values : Option (List String) := none

/-- A server of which some members have been read. -/
structure ServerParts where
  host : Option String := none
  port : Option UInt16 := none
  username : Option String := none
  password : Option String := none
  packages : Option (List Package) := none

/-- A descriptor of which some members have been read. -/
structure DescriptorParts where
  globals : Option (List String) := none
  servers : Option (List Server) := none

def PackageParts.finish (p : PackageParts) : Package where
  enable := p.enable.getD false
  order := p.order.getD 0
  commands := p.commands.getD []
  values := p.values.getD []

/-- A server with what it leaves out, or the name of the first member that it must not. -/
def ServerParts.finish (s : ServerParts) : Except String Server := do
  let host ← s.host.elim (.error "host") .ok
  let username ← s.username.elim (.error "username") .ok
  return { host, username, port := s.port.getD 22, password := s.password.getD "",
           packages := s.packages.getD [] }

def DescriptorParts.finish (d : DescriptorParts) : Descriptor where
  globals := d.globals.getD []
  servers := d.servers.getD []

end Rollout
