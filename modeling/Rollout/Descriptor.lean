/-!
# Deployment descriptors

A descriptor lists servers, each with packages of command templates, and texts shared by all of them.
What a descriptor leaves out takes the values that the structures give as defaults; `Server.named` and
`Package.ranked` are the starting points for a descriptor written in code.
-/

namespace Rollout

/-- A group of command templates with the values their placeholders stand for. Only enabled
packages are run, in ascending order. -/
structure Package where
  enable : Bool := false
  order : Int64 := 0
  commands : List String := []
  values : List String := []
  deriving Repr, DecidableEq, Inhabited

/-- A machine to deploy to, and the packages to apply there. -/
structure Server where
  host : String
  port : UInt16 := 22
  username : String
  password : String := ""
  packages : List Package := []
  deriving Repr, DecidableEq, Inhabited

/-- Servers, and the texts that the values of packages may refer to by number. -/
structure Descriptor where
  globals : List String := []
  servers : List Server := []
  deriving Repr, DecidableEq, Inhabited

namespace Package

/-- An enabled package of the given order. -/
def ranked (order : Int64) : Package := { enable := true, order }

def disabled (p : Package) : Package := { p with enable := false }

def withCommand (p : Package) (command : String) : Package :=
  { p with commands := p.commands ++ [command] }

def withValue (p : Package) (value : String) : Package :=
  { p with values := p.values ++ [value] }

end Package

namespace Server

def named (host username : String) : Server := { host, username }

def withPort (s : Server) (port : UInt16) : Server := { s with port }

def withPassword (s : Server) (password : String) : Server := { s with password }

def withPackage (s : Server) (p : Package) : Server := { s with packages := s.packages ++ [p] }

end Server

end Rollout
