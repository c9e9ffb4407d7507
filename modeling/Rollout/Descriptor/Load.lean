import Rollout.Descriptor.Json
import Rollout.Descriptor.Yaml
import Rollout.Error
import Rollout.File.Tree

/-!
# Descriptors from texts

A text that is no descriptor is a failure of its own kind, with a hint to what was expected. A file is
YAML if its name says so, and JSON otherwise. What is wrong with a YAML text is told by its reader, in
words of its own.
-/

namespace Rollout

/-- The formats of a descriptor. -/
inductive Format where
  | json
  | yaml
  deriving Repr, DecidableEq

namespace Descriptor

/-- A descriptor from a JSON text. -/
def parseJson (s : String) : Except DeployError Descriptor :=
  (ofJson s).mapError fun f =>
    .descriptor ("Invalid descriptor JSON: " ++ f.message)
      (some "Expected top-level \"globals\" and \"servers\" keys")

/-- What is said to be wrong with texts that are no YAML descriptors, where that is known. -/
abbrev YamlReport := String → Option String

/-- A descriptor from a YAML text. -/
def parseYaml (s : String) (report : YamlReport := fun _ => none) : Except DeployError Descriptor :=
  (ofYaml? s).elim
    (.error (.descriptor ("Invalid descriptor YAML" ++ (report s).elim "" (": " ++ ·))
      (some "Expected top-level 'globals' and 'servers' keys")))
    .ok

/-- A descriptor from a text of either format. -/
def parse (s : String) (format : Format) (report : YamlReport := fun _ => none) :
    Except DeployError Descriptor :=
  match format with
  | .json => parseJson s
  | .yaml => parseYaml s report

/-- The extensions of YAML files. -/
def yamlExtensions : List (List Char) := [['y', 'a', 'm', 'l'], ['y', 'm', 'l']]

/-- The format of a file, by its name. -/
def formatOf (path : String) : Format :=
  if (Path.extension? path.toList).any fun e => yamlExtensions.contains (e.map Char.toLower) then
    .yaml
  else .json

/-- The descriptor in a file. -/
def load (t : Tree) (path : String) (report : YamlReport := fun _ => none) :
    Except DeployError Descriptor :=
  match t.readText path.toList with
  | .error f => .error (.io ("Failed to read descriptor: " ++ f.message) (some path))
  | .ok s => parse s (formatOf path) report

end Descriptor

end Rollout
