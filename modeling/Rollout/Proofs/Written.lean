import Mathlib.Data.List.Forall2
import Rollout.Descriptor
import Rollout.Text.Split

/-!
# Descriptors as JSON texts

How a descriptor may be written: without blanks, field by field in the order of its records. A field
may be left out where it has the value that it gets if it is, in each object on its own, and `null` may
stand for no variables. Nothing here refers to how texts are read.

* `Json.quoted`: a string with its escapes.
* `Writing.descriptor`: all texts of a descriptor. `Writing.exists_descriptor`: there is one.
-/

namespace Rollout.Json

/-! ## Values -/

/-- A character in a string. A control character without a letter of its own is written by its code
point. -/
def escaped (a : Char) : List Char :=
  if a = '\"' then ['\\', '\"']
  else if a = '\\' then ['\\', '\\']
  else if a = '\x08' then ['\\', 'b']
  else if a = '\x0c' then ['\\', 'f']
  else if a = '\n' then ['\\', 'n']
  else if a = '\r' then ['\\', 'r']
  else if a = '\t' then ['\\', 't']
  else if a.toNat < 0x20 then
    ['\\', 'u', '0', '0', Nat.digitChar (a.toNat / 16), Nat.digitChar (a.toNat % 16)]
  else [a]

/-- A string in its quotes. -/
def quoted (s : List Char) : List Char := '\"' :: (s.flatMap escaped ++ ['\"'])

/-- Which texts a value may be written as. -/
abbrev Writing (α : Type) := α → List Char → Prop

namespace Writing

variable {α : Type}

def text : Writing String := fun x s => s = quoted x.toList

def bool : Writing Bool := fun x s => s = (if x then "true" else "false").toList

def port : Writing UInt16 := fun x s => s = (toString x.toNat).toList

def int64 : Writing Int64 := fun x s => s = (toString x.toInt).toList

theorem text_self (x : String) : text x (quoted x.toList) := rfl

theorem bool_self (x : Bool) : bool x (if x then "true" else "false").toList := rfl

theorem port_self (x : UInt16) : port x (toString x.toNat).toList := rfl

theorem int64_self (x : Int64) : int64 x (toString x.toInt).toList := rfl

/-- Values one after another, each of them as it may be written. -/
def list (w : Writing α) : Writing (List α) := fun xs s =>
  ∃ parts, List.Forall₂ w xs parts ∧ s = '[' :: (Text.join [','] parts ++ [']'])

/-- The same, and `null` for no values. -/
def listOrNull (w : Writing α) : Writing (List α) := fun xs s =>
  list w xs s ∨ xs = [] ∧ s = "null".toList

end Writing

/-! ## Objects -/

/-- A field with the text of its value. -/
def field (name : String) (s : List Char) : List Char := quoted name.toList ++ ':' :: s

def object (fields : List (List Char)) : List Char := '{' :: (Text.join [','] fields ++ ['}'])

/-- A field that is always written. -/
inductive Required {α : Type} (name : String) (w : Writing α) (x : α) : List (List Char) → Prop
  | given {s : List Char} : w x s → Required name w x [field name s]

/-- A field that may be left out where it has the usual value. -/
inductive Optional {α : Type} (name : String) (w : Writing α) (usual x : α) : List (List Char) → Prop
  | given {s : List Char} : w x s → Optional name w usual x [field name s]
  | elided : x = usual → Optional name w usual x []

/-! ## The records of a descriptor -/

namespace Writing

inductive package (p : Package) : List Char → Prop
  | intro {enable order commands values : List (List Char)} :
      Optional "enable" bool false p.enable enable →
      Optional "order" int64 0 p.order order →
      Optional "commands" (list text) [] p.commands commands →
      Optional "variables" (listOrNull text) [] p.values values →
      package p (object (enable ++ order ++ commands ++ values))

inductive server (m : Server) : List Char → Prop
  | intro {host port' username password packages : List (List Char)} :
      Required "host" text m.host host →
      Optional "port" port 22 m.port port' →
      Required "username" text m.username username →
      Optional "password" text "" m.password password →
      Optional "packages" (list package) [] m.packages packages →
      server m (object (host ++ port' ++ username ++ password ++ packages))

inductive descriptor (d : Descriptor) : List Char → Prop
  | intro {globals servers : List (List Char)} :
      Optional "globals" (list text) [] d.globals globals →
      Optional "servers" (list server) [] d.servers servers →
      descriptor d (object (globals ++ servers))

variable {α : Type} {w : Writing α}

theorem exists_list (h : ∀ x, ∃ s, w x s) (xs : List α) : ∃ s, list w xs s := by
  have hparts : ∃ parts, List.Forall₂ w xs parts := by
    induction xs with
    | nil => exact ⟨[], .nil⟩
    | cons x xs ih =>
      obtain ⟨s, hs⟩ := h x
      obtain ⟨parts, hparts⟩ := ih
      exact ⟨s :: parts, .cons hs hparts⟩
  obtain ⟨parts, hparts⟩ := hparts
  exact ⟨_, parts, hparts, rfl⟩

theorem exists_package (p : Package) : ∃ s, package p s := by
  obtain ⟨commands, hcommands⟩ := exists_list (fun x => ⟨_, text_self x⟩) p.commands
  obtain ⟨values, hvalues⟩ := exists_list (fun x => ⟨_, text_self x⟩) p.values
  exact ⟨_, .intro (.given (bool_self _)) (.given (int64_self _)) (.given hcommands)
    (.given (.inl hvalues))⟩

theorem exists_server (m : Server) : ∃ s, server m s := by
  obtain ⟨packages, hpackages⟩ := exists_list exists_package m.packages
  exact ⟨_, .intro (.given (text_self _)) (.given (port_self _)) (.given (text_self _))
    (.given (text_self _)) (.given hpackages)⟩

/-- Every descriptor can be written. -/
theorem exists_descriptor (d : Descriptor) : ∃ s, descriptor d s := by
  obtain ⟨globals, hglobals⟩ := exists_list (fun x => ⟨_, text_self x⟩) d.globals
  obtain ⟨servers, hservers⟩ := exists_list exists_server d.servers
  exact ⟨_, .intro (.given hglobals) (.given hservers)⟩

end Writing

end Rollout.Json
