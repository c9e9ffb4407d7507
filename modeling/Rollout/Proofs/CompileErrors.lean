import Rollout.Proofs.Substitution

/-!
# What a compile error says

An error names a server, an enabled package of it, and what is wrong there. What it says is true, but for
one thing: a placeholder may be written in the digits of any script, and only ASCII digits are read as a
number. So a placeholder in other digits is reported as one without a variable, also where there is a
variable of its number.

* `Text.Spells` is the number that digits of any script stand for.
* `PackageFault.Tells` says what is true of a package for which something is reported.
* `compile_error_tells`: every error tells what is true of a package that it names.
  `digits_of_another_script` is a placeholder that has a variable, and is reported.
-/

namespace Rollout

/-! ## Numbers in any script -/

namespace Text

/-- Whether digits, each by its value in its script, are those of a number in decimal. -/
def Spells (digits : List Char) (n : Nat) : Prop :=
  ∃ values, List.Forall₂ (fun ch value => digitValue? ch = some value) digits values ∧
    n = Nat.ofDigits 10 values.reverse

variable {digits : List Char} {n : Nat}

theorem exists_digitValue? {ch : Char} (h : isDigit ch = true) :
    ∃ value, digitValue? ch = some value := by
  rw [isDigit, List.any_eq_true] at h
  rw [← Option.isSome_iff_exists, digitValue?, Option.isSome_map, List.find?_isSome]
  exact h

theorem digitValue?_of_ascii {ch : Char} (h : isAsciiDigit ch = true) :
    digitValue? ch = some (ch.toNat - '0'.toNat) := by
  have h0 : '0'.toNat = 0x30 := rfl
  have h9 : '9'.toNat = 0x39 := rfl
  simp only [isAsciiDigit, Bool.and_eq_true, decide_eq_true_eq] at h
  -- The ASCII digits are the first run.
  have hzeros : zeros = 0x30 :: zeros.tail := rfl
  have hrun : (decide (0x30 ≤ ch.toNat) && decide (ch.toNat < 0x30 + 10)) = true := by
    simp only [Bool.and_eq_true, decide_eq_true_eq]
    omega
  rw [digitValue?, hzeros, List.find?_cons, hrun, Option.map_some, h0]

/-- Digits of any script spell a number. -/
theorem exists_spells (h : ∀ ch ∈ digits, isDigit ch = true) : ∃ n, Spells digits n := by
  have hvalues : ∃ values, List.Forall₂ (fun ch value => digitValue? ch = some value) digits
      values := by
    induction digits with
    | nil => exact ⟨[], .nil⟩
    | cons ch digits ih =>
      obtain ⟨hch, hdigits⟩ := List.forall_mem_cons.1 h
      obtain ⟨value, hvalue⟩ := exists_digitValue? hch
      obtain ⟨values, hvalues⟩ := ih hdigits
      exact ⟨value :: values, .cons hvalue hvalues⟩
  obtain ⟨values, hvalues⟩ := hvalues
  exact ⟨_, values, hvalues, rfl⟩

/-- ASCII digits denote the number that they spell. -/
theorem Spells.denotes (h : Spells digits n) (hne : digits ≠ [])
    (hascii : ∀ ch ∈ digits, isAsciiDigit ch = true) : Denotes digits n := by
  obtain ⟨values, hvalues, rfl⟩ := h
  have heq : values = digits.map fun ch => ch.toNat - '0'.toNat := by
    clear hne
    induction hvalues with
    | nil => rfl
    | cons hvalue _ ih =>
      obtain ⟨hch, hdigits⟩ := List.forall_mem_cons.1 hascii
      rw [digitValue?_of_ascii hch] at hvalue
      rw [List.map_cons, ← ih hdigits, Option.some.inj hvalue]
  refine ⟨hne, hascii, ?_⟩
  rw [heq, List.map_reverse]

end Text

/-! ## What is reported -/

/-- What is true of a package for which something is reported. -/
inductive PackageFault.Tells (globals : List String) (p : Package) : PackageFault → Prop
  /-- One of its values begins like a reference, and does not go on with a number. -/
  | malformedGlobal {entry rest} : entry ∈ p.values → entry.toList = globalWord ++ rest →
      ¬(rest ≠ [] ∧ ∀ ch ∈ rest, Text.isAsciiDigit ch = true) → Tells globals p (.malformedGlobal entry)
  /-- One of its values refers to a global that does not exist. The number that is reported is cut to 64
  bits, which makes no difference where the globals can be counted in as many. -/
  | globalOutOfRange {entry digits n index} : entry ∈ p.values →
      entry.toList = globalWord ++ digits → Text.Denotes digits n → globals.length ≤ n →
      index = min n Word.greatest64 →
      (globals.length ≤ Word.greatest64 → globals.length ≤ index) →
      Tells globals p (.globalOutOfRange index globals.length)
  /-- A placeholder stands in one of its commands; and there is no variable of its number, or its digits
  are not all ASCII. -/
  | placeholderOutOfRange {command digits n} : command ∈ p.commands → Template.IsSlot digits →
      (Template.Segment.slot digits).write <:+: command.toList → Text.Spells digits n →
      p.values.length ≤ n ∨ (∃ ch ∈ digits, Text.isAsciiDigit ch = false) →
      Tells globals p (.placeholderOutOfRange command
        (String.ofList (Template.Segment.slot digits).write) p.values.length)

namespace Template

/-- The placeholders that are read stand in the template. -/
theorem stands_of_mem_slots {s digits : List Char} (h : digits ∈ slots (segments s)) :
    IsSlot digits ∧ (Segment.slot digits).write <:+: s := by
  have hd : (division s).Divides s := Division.divides_iff.2 rfl
  rw [hd.segments_eq, Division.slots_segments, List.mem_map] at h
  obtain ⟨part, hpart, rfl⟩ := h
  refine ⟨hd.slot part hpart, ?_⟩
  obtain ⟨before, after, hparts⟩ := List.append_of_mem hpart
  have hs := hd.write
  rw [Division.write, hparts, List.flatMap_append, List.flatMap_cons] at hs
  refine ⟨before.flatMap (fun part => part.1 ++ (Segment.slot part.2).write) ++ part.1,
    after.flatMap (fun part => part.1 ++ (Segment.slot part.2).write) ++ (division s).rest, ?_⟩
  simpa using hs

end Template

namespace Package

variable {globals : List String} {p : Package} {f : PackageFault}

/-- Digits that have the number of no value spell a number that is too great, or are not all ASCII. -/
theorem unfilled_cases {digits : List Char} {n count : Nat} (hne : digits ≠ [])
    (hn : Text.Spells digits n) (h : ∀ n, Text.Denotes digits n → count ≤ n) :
    count ≤ n ∨ ∃ ch ∈ digits, Text.isAsciiDigit ch = false := by
  by_cases hascii : ∀ ch ∈ digits, Text.isAsciiDigit ch = true
  · exact .inl (h n (hn.denotes hne hascii))
  · push Not at hascii
    obtain ⟨ch, hch, hf⟩ := hascii
    exact .inr ⟨ch, hch, by simpa using hf⟩

/-- What is wrong at a place in a package is told truly. -/
theorem tells_of_faulty {spot : Spot} (hspot : spot ∈ p.spots) (h : spot.Faulty globals f) :
    f.Tells globals p := by
  rcases Descriptor.mem_spots.1 hspot with ⟨entry, he, rfl⟩ | ⟨command, hc, digits, hd, rfl⟩
  · cases h with
    | @malformed _ rest hrest hnone =>
      refine .malformedGlobal he hrest fun ⟨hne, hascii⟩ => ?_
      exact hnone _ ⟨hne, hascii, rfl⟩
    | beyond hdigits hn hle =>
      refine .globalOutOfRange he hdigits hn hle rfl fun hcount => ?_
      exact Nat.le_min.2 ⟨hle, hcount⟩
  · cases h with
    | empty hnone =>
      obtain ⟨hslot, hinfix⟩ := Template.stands_of_mem_slots hd
      obtain ⟨n, hn⟩ := Text.exists_spells hslot.2
      exact .placeholderOutOfRange hc hslot hinfix hn (unfilled_cases hslot.1 hn hnone)

end Package

namespace Descriptor

/-- **Compile errors tell what is true.** An error is about an enabled package of a server of that host,
at the place in its declaration that is given, and what it says of that package is true: of a value that
is no proper reference, of a reference to a global that does not exist, or of a placeholder in one of its
commands, by the number of its variables. There is no variable of the placeholder's number, unless that
is written in other than ASCII digits. -/
theorem compile_error_tells {d : Descriptor} {e : CompileError} (h : d.compile = .error e) :
    ∃ s ∈ d.servers, e.host = s.host ∧ ∃ p, s.packages[e.package]? = some p ∧ p.enable = true ∧
      e.fault.Tells d.globals p := by
  obtain ⟨before, a, after, hsites, -, hhost, hplace, hfault⟩ := compile_error.1 h
  have ha : a ∈ d.sites := by
    rw [hsites]
    exact List.mem_append_right before List.mem_cons_self
  obtain ⟨s, hs, p, place, hq, spot, hspot, rfl⟩ := mem_sites.1 ha
  obtain ⟨hp, henable⟩ := Server.mem_enabled.1 ((Server.schedule_perm s).mem_iff.1 hq)
  refine ⟨s, hs, hhost, p, ?_, henable, Package.tells_of_faulty hspot hfault⟩
  rw [hplace]
  exact hp

theorem compile_error_tells_second_package :
    let disabled : Package := { commands := ["echo \x7b9\x7d"] }
    let enabled : Package :=
      { enable := true, commands := ["echo \x7b00\x7d \x7b1\x7d"], values := ["GLOBAL0"] }
    let server : Server := { host := "web1", username := "root", packages := [disabled, enabled] }
    let d : Descriptor := { globals := ["a"], servers := [server] }
    let e : CompileError :=
      ⟨"web1", 1, .placeholderOutOfRange "echo \x7b00\x7d \x7b1\x7d" "\x7b1\x7d" 1⟩
    d.compile = .error e ∧ ∃ s ∈ d.servers, e.host = s.host ∧
      ∃ p, s.packages[e.package]? = some p ∧ p.enable = true ∧ e.fault.Tells d.globals p := by
  intro disabled enabled server d e
  have h : d.compile = .error e := by decide +kernel
  exact ⟨h, compile_error_tells h⟩

/-- A zero in Arabic digits has the number of the one variable, and is reported as without a variable. -/
theorem digits_of_another_script :
    let package : Package :=
      { enable := true, commands := ["echo \x7b\u0660\x7d"], values := ["a"] }
    let d : Descriptor := { servers := [{ host := "web1", username := "root", packages := [package] }] }
    d.compile = .error
        ⟨"web1", 0, .placeholderOutOfRange "echo \x7b\u0660\x7d" "\x7b\u0660\x7d" 1⟩ ∧
      Text.Spells ['\u0660'] 0 ∧ ¬ package.values.length ≤ 0 := by
  intro package d
  refine ⟨by decide +kernel, ⟨[0], .cons (by decide) .nil, rfl⟩, by decide⟩

end Descriptor

end Rollout
