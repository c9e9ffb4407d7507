import Rollout.Proofs.First
import Rollout.Proofs.Number
import Rollout.Proofs.Schedule

/-!
# What compilation answers

A descriptor is read site by site: a site is a value of a package, or a placeholder of one of its
commands. Sites stand in the order of servers, in a server in the order packages are run, and in a
package with values before placeholders. If no site is at fault, the tasks are what the descriptor says;
otherwise the first site that is at fault is the answer.

* `Stands` and `Filled` say what a value and a template mean; `Package.Yields`, `Server.Yields` and
  `Descriptor.Yields` what is compiled from a package, a server and a descriptor.
* `Descriptor.Sound` says that nothing is wrong, and `Site.Faulty` what is wrong at a site.
* `resolveValue_ok`, `fillCommand_ok`, `Package.compile_ok` and so on up to `Descriptor.compile_ok`:
  what is answered. `resolveValue_error` and so on: which fault is reported.
* `compile_spec`: what a descriptor is compiled to.
-/

namespace Rollout

/-! ## What a descriptor says -/

/-- The text that a value stands for: itself, or the global whose number it gives, as that is written. -/
inductive Stands (globals : List String) : String → String → Prop
  | itself {entry} : ¬globalWord <+: entry.toList → Stands globals entry entry
  | global {entry digits n text} : entry.toList = globalWord ++ digits → Text.Denotes digits n →
      globals[n]? = some text → Stands globals entry text

namespace Template

/-- Segments with the values of that number in place of the placeholders. -/
inductive Filled (values : List String) : List Segment → List Char → Prop
  | nil : Filled values [] []
  | literal {ch segments text} : Filled values segments text →
      Filled values (.literal ch :: segments) (ch :: text)
  | slot {digits n value segments text} : Text.Denotes digits n → values[n]? = some value →
      Filled values segments text →
      Filled values (.slot digits :: segments) (value.toList ++ text)

/-- The placeholders among segments, by their digits. -/
def slots (segments : List Segment) : List (List Char) :=
  segments.filterMap fun
    | .literal _ => none
    | .slot digits => some digits

end Template

namespace Package

/-- The commands that a package is compiled to. -/
def Yields (globals : List String) (p : Package) (commands : List String) : Prop :=
  ∃ values, List.Forall₂ (Stands globals) p.values values ∧
    List.Forall₂ (fun template command : String =>
      Template.Filled values (Template.segments template.toList) command.toList)
      p.commands commands

/-- Nothing is wrong with a package: every value that begins like a reference goes on with the number
of a global, and every placeholder has the number of a value. -/
def Sound (globals : List String) (p : Package) : Prop :=
  (∀ entry ∈ p.values, ¬globalWord <+: entry.toList ∨
    ∃ digits n, entry.toList = globalWord ++ digits ∧ Text.Denotes digits n ∧ n < globals.length) ∧
  ∀ template ∈ p.commands, ∀ digits ∈ Template.slots (Template.segments template.toList),
    ∃ n, Text.Denotes digits n ∧ n < p.values.length

end Package

namespace Server

/-- Whether a server has anything to run. -/
def isActive (s : Server) : Bool := s.packages.any (·.enable)

/-- The task that a server is compiled to: the commands of its enabled packages, in the order in which
packages are run. -/
def Yields (globals : List String) (s : Server) (t : Task) : Prop :=
  ∃ parts, List.Forall₂ (fun q commands => Package.Yields globals q.1 commands) s.schedule parts ∧
    t = ⟨s.host, s.port, s.username, s.password, parts.flatten⟩

end Server

namespace Descriptor

/-- The tasks that a descriptor is compiled to: one for each server that has anything to run. -/
def Yields (d : Descriptor) (ts : List Task) : Prop :=
  List.Forall₂ (Server.Yields d.globals) (d.servers.filter Server.isActive) ts

def Sound (d : Descriptor) : Prop :=
  ∀ s ∈ d.servers, ∀ p ∈ s.packages, p.enable = true → p.Sound d.globals

end Descriptor

/-! ## Where something can be wrong -/

/-- A place in a package where something can be wrong. -/
inductive Spot where
  | value (entry : String)
  /-- A placeholder of a command, by its digits, where there are `count` values. -/
  | slot (command : String) (digits : List Char) (count : Nat)

/-- What is wrong at a place in a package. -/
inductive Spot.Faulty (globals : List String) : Spot → PackageFault → Prop
  | malformed {entry rest} : entry.toList = globalWord ++ rest → (∀ n, ¬Text.Denotes rest n) →
      Faulty globals (.value entry) (.malformedGlobal entry)
  | beyond {entry digits n} : entry.toList = globalWord ++ digits → Text.Denotes digits n →
      globals.length ≤ n →
      Faulty globals (.value entry)
        (.globalOutOfRange (min n Word.greatest64) globals.length)
  | empty {command digits count} : (∀ n, Text.Denotes digits n → count ≤ n) →
      Faulty globals (.slot command digits count)
        (.placeholderOutOfRange command (String.ofList ('{' :: digits ++ ['}'])) count)

/-- A place in the packages of a server. -/
structure Site where
  host : String
  package : Nat
  spot : Spot

/-- What is wrong at a place in the packages of a server. -/
def Site.Faulty (globals : List String) (a : Site) (e : CompileError) : Prop :=
  e.host = a.host ∧ e.package = a.package ∧ a.spot.Faulty globals e.fault

/-- The placeholders of a command. -/
def Package.spotsOf (count : Nat) (command : String) : List Spot :=
  (Template.slots (Template.segments command.toList)).map (.slot command · count)

/-- The places in a package, as they are read. -/
def Package.spots (p : Package) : List Spot :=
  p.values.map .value ++ p.commands.flatMap (spotsOf p.values.length)

/-- The places in the enabled packages of a server, as they are read. -/
def Server.sites (s : Server) : List Site :=
  s.schedule.flatMap fun q => q.1.spots.map (⟨s.host, q.2, ·⟩)

/-- The places in a descriptor, as they are read. -/
def Descriptor.sites (d : Descriptor) : List Site := d.servers.flatMap Server.sites

/-! ## Values -/

variable {globals values : List String} {entry template command : String} {f : PackageFault}

theorem reference?_eq_none : reference? entry = none ↔ ¬globalWord <+: entry.toList := by
  unfold reference?
  rw [← List.isPrefixOf_iff_prefix]
  split <;> simp_all

theorem reference?_eq_some {rest : List Char} :
    reference? entry = some rest ↔ entry.toList = globalWord ++ rest := by
  unfold reference?
  split
  · rename_i h
    obtain ⟨k, hk⟩ := List.isPrefixOf_iff_prefix.1 h
    rw [← hk]
    simp
  · rename_i h
    constructor
    · simp
    · intro hr
      exact (h (List.isPrefixOf_iff_prefix.2 ⟨rest, hr.symm⟩)).elim

theorem resolveValue_of_stands {text : String} (h : Stands globals entry text) :
    resolveValue globals entry = .ok text := by
  unfold resolveValue
  cases h with
  | itself h => rw [reference?_eq_none.2 h]
  | global h hd hg =>
    rw [reference?_eq_some.2 h]
    simp [Text.nat?_eq_some_iff.2 hd, hg]

theorem resolveValue_of_faulty (h : Spot.Faulty globals (.value entry) f) :
    resolveValue globals entry = .error f := by
  unfold resolveValue
  cases h with
  | malformed h hd =>
    rw [reference?_eq_some.2 h]
    simp [Text.nat?_eq_none_iff.2 hd]
  | beyond h hd hg =>
    rw [reference?_eq_some.2 h]
    simp [Text.nat?_eq_some_iff.2 hd, List.getElem?_eq_none hg]

theorem stands_or_faulty (globals : List String) (entry : String) :
    (∃ text, Stands globals entry text) ∨ ∃ f, Spot.Faulty globals (.value entry) f := by
  cases hr : reference? entry with
  | none => exact .inl ⟨entry, .itself (reference?_eq_none.1 hr)⟩
  | some digits =>
    rw [reference?_eq_some] at hr
    cases hn : Text.nat? digits with
    | none => exact .inr ⟨_, .malformed hr (Text.nat?_eq_none_iff.1 hn)⟩
    | some n =>
      rw [Text.nat?_eq_some_iff] at hn
      cases hg : globals[n]? with
      | none => exact .inr ⟨_, .beyond hr hn (List.getElem?_eq_none_iff.1 hg)⟩
      | some text => exact .inl ⟨text, .global hr hn hg⟩

theorem resolveValue_ok {text : String} :
    resolveValue globals entry = .ok text ↔ Stands globals entry text := by
  refine ⟨fun h => ?_, resolveValue_of_stands⟩
  rcases stands_or_faulty globals entry with ⟨text', hs⟩ | ⟨f, hf⟩
  · rw [resolveValue_of_stands hs] at h
    cases h
    exact hs
  · rw [resolveValue_of_faulty hf] at h
    cases h

theorem resolveValue_error :
    resolveValue globals entry = .error f ↔ Spot.Faulty globals (.value entry) f := by
  refine ⟨fun h => ?_, resolveValue_of_faulty⟩
  rcases stands_or_faulty globals entry with ⟨text, hs⟩ | ⟨f', hf⟩
  · rw [resolveValue_of_stands hs] at h
    cases h
  · rw [resolveValue_of_faulty hf] at h
    cases h
    exact hf

/-! ## Templates -/

namespace Template

theorem value?_eq_some {digits : List Char} {value : String} :
    value? values digits = some value ↔
      ∃ n, Text.Denotes digits n ∧ values[n]? = some value := by
  simp [value?, Option.bind_eq_some_iff, Text.nat?_eq_some_iff]

theorem value?_eq_none {digits : List Char} :
    value? values digits = none ↔ ∀ n, Text.Denotes digits n → values.length ≤ n := by
  simp [value?, Option.bind_eq_none_iff, Text.nat?_eq_some_iff]

theorem fillSegments_ok {segments : List Segment} : ∀ {text : List Char},
    fillSegments values segments = .ok text ↔ Filled values segments text := by
  induction segments with
  | nil =>
    intro text
    constructor
    · rintro ⟨⟩
      exact .nil
    · rintro ⟨⟩
      rfl
  | cons a segments ih =>
    intro text
    -- Once the first segment has its text, the rest is filled as if it stood alone.
    have hrest : ∀ {head : List Char}, a.fill values = .ok head →
        (fillSegments values (a :: segments) = .ok text ↔
          ∃ rest, Filled values segments rest ∧ text = head ++ rest) := by
      intro head ha
      simp only [fillSegments, ha, ← ih]
      cases fillSegments values segments <;>
        simp [Bind.bind, Except.bind, Pure.pure, Except.pure, eq_comm]
    cases a with
    | literal ch =>
      rw [hrest rfl]
      constructor
      · rintro ⟨rest, hf, rfl⟩
        exact .literal hf
      · rintro (_ | hf)
        exact ⟨_, hf, rfl⟩
    | slot digits =>
      cases hv : value? values digits with
      | none =>
        constructor
        · intro h
          simp [fillSegments, Segment.fill, hv, Bind.bind, Except.bind] at h
        · rintro (_ | _ | ⟨hd, hvalue, -⟩)
          rw [value?_eq_some.2 ⟨_, hd, hvalue⟩] at hv
          cases hv
      | some value =>
        have ha : Segment.fill values (.slot digits) = .ok value.toList := by
          simp [Segment.fill, hv]
        rw [hrest ha]
        obtain ⟨n, hd, hn⟩ := value?_eq_some.1 hv
        constructor
        · rintro ⟨rest, hf, rfl⟩
          exact .slot hd hn hf
        · rintro (_ | _ | ⟨hd', hvalue, hf⟩)
          obtain rfl := hd.unique hd'
          obtain rfl := Option.some.inj (hn.symm.trans hvalue)
          exact ⟨_, hf, rfl⟩

theorem fillSegments_error {segments : List Segment} {text : List Char} :
    fillSegments values segments = .error text ↔
      First (fun digits text => (∀ n, Text.Denotes digits n → values.length ≤ n) ∧
        text = '{' :: digits ++ ['}']) (slots segments) text := by
  induction segments with
  | nil => simp [fillSegments, slots]
  | cons a segments ih =>
    cases a with
    | literal ch =>
      have hs : slots (.literal ch :: segments) = slots segments := rfl
      rw [hs, ← ih]
      cases h : fillSegments values segments <;>
        simp [fillSegments, Segment.fill, h, Bind.bind, Except.bind, Pure.pure, Except.pure]
    | slot digits =>
      have hs : slots (.slot digits :: segments) = digits :: slots segments := rfl
      rw [hs, first_cons, ← ih, ← value?_eq_none]
      cases hv : value? values digits with
      | none =>
        simp [fillSegments, Segment.fill, Segment.write, hv, Bind.bind, Except.bind, eq_comm]
      | some value =>
        cases h : fillSegments values segments <;>
          simp [fillSegments, Segment.fill, hv, h, Bind.bind, Except.bind, Pure.pure, Except.pure]

end Template

namespace Package

theorem fillCommand_eq (values : List String) (template : String) :
    fillCommand values template =
      match Template.fillSegments values (Template.segments template.toList) with
      | .ok text => .ok (String.ofList text)
      | .error text =>
        .error (.placeholderOutOfRange template (String.ofList text) values.length) := by
  unfold fillCommand Template.fill
  cases Template.fillSegments values (Template.segments template.toList) <;> rfl

theorem fillCommand_ok :
    fillCommand values template = .ok command ↔
      Template.Filled values (Template.segments template.toList) command.toList := by
  rw [fillCommand_eq, ← Template.fillSegments_ok]
  cases Template.fillSegments values (Template.segments template.toList) with
  | error text => simp
  | ok text =>
    simp only [Except.ok.injEq]
    constructor
    · rintro rfl
      exact String.toList_ofList.symm
    · rintro rfl
      exact String.ofList_toList

theorem faulty_slot {digits : List Char} {count : Nat} :
    Spot.Faulty globals (.slot template digits count) f ↔
      ∃ text, ((∀ n, Text.Denotes digits n → count ≤ n) ∧ text = '{' :: digits ++ ['}']) ∧
        f = .placeholderOutOfRange template (String.ofList text) count := by
  constructor
  · rintro (_ | _ | h)
    exact ⟨_, ⟨h, rfl⟩, rfl⟩
  · rintro ⟨_, ⟨h, rfl⟩, rfl⟩
    exact .empty h

theorem fillCommand_error (globals : List String) :
    fillCommand values template = .error f ↔
      First (Spot.Faulty globals) (spotsOf values.length template) f := by
  rw [fillCommand_eq, spotsOf, first_map, first_congr fun _ _ _ => faulty_slot, first_told]
  simp only [← Template.fillSegments_error]
  cases Template.fillSegments values (Template.segments template.toList) <;> simp [eq_comm]

/-! ## Packages -/

variable {p : Package}

theorem resolve_ok :
    p.resolve globals = .ok values ↔ List.Forall₂ (Stands globals) p.values values := by
  unfold resolve
  rw [mapM_ok]
  simp only [resolveValue_ok]

theorem resolve_error :
    p.resolve globals = .error f ↔ First (Spot.Faulty globals) (p.values.map .value) f := by
  unfold resolve
  rw [mapM_error, first_map]
  simp only [resolveValue_error]

theorem compile_ok {commands : List String} :
    p.compile globals = .ok commands ↔ p.Yields globals commands := by
  unfold compile Yields
  simp only [← resolve_ok, ← fillCommand_ok, ← mapM_ok]
  cases p.resolve globals with
  | error e => simp [Bind.bind, Except.bind]
  | ok values => simp [Bind.bind, Except.bind]

theorem compile_error :
    p.compile globals = .error f ↔ First (Spot.Faulty globals) p.spots f := by
  unfold compile spots
  rw [first_append, ← resolve_error, ← not_first_iff]
  simp only [← resolve_error]
  cases hr : p.resolve globals with
  | error e =>
    simp only [Bind.bind, Except.bind, Except.error.injEq]
    constructor
    · exact .inl
    · rintro (h | ⟨h, -⟩)
      · exact h
      · exact (h e rfl).elim
  | ok values =>
    -- Placeholders are counted against the resolved values, of which there are as many.
    have hlength : p.values.length = values.length := (resolve_ok.1 hr).length_eq
    rw [first_flatMap, hlength]
    simp only [Bind.bind, Except.bind, mapM_error, fillCommand_error globals]
    simp

end Package

/-! ## Servers and descriptors -/

namespace Server

variable {s : Server} {e : CompileError}

theorem schedule_eq_nil : s.schedule = [] ↔ s.isActive = false := by
  unfold isActive
  rw [List.eq_nil_iff_forall_not_mem, List.any_eq_false]
  constructor
  · intro h p hp he
    obtain ⟨place, hq⟩ := exists_mem_schedule.2 ⟨hp, he⟩
    exact h _ hq
  · rintro h ⟨p, place⟩ hq
    obtain ⟨hp, he⟩ := exists_mem_schedule.1 ⟨place, hq⟩
    exact h p hp he

theorem first_site {host : String} {place : Nat} {spots : List Spot} :
    First (Site.Faulty globals) (spots.map (⟨host, place, ·⟩)) e ↔
      ∃ f, First (Spot.Faulty globals) spots f ∧ e = ⟨host, place, f⟩ := by
  rw [first_map, ← first_told]
  refine first_congr fun spot _ e => ?_
  constructor
  · rintro ⟨rfl, rfl, h⟩
    exact ⟨e.fault, h, rfl⟩
  · rintro ⟨f, h, rfl⟩
    exact ⟨rfl, rfl, h⟩

theorem commands_error : s.commands globals = .error e ↔ First (Site.Faulty globals) s.sites e := by
  have hparts : (s.schedule.mapM fun q => (q.1.compile globals).mapError fun f =>
      (⟨s.host, q.2, f⟩ : CompileError)) = .error e ↔ First (Site.Faulty globals) s.sites e := by
    unfold sites
    rw [mapM_error, first_flatMap]
    refine first_congr fun q _ e => ?_
    rw [mapError_error, first_site]
    simp only [Package.compile_error]
  unfold commands
  rw [← hparts]
  cases s.schedule.mapM fun q => (q.1.compile globals).mapError fun f =>
      (⟨s.host, q.2, f⟩ : CompileError) <;>
    simp [Bind.bind, Except.bind, Pure.pure, Except.pure]

theorem commands_ok {commands : List String} :
    s.commands globals = .ok commands ↔
      ∃ parts, List.Forall₂ (fun q commands => Package.Yields globals q.1 commands)
        s.schedule parts ∧ commands = parts.flatten := by
  have hparts : ∀ {parts : List (List String)},
      (s.schedule.mapM fun q => (q.1.compile globals).mapError fun f =>
        (⟨s.host, q.2, f⟩ : CompileError)) = .ok parts ↔
        List.Forall₂ (fun q commands => Package.Yields globals q.1 commands) s.schedule parts := by
    intro parts
    rw [mapM_ok]
    simp only [mapError_ok, Package.compile_ok]
  unfold Server.commands
  simp only [← hparts]
  cases s.schedule.mapM fun q => (q.1.compile globals).mapError fun f =>
      (⟨s.host, q.2, f⟩ : CompileError) <;>
    simp [Bind.bind, Except.bind, Pure.pure, Except.pure, eq_comm]

theorem compile_inactive (h : s.isActive = false) : s.compile globals = .ok none := by
  unfold Server.compile
  rw [if_pos (schedule_eq_nil.2 h)]

theorem compile_active (h : s.isActive = true) :
    s.compile globals = (s.commands globals).map fun commands =>
      some ⟨s.host, s.port, s.username, s.password, commands⟩ := by
  have hs : s.schedule ≠ [] := by
    rw [Ne, schedule_eq_nil, h]
    simp
  unfold Server.compile
  rw [if_neg hs]
  rfl

theorem compile_error : s.compile globals = .error e ↔ First (Site.Faulty globals) s.sites e := by
  cases h : s.isActive with
  | false =>
    rw [compile_inactive h, sites, schedule_eq_nil.2 h]
    simp
  | true =>
    rw [compile_active h, ← commands_error]
    cases s.commands globals <;> simp [Except.map]

theorem yields_iff {t : Task} :
    s.Yields globals t ↔ ∃ commands, s.commands globals = .ok commands ∧
      t = ⟨s.host, s.port, s.username, s.password, commands⟩ := by
  simp only [commands_ok]
  constructor
  · rintro ⟨parts, hp, rfl⟩
    exact ⟨_, ⟨parts, hp, rfl⟩, rfl⟩
  · rintro ⟨_, ⟨parts, hp, rfl⟩, rfl⟩
    exact ⟨parts, hp, rfl⟩

theorem compile_ok {o : Option Task} (h : s.isActive = true) :
    s.compile globals = .ok o ↔ ∃ t, s.Yields globals t ∧ o = some t := by
  rw [compile_active h]
  simp only [yields_iff]
  cases s.commands globals <;> simp [Except.map, eq_comm]

end Server

namespace Descriptor

variable {d : Descriptor} {e : CompileError} {ts : List Task}

theorem compile_eq (d : Descriptor) :
    d.compile = (d.servers.mapM (Server.compile d.globals)).map fun os => os.filterMap id := by
  unfold compile
  cases d.servers.mapM (Server.compile d.globals) <;> rfl

theorem compile_error : d.compile = .error e ↔ First (Site.Faulty d.globals) d.sites e := by
  have hservers : d.servers.mapM (Server.compile d.globals) = .error e ↔
      First (Site.Faulty d.globals) d.sites e := by
    unfold sites
    rw [mapM_error, first_flatMap]
    simp only [Server.compile_error]
  rw [compile_eq, ← hservers]
  cases d.servers.mapM (Server.compile d.globals) <;> simp [Except.map]

/-- Servers that have nothing to run leave no task. -/
theorem tasks_iff {servers : List Server} : ∀ {ts : List Task},
    (∃ os, List.Forall₂ (fun s o => Server.compile globals s = .ok o) servers os ∧
      ts = os.filterMap id) ↔
      List.Forall₂ (Server.Yields globals) (servers.filter Server.isActive) ts := by
  induction servers with
  | nil =>
    intro ts
    constructor
    · rintro ⟨_, ⟨⟩, rfl⟩
      exact .nil
    · rintro ⟨⟩
      exact ⟨[], .nil, rfl⟩
  | cons s servers ih =>
    intro ts
    cases h : s.isActive with
    | false =>
      -- It is answered for with `none`, which is left out of the tasks.
      rw [List.filter_cons_of_neg (by simp [h]), ← ih]
      constructor
      · rintro ⟨_, ho | ⟨ho, hos⟩, rfl⟩
        obtain rfl := Except.ok.inj ((Server.compile_inactive h).symm.trans ho)
        exact ⟨_, hos, rfl⟩
      · rintro ⟨os, hos, rfl⟩
        exact ⟨none :: os, .cons (Server.compile_inactive h) hos, rfl⟩
    | true =>
      rw [List.filter_cons_of_pos h]
      constructor
      · rintro ⟨_, ho | ⟨ho, hos⟩, rfl⟩
        obtain ⟨t, ht, rfl⟩ := (Server.compile_ok h).1 ho
        exact .cons ht (ih.1 ⟨_, hos, rfl⟩)
      · rintro (_ | ⟨ht, hts⟩)
        obtain ⟨os, hos, rfl⟩ := ih.2 hts
        exact ⟨_, .cons ((Server.compile_ok h).2 ⟨_, ht, rfl⟩) hos, rfl⟩

theorem compile_ok : d.compile = .ok ts ↔ d.Yields ts := by
  unfold Yields
  rw [compile_eq, ← tasks_iff]
  simp only [← mapM_ok]
  cases d.servers.mapM (Server.compile d.globals) <;> simp [Except.map, eq_comm]

/-! ## Descriptors without a fault -/

theorem not_faulty_value :
    (∀ f, ¬Spot.Faulty globals (.value entry) f) ↔ ¬globalWord <+: entry.toList ∨
      ∃ digits n, entry.toList = globalWord ++ digits ∧ Text.Denotes digits n ∧
        n < globals.length := by
  constructor
  · intro h
    rcases stands_or_faulty globals entry with ⟨text, hs | ⟨he, hd, hg⟩⟩ | ⟨f, hf⟩
    · exact .inl ‹_›
    · exact .inr ⟨_, _, he, hd, (List.getElem?_eq_some_iff.1 hg).1⟩
    · exact (h f hf).elim
  · rintro (h | ⟨digits, n, he, hd, hn⟩) f hf
    · rw [← resolveValue_error, resolveValue_of_stands (.itself h)] at hf
      cases hf
    · have hs := Stands.global he hd (List.getElem?_eq_getElem hn)
      rw [← resolveValue_error, resolveValue_of_stands hs] at hf
      cases hf

theorem not_faulty_slot (globals : List String) {digits : List Char} {count : Nat} :
    (∀ f, ¬Spot.Faulty globals (.slot command digits count) f) ↔
      ∃ n, Text.Denotes digits n ∧ n < count := by
  constructor
  · intro h
    by_contra hn
    refine h _ (.empty fun n hd => ?_)
    by_contra hlt
    exact hn ⟨n, hd, by omega⟩
  · rintro ⟨n, hd, hn⟩ f (_ | _ | h)
    have := h n hd
    omega

theorem mem_spots {p : Package} {a : Spot} :
    a ∈ p.spots ↔ (∃ entry ∈ p.values, a = .value entry) ∨
      ∃ template ∈ p.commands, ∃ digits ∈ Template.slots (Template.segments template.toList),
        a = .slot template digits p.values.length := by
  simp [Package.spots, Package.spotsOf, eq_comm]

theorem sound_iff_spots {p : Package} :
    p.Sound globals ↔ ∀ a ∈ p.spots, ∀ f, ¬Spot.Faulty globals a f := by
  constructor
  · rintro ⟨hvalues, hcommands⟩ a ha
    rcases mem_spots.1 ha with ⟨entry, he, rfl⟩ | ⟨template, ht, digits, hd, rfl⟩
    · exact not_faulty_value.2 (hvalues entry he)
    · exact (not_faulty_slot globals).2 (hcommands template ht digits hd)
  · intro h
    refine ⟨fun entry he => ?_, fun template ht digits hd => ?_⟩
    · exact not_faulty_value.1 (h _ (mem_spots.2 (.inl ⟨entry, he, rfl⟩)))
    · exact (not_faulty_slot globals).1 (h _ (mem_spots.2 (.inr ⟨template, ht, digits, hd, rfl⟩)))

theorem mem_sites {a : Site} :
    a ∈ d.sites ↔ ∃ s ∈ d.servers, ∃ p place, (p, place) ∈ s.schedule ∧
      ∃ spot ∈ Package.spots p, a = ⟨s.host, place, spot⟩ := by
  simp [sites, Server.sites, eq_comm]

/-- **A descriptor is sound exactly if nothing is wrong anywhere in it.** -/
theorem sound_iff : d.Sound ↔ ∀ a ∈ d.sites, ∀ e, ¬Site.Faulty d.globals a e := by
  constructor
  · rintro h a ha e ⟨-, -, hf⟩
    obtain ⟨s, hs, p, place, hq, spot, hspot, rfl⟩ := mem_sites.1 ha
    obtain ⟨hp, he⟩ := Server.exists_mem_schedule.1 ⟨place, hq⟩
    exact sound_iff_spots.1 (h s hs p hp he) spot hspot _ hf
  · intro h s hs p hp he
    rw [sound_iff_spots]
    intro spot hspot f hf
    obtain ⟨place, hq⟩ := Server.exists_mem_schedule.2 ⟨hp, he⟩
    exact h _ (mem_sites.2 ⟨s, hs, p, place, hq, spot, hspot, rfl⟩) ⟨s.host, place, f⟩
      ⟨rfl, rfl, hf⟩

/-- **What a descriptor is compiled to.** Packages are run in ascending order, those of the same order
as they were declared. A descriptor is compiled to tasks exactly if it is sound, and the tasks are then
what it says. Otherwise the error is what is wrong at the first place where something is. -/
theorem compile_spec (d : Descriptor) :
    (∀ s l, Server.RunOrder s l ↔ l = s.schedule) ∧
    ((∃ ts, d.compile = .ok ts) ↔ d.Sound) ∧
    (∀ ts, d.compile = .ok ts ↔ d.Yields ts) ∧
    (∀ e, d.compile = .error e ↔ First (Site.Faulty d.globals) d.sites e) := by
  refine ⟨fun s l => Server.runOrder_iff, ?_, fun ts => compile_ok, fun e => compile_error⟩
  rw [sound_iff, ← not_first_iff, ← Except.not_error_iff]
  simp only [Ne, compile_error]

end Descriptor

end Rollout
