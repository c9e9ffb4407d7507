import Mathlib.Data.List.Perm.Basic
import Rollout.Descriptor.Load
import Rollout.Proofs.Slots

/-!
# The schema of descriptors

What a JSON value says as a descriptor is told by the fields of its objects, without a reader. A value whose
records are all written as objects is read as just that, from each of its texts. It is refused if it says
nothing, which is when it does not conform to the schema.

* `IsRecord`, `IsPackage`, `IsServer`, `IsDescriptor`: the schema.
* `MayHave`, `MustHave`, `Meaning.package`, `Meaning.server`, `Meaning.descriptor`: what conforming values
  say. `exists_descriptor_iff`: they are those that say something.
* `AlikeObjects`, `AlikeDescriptors`: values that differ in the order of their fields, and in those that are not
  known. `AlikeDescriptors.means`: they say the same.
* `package_judges`, `server_judges`, `descriptor_judges`: the decoders, by the fields of their records.
* `Value.Writes`, with `exists_writes`: the texts that say a value. `Descriptor.parseJson_conforms`: the
  theorem for them.
-/

namespace Rollout

namespace Json

variable {α β γ : Type} {v v' : Value} {fields fields' : List (String × Value)} {name : String}

/-! ## The schema -/

def Value.IsText (v : Value) : Prop := ∃ x, v = .string x

def Value.IsBool (v : Value) : Prop := ∃ x, v = .bool x

/-- An integer, written as one, that is within bounds. -/
def Value.IsWithin (low high : Int) (v : Value) : Prop :=
  ∃ l, v = .number l ∧ l.IsInteger ∧ low ≤ l.toInt ∧ l.toInt ≤ high

def Value.IsList (K : Value → Prop) (v : Value) : Prop := ∃ vs, v = .list vs ∧ ∀ w ∈ vs, K w

/-- An object that gives none of the known names twice, and gives values of their kinds to them. Some of them
it must give. -/
def Value.IsRecord (kinds : List (String × (Value → Prop))) (needed : List String) (v : Value) : Prop :=
  ∃ fields, v = .object fields ∧
    (∀ k ∈ kinds, (fields.map Prod.fst).count k.1 ≤ 1 ∧ ∀ w, (k.1, w) ∈ fields → k.2 w) ∧
    ∀ name ∈ needed, name ∈ fields.map Prod.fst

open Value

def Value.IsPackage : Value → Prop := IsRecord [
  ("enable", IsBool),
  ("order", IsWithin (-9223372036854775808) 9223372036854775807),
  ("commands", IsList IsText),
  ("variables", fun v => v = .null ∨ IsList IsText v)] []

def Value.IsServer : Value → Prop := IsRecord [
  ("host", IsText),
  ("port", IsWithin 0 65535),
  ("username", IsText),
  ("password", IsText),
  ("packages", IsList IsPackage)] ["host", "username"]

def Value.IsDescriptor : Value → Prop := IsRecord [
  ("globals", IsList IsText),
  ("servers", IsList IsServer)] []

/-! ## What values say -/

/-- What a field says that must be given. -/
def MustHave (name : String) (M : Meaning α) (fields : List (String × Value)) (x : α) : Prop :=
  ∃ v, given name fields = [v] ∧ M v x

/-- What a field says that may be left out, and has its usual value then. -/
def MayHave (name : String) (M : Meaning α) (usual : α) (fields : List (String × Value)) (x : α) : Prop :=
  given name fields = [] ∧ x = usual ∨ MustHave name M fields x

@[mk_iff]
structure PackageSays (fields : List (String × Value)) (p : Package) : Prop where
  enable : MayHave "enable" .bool false fields p.enable
  order : MayHave "order" .int64 0 fields p.order
  commands : MayHave "commands" (.list .text) [] fields p.commands
  values : MayHave "variables" (.listOrNull .text) [] fields p.values

def Meaning.package : Meaning Package := fun v p => ∃ fields, v = .object fields ∧ PackageSays fields p

@[mk_iff]
structure ServerSays (fields : List (String × Value)) (s : Server) : Prop where
  host : MustHave "host" .text fields s.host
  port : MayHave "port" .port 22 fields s.port
  username : MustHave "username" .text fields s.username
  password : MayHave "password" .text "" fields s.password
  packages : MayHave "packages" (.list .package) [] fields s.packages

def Meaning.server : Meaning Server := fun v s => ∃ fields, v = .object fields ∧ ServerSays fields s

@[mk_iff]
structure DescriptorSays (fields : List (String × Value)) (d : Descriptor) : Prop where
  globals : MayHave "globals" (.list .text) [] fields d.globals
  servers : MayHave "servers" (.list .server) [] fields d.servers

def Meaning.descriptor : Meaning Descriptor :=
  fun v d => ∃ fields, v = .object fields ∧ DescriptorSays fields d

/-! ### Conforming values say something -/

theorem exists_text_iff : (∃ x, Meaning.text v x) ↔ v.IsText := Iff.rfl

theorem exists_bool_iff : (∃ x, Meaning.bool v x) ↔ v.IsBool := Iff.rfl

theorem exists_integer_iff {value : α → Int} {low high : Int}
    (hvalue : ∀ i, (∃ x, i = value x) ↔ low ≤ i ∧ i ≤ high) :
    (∃ x, Meaning.integer value v x) ↔ v.IsWithin low high := by
  simp only [Meaning.integer, IsWithin, ← hvalue]
  constructor
  · rintro ⟨x, l, hv, hl, hx⟩
    exact ⟨l, hv, hl, x, hx⟩
  · rintro ⟨l, hv, hl, x, hx⟩
    exact ⟨x, l, hv, hl, hx⟩

theorem exists_port_iff : (∃ x, Meaning.port v x) ↔ v.IsWithin 0 65535 := by
  refine exists_integer_iff fun i => ⟨?_, fun ⟨hlow, hhigh⟩ => ?_⟩
  · rintro ⟨x, rfl⟩
    have hx := x.toNat_lt
    omega
  · refine ⟨UInt16.ofNat i.toNat, ?_⟩
    rw [UInt16.toNat_ofNat']
    omega

theorem exists_int64_iff :
    (∃ x, Meaning.int64 v x) ↔ v.IsWithin (-9223372036854775808) 9223372036854775807 := by
  refine exists_integer_iff fun i => ⟨?_, fun ⟨hlow, hhigh⟩ => ?_⟩
  · rintro ⟨x, rfl⟩
    have hlow := x.le_toInt
    have hhigh := x.toInt_lt
    omega
  · exact ⟨Int64.ofInt i, (Int64.toInt_ofInt_of_le (by omega) (by omega)).symm⟩

theorem exists_list_iff {M : Meaning α} {K : Value → Prop} (hM : ∀ w, (∃ x, M w x) ↔ K w) :
    (∃ xs, Meaning.list M v xs) ↔ v.IsList K := by
  have helements (vs : List Value) : (∃ xs, List.Forall₂ M vs xs) ↔ ∀ w ∈ vs, K w := by
    induction vs with
    | nil => simp
    | cons w vs ih =>
      rw [List.forall_mem_cons, ← hM, ← ih]
      constructor
      · rintro ⟨_, _ | ⟨hx, hxs⟩⟩
        exact ⟨⟨_, hx⟩, _, hxs⟩
      · rintro ⟨⟨x, hx⟩, xs, hxs⟩
        exact ⟨x :: xs, .cons hx hxs⟩
  simp only [Meaning.list, IsList, ← helements]
  constructor
  · rintro ⟨xs, vs, hv, hxs⟩
    exact ⟨vs, hv, xs, hxs⟩
  · rintro ⟨vs, hv, xs, hxs⟩
    exact ⟨xs, vs, hv, hxs⟩

theorem exists_listOrNull_iff {M : Meaning α} {K : Value → Prop} (hM : ∀ w, (∃ x, M w x) ↔ K w) :
    (∃ xs, Meaning.listOrNull M v xs) ↔ v = .null ∨ v.IsList K := by
  simp only [Meaning.listOrNull, exists_or, ← exists_list_iff hM]
  simp

theorem mem_given {w : Value} : w ∈ given name fields ↔ (name, w) ∈ fields := by
  simp [given]

theorem length_given : (given name fields).length = (fields.map Prod.fst).count name := by
  rw [given, List.length_map, List.count, List.countP_map, List.countP_eq_length_filter]
  congr 2

/-- A field that may be left out says something if it is given once at most, and by a value that does. -/
theorem exists_mayHave_iff {M : Meaning α} {usual : α} {K : Value → Prop}
    (hM : ∀ w, (∃ x, M w x) ↔ K w) : (∃ x, MayHave name M usual fields x) ↔
      (fields.map Prod.fst).count name ≤ 1 ∧ ∀ w, (name, w) ∈ fields → K w := by
  simp only [← length_given, ← mem_given, ← hM, MayHave, MustHave]
  match given name fields with
  | [] => simp
  | [w] => simp
  | _ :: _ :: _ => simp

theorem exists_mustHave_iff {M : Meaning α} {K : Value → Prop} (hM : ∀ w, (∃ x, M w x) ↔ K w) :
    (∃ x, MustHave name M fields x) ↔ ((fields.map Prod.fst).count name ≤ 1 ∧
      ∀ w, (name, w) ∈ fields → K w) ∧ name ∈ fields.map Prod.fst := by
  rw [← List.count_pos_iff]
  simp only [← length_given, ← mem_given, ← hM, MustHave]
  match given name fields with
  | [] => simp
  | [w] => simp
  | _ :: _ :: _ => simp

theorem exists_record_iff {Says : List (String × Value) → α → Prop}
    {kinds : List (String × (Value → Prop))} {needed : List String}
    (h : ∀ fields, (∃ x, Says fields x) ↔
      (∀ k ∈ kinds, (fields.map Prod.fst).count k.1 ≤ 1 ∧ ∀ w, (k.1, w) ∈ fields → k.2 w) ∧
        ∀ name ∈ needed, name ∈ fields.map Prod.fst) :
    (∃ x fields, v = .object fields ∧ Says fields x) ↔ v.IsRecord kinds needed := by
  rw [exists_comm]
  simp only [exists_and_left, h, IsRecord]

theorem exists_package_iff : (∃ p, Meaning.package v p) ↔ v.IsPackage := by
  refine exists_record_iff fun fields => ?_
  have hparts : (∃ p, PackageSays fields p) ↔
      (∃ x, MayHave "enable" .bool false fields x) ∧ (∃ x, MayHave "order" .int64 0 fields x) ∧
      (∃ x, MayHave "commands" (.list .text) [] fields x) ∧
      ∃ x, MayHave "variables" (.listOrNull .text) [] fields x :=
    ⟨fun ⟨p, h⟩ => ⟨⟨_, h.enable⟩, ⟨_, h.order⟩, ⟨_, h.commands⟩, ⟨_, h.values⟩⟩,
      fun ⟨⟨enable, he⟩, ⟨order, ho⟩, ⟨commands, hc⟩, ⟨values, hv⟩⟩ =>
        ⟨⟨enable, order, commands, values⟩, he, ho, hc, hv⟩⟩
  rw [hparts, exists_mayHave_iff fun _ => exists_bool_iff, exists_mayHave_iff fun _ => exists_int64_iff,
    exists_mayHave_iff fun _ => exists_list_iff fun _ => exists_text_iff,
    exists_mayHave_iff fun _ => exists_listOrNull_iff fun _ => exists_text_iff]
  simp

theorem exists_server_iff : (∃ s, Meaning.server v s) ↔ v.IsServer := by
  refine exists_record_iff fun fields => ?_
  have hparts : (∃ s, ServerSays fields s) ↔
      (∃ x, MustHave "host" .text fields x) ∧ (∃ x, MayHave "port" .port 22 fields x) ∧
      (∃ x, MustHave "username" .text fields x) ∧ (∃ x, MayHave "password" .text "" fields x) ∧
      ∃ x, MayHave "packages" (.list .package) [] fields x :=
    ⟨fun ⟨s, h⟩ => ⟨⟨_, h.host⟩, ⟨_, h.port⟩, ⟨_, h.username⟩, ⟨_, h.password⟩, ⟨_, h.packages⟩⟩,
      fun ⟨⟨host, hh⟩, ⟨port, hp⟩, ⟨username, hu⟩, ⟨password, hw⟩, ⟨packages, hk⟩⟩ =>
        ⟨⟨host, port, username, password, packages⟩, hh, hp, hu, hw, hk⟩⟩
  rw [hparts, exists_mustHave_iff fun _ => exists_text_iff, exists_mayHave_iff fun _ => exists_port_iff,
    exists_mustHave_iff fun _ => exists_text_iff, exists_mayHave_iff fun _ => exists_text_iff,
    exists_mayHave_iff fun _ => exists_list_iff fun _ => exists_package_iff]
  simp only [List.forall_mem_cons, List.not_mem_nil, false_implies, implies_true, and_true]
  tauto

/-- **The values that say something as a descriptor are those that conform.** -/
theorem exists_descriptor_iff : (∃ d, Meaning.descriptor v d) ↔ v.IsDescriptor := by
  refine exists_record_iff fun fields => ?_
  have hparts : (∃ d, DescriptorSays fields d) ↔
      (∃ x, MayHave "globals" (.list .text) [] fields x) ∧
      ∃ x, MayHave "servers" (.list .server) [] fields x :=
    ⟨fun ⟨d, h⟩ => ⟨⟨_, h.globals⟩, ⟨_, h.servers⟩⟩,
      fun ⟨⟨globals, hg⟩, ⟨servers, hs⟩⟩ => ⟨⟨globals, servers⟩, hg, hs⟩⟩
  rw [hparts, exists_mayHave_iff fun _ => exists_list_iff fun _ => exists_text_iff,
    exists_mayHave_iff fun _ => exists_list_iff fun _ => exists_server_iff]
  simp

/-! ## Order and other fields -/

/-- Fields are alike to one who knows some names only: those that have these names are the same, in some
order, but for values that are alike. -/
def AlikeFields (names : List (String × (Value → Value → Prop))) (fields fields' : List (String × Value)) :
    Prop :=
  ∃ known, (fields.filter (·.1 ∈ names.map Prod.fst)).Perm known ∧
    List.Forall₂ (fun f f' => f.1 = f'.1 ∧ ∀ n ∈ names, n.1 = f'.1 → n.2 f.2 f'.2) known
      (fields'.filter (·.1 ∈ names.map Prod.fst))

def AlikeObjects (names : List (String × (Value → Value → Prop))) (v v' : Value) : Prop :=
  ∃ fields fields', v = .object fields ∧ v' = .object fields' ∧ AlikeFields names fields fields'

/-- Two lists of which the elements are alike, or else the same value. -/
def AlikeElements (A : Value → Value → Prop) (v v' : Value) : Prop :=
  v = v' ∨ ∃ vs vs', v = .list vs ∧ v' = .list vs' ∧ List.Forall₂ A vs vs'

def AlikePackages : Value → Value → Prop :=
  AlikeObjects [("enable", Eq), ("order", Eq), ("commands", Eq), ("variables", Eq)]

def AlikeServers : Value → Value → Prop :=
  AlikeObjects [("host", Eq), ("port", Eq), ("username", Eq), ("password", Eq),
    ("packages", AlikeElements AlikePackages)]

def AlikeDescriptors : Value → Value → Prop :=
  AlikeObjects [("globals", Eq), ("servers", AlikeElements AlikeServers)]

section Alike

variable {names : List (String × (Value → Value → Prop))} {R A : Value → Value → Prop}
variable {M : Meaning α} {usual x : α}

theorem given_filter {known : List String} (fields : List (String × Value)) (hname : name ∈ known) :
    given name (fields.filter (·.1 ∈ known)) = given name fields := by
  rw [given, given, List.filter_filter]
  congr 2
  funext f
  by_cases hf : f.1 = name <;> simp [hf, hname]

/-- What alike fields give to a name is alike, but for the order. -/
theorem AlikeFields.given (h : AlikeFields names fields fields') (hname : (name, R) ∈ names) :
    ∃ ws, (given name fields).Perm ws ∧ List.Forall₂ R ws (given name fields') := by
  obtain ⟨known, hperm, hknown⟩ := h
  have hmem : name ∈ names.map Prod.fst := List.mem_map_of_mem hname
  have hgiven : (Json.given name (fields.filter (·.1 ∈ names.map Prod.fst))).Perm
      (Json.given name known) := (hperm.filter _).map _
  rw [given_filter _ hmem] at hgiven
  refine ⟨_, hgiven, ?_⟩
  rw [← given_filter fields' hmem]
  generalize fields'.filter (·.1 ∈ names.map Prod.fst) = others at hknown ⊢
  clear hgiven hperm
  -- The two lists have the same names in the same places, so a field is left out of both or of none.
  induction hknown with
  | nil => exact .nil
  | @cons f f' known others hf _ ih =>
    obtain ⟨n, v⟩ := f
    obtain ⟨n', v'⟩ := f'
    obtain ⟨rfl, hv⟩ := hf
    by_cases hn : n = name
    · subst hn
      rw [given_self, given_self]
      exact .cons (hv _ hname rfl) ih
    · rw [given_other hn, given_other hn]
      exact ih

theorem mustHave_alike (name : String) (h : AlikeFields names fields fields') (hname : (name, R) ∈ names)
    (hM : ∀ w w', R w w' → (M w x ↔ M w' x)) :
    MustHave name M fields x ↔ MustHave name M fields' x := by
  obtain ⟨ws, hperm, hws⟩ := h.given hname
  constructor
  · rintro ⟨w, hw, hx⟩
    rw [hw, List.singleton_perm] at hperm
    subst hperm
    obtain ⟨w', _, hR, hnil, hgiven⟩ := List.forall₂_cons_left_iff.1 hws
    obtain rfl := List.forall₂_nil_left_iff.1 hnil
    exact ⟨w', hgiven, (hM w w' hR).1 hx⟩
  · rintro ⟨w', hw', hx⟩
    rw [hw'] at hws
    obtain ⟨w, _, hR, hnil, rfl⟩ := List.forall₂_cons_right_iff.1 hws
    obtain rfl := List.forall₂_nil_right_iff.1 hnil
    exact ⟨w, List.perm_singleton.1 hperm, (hM w w' hR).2 hx⟩

theorem mayHave_alike (name : String) (h : AlikeFields names fields fields') (hname : (name, R) ∈ names)
    (hM : ∀ w w', R w w' → (M w x ↔ M w' x)) :
    MayHave name M usual fields x ↔ MayHave name M usual fields' x := by
  obtain ⟨ws, hperm, hws⟩ := h.given hname
  refine or_congr (and_congr_left' ?_) (mustHave_alike name h hname hM)
  rw [← List.length_eq_zero_iff, ← List.length_eq_zero_iff, hperm.length_eq, hws.length_eq]

theorem list_alike {xs : List α} (hM : ∀ w w', A w w' → ∀ x, M w x ↔ M w' x) :
    ∀ w w', AlikeElements A w w' → (Meaning.list M w xs ↔ Meaning.list M w' xs) := by
  rintro _ _ (rfl | ⟨vs, vs', rfl, rfl, h⟩)
  · rfl
  · simp only [Meaning.list, Value.list.injEq, exists_eq_left']
    induction h generalizing xs with
    | nil => rfl
    | cons hw _ ih => simp only [List.forall₂_cons_left_iff, hM _ _ hw, ih]

theorem eq_alike : ∀ w w', w = w' → (M w x ↔ M w' x) := by
  rintro _ _ rfl
  rfl

theorem AlikePackages.means (h : AlikePackages v v') (p : Package) :
    Meaning.package v p ↔ Meaning.package v' p := by
  obtain ⟨fields, fields', rfl, rfl, h⟩ := h
  simp only [Meaning.package, Value.object.injEq, exists_eq_left', packageSays_iff]
  rw [mayHave_alike "enable" h (by simp) eq_alike,
    mayHave_alike "order" h (by simp) eq_alike,
    mayHave_alike "commands" h (by simp) eq_alike,
    mayHave_alike "variables" h (by simp) eq_alike]

theorem AlikeServers.means (h : AlikeServers v v') (s : Server) :
    Meaning.server v s ↔ Meaning.server v' s := by
  obtain ⟨fields, fields', rfl, rfl, h⟩ := h
  simp only [Meaning.server, Value.object.injEq, exists_eq_left', serverSays_iff]
  rw [mustHave_alike "host" h (by simp) eq_alike,
    mayHave_alike "port" h (by simp) eq_alike,
    mustHave_alike "username" h (by simp) eq_alike,
    mayHave_alike "password" h (by simp) eq_alike,
    mayHave_alike "packages" h (by simp) (list_alike (M := .package) fun _ _ => AlikePackages.means)]

/-- **Values that are alike say the same.** -/
theorem AlikeDescriptors.means (h : AlikeDescriptors v v') (d : Descriptor) :
    Meaning.descriptor v d ↔ Meaning.descriptor v' d := by
  obtain ⟨fields, fields', rfl, rfl, h⟩ := h
  simp only [Meaning.descriptor, Value.object.injEq, exists_eq_left', descriptorSays_iff]
  rw [mayHave_alike "globals" h (by simp) eq_alike,
    mayHave_alike "servers" h (by simp) (list_alike (M := .server) fun _ _ => AlikeServers.means)]

end Alike

/-! ## Records that are written as objects -/

/-- An object that has values of a kind only in the lists that it gives to a name. -/
def Value.HasElements (name : String) (K : Value → Prop) (v : Value) : Prop :=
  ∃ fields, v = .object fields ∧ ∀ vs, (name, .list vs) ∈ fields → ∀ w ∈ vs, K w

/-- The value, its servers and their packages are objects. -/
def Value.HasObjects : Value → Prop :=
  HasElements "servers" (HasElements "packages" fun v => ∃ fields, v = .object fields)

theorem forall_mem_alike {A : Value → Value → Prop} {K : Value → Prop} {vs vs' : List Value}
    (h : List.Forall₂ A vs vs') (hA : ∀ w w', A w w' → K w → K w') (hvs : ∀ w ∈ vs, K w) :
    ∀ w ∈ vs', K w := by
  induction h with
  | nil => exact hvs
  | cons hw _ ih =>
    obtain ⟨hfirst, hvs⟩ := List.forall_mem_cons.1 hvs
    exact List.forall_mem_cons.2 ⟨hA _ _ hw hfirst, ih hvs⟩

theorem hasElements_alike {names : List (String × (Value → Value → Prop))} {A : Value → Value → Prop}
    {K : Value → Prop} (h : AlikeObjects names v v') (hname : (name, AlikeElements A) ∈ names)
    (hA : ∀ w w', A w w' → K w → K w') (hv : v.HasElements name K) : v'.HasElements name K := by
  obtain ⟨fields, fields', rfl, rfl, h⟩ := h
  obtain ⟨_, ⟨⟩, hfields⟩ := hv
  obtain ⟨ws, hperm, hws⟩ := h.given hname
  -- It holds of the lists of one object, so of those in the order of the other, and of the others then.
  have hlists : ∀ w ∈ ws, ∀ vs, w = .list vs → ∀ u ∈ vs, K u := by
    rintro _ hw vs rfl
    exact hfields vs (mem_given.1 (hperm.mem_iff.2 hw))
  refine ⟨fields', rfl, fun vs hvs => ?_⟩
  refine forall_mem_alike hws ?_ hlists _ (mem_given.2 hvs) vs rfl
  rintro w _ (rfl | ⟨us, us', rfl, rfl, hus⟩) hw vs hvs
  · exact hw vs hvs
  · obtain rfl := Value.list.inj hvs
    exact forall_mem_alike hus hA (hw us rfl)

theorem AlikeDescriptors.hasObjects (h : AlikeDescriptors v v') (hv : v.HasObjects) : v'.HasObjects := by
  refine hasElements_alike (A := AlikeServers) h (by simp) (fun w w' hw => ?_) hv
  refine hasElements_alike (A := AlikePackages) hw (by simp) (fun u u' hu _ => ?_)
  obtain ⟨-, fields', -, hu', -⟩ := hu
  exact ⟨fields', hu'⟩

/-! ## The decoders of the records -/

def packageSlots : List (Slot PackageParts) := [
  ⟨"enable", false, (·.enable), fun p x => { p with enable := some x }, bool, .bool⟩,
  ⟨"order", false, (·.order), fun p x => { p with order := some x }, int64, .int64⟩,
  ⟨"commands", false, (·.commands), fun p x => { p with commands := some x }, list text, .list .text⟩,
  ⟨"variables", false, (·.values), fun p x => { p with values := some x }, listOrNull text,
    .listOrNull .text⟩]

def serverSlots : List (Slot ServerParts) := [
  ⟨"host", true, (·.host), fun s x => { s with host := some x }, text, .text⟩,
  ⟨"port", false, (·.port), fun s x => { s with port := some x }, port, .port⟩,
  ⟨"username", true, (·.username), fun s x => { s with username := some x }, text, .text⟩,
  ⟨"password", false, (·.password), fun s x => { s with password := some x }, text, .text⟩,
  ⟨"packages", false, (·.packages), fun s x => { s with packages := some x }, list package.decode,
    .list .package⟩]

def descriptorSlots : List (Slot DescriptorParts) := [
  ⟨"globals", false, (·.globals), fun d x => { d with globals := some x }, list text, .list .text⟩,
  ⟨"servers", false, (·.servers), fun d x => { d with servers := some x }, list server.decode,
    .list .server⟩]

theorem packageSlots_lawful : Lawful packageSlots where
  nodup := by decide
  get_set := by simp [packageSlots]
  get_other := by simp [packageSlots]
  ext x y h := by cases x; cases y; simpa [packageSlots] using h

theorem serverSlots_lawful : Lawful serverSlots where
  nodup := by decide
  get_set := by simp [serverSlots]
  get_other := by simp [serverSlots]
  ext x y h := by cases x; cases y; simpa [serverSlots] using h

theorem descriptorSlots_lawful : Lawful descriptorSlots where
  nodup := by decide
  get_set := by simp [descriptorSlots]
  get_other := by simp [descriptorSlots]
  ext x y h := by cases x; cases y; simpa [descriptorSlots] using h

theorem mayHave_iff {M : Meaning α} {usual x : α} :
    MayHave name M usual fields x ↔ ∃ o, Given name M fields o ∧ o.getD usual = x := by
  constructor
  · rintro (⟨hnil, rfl⟩ | h)
    · exact ⟨none, hnil, rfl⟩
    · exact ⟨some x, h, rfl⟩
  · rintro ⟨_ | z, h, rfl⟩
    · exact .inl ⟨h, rfl⟩
    · exact .inr h

theorem package_means (fields : List (String × Value)) (p : Package) :
    package.means packageSlots (.object fields) p ↔ Meaning.package (.object fields) p := by
  have hparts (y : PackageParts) : Filled packageSlots {} fields y ↔
      Given "enable" .bool fields y.enable ∧ Given "order" .int64 fields y.order ∧
      Given "commands" (.list .text) fields y.commands ∧
      Given "variables" (.listOrNull .text) fields y.values := by
    rw [filled_iff packageSlots_lawful (by simp [packageSlots])]
    simp [packageSlots]
  simp only [Record.means, Meaning.package, Value.object.injEq, exists_eq_left', package, hparts,
    packageSays_iff, mayHave_iff, Except.ok.injEq]
  constructor
  · rintro ⟨y, ⟨he, ho, hc, hv⟩, rfl⟩
    exact ⟨⟨_, he, rfl⟩, ⟨_, ho, rfl⟩, ⟨_, hc, rfl⟩, ⟨_, hv, rfl⟩⟩
  · rintro ⟨⟨enable, he, hp₁⟩, ⟨order, ho, hp₂⟩, ⟨commands, hc, hp₃⟩, ⟨values, hv, hp₄⟩⟩
    refine ⟨⟨enable, order, commands, values⟩, ⟨he, ho, hc, hv⟩, ?_⟩
    rw [PackageParts.finish, hp₁, hp₂, hp₃, hp₄]

theorem serverParts_finish_iff {y : ServerParts} {s : Server} : y.finish = .ok s ↔
    y.host = some s.host ∧ y.port.getD 22 = s.port ∧ y.username = some s.username ∧
      y.password.getD "" = s.password ∧ y.packages.getD [] = s.packages := by
  obtain ⟨_ | host, port, _ | username, password, packages⟩ := y
  all_goals obtain ⟨host', port', username', password', packages'⟩ := s
  all_goals simp [ServerParts.finish, bind, Except.bind, pure, Except.pure]

theorem server_means (fields : List (String × Value)) (s : Server) :
    server.means serverSlots (.object fields) s ↔ Meaning.server (.object fields) s := by
  have hparts (y : ServerParts) : Filled serverSlots {} fields y ↔
      Given "host" .text fields y.host ∧ Given "port" .port fields y.port ∧
      Given "username" .text fields y.username ∧ Given "password" .text fields y.password ∧
      Given "packages" (.list .package) fields y.packages := by
    rw [filled_iff serverSlots_lawful (by simp [serverSlots])]
    simp [serverSlots]
  have hfinish (y : ServerParts) : server.finish y = .ok s ↔ y.finish = .ok s := by
    cases h : y.finish <;> simp [server, h, Except.mapError]
  simp only [Record.means, Meaning.server, Value.object.injEq, exists_eq_left', hfinish,
    serverParts_finish_iff, serverSays_iff, mayHave_iff]
  constructor
  · rintro ⟨y, hy, hh, hp, hu, hw, hk⟩
    obtain ⟨hhost, hport, husername, hpassword, hpackages⟩ := (hparts y).1 hy
    rw [hh] at hhost
    rw [hu] at husername
    exact ⟨hhost, ⟨_, hport, hp⟩, husername, ⟨_, hpassword, hw⟩, ⟨_, hpackages, hk⟩⟩
  · rintro ⟨hhost, ⟨port, hport, hp⟩, husername, ⟨password, hpassword, hw⟩, packages, hpackages, hk⟩
    exact ⟨⟨some s.host, port, some s.username, password, packages⟩,
      (hparts _).2 ⟨hhost, hport, husername, hpassword, hpackages⟩, rfl, hp, rfl, hw, hk⟩

theorem descriptor_means (fields : List (String × Value)) (d : Descriptor) :
    descriptor.means descriptorSlots (.object fields) d ↔ Meaning.descriptor (.object fields) d := by
  have hparts (y : DescriptorParts) : Filled descriptorSlots {} fields y ↔
      Given "globals" (.list .text) fields y.globals ∧
      Given "servers" (.list .server) fields y.servers := by
    rw [filled_iff descriptorSlots_lawful (by simp [descriptorSlots])]
    simp [descriptorSlots]
  simp only [Record.means, Meaning.descriptor, Value.object.injEq, exists_eq_left', descriptor, hparts,
    descriptorSays_iff, mayHave_iff, Except.ok.injEq]
  constructor
  · rintro ⟨y, ⟨hg, hs⟩, rfl⟩
    exact ⟨⟨_, hg, rfl⟩, ⟨_, hs, rfl⟩⟩
  · rintro ⟨⟨globals, hg, hd₁⟩, ⟨servers, hs, hd₂⟩⟩
    refine ⟨⟨globals, servers⟩, ⟨hg, hs⟩, ?_⟩
    rw [DescriptorParts.finish, hd₁, hd₂]

theorem texts_judges (v : Value) : Judges (list text) (.list .text) v :=
  list_judges fun _ _ w _ => text_judges w

theorem package_judges (fields : List (String × Value)) :
    Judges package.decode .package (.object fields) := by
  refine Judges.congr (record_judges packageSlots rfl ?_) (package_means fields)
  rintro ⟨name, w⟩ -
  simp only [packageSlots, List.forall_mem_cons, List.not_mem_nil, false_implies, implies_true, and_true]
  exact ⟨fun _ => bool_judges w, fun _ => int64_judges w, fun _ => texts_judges w,
    fun _ => listOrNull_judges fun _ _ u _ => text_judges u⟩

theorem server_judges (h : v.HasElements "packages" fun w => ∃ fields, w = .object fields) :
    Judges server.decode .server v := by
  obtain ⟨fields, rfl, hpackages⟩ := h
  refine Judges.congr (record_judges serverSlots rfl ?_) (server_means fields)
  rintro ⟨name, w⟩ hw
  simp only [serverSlots, List.forall_mem_cons, List.not_mem_nil, false_implies, implies_true, and_true]
  refine ⟨fun _ => text_judges w, fun _ => port_judges w, fun _ => text_judges w, fun _ => text_judges w,
    ?_⟩
  rintro rfl
  refine list_judges fun vs hvs u hu => ?_
  obtain ⟨fields', rfl⟩ := hpackages vs (hvs ▸ hw) u hu
  exact package_judges fields'

/-- **The decoder of descriptors keeps to what values mean.** -/
theorem descriptor_judges (h : v.HasObjects) : Judges descriptor.decode .descriptor v := by
  obtain ⟨fields, rfl, hservers⟩ := h
  refine Judges.congr (record_judges descriptorSlots rfl ?_) (descriptor_means fields)
  rintro ⟨name, w⟩ hw
  simp only [descriptorSlots, List.forall_mem_cons, List.not_mem_nil, false_implies, implies_true,
    and_true]
  refine ⟨fun _ => texts_judges w, ?_⟩
  rintro rfl
  exact list_judges fun vs hvs u hu => server_judges (hservers vs (hvs ▸ hw) u hu)

/-! ## Whole texts -/

/-- A text says a value, with blanks around it. -/
def Value.Writes (v : Value) (s : String) : Prop :=
  ∃ b t b', Blanks b ∧ v.Text t ∧ Blanks b' ∧ s.toList = b ++ (t ++ b')

theorem exists_writes (v : Value) : ∃ s, v.Writes s := by
  obtain ⟨t, ht⟩ := v.exists_text
  have hblanks : Blanks [] := by simp [Blanks]
  exact ⟨String.ofList t, [], t, [], hblanks, ht, hblanks, by simp⟩

/-- A text is decoded to what its value means to the decoder. -/
theorem decodeText_judged {d : Decoder α} {M : Meaning α} {s : String} (hd : Judges d M v)
    (hs : v.Writes s) (x : α) : decodeText d s.toList = .ok x ↔ M v x := by
  obtain ⟨b, t, b', hb, ht, hb', htext⟩ := hs
  have hfollows : Follows b' := by
    simpa using follows_blanks hb' (s := []) (by simp [Follows])
  rcases hd (.ofText s.toList) b' ⟨b, t, hb, ht, htext, hfollows⟩ with
    ⟨y, c, hy, hread, hrest⟩ | ⟨hnone, f, hread⟩
  · have hend : c.skipBlanks.rest = [] :=
      skipBlanks_append hb' (by simpa using hrest) (by simp)
    have hpeek : c.skipBlanks.peek = none := by simp [Cursor.peek, hend]
    rw [hy]
    simp [decodeText, hread, hpeek, bind, Except.bind, eq_comm]
  · rw [decodeText, hread]
    exact ⟨fun h => (by cases h), fun h => absurd ⟨x, h⟩ hnone⟩

end Json

/-- **A descriptor is read where a value conforms to the schema, as what the value says.** Of a value whose
records are all written as objects, each text is read as what its fields say, which is a descriptor if and
only if the value conforms. Another order of fields makes no difference, nor do other fields. -/
theorem Descriptor.parseJson_conforms {v : Json.Value} {s : String} (hs : v.Writes s) (hv : v.HasObjects) :
    ((∃ d, Descriptor.parseJson s = .ok d) ↔ v.IsDescriptor) ∧
    (∀ d, Descriptor.parseJson s = .ok d ↔ Json.Meaning.descriptor v d) ∧
    ∀ v' s', Json.AlikeDescriptors v v' → v'.Writes s' →
      ∀ d, Descriptor.parseJson s' = .ok d ↔ Descriptor.parseJson s = .ok d := by
  have hread {v : Json.Value} {s : String} (hs : v.Writes s) (hv : v.HasObjects) (d : Descriptor) :
      Descriptor.parseJson s = .ok d ↔ Json.Meaning.descriptor v d := by
    rw [← Json.decodeText_judged (Json.descriptor_judges hv) hs, Descriptor.parseJson, Descriptor.ofJson]
    cases Json.decodeText Json.descriptor.decode s.toList <;> simp [Except.mapError]
  refine ⟨?_, hread hs hv, fun v' s' halike hs' d => ?_⟩
  · rw [← Json.exists_descriptor_iff]
    exact exists_congr (hread hs hv)
  · rw [hread hs' (halike.hasObjects hv), hread hs hv, halike.means]

/-- A server with its fields out of order, and one among them that is not known. -/
def Json.Value.sample : Json.Value := .object [
  ("servers", .list [.object [
    ("username", .string "u"),
    ("since", .list [.null]),
    ("port", .number { whole := 65535 }),
    ("host", .string "h")]])]

def Json.Value.sampleText : String :=
  " \x7b\"servers\":[\x7b\"username\":\"u\",\"since\":[null],\"port\":65535,\"host\":\"h\"\x7d]\x7d\n"

theorem Descriptor.parseJson_conforms_sample :
    Json.Value.sample.Writes Json.Value.sampleText ∧ Json.Value.sample.HasObjects ∧
      Descriptor.parseJson Json.Value.sampleText =
        .ok { servers := [{ host := "h", port := 65535, username := "u" }] } := by
  have hnil : Json.Blanks [] := by simp [Json.Blanks]
  have hq (s : String) := Json.quoted_escaped s.toList
  have hlead := Json.lead_least
  have htext : Json.Value.sample.Text _ := .object (.cons (hlead true) (hq _) hnil hnil
    (.list (.cons (hlead true) (.object
      (.cons (hlead true) (hq _) hnil hnil (.string (hq _))
      (.cons (hlead false) (hq _) hnil hnil (.list (.cons (hlead true) .null (.nil hnil)))
      (.cons (hlead false) (hq _) hnil hnil .number
      (.cons (hlead false) (hq _) hnil hnil (.string (hq _)) (.nil hnil))))))
      (.nil hnil))) (.nil hnil))
  have hs : Json.Value.sample.Writes Json.Value.sampleText :=
    ⟨[' '], _, ['\n'], by simp [Json.Blanks], htext, by simp [Json.Blanks], by decide +kernel⟩
  have hv : Json.Value.sample.HasObjects := by
    refine ⟨_, rfl, ?_⟩
    simp [Json.Value.HasElements]
  refine ⟨hs, hv, ((Descriptor.parseJson_conforms hs hv).2.1 _).2 ⟨_, rfl, .inl ⟨rfl, rfl⟩, .inr ?_⟩⟩
  refine ⟨_, rfl, _, rfl, .cons ⟨_, rfl, ⟨_, rfl, rfl⟩, .inr ⟨_, rfl, _, rfl, ?_⟩, ⟨_, rfl, rfl⟩,
    .inl ⟨rfl, rfl⟩, .inl ⟨rfl, rfl⟩⟩ .nil⟩
  exact ⟨⟨rfl, rfl, by simp⟩, rfl⟩

end Rollout
