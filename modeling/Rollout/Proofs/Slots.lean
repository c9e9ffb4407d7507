import Mathlib.Data.List.Nodup
import Rollout.Proofs.Judging

/-!
# Records, field by field

A record is read from an object one field after another. What it holds in the end is told by its fields
alone: each holds what the object gives to its name, which it may do once. So the order of the fields does
not matter, nor do the fields that the record does not know.

* `Slot`: a field that a record knows. `Filled`: what a record holds after fields were read.
* `record_judges`: the decoder of a record keeps to that.
* `Given`: what an object gives to a name. `Lawful`: fields that are kept apart. `filled_iff`: what a record
  holds, field by field.
-/

namespace Rollout.Json

open Cursor

variable {α β γ : Type} {c : Cursor} {b s u rest : List Char} {v : Value}

/-! ## Reading the fields of an object -/

/-- A field that a record knows. -/
structure Slot (β : Type) where
  {γ : Type}
  name : String
  isRequired : Bool
  get : β → Option γ
  set : β → γ → β
  decode : Decoder γ
  means : Meaning γ

namespace Slot

/-- The member that reads a field. -/
def member (s : Slot β) : Member β :=
  if s.isRequired then required s.name s.get s.set s.decode
  else optional s.name s.get s.set s.decode

theorem member_name (s : Slot β) : s.member.name = s.name := by
  rw [member]
  split <;> rfl

theorem member_present (s : Slot β) (x : β) : s.member.present x = (s.get x).isSome := by
  rw [member]
  split <;> rfl

theorem member_read (s : Slot β) (x : β) (c : Cursor) :
    s.member.read x c = (s.decode c).map fun p => (s.set x p.1, p.2) := by
  rw [member]
  split
  all_goals
    simp only [required, optional]
    rcases s.decode c with f | ⟨y, c'⟩ <;> rfl

end Slot

/-- What a record holds after fields have been read, in which each that it knows is given once. -/
def Filled (slots : List (Slot β)) : β → List (String × Value) → β → Prop
  | x, [], y => y = x
  | x, (name, v) :: fields, y => match slots.find? (·.name = name) with
    | none => Filled slots x fields y
    | some s => s.get x = none ∧ ∃ z, s.means v z ∧ Filled slots (s.set x z) fields y

variable {slots : List (Slot β)} {fields : List (String × Value)}

theorem find?_member (slots : List (Slot β)) (name : String) :
    (slots.map Slot.member).find? (·.name.toList = name.toList) =
      (slots.find? (·.name = name)).map Slot.member := by
  rw [List.find?_map]
  congr 2
  funext s
  simp [Slot.member_name, String.toList_inj]

theorem nextMember_nil (first : Bool) (hb : Blanks b) (h : c.rest = b ++ '\x7d' :: rest) :
    nextMember first c = .ok (false, c.skipBlanks) ∧ c.skipBlanks.rest = '\x7d' :: rest := by
  have hrest := skipBlanks_char hb h rfl
  exact ⟨by simp [nextMember, peek_cons hrest], hrest⟩

theorem nextMember_lead {first : Bool} (hb : Lead first b) (h : c.rest = b ++ '\"' :: s) :
    ∃ c', nextMember first c = .ok (true, c') ∧ c'.rest = s := by
  cases first with
  | true =>
    have hrest := skipBlanks_char (by simpa [Lead] using hb) h rfl
    exact ⟨_, by simp [nextMember, peek_cons hrest], advance_rest hrest⟩
  | false =>
    obtain ⟨b₁, b₂, hb₁, hb₂, rfl⟩ := hb
    rw [List.append_assoc] at h
    have hcomma := skipBlanks_char hb₁ h rfl
    have hrest := skipBlanks_char hb₂ (advance_rest hcomma) rfl
    exact ⟨_, by simp [nextMember, peek_cons hcomma, peek_cons hrest], advance_rest hrest⟩

theorem colon_append (hb : Blanks b) (h : c.rest = b ++ ':' :: rest) :
    ∃ c', colon c = .ok c' ∧ c'.rest = rest := by
  have hrest := skipBlanks_char hb h rfl
  exact ⟨_, by simp [colon, peek_cons hrest], advance_rest hrest⟩

/-- The fields of an object are read up to the closing brace. -/
theorem membersFrom_judged {first : Bool} {fuel : Nat} {x : β}
    (hd : ∀ f ∈ fields, ∀ s ∈ slots, s.name = f.1 → Judges s.decode s.means f.2)
    (h : Fields first fields u) (hc : c.rest = u ++ rest) (hfuel : c.rest.length < fuel) :
    (∃ y c', (∀ z, Filled slots x fields z ↔ z = y) ∧
      membersFrom (slots.map Slot.member) fuel first x c = .ok (y, c') ∧ c'.rest = '\x7d' :: rest) ∨
    (¬∃ y, Filled slots x fields y) ∧
      ∃ e, membersFrom (slots.map Slot.member) fuel first x c = .error e := by
  induction fields generalizing first u c fuel x with
  | nil =>
    obtain ⟨fuel, rfl⟩ : ∃ k, fuel = k + 1 := ⟨fuel - 1, by omega⟩
    cases h with
    | nil hb =>
      rw [List.append_assoc] at hc
      obtain ⟨hnext, hrest⟩ := nextMember_nil first hb hc
      refine .inl ⟨x, c.skipBlanks, fun y => Iff.rfl, ?_, hrest⟩
      simp [membersFrom, hnext, Fault.lift, bind, Except.bind]
  | cons f fields ih =>
    obtain ⟨fuel, rfl⟩ : ∃ k, fuel = k + 1 := ⟨fuel - 1, by omega⟩
    cases h with
    | @cons _ b name key b₁ b₂ v t _ u hlead hkey hb₁ hb₂ hv hu =>
      have hc : c.rest = b ++ '\"' :: (key ++ (b₁ ++ ':' :: (b₂ ++ (t ++ (u ++ rest))))) := by
        simpa using hc
      obtain ⟨c₁, hnext, hrest₁⟩ := nextMember_lead hlead hc
      obtain ⟨c₂, hname, hrest₂⟩ := string_quoted hkey hrest₁
      obtain ⟨c₃, hcolon, hrest₃⟩ := colon_append hb₁ hrest₂
      have hfields := fun g hg => hd g (List.mem_cons_of_mem _ hg)
      have hlength {c' : Cursor} (hrest : c'.rest = u ++ rest) : c'.rest.length < fuel := by
        simp only [hc, List.length_append, List.length_cons] at hfuel
        simp only [hrest, List.length_append]
        omega
      simp only [Filled, membersFrom, hnext, hname, hcolon, find?_member, Fault.lift, bind, Except.bind,
        if_true]
      cases hfind : slots.find? (·.name = name) with
      | none =>
        obtain ⟨c', hskip, hrest'⟩ := skip_text hv hb₂ hrest₃ (follows_fields hu)
        simp only [Option.map_none, hskip]
        exact ih hfields hu hrest' (hlength hrest')
      | some s =>
        have hs : s ∈ slots := List.mem_of_find?_eq_some hfind
        have hsname : s.name = name := by simpa using List.find?_some hfind
        simp only [Option.map_some, Slot.member_present, Slot.member_read]
        cases hget : s.get x with
        | some z => exact .inr ⟨by simp, _, rfl⟩
        | none =>
          have hstands : Stands c₃ v (u ++ rest) := ⟨b₂, t, hb₂, hv, hrest₃, follows_fields hu⟩
          rcases hd (name, v) (by simp) s hs hsname c₃ (u ++ rest) hstands with
            ⟨z, c', hz, hread, hrest'⟩ | ⟨hnone, f, hread⟩
          · simp only [hread, hz, exists_eq_left, Except.map, Option.isSome_none, true_and]
            exact ih hfields hu hrest' (hlength hrest')
          · refine .inr ⟨?_, ?_⟩
            · rintro ⟨y, -, z, hz, -⟩
              exact hnone ⟨z, hz⟩
            · simp [hread, Except.map]

/-- What an object means to a record. -/
def Record.means (r : Record β α) (slots : List (Slot β)) : Meaning α := fun v x =>
  ∃ fields, v = .object fields ∧ ∃ y, Filled slots r.empty fields y ∧ r.finish y = .ok x

/-- **The decoder of a record keeps to what the object means**, if those of its fields do. -/
theorem record_judges (slots : List (Slot β)) {r : Record β α} (hr : r.members = slots.map Slot.member)
    (hd : ∀ f ∈ fields, ∀ s ∈ slots, s.name = f.1 → Judges s.decode s.means f.2) :
    Judges r.decode (r.means slots) (.object fields) := by
  intro c rest hc
  obtain ⟨a, t, hv, ha, -, hrest, -, hat⟩ := hc.at
  obtain rfl : a = '\x7b' := ha
  rw [Record.decode, hat, hr]
  have hmeans (x : α) : r.means slots (.object fields) x ↔
      ∃ y, Filled slots r.empty fields y ∧ r.finish y = .ok x := by
    simp [Record.means]
  simp only [hmeans, if_true]
  cases hv with
  | object hfields =>
    rcases membersFrom_judged (x := r.empty) hd hfields (advance_rest hrest) (Nat.lt_succ_self _) with
      ⟨y, c', hy, hread, hrest'⟩ | ⟨hnone, e, hread⟩
    · simp only [hy, exists_eq_left, hread, bind, Except.bind, Record.finishAt]
      cases r.finish y with
      | ok x =>
        refine .inl ⟨x, c'.advance, fun y => by simp [eq_comm], ?_, advance_rest hrest'⟩
        simp [closing, closeObject_end hrest']
      | error cause => exact .inr ⟨by simp, _, rfl⟩
    · refine .inr ⟨?_, ?_⟩
      · rintro ⟨x, y, hy, -⟩
        exact hnone ⟨y, hy⟩
      · simp only [hread, bind, Except.bind]
        cases e <;> exact ⟨_, rfl⟩

/-! ## What a record holds -/

/-- The values that fields give to a name. -/
def given (name : String) (fields : List (String × Value)) : List Value :=
  (fields.filter (·.1 = name)).map Prod.snd

@[simp]
theorem given_nil (name : String) : given name [] = [] := rfl

@[simp]
theorem given_self (name : String) (v : Value) (fields : List (String × Value)) :
    given name ((name, v) :: fields) = v :: given name fields := by
  simp [given]

theorem given_other {name name' : String} (h : name' ≠ name) (v : Value)
    (fields : List (String × Value)) : given name ((name', v) :: fields) = given name fields := by
  simp [given, h]

/-- What fields give to a name: nothing, or what their one value of that name means. -/
def Given (name : String) (M : Meaning γ) (fields : List (String × Value)) : Option γ → Prop
  | none => given name fields = []
  | some z => ∃ v, given name fields = [v] ∧ M v z

/-- Fields of a record that are kept apart, and that make up the record. -/
structure Lawful (slots : List (Slot β)) : Prop where
  nodup : (slots.map Slot.name).Nodup
  get_set : ∀ s ∈ slots, ∀ x z, s.get (s.set x z) = some z
  get_other : ∀ s ∈ slots, ∀ s' ∈ slots, s.name ≠ s'.name → ∀ x z, s'.get (s.set x z) = s'.get x
  ext : ∀ x y, (∀ s ∈ slots, s.get x = s.get y) → x = y

namespace Slot

/-- What is in a field after others were read: what was in it, or what it has been given. -/
def Holds (s : Slot β) (fields : List (String × Value)) (x y : β) : Prop :=
  given s.name fields = [] ∧ s.get y = s.get x ∨
  s.get x = none ∧ ∃ z, Given s.name s.means fields (some z) ∧ s.get y = some z

variable {s : Slot β} {x x' y : β}

theorem holds_nil : s.Holds [] x y ↔ s.get y = s.get x := by
  simp [Holds, Given]

theorem holds_none (h : s.get x = none) :
    s.Holds fields x y ↔ Given s.name s.means fields (s.get y) := by
  cases hy : s.get y <;> simp [Holds, Given, h, hy]

theorem holds_some {z : s.γ} (h : s.get x = some z) :
    s.Holds fields x y ↔ given s.name fields = [] ∧ s.get y = some z := by
  simp [Holds, h]

theorem holds_congr (h : s.get x = s.get x') : s.Holds fields x y ↔ s.Holds fields x' y := by
  simp [Holds, h]

theorem holds_other {name : String} (h : name ≠ s.name) :
    s.Holds ((name, v) :: fields) x y ↔ s.Holds fields x y := by
  simp [Holds, Given, given_other h]

/-- A field that is given must not hold anything, nor be given again. -/
theorem holds_self : s.Holds ((s.name, v) :: fields) x y ↔
    s.get x = none ∧ ∃ z, s.means v z ∧ given s.name fields = [] ∧ s.get y = some z := by
  simp only [Holds, Given, given_self, List.cons_ne_nil, false_and, false_or, List.cons.injEq]
  refine and_congr_right fun _ => exists_congr fun z => ?_
  constructor
  · rintro ⟨⟨w, ⟨rfl, hnil⟩, hz⟩, hy⟩
    exact ⟨hz, hnil, hy⟩
  · rintro ⟨hz, hnil, hy⟩
    exact ⟨⟨v, ⟨rfl, hnil⟩, hz⟩, hy⟩

end Slot

/-- What a record holds after fields were read is told by each of its own. -/
theorem filled_iff_holds (hslots : Lawful slots) {x y : β} :
    Filled slots x fields y ↔ ∀ s ∈ slots, s.Holds fields x y := by
  induction fields generalizing x with
  | nil =>
    simp only [Filled, Slot.holds_nil]
    exact ⟨fun h s _ => by rw [h], hslots.ext y x⟩
  | cons f fields ih =>
    obtain ⟨name, v⟩ := f
    rw [Filled]
    cases hfind : slots.find? (·.name = name) with
    | none =>
      have hnames : ∀ s ∈ slots, name ≠ s.name := fun s hs h => by
        simpa [h] using List.find?_eq_none.1 hfind s hs
      rw [ih]
      exact forall₂_congr fun s hs => (Slot.holds_other (hnames s hs)).symm
    | some s₀ =>
      have hs₀ : s₀ ∈ slots := List.mem_of_find?_eq_some hfind
      obtain rfl : s₀.name = name := by simpa using List.find?_some hfind
      simp only [ih]
      -- The field that is read is one, and every other is as if it had not been.
      constructor
      · rintro ⟨hnone, z, hz, hholds⟩ s hs
        by_cases hname : s₀.name = s.name
        · obtain rfl := List.inj_on_of_nodup_map hslots.nodup hs₀ hs hname
          have hget := hslots.get_set s₀ hs x z
          obtain ⟨hgiven, hy⟩ := (Slot.holds_some hget).1 (hholds s₀ hs)
          exact Slot.holds_self.2 ⟨hnone, z, hz, hgiven, hy⟩
        · have hget := hslots.get_other s₀ hs₀ s hs hname x z
          exact (Slot.holds_other hname).2 ((Slot.holds_congr hget).1 (hholds s hs))
      · intro hholds
        obtain ⟨hnone, z, hz, hgiven, hy⟩ := Slot.holds_self.1 (hholds s₀ hs₀)
        refine ⟨hnone, z, hz, fun s hs => ?_⟩
        by_cases hname : s₀.name = s.name
        · obtain rfl := List.inj_on_of_nodup_map hslots.nodup hs₀ hs hname
          exact (Slot.holds_some (hslots.get_set s₀ hs x z)).2 ⟨hgiven, hy⟩
        · have hget := hslots.get_other s₀ hs₀ s hs hname x z
          exact (Slot.holds_congr hget).2 ((Slot.holds_other hname).1 (hholds s hs))

/-- **What a record holds, field by field**, if it held nothing before: what each is given. -/
theorem filled_iff (hslots : Lawful slots) {x y : β} (hx : ∀ s ∈ slots, s.get x = none) :
    Filled slots x fields y ↔ ∀ s ∈ slots, Given s.name s.means fields (s.get y) := by
  rw [filled_iff_holds hslots]
  exact forall₂_congr fun s hs => Slot.holds_none (hx s hs)

end Rollout.Json
