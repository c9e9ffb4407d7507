import Mathlib.Data.List.Infix
import Rollout.Outside
import Rollout.Proofs.LocalCopy

/-!
# Copies deliver every byte, and report no more than that

A content comes in reads of any lengths. Each of them is written, and reported when its write has
returned. So the reports are the lengths of what has been written, from nothing to all of it, and if a
write fails they end with what was written before.

* `Copy.IsReading` are the ways in which a content can be read; `Copy.chunks_isReading` and
  `Copy.chunks_isFull`: full reads are one of them.
* `Copy.reportsFrom_isProgress`: reports begin at nothing, and rise with every read.
* `Copy.deliver_ends`: the loop ends when all reads are written, or with the first write that fails.
* `Copy.Stores`, `Copy.Settles`: what is known of a destination. `Local.treeDisk_stores` and
  `Outside.network_stores`: trees and servers with scripts are such destinations.
* `Copy.Ends` are the ways in which a copy can end, `Copy.Account` is what follows;
  `Copy.runThen_ends`, `Copy.Ends.account`: this is so of every copy.
* `copies_deliver`: both kinds of copies, to any such destination.
-/

namespace Rollout

namespace Copy

variable {σ δ ε : Type} {write : List UInt8 → σ → Option δ × σ} {last : σ → Option δ × σ} {f : δ → ε}
  {s s₁ s₂ : σ} {content : List UInt8} {reads written : List (List UInt8)} {total sent : Nat}

/-! ## Reads -/

/-- Whether chunks are what is read of a content: all of it in order, and in each read at least one
byte, and no more than fit. -/
structure IsReading (content : List UInt8) (reads : List (List UInt8)) : Prop where
  flatten : reads.flatten = content
  pos : ∀ c ∈ reads, 0 < c.length
  le : ∀ c ∈ reads, c.length ≤ chunkSize

/-- Whether every read but the last is as long as it can be. -/
def IsFull (reads : List (List UInt8)) : Prop := ∀ c ∈ reads.dropLast, c.length = chunkSize

theorem chunksOf_nil (size fuel : Nat) : chunksOf size fuel [] = [] := by
  cases fuel <;> rfl

theorem mem_chunksOf (size : Nat) (hsize : 0 < size) (fuel : Nat) :
    ∀ s : List UInt8, ∀ c ∈ chunksOf size fuel s, 0 < c.length ∧ c.length ≤ size := by
  induction fuel with
  | zero =>
    intro s c hc
    cases hc
  | succ fuel ih =>
    intro s c hc
    unfold chunksOf at hc
    split at hc
    · cases hc
    · rename_i hne
      have hpos := List.length_pos_iff.2 hne
      rcases List.mem_cons.1 hc with rfl | hc
      · rw [List.length_take]
        omega
      · exact ih _ c hc

theorem full_of_mem_dropLast_chunksOf (size fuel : Nat) :
    ∀ s : List UInt8, ∀ c ∈ (chunksOf size fuel s).dropLast, c.length = size := by
  induction fuel with
  | zero =>
    intro s c hc
    cases hc
  | succ fuel ih =>
    intro s c hc
    unfold chunksOf at hc
    split at hc
    · cases hc
    · rename_i hne
      -- A read is followed by another one only if it left something.
      by_cases hrest : s.drop size = []
      · rw [hrest, chunksOf_nil] at hc
        cases hc
      · rcases hchunks : chunksOf size fuel (s.drop size) with _ | ⟨c', cs⟩
        · rw [hchunks] at hc
          cases hc
        · rw [hchunks, List.dropLast_cons_cons, ← hchunks] at hc
          have hlong : size < s.length := by
            rw [List.drop_eq_nil_iff] at hrest
            omega
          rcases List.mem_cons.1 hc with rfl | hc
          · rw [List.length_take]
            omega
          · exact ih _ c hc

/-- **Full reads are reads.** -/
theorem chunks_isReading (s : List UInt8) : IsReading s (chunks s) where
  flatten := flatten_chunks s
  pos c hc := (mem_chunksOf chunkSize (by decide) _ s c hc).1
  le c hc := (mem_chunksOf chunkSize (by decide) _ s c hc).2

theorem chunks_isFull (s : List UInt8) : IsFull (chunks s) :=
  full_of_mem_dropLast_chunksOf chunkSize _ s

theorem length_flatten_of_full (h : ∀ c ∈ reads, c.length = chunkSize) :
    reads.flatten.length = reads.length * chunkSize := by
  induction reads with
  | nil => rfl
  | cons c reads ih =>
    have hc : c.length = chunkSize := h c List.mem_cons_self
    have htail := ih fun c' hc' => h c' (List.mem_cons_of_mem c hc')
    rw [List.flatten_cons, List.length_append, htail, hc, List.length_cons, Nat.succ_mul]
    omega

/-- **There are as many full reads as fit into a content**, rounded up. -/
theorem IsReading.length_of_isFull (h : IsReading content reads) (hfull : IsFull reads) :
    reads.length = (content.length + chunkSize - 1) / chunkSize := by
  rcases List.eq_nil_or_concat' reads with rfl | ⟨before, c, rfl⟩
  · rw [← h.flatten]
    decide
  · have hbefore : before.flatten.length = before.length * chunkSize := by
      apply length_flatten_of_full
      intro c' hc'
      apply hfull
      rwa [List.dropLast_concat]
    have hpos : 0 < c.length := h.pos c (by simp)
    have hle : c.length ≤ chunkSize := h.le c (by simp)
    have hlength : content.length = before.length * chunkSize + c.length := by
      rw [← h.flatten, List.flatten_concat, List.length_append, hbefore]
    rw [hlength, List.length_append, List.length_singleton]
    unfold chunkSize at hle ⊢
    omega

/-- A content has no more reads than bytes. -/
theorem IsReading.length_le (h : IsReading content reads) : reads.length ≤ content.length := by
  obtain ⟨hflatten, hpos, -⟩ := h
  subst hflatten
  induction reads with
  | nil => exact Nat.le_refl _
  | cons c reads ih =>
    have hc := hpos c List.mem_cons_self
    have htail := ih fun c' hc' => hpos c' (List.mem_cons_of_mem c hc')
    rw [List.flatten_cons, List.length_append, List.length_cons]
    omega

/-! ## Reports -/

/-- What is reported of reads that are written one after another, with `sent` bytes before them: the
length of what has been written, before the first of them and after each. -/
def reportsFrom (total sent : Nat) (written : List (List UInt8)) : List (Nat × Nat) :=
  written.inits.map fun before => (sent + before.flatten.length, total)

@[simp] theorem reportsFrom_nil : reportsFrom total sent [] = [(sent, total)] := rfl

@[simp] theorem reportsFrom_cons (c : List UInt8) :
    reportsFrom total sent (c :: written) =
      (sent, total) :: reportsFrom total (sent + c.length) written := by
  simp [reportsFrom, Function.comp_def, Nat.add_assoc]

theorem length_reportsFrom : (reportsFrom total sent written).length = written.length + 1 := by
  rw [reportsFrom, List.length_map, List.length_inits]

theorem getLast?_reportsFrom (written : List (List UInt8)) : ∀ sent : Nat,
    (reportsFrom total sent written).getLast? = some (sent + written.flatten.length, total) := by
  induction written with
  | nil => exact fun _ => rfl
  | cons c written ih =>
    intro sent
    have hne : reportsFrom total (sent + c.length) written ≠ [] := by
      intro hnil
      have hlength := congrArg List.length hnil
      rw [length_reportsFrom] at hlength
      cases hlength
    rw [reportsFrom_cons, List.getLast?_cons_of_ne_nil hne, ih, List.flatten_cons, List.length_append,
      Nat.add_assoc]

/-- Whether reports tell of a content of `total` bytes that is sent from its beginning on: each has more
bytes than the one before, and none more than there are. -/
structure IsProgress (total : Nat) (reports : List (Nat × Nat)) : Prop where
  totals : ∀ r ∈ reports, r.2 = total
  first : reports.head? = some (0, total)
  increasing : (reports.map Prod.fst).Pairwise (· < ·)
  le : ∀ r ∈ reports, r.1 ≤ total

theorem le_of_mem_reportsFrom {r : Nat × Nat} (h : r ∈ reportsFrom total sent written) :
    sent ≤ r.1 ∧ r.1 ≤ sent + written.flatten.length := by
  obtain ⟨before, hbefore, rfl⟩ := List.mem_map.1 h
  obtain ⟨after, rfl⟩ := (List.mem_inits _ _).1 hbefore
  rw [List.flatten_append, List.length_append]
  omega

theorem reportsFrom_increasing (written : List (List UInt8)) : ∀ sent : Nat,
    (∀ c ∈ written, 0 < c.length) →
      ((reportsFrom total sent written).map Prod.fst).Pairwise (· < ·) := by
  induction written with
  | nil =>
    intro sent _
    exact List.pairwise_singleton _ _
  | cons c written ih =>
    intro sent hpos
    rw [reportsFrom_cons, List.map_cons, List.pairwise_cons]
    refine ⟨?_, ih _ fun c' hc' => hpos c' (List.mem_cons_of_mem c hc')⟩
    intro n hn
    obtain ⟨r, hr, rfl⟩ := List.mem_map.1 hn
    have hc := hpos c List.mem_cons_self
    have hle := (le_of_mem_reportsFrom hr).1
    omega

/-- **The reports of the first reads of a content are progress.** -/
theorem reportsFrom_isProgress (h : IsReading content reads) (hbegins : written <+: reads) :
    IsProgress content.length (reportsFrom content.length 0 written) := by
  obtain ⟨after, rfl⟩ := hbegins
  refine ⟨?_, ?_, ?_, ?_⟩
  · intro r hr
    obtain ⟨before, -, rfl⟩ := List.mem_map.1 hr
    rfl
  · cases written with
    | nil => rfl
    | cons c written =>
      rw [reportsFrom_cons]
      rfl
  · apply reportsFrom_increasing
    intro c hc
    exact h.pos c (List.mem_append_left after hc)
  · intro r hr
    have hle := (le_of_mem_reportsFrom hr).2
    rw [← h.flatten, List.flatten_append, List.length_append]
    omega

/-! ## The loop -/

/-- Chunks that are written one after another, and the writes of which all return. -/
inductive Accepts (write : List UInt8 → σ → Option δ × σ) : List (List UInt8) → σ → σ → Prop
  | nil {s : σ} : Accepts write [] s s
  | cons {c : List UInt8} {cs : List (List UInt8)} {s s₁ s₂ : σ} : write c s = (none, s₁) →
      Accepts write cs s₁ s₂ → Accepts write (c :: cs) s s₂

/-- A chunk whose write returns is reported, and the loop goes on. -/
theorem deliver_returned {c : List UInt8} (h : write c s = (none, s₁)) (f : δ → ε) (total sent : Nat)
    (reads : List (List UInt8)) :
    let o := deliver (fun c s => told f (write c s)) total (sent + c.length) reads s₁
    deliver (fun c s => told f (write c s)) total sent (c :: reads) s =
      ⟨o.state, (sent + c.length, total) :: o.reports, o.failure⟩ := by
  simp only [deliver, told, h, Option.map_none]

/-- A write that fails ends the loop. -/
theorem deliver_failed {c : List UInt8} {d : δ} (h : write c s = (some d, s₁)) (f : δ → ε)
    (total sent : Nat) (reads : List (List UInt8)) :
    deliver (fun c s => told f (write c s)) total sent (c :: reads) s = ⟨s₁, [], some (f d)⟩ := by
  simp only [deliver, told, h, Option.map_some]

/-- **The loop ends when all reads are written, or with the first write that fails.** What it reports
is what was written before. -/
theorem deliver_ends (write : List UInt8 → σ → Option δ × σ) (f : δ → ε) (total : Nat)
    (reads : List (List UInt8)) : ∀ (sent : Nat) (s : σ),
    let o := deliver (fun c s => told f (write c s)) total sent reads s
    (Accepts write reads s o.state ∧ o.failure = none ∧
      (sent, total) :: o.reports = reportsFrom total sent reads) ∨
    ∃ before c after s₁ d, reads = before ++ c :: after ∧ Accepts write before s s₁ ∧
      write c s₁ = (some d, o.state) ∧ o.failure = some (f d) ∧
      (sent, total) :: o.reports = reportsFrom total sent before := by
  induction reads with
  | nil => exact fun sent s => .inl ⟨.nil, rfl, rfl⟩
  | cons c reads ih =>
    intro sent s o
    rcases hwrite : write c s with ⟨_ | d, s₁⟩
    · have ho : o = _ := deliver_returned hwrite f total sent reads
      rw [ho]
      rcases ih (sent + c.length) s₁ with ⟨hall, hnone, hreports⟩ |
        ⟨before, c', after, s₂, d, rfl, hbefore, hfails, hsome, hreports⟩
      · left
        refine ⟨.cons hwrite hall, hnone, ?_⟩
        rw [reportsFrom_cons, ← hreports]
      · right
        refine ⟨c :: before, c', after, s₂, d, rfl, .cons hwrite hbefore, hfails, hsome, ?_⟩
        rw [reportsFrom_cons, ← hreports]
    · have ho : o = _ := deliver_failed hwrite f total sent reads
      rw [ho]
      exact .inr ⟨[], c, reads, s, d, rfl, .nil, hwrite, rfl, rfl⟩

/-! ## Destinations -/

/-- What is known of a destination, as long as it is open: what it holds, and what is still on its way
to it. A write that returns puts its chunk on the way, or has it there; one that fails leaves a
beginning of what was to be there. -/
structure Stores (write : List UInt8 → σ → Option δ × σ) (isOpen : σ → Prop)
    (held waiting : σ → List UInt8) : Prop where
  returned {c s s'} : isOpen s → write c s = (none, s') →
    isOpen s' ∧ held s' ++ waiting s' = held s ++ waiting s ++ c
  failed {c s d s'} : isOpen s → write c s = (some d, s') → held s' <+: held s ++ waiting s ++ c

/-- What is known of the last thing that is done: when it returns nothing is on its way any more. -/
structure Settles (last : σ → Option δ × σ) (isOpen : σ → Prop) (held waiting : σ → List UInt8) :
    Prop where
  returned {s s'} : isOpen s → last s = (none, s') → held s' = held s ++ waiting s
  failed {s d s'} : isOpen s → last s = (some d, s') → held s' <+: held s ++ waiting s

variable {isOpen : σ → Prop} {held waiting : σ → List UInt8}

/-- When nothing is on its way, nothing need be done last. -/
theorem settles_nothing : Settles (fun s => ((none : Option δ), s)) isOpen held fun _ => [] := by
  refine ⟨?_, ?_⟩
  · rintro s s' _ h
    cases h
    rw [List.append_nil]
  · rintro s d s' _ h
    cases h

theorem Accepts.stored (h : Accepts write written s s₁) (hw : Stores write isOpen held waiting)
    (ho : isOpen s) :
    isOpen s₁ ∧ held s₁ ++ waiting s₁ = held s ++ waiting s ++ written.flatten := by
  induction h with
  | nil => exact ⟨ho, by rw [List.flatten_nil, List.append_nil]⟩
  | cons hwrite _ ih =>
    obtain ⟨hopen, hstored⟩ := hw.returned ho hwrite
    obtain ⟨hopen', hstored'⟩ := ih hopen
    refine ⟨hopen', ?_⟩
    rw [hstored', hstored, List.flatten_cons, List.append_assoc]

/-- The ways in which a copy can end, with its reports, its failure, and what it leaves behind: all
reads are written, or one of them fails, or what is done last fails. -/
inductive Ends (write : List UInt8 → σ → Option δ × σ) (last : σ → Option δ × σ) (f : δ → ε)
    (content : List UInt8) (reads : List (List UInt8)) (s : σ) :
    List (Nat × Nat) → Option ε → List UInt8 → Prop
  | complete {s₁ : σ} : Accepts write reads s s₁ → (last s₁).1 = none →
      Ends write last f content reads s (reportsFrom content.length 0 reads) none content
  | refused {before c after} {s₁ : σ} {d : δ} {left : List UInt8} : reads = before ++ c :: after →
      Accepts write before s s₁ → (write c s₁).1 = some d → left <+: content →
      Ends write last f content reads s (reportsFrom content.length 0 before) (some (f d)) left
  | unsettled {s₁ d left} : Accepts write reads s s₁ → (last s₁).1 = some d → left <+: content →
      Ends write last f content reads s (reportsFrom content.length 0 reads) (some (f d)) left

/-- A destination that is open, and to which nothing has been written. -/
structure IsReady (write : List UInt8 → σ → Option δ × σ) (last : σ → Option δ × σ)
    (isOpen : σ → Prop) (held waiting : σ → List UInt8) (s : σ) : Prop where
  stores : Stores write isOpen held waiting
  settles : Settles last isOpen held waiting
  opened : isOpen s
  held_eq : held s = []
  waiting_eq : waiting s = []

theorem IsReady.accepted (h : IsReady write last isOpen held waiting s)
    (ha : Accepts write written s s₁) : isOpen s₁ ∧ held s₁ ++ waiting s₁ = written.flatten := by
  have hstored := ha.stored h.stores h.opened
  rwa [h.held_eq, h.waiting_eq, List.nil_append, List.nil_append] at hstored

/-- A copy, and what is done last. -/
def runThen (write : List UInt8 → σ → Option δ × σ) (last : σ → Option δ × σ) (f : δ → ε)
    (total : Nat) (reads : List (List UInt8)) (s : σ) : Outcome σ ε :=
  (run (fun c s => told f (write c s)) total reads s).followed fun s => told f (last s)

/-- **A copy ends in one of these ways**, if its destination is ready. -/
theorem runThen_ends (hr : IsReading content reads) (h : IsReady write last isOpen held waiting s)
    (f : δ → ε) :
    let o := runThen write last f content.length reads s
    Ends write last f content reads s o.reports o.failure (held o.state) := by
  intro o
  let r := run (fun c s => told f (write c s)) content.length reads s
  rcases deliver_ends write f content.length reads 0 s with ⟨hall, hnone, hreports⟩ |
    ⟨before, c, after, s₁, d, rfl, hbefore, hfails, hsome, hreports⟩
  · obtain ⟨hopen, hstored⟩ := h.accepted hall
    rw [hr.flatten] at hstored
    have ho : o = { r with state := (last r.state).2, failure := (last r.state).1.map f } :=
      followed_of_none (o := r) hnone _
    rw [ho, show r.reports = _ from hreports]
    rcases hlast : last r.state with ⟨_ | d, s₂⟩
    · have hcontent : held s₂ = content := (h.settles.returned hopen hlast).trans hstored
      rw [Option.map_none, hcontent]
      exact .complete hall (congrArg Prod.fst hlast)
    · have hleft : held s₂ <+: content := hstored ▸ h.settles.failed hopen hlast
      rw [Option.map_some]
      exact .unsettled hall (congrArg Prod.fst hlast) hleft
  · obtain ⟨hopen, hstored⟩ := h.accepted hbefore
    have ho : o = r := followed_of_some (o := r) hsome _
    have hleft : held r.state <+: content := by
      have hcontent : before.flatten ++ c ++ after.flatten = content := by
        rw [← hr.flatten, List.flatten_append, List.flatten_cons, List.append_assoc]
      have hlater := h.stores.failed hopen hfails
      rw [hstored] at hlater
      exact hlater.trans ⟨after.flatten, hcontent⟩
    rw [ho, show r.reports = _ from hreports, show r.failure = _ from hsome]
    exact .refused rfl hbefore (congrArg Prod.fst hfails) hleft

/-- What there is to say of a copy that has ended, with its reports, its failure and what it left
behind. -/
structure Account (write : List UInt8 → σ → Option δ × σ) (last : σ → Option δ × σ) (f : δ → ε)
    (isOpen : σ → Prop) (content : List UInt8) (reads : List (List UInt8)) (s : σ)
    (reports : List (Nat × Nat)) (failure : Option ε) (left : List UInt8) : Prop where
  ends : Ends write last f content reads s reports failure left
  bounded : reports.length ≤ content.length + 1
  progress : IsProgress content.length reports
  complete : failure = none →
    left = content ∧ reports.getLast? = some (content.length, content.length)
  count : failure = none → IsFull reads →
    reports.length = (content.length + chunkSize - 1) / chunkSize + 1
  incomplete : ∀ e, failure = some e → (∃ d, e = f d) ∧ left <+: content
  accepted : (∀ c s, isOpen s → (write c s).1 = none) → (∀ s, isOpen s → (last s).1 = none) →
    failure = none

variable {reports : List (Nat × Nat)} {failure : Option ε} {left : List UInt8}

/-- A destination that accepts all writes is written to the end. -/
theorem Ends.failure_eq (h : Ends write last f content reads s reports failure left)
    (hs : IsReady write last isOpen held waiting s)
    (hwrite : ∀ c s, isOpen s → (write c s).1 = none) (hlast : ∀ s, isOpen s → (last s).1 = none) :
    failure = none := by
  cases h with
  | complete => rfl
  | refused _ hbefore hfails =>
    rw [hwrite _ _ (hs.accepted hbefore).1] at hfails
    cases hfails
  | unsettled hall hfails =>
    rw [hlast _ (hs.accepted hall).1] at hfails
    cases hfails

theorem Ends.length_le (h : Ends write last f content reads s reports failure left)
    (hr : IsReading content reads) : reports.length ≤ content.length + 1 := by
  have hle := hr.length_le
  cases h with
  | complete =>
    rw [length_reportsFrom]
    omega
  | refused hreads =>
    rw [hreads, List.length_append] at hle
    rw [length_reportsFrom]
    omega
  | unsettled =>
    rw [length_reportsFrom]
    omega

theorem Ends.account (h : Ends write last f content reads s reports failure left)
    (hr : IsReading content reads) (hs : IsReady write last isOpen held waiting s) :
    Account write last f isOpen content reads s reports failure left := by
  have hall : IsProgress content.length (reportsFrom content.length 0 reads) :=
    reportsFrom_isProgress hr List.prefix_rfl
  refine ⟨h, h.length_le hr, ?_, ?_, ?_, ?_, h.failure_eq hs⟩
  · cases h with
    | complete => exact hall
    | refused hreads => exact reportsFrom_isProgress hr ⟨_, hreads.symm⟩
    | unsettled => exact hall
  · rintro rfl
    cases h
    refine ⟨rfl, ?_⟩
    rw [getLast?_reportsFrom, hr.flatten, Nat.zero_add]
  · rintro rfl hfull
    cases h
    rw [length_reportsFrom, hr.length_of_isFull hfull]
  · rintro e rfl
    cases h with
    | refused _ _ _ hleft => exact ⟨⟨_, rfl⟩, hleft⟩
    | unsettled _ _ hleft => exact ⟨⟨_, rfl⟩, hleft⟩

end Copy

/-! ## This machine -/

namespace Local

open Copy

variable {σ : Type}

/-- A file that is copied onto another one, and can be read to its end, is written in the reads it comes
in, and the destination is flushed. -/
theorem copyOn_read (disk : Disk σ) (host : String) {source destination : String} {s s₁ : σ}
    {place target : Location} {b : List UInt8} {w : Moment}
    (hsource : openSource (disk.files s) source = .ok (place, .file b w))
    (htarget : disk.create destination s = (.ok target, s₁))
    (hreading : (disk.files s₁).reading place (.file b w) = (b, none)) :
    copyOn disk host source destination s =
      runThen (disk.write target) (disk.flush target) (copyFault host source destination) b.length
        (disk.reads b) s₁ := by
  rw [copyOn_eq disk host hsource htarget, hreading]
  rfl

/-- What a file of a tree holds. -/
def contentAt (target : Location) (t : Tree) : List UInt8 :=
  match t.node? target with
  | some (.file b _) => b
  | _ => []

/-- **A file of a tree is a destination**: what is written to it is there at once, or not at all. -/
theorem treeDisk_stores {target : Location} (h : target ≠ []) :
    Stores (treeDisk.write target) (fun t => ∃ b w, t.node? target = some (.file b w))
      (contentAt target) fun _ => [] := by
  refine ⟨?_, ?_⟩
  · rintro c t t' ⟨b, w, hnode⟩ hwrite
    obtain rfl := treeDisk_write_ok hwrite
    have hnode' : (t.append target c).node? target = some (.file (b ++ c) (.now t.clock)) := by
      rw [Tree.append_file hnode, Tree.node?_putFile h, if_pos rfl]
    refine ⟨⟨_, _, hnode'⟩, ?_⟩
    unfold contentAt
    rw [hnode, hnode', List.append_nil, List.append_nil]
  · rintro c t d t' _ hwrite
    rcases hextend : t.refusal? target .extend with _ | f
    · rw [treeDisk_write_extend hextend] at hwrite
      cases hwrite
    · simp only [treeDisk, hextend] at hwrite
      cases hwrite
      rw [List.append_nil]
      exact List.prefix_append _ _

/-- A file that was made or emptied is ready to be written. -/
theorem treeDisk_ready {t t₁ : Tree} {p : List Char} {target : Location}
    (hcreate : t.create p = .ok (target, t₁)) (hnull : t.node? target ≠ some .null) :
    IsReady (treeDisk.write target) (treeDisk.flush target)
      (fun t => ∃ b w, t.node? target = some (.file b w)) (contentAt target) (fun _ => []) t₁ := by
  obtain ⟨htarget, -, hmade⟩ := Tree.create_ok_iff.1 hcreate
  have hne := Tree.target_ne_nil htarget
  have hnode : t₁.node? target = some (.file [] (.now t.clock)) := by
    rw [hmade, if_neg hnull, Tree.node?_putFile hne, if_pos rfl]
  refine ⟨treeDisk_stores hne, settles_nothing, ⟨[], _, hnode⟩, ?_, rfl⟩
  unfold contentAt
  rw [hnode]

/-- **There is an account of every copy of a file that can be read to its end.** -/
theorem copyOn_account (disk : Disk σ) (host : String) {source destination : String} {s s₁ : σ}
    {place target : Location} {b : List UInt8} {w : Moment} {isOpen : σ → Prop}
    {held waiting : σ → List UInt8}
    (hsource : openSource (disk.files s) source = .ok (place, .file b w))
    (htarget : disk.create destination s = (.ok target, s₁))
    (hreading : (disk.files s₁).reading place (.file b w) = (b, none))
    (hreads : IsReading b (disk.reads b))
    (hready : IsReady (disk.write target) (disk.flush target) isOpen held waiting s₁) :
    let o := copyOn disk host source destination s
    Account (disk.write target) (disk.flush target) (copyFault host source destination)
      isOpen b (disk.reads b) s₁ o.reports o.failure (held o.state) := by
  rw [copyOn_read disk host hsource htarget hreading]
  exact (runThen_ends hreads hready _).account hreads hready

end Local

/-! ## Servers -/

namespace Ssh

open Copy

variable {σ : Type}

/-- How it is told that a file of a server could not be written. -/
def putFault (host destination : String) (f : Fault) : DeployError :=
  .remoteFault host ("sftp put " ++ destination) ("Failed to write remote file: " ++ f.text)

/-- A file that is sent to a server, and can be read to its end, is written in the reads it comes in, and
closed. -/
theorem copyIn_read (readsOf : List UInt8 → List (List UInt8)) (n : Network σ) (x : Transfer)
    {source destination : String} {s s₁ s₂ : σ} {place : Location} {b : List UInt8} {w : Moment}
    {file : Nat} (hsource : openSource (n.files s) source = .ok (place, .file b w))
    (hreading : (n.files s).reading place (.file b w) = (b, none))
    (hfiles : n.openFiles x.number s = (.ok (), s₁))
    (htarget : n.create x.number destination s₁ = (.ok file, s₂)) :
    let o := runThen (n.write file) (fun s => (none, s)) (putFault x.host destination) b.length
      (readsOf b) s₂
    copyIn readsOf n x source destination s = { o with state := n.finish file o.state } := by
  intro o
  unfold copyIn
  simp only [hsource, hreading, hfiles, htarget]
  rfl

/-- **There is an account of every file that is sent to a server**, if it can be read to its end and
closing it does not change what has been written. -/
theorem copyIn_account (readsOf : List UInt8 → List (List UInt8)) (n : Network σ) (x : Transfer)
    {source destination : String} {s s₁ s₂ : σ} {place : Location} {b : List UInt8} {w : Moment}
    {file : Nat} {isOpen : σ → Prop} {held : σ → List UInt8}
    (hsource : openSource (n.files s) source = .ok (place, .file b w))
    (hreading : (n.files s).reading place (.file b w) = (b, none))
    (hfiles : n.openFiles x.number s = (.ok (), s₁))
    (htarget : n.create x.number destination s₁ = (.ok file, s₂))
    (hreads : IsReading b (readsOf b))
    (hready : IsReady (n.write file) (fun s => (none, s)) isOpen held (fun _ => []) s₂)
    (hfinish : ∀ s, held (n.finish file s) = held s) :
    let o := copyIn readsOf n x source destination s
    Account (n.write file) (fun s => (none, s)) (putFault x.host destination)
      isOpen b (readsOf b) s₂ o.reports o.failure (held o.state) := by
  intro o
  have ho : o = _ := copyIn_read readsOf n x hsource hreading hfiles htarget
  rw [ho, hfinish]
  exact (runThen_ends hreads hready _).account hreads hready

end Ssh

namespace Outside

open Copy

/-- What has been written to a file that was opened on a server. -/
def written (file : Nat) (o : Outside) : List UInt8 :=
  ((o.there.open_[file]?).map (·.content)).getD []

theorem network_write {file : Nat} {o o' : Outside} {x : Ssh.OpenFile} {c : List UInt8}
    {d : Option Ssh.Fault} (hx : o.there.open_[file]? = some x) (h : network.write file c o = (d, o')) :
    (d = none ∧ o'.there.open_[file]? = some { x with content := x.content ++ c }) ∨
    (d ≠ none ∧ o'.there.open_[file]? = some { x with failed := true }) := by
  have hset : ∀ y, (o.there.open_.set file y)[file]? = some y := by
    intro y
    rw [List.getElem?_set_self (List.getElem?_eq_some_iff.1 hx).1]
  have hwrite : network.write file c o =
      ((o.there.write file c).1, { o with there := (o.there.write file c).2 }) := rfl
  rw [hwrite] at h
  cases h
  unfold Ssh.Rehearsal.write
  rw [hx]
  simp only
  split
  · right
    refine ⟨Option.some_ne_none _, ?_⟩
    have hopen : ∀ code, (if x.failed = true then o.there else
        o.there.note x.session (.writeFailed x.path code)).open_ = o.there.open_ := by
      intro code
      split <;> rfl
    simp only [hopen, hset]
  · left
    exact ⟨rfl, hset _⟩

/-- **A file of a server with a script is a destination.** -/
theorem network_stores (file : Nat) :
    Stores (network.write file) (fun o => (o.there.open_[file]?).isSome) (written file)
      fun _ => [] := by
  refine ⟨?_, ?_⟩
  · intro c o o' hopen h
    obtain ⟨x, hx⟩ := Option.isSome_iff_exists.1 hopen
    rcases network_write hx h with ⟨-, hx'⟩ | ⟨hne, -⟩
    · refine ⟨Option.isSome_iff_exists.2 ⟨_, hx'⟩, ?_⟩
      unfold written
      rw [hx, hx', List.append_nil, List.append_nil]
      rfl
    · exact absurd rfl hne
  · intro c o d o' hopen h
    obtain ⟨x, hx⟩ := Option.isSome_iff_exists.1 hopen
    rcases network_write hx h with ⟨hnone, -⟩ | ⟨-, hx'⟩
    · cases hnone
    · refine ⟨c, ?_⟩
      unfold written
      rw [hx, hx', List.append_nil]
      rfl

/-- Closing a file does not change what has been written to it. -/
theorem written_finish (file : Nat) (o : Outside) :
    written file (network.finish file o) = written file o := by
  have hopen : (o.there.finish file).open_ = o.there.open_ := by
    unfold Ssh.Rehearsal.finish
    split
    · split <;> rfl
    · rfl
  show (((o.there.finish file).open_[file]?).map (·.content)).getD [] = _
  rw [hopen]
  rfl

end Outside

/-! ## Both kinds of copies -/

open Copy

/-- **Copies deliver every byte, and report no more than has been written.** This is so in whichever
reads the source comes, on this machine and to servers; what is read is all that must not change in
between, and nothing may stop it from being read. Reads that are full are among them, and in these the
copies of the two kinds of sessions are made. -/
theorem copies_deliver :
    (∀ {σ : Type} (disk : Local.Disk σ) (host source destination : String) (s s₁ : σ)
      (place target : Location) (b : List UInt8) (w : Moment) (isOpen : σ → Prop)
      (held waiting : σ → List UInt8),
      openSource (disk.files s) source = .ok (place, .file b w) →
      disk.create destination s = (.ok target, s₁) →
      (disk.files s₁).reading place (.file b w) = (b, none) →
      IsReading b (disk.reads b) →
      IsReady (disk.write target) (disk.flush target) isOpen held waiting s₁ →
      let o := Local.copyOn disk host source destination s
      Account (disk.write target) (disk.flush target) (Local.copyFault host source destination)
        isOpen b (disk.reads b) s₁ o.reports o.failure (held o.state)) ∧
    (∀ {σ : Type} (readsOf : List UInt8 → List (List UInt8)) (n : Ssh.Network σ) (x : Transfer)
      (source destination : String) (s s₁ s₂ : σ) (place : Location) (file : Nat) (b : List UInt8)
      (w : Moment) (isOpen : σ → Prop) (held : σ → List UInt8),
      openSource (n.files s) source = .ok (place, .file b w) →
      (n.files s).reading place (.file b w) = (b, none) →
      n.openFiles x.number s = (.ok (), s₁) →
      n.create x.number destination s₁ = (.ok file, s₂) →
      IsReading b (readsOf b) →
      IsReady (n.write file) (fun s => (none, s)) isOpen held (fun _ => []) s₂ →
      (∀ s, held (n.finish file s) = held s) →
      let o := Ssh.copyIn readsOf n x source destination s
      Account (n.write file) (fun s => (none, s)) (Ssh.putFault x.host destination)
        isOpen b (readsOf b) s₂ o.reports o.failure (held o.state)) ∧
    (∀ b : List UInt8, IsReading b (chunks b) ∧ IsFull (chunks b)) ∧
    (∀ (host source destination : String) (t t₁ : Tree) (place target : Location) (b : List UInt8)
      (w : Moment),
      openSource t source = .ok (place, .file b w) →
      t.create destination.toList = .ok (target, t₁) →
      t₁.reading place (.file b w) = (b, none) → t.node? target ≠ some .null →
      let o := Local.copy host source destination t
      Account (Local.treeDisk.write target) (Local.treeDisk.flush target)
        (Local.copyFault host source destination) (fun t => ∃ b w, t.node? target = some (.file b w))
        b (chunks b) t₁ o.reports o.failure (Local.contentAt target o.state) ∧
      (t.refusal? target .extend = none → o.failure = none)) ∧
    ∀ {σ : Type} (n : Ssh.Network σ) (x : Transfer) (source destination : String) (s s₁ s₂ : σ)
      (place : Location) (file : Nat) (b : List UInt8) (w : Moment) (isOpen : σ → Prop)
      (held : σ → List UInt8),
      openSource (n.files s) source = .ok (place, .file b w) →
      (n.files s).reading place (.file b w) = (b, none) →
      n.openFiles x.number s = (.ok (), s₁) →
      n.create x.number destination s₁ = (.ok file, s₂) →
      IsReady (n.write file) (fun s => (none, s)) isOpen held (fun _ => []) s₂ →
      (∀ s, held (n.finish file s) = held s) →
      let o := Ssh.copy n x source destination s
      Account (n.write file) (fun s => (none, s)) (Ssh.putFault x.host destination)
        isOpen b (chunks b) s₂ o.reports o.failure (held o.state) := by
  refine ⟨?_, ?_, fun b => ⟨chunks_isReading b, chunks_isFull b⟩, ?_, ?_⟩
  · intro σ disk host source destination s s₁ place target b w isOpen held waiting hsource htarget
      hreading hreads hready
    exact Local.copyOn_account disk host hsource htarget hreading hreads hready
  · intro σ readsOf n x source destination s s₁ s₂ place file b w isOpen held hsource hreading hfiles
      htarget hreads hready hfinish
    exact Ssh.copyIn_account readsOf n x hsource hreading hfiles htarget hreads hready hfinish
  · intro host source destination t t₁ place target b w hsource hcreate hreading hnull
    have hready := Local.treeDisk_ready hcreate hnull
    refine ⟨Local.copyOn_account Local.treeDisk host hsource (Local.treeDisk_create_ok hcreate)
      hreading (chunks_isReading b) hready, ?_⟩
    intro htakes
    apply Local.copy_succeeds hsource hcreate hreading
    obtain ⟨-, -, rfl⟩ := Tree.create_ok_iff.1 hcreate
    rw [if_neg hnull, (Tree.sameRules_putFile target []).refusal?, htakes]
  · intro σ n x source destination s s₁ s₂ place file b w isOpen held hsource hreading hfiles htarget
      hready hfinish
    exact Ssh.copyIn_account chunks n x hsource hreading hfiles htarget (chunks_isReading b) hready
      hfinish

/-- A file in reads of one byte each, the same file in full reads, and as a server takes it. -/
theorem copies_deliver_letters :
    let t : Tree := { nodes := [([['a']], .file [104, 105] (.given 0))] }
    let disk : Local.Disk Tree := { Local.treeDisk with reads := fun b => b.map ([·]) }
    let o := Local.copyOn disk "localhost" "a" "b" t
    let full := Local.copy "localhost" "a" "b" t
    let server : Ssh.SessionRecord := { host := "h" }
    let outside : Outside := { here := { files := t }, there := { sessions := [server] } }
    let o' := Ssh.copyIn chunks Outside.network ⟨0, "h"⟩ "a" "b" outside
    (o.failure = none ∧ Local.contentAt [['b']] o.state = [104, 105] ∧
      o.reports.getLast? = some (2, 2)) ∧
    (full.failure = none ∧ Local.contentAt [['b']] full.state = [104, 105]) ∧
    o'.failure = none ∧ Outside.written 0 o'.state = [104, 105] ∧ o'.reports.length = 2 := by
  intro t disk o full server outside o'
  have hsource : openSource t "a" = .ok ([['a']], .file [104, 105] (.given 0)) := rfl
  have hcreate : t.create "b".toList = .ok ([['b']], t.putFile [['b']] []) := rfl
  refine ⟨?_, ?_, ?_⟩
  · have hdone := copies_deliver.1 disk "localhost" "a" "b" t (t.putFile [['b']] []) [['a']] [['b']]
      [104, 105] (.given 0) (fun t => ∃ b w, t.node? [['b']] = some (.file b w))
      (Local.contentAt [['b']]) (fun _ => []) hsource
      (Local.treeDisk_create_ok hcreate) rfl ⟨rfl, by decide, by decide⟩
      (Local.treeDisk_ready hcreate (by decide))
    have hnone : o.failure = none := rfl
    exact ⟨hnone, hdone.complete hnone⟩
  · obtain ⟨hdone, htakes⟩ := copies_deliver.2.2.2.1 "localhost" "a" "b" t (t.putFile [['b']] [])
      [['a']] [['b']] [104, 105] (.given 0) hsource hcreate rfl (by decide)
    exact ⟨htakes rfl, (hdone.complete (htakes rfl)).1⟩
  · have hdone := copies_deliver.2.1 chunks Outside.network ⟨0, "h"⟩ "a" "b" outside _ _ [['a']] 0
      [104, 105] (.given 0) (fun o => (o.there.open_[0]?).isSome) (Outside.written 0) hsource rfl rfl
      rfl (chunks_isReading _) ⟨Outside.network_stores 0, settles_nothing, rfl, rfl, rfl⟩
      (Outside.written_finish 0)
    have hnone : o'.failure = none := rfl
    exact ⟨hnone, (hdone.complete hnone).1, hdone.count hnone (chunks_isFull _)⟩

end Rollout
