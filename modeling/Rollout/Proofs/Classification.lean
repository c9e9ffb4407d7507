import Mathlib.Data.List.Forall2
import Rollout.Proofs.Number
import Rollout.Proofs.Words

/-!
# The commands of this program

Which commands are operations of this program is told by a grammar on their words, without the functions
that read them. Every text that the grammar has nothing for is for the shell, as it is.

* `Text.Spaced`: the words that stand in a text, with blanks around and between them.
* `Operation.Names`: the operation that words name. Keywords are spelled in any case (`Text.InAnyCase`),
  and the limit of `uploaddir` is written in digits, or left out for 0 (`Operation.Limit`).
* `ofCommand_grammar`: a command is read as the grammar has it, and an operation is read back from what is
  written of it, in whatever case and spacing.
-/

namespace Rollout

/-! ## Words between blanks -/

namespace Text

/-- A text has these words, in this order, with blanks around and between them. -/
inductive Spaced : List Char → List (List Char) → Prop
  | blank {s} : (∀ c ∈ s, isBlank c = true) → Spaced s []
  | word {before w rest ws} : (∀ c ∈ before, isBlank c = true) → w ≠ [] →
      (∀ c ∈ w, isBlank c = false) → (∀ c, rest.head? = some c → isBlank c = true) →
      Spaced rest ws → Spaced (before ++ w ++ rest) (w :: ws)

variable {s before : List Char} {ws : List (List Char)} {c : Char}

theorem words_cons_blank (hc : isBlank c = true) (s : List Char) : words (c :: s) = words s := by
  rw [words, split, if_pos hc, List.filter_cons_of_neg (by simp), words]

theorem words_blank_append (h : ∀ c ∈ before, isBlank c = true) (s : List Char) :
    words (before ++ s) = words s := by
  induction before with
  | nil => rfl
  | cons c before ih =>
    obtain ⟨hc, hbefore⟩ := List.forall_mem_cons.1 h
    rw [List.cons_append, words_cons_blank hc, ih hbefore]

theorem Spaced.words_eq (h : Spaced s ws) : words s = ws := by
  induction h with
  | @blank s hs =>
    have hwords := words_blank_append hs []
    rw [List.append_nil] at hwords
    rw [hwords]
    rfl
  | @word before w rest ws hbefore hne hw hrest _ ih =>
    rw [List.append_assoc, words_blank_append hbefore, ← ih]
    cases rest with
    | nil => rw [List.append_nil, words_singleton hne hw]; rfl
    | cons d rest =>
      have hd : isBlank d = true := hrest d rfl
      rw [words_append hne hw hd, words_cons_blank hd]

/-- Every text has some words. -/
theorem exists_spaced (s : List Char) : ∃ ws, Spaced s ws := by
  induction s with
  | nil => exact ⟨[], .blank (by simp)⟩
  | cons c s ih =>
    obtain ⟨ws, h⟩ := ih
    -- A blank goes before what is there; any other character begins a word, or is the first of the
    -- word that begins right after it.
    cases hc : isBlank c with
    | true =>
      cases h with
      | blank hs => exact ⟨[], .blank (List.forall_mem_cons.2 ⟨hc, hs⟩)⟩
      | @word before w rest ws hbefore hne hw hrest h =>
        exact ⟨w :: ws,
          @Spaced.word (c :: before) w rest ws (List.forall_mem_cons.2 ⟨hc, hbefore⟩) hne hw hrest h⟩
    | false =>
      have hletter : ∀ d ∈ [c], isBlank d = false := by simpa using hc
      cases h with
      | blank hs =>
        have hhead : ∀ d, s.head? = some d → isBlank d = true :=
          fun d hd => hs d (List.mem_of_mem_head? hd)
        exact ⟨[[c]], @Spaced.word [] [c] s [] (by simp) (by simp) hletter hhead (.blank hs)⟩
      | @word before w rest ws hbefore hne hw hrest h =>
        cases before with
        | nil =>
          exact ⟨(c :: w) :: ws, @Spaced.word [] (c :: w) rest ws (by simp) (by simp)
            (List.forall_mem_cons.2 ⟨hc, hw⟩) hrest h⟩
        | cons b before =>
          have hb : isBlank b = true := hbefore b List.mem_cons_self
          exact ⟨[c] :: w :: ws, @Spaced.word [] [c] (b :: before ++ w ++ rest) (w :: ws) (by simp)
            (by simp) hletter (by simpa using hb) (.word hbefore hne hw hrest h)⟩

theorem spaced_iff : Spaced s ws ↔ words s = ws := by
  refine ⟨Spaced.words_eq, ?_⟩
  rintro rfl
  obtain ⟨ws, h⟩ := exists_spaced s
  rwa [h.words_eq]

/-! ## Letters of either case -/

/-- Whether a word is spelled like a keyword, with each letter as it is or as a capital. -/
def InAnyCase (keyword word : List Char) : Prop :=
  List.Forall₂ (fun k c => c = k ∨ c = k.toUpper) keyword word

theorem toNat_toLower (c : Char) :
    c.toLower.toNat = if 65 ≤ c.toNat ∧ c.toNat ≤ 90 then c.toNat + 32 else c.toNat := by
  by_cases h : c.val ≥ 'A'.val ∧ c.val ≤ 'Z'.val
  · have hc : 65 ≤ c.toNat ∧ c.toNat ≤ 90 := h
    have hval : c.toLower.toNat = (c.toNat + 32) % 2 ^ 32 := by
      unfold Char.toLower
      rw [dif_pos h]
      exact UInt32.toNat_add c.val ('a'.val - 'A'.val)
    rw [if_pos hc, hval]
    omega
  · have hc : ¬(65 ≤ c.toNat ∧ c.toNat ≤ 90) := h
    unfold Char.toLower
    rw [dif_neg h, if_neg hc]

theorem toNat_toUpper (c : Char) :
    c.toUpper.toNat = if 97 ≤ c.toNat ∧ c.toNat ≤ 122 then c.toNat - 32 else c.toNat := by
  by_cases h : 'a'.val ≤ c.val ∧ c.val ≤ 'z'.val
  · have hc : 97 ≤ c.toNat ∧ c.toNat ≤ 122 := h
    -- What is added is the difference of the letters, below zero and so near 2 ^ 32.
    have hval : c.toUpper.toNat = (c.toNat + 4294967264) % 2 ^ 32 := by
      unfold Char.toUpper
      rw [dif_pos h]
      exact UInt32.toNat_add c.val ('A'.val - 'a'.val)
    rw [if_pos hc, hval]
    omega
  · have hc : ¬(97 ≤ c.toNat ∧ c.toNat ≤ 122) := h
    unfold Char.toUpper
    rw [dif_neg h, if_neg hc]

theorem toLower_eq_iff {k : Char} (hk : k.isUpper = false) :
    c.toLower = k ↔ c = k ∨ c = k.toUpper := by
  have hrange : ¬(65 ≤ k.toNat ∧ k.toNat ≤ 90) := by
    intro h
    have hupper : k.isUpper = true := decide_eq_true h
    rw [hk] at hupper
    cases hupper
  simp only [← Char.toNat_inj, toNat_toLower, toNat_toUpper]
  split_ifs <;> omega

theorem inAnyCase_iff {keyword word : List Char} (hk : keyword.any Char.isUpper = false) :
    InAnyCase keyword word ↔ word.map Char.toLower = keyword := by
  induction keyword generalizing word with
  | nil => simp [InAnyCase]
  | cons k keyword ih =>
    obtain ⟨hk, hkeyword⟩ := Bool.or_eq_false_iff.1 hk
    cases word with
    | nil => simp [InAnyCase]
    | cons c word =>
      have hrest := @ih word hkeyword
      rw [InAnyCase] at hrest ⊢
      rw [List.forall₂_cons, hrest, List.map_cons, List.cons.injEq, toLower_eq_iff hk]

theorem toLower_of_isAsciiDigit (h : isAsciiDigit c = true) : c.toLower = c := by
  have h0 : '0'.toNat = 48 := rfl
  have h9 : '9'.toNat = 57 := rfl
  simp only [isAsciiDigit, Bool.and_eq_true, decide_eq_true_eq] at h
  rw [← Char.toNat_inj, toNat_toLower, if_neg (by omega)]

theorem isAsciiDigit_toLower (c : Char) : isAsciiDigit c.toLower = isAsciiDigit c := by
  have h0 : '0'.toNat = 48 := rfl
  have h9 : '9'.toNat = 57 := rfl
  rw [Bool.eq_iff_iff]
  simp only [isAsciiDigit, Bool.and_eq_true, decide_eq_true_eq, toNat_toLower]
  split_ifs <;> omega

/-- A number is the same in lower case. -/
theorem denotes_toLower {digits : List Char} {n : Nat} :
    Denotes (digits.map Char.toLower) n ↔ Denotes digits n := by
  -- Digits have no case, and what is no digit does not become one.
  by_cases h : ∀ c ∈ digits, isAsciiDigit c = true
  · have hself : digits.map Char.toLower = digits :=
      (List.map_congr_left fun c hc => toLower_of_isAsciiDigit (h c hc)).trans (List.map_id digits)
    rw [hself]
  · refine iff_of_false ?_ (fun hd => h hd.2.1)
    rintro ⟨-, hd, -⟩
    refine h fun c hc => ?_
    rw [← isAsciiDigit_toLower]
    exact hd _ (List.mem_map_of_mem hc)

theorem natOfDigitsFrom_eq_ofDigitChars (digits : List Char) : ∀ n : Nat,
    natOfDigitsFrom n digits = Nat.ofDigitChars 10 digits n := by
  induction digits with
  | nil =>
    intro n
    rw [Nat.ofDigitChars_nil]
    rfl
  | cons c digits ih =>
    intro n
    have hcons : natOfDigitsFrom n (c :: digits) =
        natOfDigitsFrom (10 * n + (c.toNat - '0'.toNat)) digits := rfl
    rw [hcons, ih, Nat.ofDigitChars_cons]

/-- A number is denoted by the digits that it is written in. -/
theorem denotes_toDigits (n : Nat) : Denotes (Nat.toDigits 10 n) n := by
  have hascii : ∀ c ∈ Nat.toDigits 10 n, isAsciiDigit c = true := by
    intro c hc
    have hdigit : c.isDigit = true := Nat.isDigit_of_mem_toDigits (by decide) (by decide) hc
    simpa [isAsciiDigit] using Char.isDigit_iff_toNat.1 hdigit
  rw [← nat?_eq_some_iff, nat?, if_pos ⟨Nat.toDigits_ne_nil, List.all_eq_true.2 hascii⟩, natOfDigits,
    natOfDigitsFrom_eq_ofDigitChars, Nat.ofDigitChars_ten_toDigits]

end Text

/-! ## The grammar -/

namespace Operation

/-- The limit that is written after `uploaddir`: nothing for 0, or the digits of a number of 64 bits. -/
def Limit (digits : List Char) (limit : UInt64) : Prop :=
  digits = [] ∧ limit = 0 ∨ Text.Denotes digits limit.toNat

/-- The operation that the words of a command name. -/
inductive Names : List (List Char) → Operation → Prop
  | upload {word source destination} : Text.InAnyCase uploadWord word →
      Names [word, source, destination] (.upload (.ofList source) (.ofList destination))
  | uploadDir {word digits source destination limit} : Text.InAnyCase uploadDirWord word →
      Limit digits limit → Names [word ++ digits, source, destination]
        (.uploadDir (.ofList source) (.ofList destination) limit)
  | backup {word path} : Text.InAnyCase backupWord word →
      Names [word, path] (.backup (.ofList path))
  | zipBackup {word archive path paths} : Text.InAnyCase zipBackupWord word →
      Names (word :: archive :: path :: paths)
        (.zipBackup (.ofList archive) ((path :: paths).map String.ofList))

variable {word digits : List Char} {args : List (List Char)} {limit : UInt64} {o : Operation}

theorem limit?_eq_some_iff : limit? digits = some limit ↔ Limit digits limit := by
  unfold limit? Limit
  by_cases hdigits : digits = []
  · have hnone : ¬Text.Denotes [] limit.toNat := fun h => h.1 rfl
    simp [hdigits, hnone, eq_comm]
  · rw [if_neg hdigits, Option.bind_eq_some_iff]
    simp only [Text.nat?_eq_some_iff, hdigits, false_and, false_or]
    constructor
    · rintro ⟨n, hn, hlimit⟩
      split at hlimit
      · cases hlimit
        rwa [UInt64.toNat_ofNat_of_lt' ‹_›]
      · cases hlimit
    · intro h
      refine ⟨limit.toNat, h, ?_⟩
      have hlt : limit.toNat < Word.count64 := limit.toNat_lt
      rw [if_pos hlt, UInt64.ofNat_toNat]

theorem limit_toLower : Limit (digits.map Char.toLower) limit ↔ Limit digits limit := by
  rw [Limit, Limit, Text.denotes_toLower, List.map_eq_nil_iff]

theorem names_of_ofWords (h : ofWords (word.map Char.toLower) args = some o) :
    Names (word :: args) o := by
  -- Fewer than two arguments leave only `bak`. With two or more `zipbak` is tried first, as only it may
  -- have more than two.
  rcases args with _ | ⟨a, _ | ⟨b, rest⟩⟩ <;> simp only [ofWords] at h
  · cases h
  · split at h
    · cases h
      exact .backup ((Text.inAnyCase_iff (by decide)).2 ‹_›)
    · cases h
  · split at h
    · cases h
      exact .zipBackup ((Text.inAnyCase_iff (by decide)).2 ‹_›)
    split at h
    · cases h
    obtain rfl : rest = [] := not_not.1 ‹_›
    split at h
    · cases h
      exact .upload ((Text.inAnyCase_iff (by decide)).2 ‹_›)
    split at h
    · rename_i hprefix
      rw [Option.map_eq_some_iff] at h
      obtain ⟨limit, hlimit, rfl⟩ := h
      rw [limit?_eq_some_iff] at hlimit
      -- The word is cut where the keyword ends, and its digits are read in lower case.
      have hword : word = word.take uploadDirWord.length ++ word.drop uploadDirWord.length :=
        (List.take_append_drop _ word).symm
      rw [List.isPrefixOf_iff_prefix, List.prefix_iff_eq_take, ← List.map_take] at hprefix
      rw [← List.map_drop, limit_toLower] at hlimit
      rw [hword]
      exact .uploadDir ((Text.inAnyCase_iff (by decide)).2 hprefix.symm) hlimit
    · cases h

theorem ofWords_of_names (h : Names (word :: args) o) :
    ofWords (word.map Char.toLower) args = some o := by
  generalize hws : word :: args = ws at h
  cases h with
  | upload hword =>
    cases hws
    rw [(Text.inAnyCase_iff (by decide)).1 hword]
    rfl
  | uploadDir hword hlimit =>
    cases hws
    rw [List.map_append, (Text.inAnyCase_iff (by decide)).1 hword]
    -- What follows the keyword is any text here, and the other keywords differ from it before that.
    have hl := limit?_eq_some_iff.2 (limit_toLower.2 hlimit)
    simp [ofWords, uploadDirWord, zipBackupWord, uploadWord, hl]
  | backup hword =>
    cases hws
    rw [(Text.inAnyCase_iff (by decide)).1 hword]
    rfl
  | zipBackup hword =>
    cases hws
    rw [(Text.inAnyCase_iff (by decide)).1 hword]
    rfl

/-- A command is the operation that its words name, or is for the shell as it is. -/
theorem ofCommand_eq_iff {command : String} {ws : List (List Char)}
    (h : Text.Spaced command.toList ws) :
    ofCommand command = o ↔ Names ws o ∨ o = .raw command ∧ ∀ o', ¬Names ws o' := by
  rw [ofCommand, h.words_eq]
  cases ws with
  | nil =>
    have hnone : ∀ o', ¬Names [] o' := fun o' h' => by cases h'
    simp [hnone, eq_comm]
  | cons word args =>
    simp only
    cases hnamed : ofWords (word.map Char.toLower) args with
    | none =>
      have hnone : ∀ o', ¬Names (word :: args) o' := by
        intro o' h'
        rw [ofWords_of_names h'] at hnamed
        cases hnamed
      simp [hnone, eq_comm]
    | some named =>
      have hnames := names_of_ofWords hnamed
      constructor
      · rintro rfl
        exact .inl hnames
      · rintro (h' | ⟨-, h'⟩)
        · rw [ofWords_of_names h'] at hnamed
          cases hnamed
          rfl
        · exact (h' named hnames).elim

/-! ## What is written of an operation -/

/-- Whether what an operation is about is written in words, and an archive is made of something. -/
def InWords : Operation → Prop
  | .raw _ => False
  | .upload source destination => IsWord source ∧ IsWord destination
  | .uploadDir source destination _ => IsWord source ∧ IsWord destination
  | .backup path => IsWord path
  | .zipBackup archive paths => IsWord archive ∧ paths ≠ [] ∧ ∀ path ∈ paths, IsWord path

theorem words_intercalate {paths : List String} (h : ∀ path ∈ paths, IsWord path) :
    Text.words (" ".intercalate paths).toList = paths.map String.toList := by
  induction paths with
  | nil => rfl
  | cons path paths ih =>
    obtain ⟨hpath, hpaths⟩ := List.forall_mem_cons.1 h
    by_cases hne : paths = []
    · rw [hne, String.intercalate_singleton, hpath.words_toList]
      rfl
    · rw [String.intercalate_cons_of_ne_nil hne, hpath.words_append, ih hpaths, List.map_cons]

/-- The digits that are written of a limit. -/
def limitDigits (limit : UInt64) : List Char :=
  if limit = 0 then [] else Nat.toDigits 10 limit.toNat

theorem limit_limitDigits (limit : UInt64) : Limit (limitDigits limit) limit := by
  unfold limitDigits
  split
  · exact .inl ⟨rfl, ‹_›⟩
  · exact .inr (Text.denotes_toDigits limit.toNat)

theorem isDigit_of_mem_limitDigits (limit : UInt64) :
    ∀ c ∈ limitDigits limit, c.isDigit = true := by
  intro c hc
  unfold limitDigits at hc
  split at hc
  · cases hc
  · exact Nat.isDigit_of_mem_toDigits (by decide) (by decide) hc

theorem not_isUpper_of_isDigit {c : Char} (h : c.isDigit = true) : c.isUpper = false := by
  have hdigit : 48 ≤ c.toNat ∧ c.toNat ≤ 57 := Char.isDigit_iff_toNat.1 h
  by_contra hupper
  have hrange : 65 ≤ c.toNat ∧ c.toNat ≤ 90 := of_decide_eq_true (Bool.not_eq_false _ ▸ hupper)
  omega

/-- The keyword of `uploaddir` is a word, with a limit after it too. -/
theorem uploadDir_words {source destination : String} (limit : UInt64) (hs : IsWord source)
    (hd : IsWord destination) : Text.words (render (.uploadDir source destination limit)).toList =
      [uploadDirWord ++ limitDigits limit, source.toList, destination.toList] := by
  have htext : (if limit = 0 then "" else toString limit.toNat) =
      String.ofList (limitDigits limit) := by
    unfold limitDigits
    split
    · rfl
    · exact Nat.toString_eq_ofList_toDigits
  have hdigits : (String.ofList (limitDigits limit)).toList.any Text.isBlank = false := by
    rw [List.any_eq_false, String.toList_ofList]
    intro c hc
    rw [Bool.not_eq_true]
    exact Date.not_isBlank_of_isDigit (isDigit_of_mem_limitDigits limit c hc)
  have hword : IsWord ("uploaddir" ++ String.ofList (limitDigits limit)) :=
    IsWord.append (by decide) hdigits
  have hrender : render (.uploadDir source destination limit) =
      "uploaddir" ++ String.ofList (limitDigits limit) ++ " " ++ (source ++ " " ++ destination) := by
    simp only [render, htext, String.append_assoc]
  have hkeyword : "uploaddir".toList = uploadDirWord := rfl
  rw [hrender, hword.words_append, hs.words_append, hd.words_toList, String.toList_append, hkeyword,
    String.toList_ofList]

/-- What is written of an operation has a keyword and words that name it, also if the keyword is in
another case. -/
theorem render_words (h : o.InWords) : ∃ keyword args,
    Text.words o.render.toList = keyword :: args ∧
    ∀ word, Text.InAnyCase keyword word → Names (word :: args) o := by
  cases o with
  | raw command => cases h
  | upload source destination =>
    obtain ⟨hs, hd⟩ := h
    have hrender : render (.upload source destination) =
        "upload" ++ " " ++ (source ++ " " ++ destination) := by
      simp only [render, String.append_assoc]
      rfl
    refine ⟨uploadWord, [source.toList, destination.toList], ?_, fun word hword => ?_⟩
    · rw [hrender, IsWord.words_append (by decide), hs.words_append, hd.words_toList]
      rfl
    · simpa using @Names.upload word source.toList destination.toList hword
  | uploadDir source destination limit =>
    refine ⟨_, _, uploadDir_words limit h.1 h.2, fun word hword => ?_⟩
    have hdigits : (limitDigits limit).any Char.isUpper = false := by
      rw [List.any_eq_false]
      intro k hk
      rw [Bool.not_eq_true]
      exact not_isUpper_of_isDigit (isDigit_of_mem_limitDigits limit k hk)
    have hkeyword : (uploadDirWord ++ limitDigits limit).any Char.isUpper = false := by
      rw [List.any_append, hdigits]
      decide
    -- The other spelling is cut where the keyword ends: its digits are the same as in lower case.
    rw [Text.inAnyCase_iff hkeyword, List.map_eq_append_iff] at hword
    obtain ⟨word, digits, rfl, hword, htext⟩ := hword
    have hlimit : Limit digits limit := by
      rw [← limit_toLower, htext]
      exact limit_limitDigits limit
    have hupload : Text.InAnyCase uploadDirWord word := (Text.inAnyCase_iff (by decide)).2 hword
    simpa using @Names.uploadDir word digits source.toList destination.toList limit hupload hlimit
  | backup path =>
    have hrender : render (.backup path) = "bak" ++ " " ++ path := rfl
    refine ⟨backupWord, [path.toList], ?_, fun word hword => ?_⟩
    · rw [hrender, IsWord.words_append (by decide), IsWord.words_toList h]
      rfl
    · simpa using @Names.backup word path.toList hword
  | zipBackup archive paths =>
    obtain ⟨harchive, hne, hpaths⟩ := h
    obtain ⟨path, paths, rfl⟩ := List.exists_cons_of_ne_nil hne
    have hrender : render (.zipBackup archive (path :: paths)) =
        "zipbak" ++ " " ++ (archive ++ " " ++ " ".intercalate (path :: paths)) := by
      simp only [render, String.append_assoc]
      rfl
    refine ⟨zipBackupWord, archive.toList :: (path :: paths).map String.toList, ?_,
      fun word hword => ?_⟩
    · rw [hrender, IsWord.words_append (by decide), harchive.words_append, words_intercalate hpaths]
      rfl
    · simpa using @Names.zipBackup word archive.toList path.toList (paths.map String.toList) hword

/-- **Commands are read by their grammar, and what is written is read back.** The words of a command are
its pieces between blanks. It is the operation that they name, and a command with words that name none is
for the shell, with not a character changed. An operation that is written down is read back, also with its
keyword in another case, and with other blanks around and between the words. -/
theorem ofCommand_grammar :
    (∀ command : String, ∃ ws, (∀ ws', Text.Spaced command.toList ws' ↔ ws' = ws) ∧
      ∀ o, ofCommand command = o ↔ Names ws o ∨ o = .raw command ∧ ∀ o', ¬Names ws o') ∧
    ∀ o : Operation, o.InWords → ∃ keyword args, Text.Spaced o.render.toList (keyword :: args) ∧
      ∀ word text, Text.InAnyCase keyword word → Text.Spaced text.toList (word :: args) →
        ofCommand text = o := by
  refine ⟨fun command => ⟨Text.words command.toList, fun ws' => ?_, fun o => ?_⟩, fun o h => ?_⟩
  · rw [Text.spaced_iff, eq_comm]
  · exact ofCommand_eq_iff (Text.spaced_iff.2 rfl)
  · obtain ⟨keyword, args, hwords, hnames⟩ := render_words h
    refine ⟨keyword, args, Text.spaced_iff.2 hwords, fun word text hword htext => ?_⟩
    exact (ofCommand_eq_iff htext).2 (.inl (hnames word hword))

theorem ofCommand_grammar_capitals : InWords (.uploadDir "dist" "/srv/app" 7) ∧
    ofCommand "\tUploadDIR7  dist \n/srv/app" = .uploadDir "dist" "/srv/app" 7 := by
  have hin : InWords (.uploadDir "dist" "/srv/app" 7) := ⟨by decide, by decide⟩
  obtain ⟨keyword, args, hspaced, hread⟩ := ofCommand_grammar.2 _ hin
  have hwords : keyword :: args = ["uploaddir7".toList, "dist".toList, "/srv/app".toList] :=
    hspaced.words_eq.symm.trans (by decide)
  cases hwords
  refine ⟨hin, hread "UploadDIR7".toList _ ?_ ?_⟩
  · rw [Text.inAnyCase_iff (by decide)]
    decide
  · rw [Text.spaced_iff]
    decide

end Operation

end Rollout
