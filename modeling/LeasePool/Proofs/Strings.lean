import LeasePool.Toml.Text
import Mathlib.Data.List.Basic

/-!
# Strings are read as they were written

A string is written in one of four forms, and read again it is the same string, whatever characters
it has. In the basic forms every character is written as itself or as an escape that stands for it.
In the forms over lines a quote may stand for itself as long as no three stand together; so where
three quotes are met the string ends, with at most two quotes of its own before them.

## Main definitions

* `Toml.Written`: the ways to write a character of a basic string.
* `Toml.Form.Suits`: a string can be written in a form.

## Main results

* `Toml.escape?_of_escaped?`: an escape stands for the character that it was written for.
* `Toml.closing?_of_leadingRun`: the end of a string over lines is where it was written.
* `Toml.string?_writeString`: a written string is read as it was.
-/

namespace LeasePool.Toml

variable {cs body rest : List Char} {c quote : Char}

/-! ### Escapes -/

/-- Only control characters are not plain. -/
theorem toNat_lt_of_not_isPlain (control : isPlain c = false) : c.toNat < 128 := by
  simp only [isPlain, Bool.or_eq_false_iff, Bool.and_eq_false_iff, decide_eq_false_iff_not,
    bne_eq_false_iff_eq] at control
  omega

/-- The digits of a control character, as they are written, and read. -/
theorem hexNumber?_numberedEscape : ∀ n < 128,
    (numberedEscape (Char.ofNat n)).length = 6 ∧
      hexNumber? ((numberedEscape (Char.ofNat n)).drop 2) = some n := by
  decide +kernel

/-- A character given by its number is read as that character. -/
theorem escape?_numberedEscape (control : isPlain c = false) (rest : List Char) :
    ∃ digits, numberedEscape c = '\\' :: 'u' :: digits ∧
      escape? ('u' :: (digits ++ rest)) = some (c, rest) := by
  obtain ⟨length, number⟩ := hexNumber?_numberedEscape c.toNat (toNat_lt_of_not_isPlain control)
  rw [Char.ofNat_toNat] at length number
  refine ⟨(numberedEscape c).drop 2, rfl, ?_⟩
  have four : ((numberedEscape c).drop 2).length = 4 := by rw [List.length_drop, length]
  have enough : ¬ ((numberedEscape c).drop 2 ++ rest).length < 4 := by
    rw [List.length_append, four]
    omega
  have valid : c.toNat.isValidChar := c.valid
  rw [escape?, codePoint?, if_neg enough, List.take_left' four, List.drop_left' four, number,
    Option.bind_some, if_pos valid, Char.ofNat_toNat]

/-- An escape stands for the character that it was written for, and does not end its line. -/
theorem escape?_of_escaped? {written : List Char} (escaped : escaped? c = some written) :
    ∃ body, written = '\\' :: body ∧ (∀ rest, escape? (body ++ rest) = some (c, rest)) ∧
      ∀ rest, continuesLine (body ++ rest) = false := by
  unfold escaped? at escaped
  split at escaped
  case h_6 => cases escaped
  case h_7 =>
    split at escaped
    · cases escaped
    · rename_i control
      obtain rfl := Option.some.inj escaped
      have control : isPlain c = false := by simpa using control
      refine ⟨(numberedEscape c).tail, rfl, fun rest => ?_, fun rest => rfl⟩
      obtain ⟨digits, split, read⟩ := escape?_numberedEscape control rest
      rw [split]
      exact read
  all_goals
    obtain rfl := Option.some.inj escaped
    exact ⟨_, rfl, fun _ => rfl, fun _ => rfl⟩

/-- A character that is written as itself is plain, and begins no escape. -/
theorem isPlain_of_escaped? (unescaped : escaped? c = none) (notBreak : c ≠ '\n') :
    isPlain c = true ∧ c ≠ '\\' := by
  unfold escaped? at unescaped
  split at unescaped
  case h_6 => exact absurd rfl notBreak
  case h_7 notBackslash _ =>
    split at unescaped
    · rename_i plain
      exact ⟨plain, notBackslash⟩
    · cases unescaped
  all_goals cases unescaped

/-- The ways to write a character of a basic string, with the run of quotes that it leaves. -/
inductive Written (spared : Nat) (keepLineFeed : Bool) (run : Nat) (c : Char) :
    Nat → List Char → Prop
  /-- A quote stands for itself as long as there are few of them. -/
  | quote (isQuote : c = '"') (few : run < spared) : Written spared keepLineFeed run c (run + 1) [c]
  /-- A line feed is kept. -/
  | lineFeed (isBreak : c = '\n') (kept : keepLineFeed = true) :
    Written spared keepLineFeed run c 0 [c]
  | plain (plain : isPlain c = true) (notQuote : c ≠ '"') (notEscape : c ≠ '\\') :
    Written spared keepLineFeed run c 0 [c]
  /-- An escape stands for it, and does not end its line. -/
  | escape {body : List Char} (read : ∀ rest, escape? (body ++ rest) = some (c, rest))
    (goesOn : ∀ rest, continuesLine (body ++ rest) = false) :
    Written spared keepLineFeed run c 0 ('\\' :: body)

/-- A basic string is written character by character. -/
theorem writeBasic_cons (spared : Nat) (keepLineFeed : Bool) (run : Nat) (c : Char)
    (cs : List Char) :
    ∃ next piece, Written spared keepLineFeed run c next piece ∧
      writeBasic spared keepLineFeed run (c :: cs) =
        piece ++ writeBasic spared keepLineFeed next cs := by
  rw [writeBasic]
  split
  · rename_i isQuote
    subst isQuote
    split
    · rename_i few
      exact ⟨_, _, .quote rfl few, rfl⟩
    · exact ⟨0, ['\\', '"'], .escape (fun _ => rfl) (fun _ => rfl), rfl⟩
  · rename_i notQuote
    split
    · rename_i isBreak
      subst isBreak
      cases keepLineFeed with
      | true => exact ⟨_, _, .lineFeed rfl rfl, rfl⟩
      | false => exact ⟨0, ['\\', 'n'], .escape (fun _ => rfl) (fun _ => rfl), rfl⟩
    · rename_i notBreak
      cases escaped : escaped? c with
      | some written =>
        obtain ⟨body, rfl, read, goesOn⟩ := escape?_of_escaped? escaped
        exact ⟨_, _, .escape read goesOn, rfl⟩
      | none =>
        obtain ⟨plain, notEscape⟩ := isPlain_of_escaped? escaped notBreak
        exact ⟨_, _, .plain plain notQuote notEscape, rfl⟩

/-! ### Basic strings -/

theorem readBasic_escape {read : Char × List Char} (escape : escape? rest = some read) :
    readBasic ('\\' :: rest) = (readBasic read.2).cons read.1 := by
  rw [readBasic]
  simp only [Char.reduceEq, if_false, if_true]
  split
  · rename_i e rest' found
    rw [escape] at found
    obtain rfl := Option.some.inj found
    rfl
  · rename_i missing
    rw [escape] at missing
    cases missing

theorem readBasic_plain (plain : isPlain c = true) (notQuote : c ≠ '"') (notEscape : c ≠ '\\') :
    readBasic (c :: rest) = (readBasic rest).cons c := by
  rw [readBasic]
  simp only [notQuote, notEscape, plain, if_false, if_true]

/-- A basic string is read as it was written, from whatever quote on. -/
theorem readBasic_writeBasic (run : Nat) (cs rest : List Char) :
    readBasic (writeBasic 0 false run cs ++ '"' :: rest) = some (cs, rest) := by
  induction cs generalizing run with
  | nil => simp [writeBasic, readBasic]
  | cons c cs ih =>
    obtain ⟨next, piece, written, split⟩ := writeBasic_cons 0 false run c cs
    rw [split, List.append_assoc]
    cases written with
    | quote _ few => exact absurd few (Nat.not_lt_zero _)
    | lineFeed _ kept => cases kept
    | plain plain notQuote notEscape =>
      exact (readBasic_plain plain notQuote notEscape).trans (congrArg _ (ih 0))
    | escape read => exact (readBasic_escape (read _)).trans (congrArg _ (ih 0))

/-! ### Literal strings -/

/-- A string with no single quote and no character that must be escaped is read as it stands. -/
theorem readLiteral_append (plain : ∀ c ∈ cs, isPlain c = true) (noQuote : '\'' ∉ cs)
    (rest : List Char) : readLiteral (cs ++ '\'' :: rest) = some (cs, rest) := by
  induction cs with
  | nil => rfl
  | cons c cs ih =>
    obtain ⟨notQuote, noQuote⟩ := not_or.mp fun there => noQuote (List.mem_cons.mpr there)
    rw [List.cons_append, readLiteral, if_neg (Ne.symm notQuote),
      if_pos (plain c List.mem_cons_self),
      ih (fun c there => plain c (List.mem_cons_of_mem _ there)) noQuote]
    rfl

/-! ### The end of a string over lines -/

/-- The run of quotes with which a text begins. -/
def leadingRun (quote : Char) (cs : List Char) : Nat := (cs.takeWhile (· == quote)).length

@[simp] theorem leadingRun_cons_self :
    leadingRun quote (quote :: cs) = leadingRun quote cs + 1 := by
  simp [leadingRun]

theorem leadingRun_of_head? (other : ∀ c ∈ cs.head?, c ≠ quote) : leadingRun quote cs = 0 := by
  cases cs with
  | nil => rfl
  | cons c cs => simp [leadingRun, other c rfl]

theorem leadingRun_replicate (k : Nat) (other : ∀ c ∈ rest.head?, c ≠ quote) :
    leadingRun quote (List.replicate k quote ++ rest) = k := by
  induction k with
  | zero => exact leadingRun_of_head? other
  | succ k ih => rw [List.replicate_succ, List.cons_append, leadingRun_cons_self, ih]

theorem closing?_eq (quote : Char) (cs : List Char) :
    closing? quote cs =
      if leadingRun quote cs < 3 then none
      else some (List.replicate (min (leadingRun quote cs - 3) 2) quote,
        cs.drop (min (leadingRun quote cs - 3) 2 + 3)) := rfl

theorem closing?_of_lt (few : leadingRun quote cs < 3) : closing? quote cs = none := if_pos few

theorem closing?_replicate {k : Nat} (few : k ≤ 2) (other : ∀ c ∈ rest.head?, c ≠ quote) :
    closing? quote (List.replicate (k + 3) quote ++ rest) =
      some (List.replicate k quote, rest) := by
  have extra : min (k + 3 - 3) 2 = k := by omega
  rw [closing?_eq, leadingRun_replicate _ other, if_neg (by omega), extra,
    List.drop_left' (List.length_replicate ..)]

/-- Where no three quotes stand together, a text that is followed by three either begins with few
of them or is nothing but quotes. -/
theorem leadingRun_of_longestRun {run : Nat} (few : longestRun quote run body ≤ 2)
    (rest : List Char) :
    leadingRun quote (body ++ rest) + run ≤ 2 ∨
      body = List.replicate body.length quote ∧ body.length + run ≤ 2 := by
  induction body generalizing run with
  | nil =>
    right
    simpa [longestRun] using few
  | cons c body ih =>
    rw [longestRun] at few
    split at few
    · rename_i isQuote
      subst isQuote
      rw [List.cons_append, leadingRun_cons_self, List.length_cons, List.replicate_succ]
      rcases ih few with short | ⟨quotes, short⟩
      · left
        omega
      · right
        exact ⟨congrArg _ quotes, by omega⟩
    · rename_i other
      left
      rw [leadingRun_of_head? (by simpa using other)]
      omega

/-- Where a text begins with few quotes, though three follow it, it does not end there; where it is
nothing but few quotes, it ends after them. -/
theorem closing?_of_leadingRun (body : List Char)
    (few : leadingRun quote (body ++ (List.replicate 3 quote ++ rest)) ≤ 2 ∨
      body = List.replicate body.length quote ∧ body.length ≤ 2)
    (other : ∀ c ∈ rest.head?, c ≠ quote) :
    closing? quote (body ++ (List.replicate 3 quote ++ rest)) = none ∨
      closing? quote (body ++ (List.replicate 3 quote ++ rest)) = some (body, rest) := by
  rcases few with few | ⟨quotes, few⟩
  · exact .inl (closing?_of_lt (by omega))
  · right
    rw [quotes, ← List.append_assoc, List.replicate_append_replicate, closing?_replicate few other]

/-! ### Basic strings over lines -/

theorem readBasicLines_of_closing {closed : List Char × List Char}
    (closes : closing? '"' cs = some closed) : readBasicLines false cs = some closed := by
  cases cs with
  | nil => cases closes
  | cons c cs =>
    rw [readBasicLines]
    simp only [Bool.false_eq_true, false_and, if_false, closes]

theorem readBasicLines_escape {read : Char × List Char} (escape : escape? rest = some read)
    (goesOn : continuesLine rest = false) :
    readBasicLines false ('\\' :: rest) = (readBasicLines false read.2).cons read.1 := by
  have inside : closing? '"' ('\\' :: rest) = none :=
    closing?_of_lt (by rw [leadingRun_of_head? (by simp)]; omega)
  rw [readBasicLines]
  simp only [Bool.false_eq_true, false_and, if_false, if_true, inside, goesOn]
  split
  · rename_i e rest' found
    rw [escape] at found
    obtain rfl := Option.some.inj found
    rfl
  · rename_i missing
    rw [escape] at missing
    cases missing

theorem readBasicLines_plain (inside : closing? '"' (c :: rest) = none) (notEscape : c ≠ '\\')
    (plain : c = '\n' ∨ isPlain c = true) :
    readBasicLines false (c :: rest) = (readBasicLines false rest).cons c := by
  rw [readBasicLines]
  simp only [Bool.false_eq_true, false_and, if_false, inside, notEscape, plain, if_true]

/-- The body of a basic string over lines begins with few quotes, though three follow it, or is
nothing but quotes that stand for themselves. -/
theorem leadingRun_writeBasic {run : Nat} (few : run ≤ 2) (cs rest : List Char) :
    leadingRun '"' (writeBasic 2 true run cs ++ rest) + run ≤ 2 ∨
      writeBasic 2 true run cs = cs ∧ cs = List.replicate cs.length '"' ∧ cs.length + run ≤ 2 := by
  induction cs generalizing run with
  | nil =>
    right
    simpa [writeBasic] using few
  | cons c cs ih =>
    obtain ⟨next, piece, written, split⟩ := writeBasic_cons 2 true run c cs
    rw [split]
    have bare (other : ∀ c ∈ piece.head?, c ≠ '"') (some' : piece ≠ []) :
        leadingRun '"' (piece ++ writeBasic 2 true next cs ++ rest) + run ≤ 2 := by
      rw [List.append_assoc, leadingRun_of_head?]
      · omega
      · rwa [List.head?_append_of_ne_nil _ some']
    cases written with
    | quote isQuote spared =>
      subst isQuote
      simp only [List.cons_append, List.nil_append, leadingRun_cons_self, List.length_cons,
        List.replicate_succ]
      have next : run + 1 ≤ 2 := spared
      rcases ih next with short | ⟨itself, quotes, short⟩
      · left
        omega
      · right
        exact ⟨congrArg _ itself, congrArg _ quotes, by omega⟩
    | lineFeed isBreak => exact .inl (bare (by simp [isBreak]) (by simp))
    | plain _ notQuote => exact .inl (bare (by simpa using notQuote) (by simp))
    | escape => exact .inl (bare (by simp) (by simp))

theorem Written.next_le {run next : Nat} {piece : List Char}
    (written : Written 2 true run c next piece) : next ≤ 2 := by
  cases written with
  | quote _ few => exact few
  | lineFeed | plain | escape => exact Nat.zero_le 2

/-- What is written of a character is read as that character where the string does not end. -/
theorem Written.readBasicLines {run next : Nat} {piece : List Char}
    (written : Written 2 true run c next piece) (inside : closing? '"' (piece ++ rest) = none) :
    readBasicLines false (piece ++ rest) = (readBasicLines false rest).cons c := by
  cases written with
  | quote isQuote =>
    subst isQuote
    exact readBasicLines_plain inside (by decide) (.inr (by decide))
  | lineFeed isBreak =>
    subst isBreak
    exact readBasicLines_plain inside (by decide) (.inl rfl)
  | plain plain _ notEscape => exact readBasicLines_plain inside notEscape (.inr plain)
  | escape read goesOn => exact readBasicLines_escape (read _) (goesOn _)

/-- A basic string over lines is read as it was written, from whatever quote on. -/
theorem readBasicLines_writeBasic {run : Nat} (few : run ≤ 2) (cs : List Char)
    (other : ∀ c ∈ rest.head?, c ≠ '"') :
    readBasicLines false (writeBasic 2 true run cs ++ (List.replicate 3 '"' ++ rest)) =
      some (cs, rest) := by
  induction cs generalizing run with
  | nil => exact readBasicLines_of_closing (closing?_replicate (Nat.zero_le 2) other)
  | cons c cs ih =>
    have leading := leadingRun_writeBasic few (c :: cs) (List.replicate 3 '"' ++ rest)
    have ends := closing?_of_leadingRun (writeBasic 2 true run (c :: cs))
      (leading.imp (fun short => by omega) fun ⟨itself, quotes, short⟩ => by
        rw [itself]
        exact ⟨quotes, by omega⟩) other
    rcases ends with inside | closed
    · obtain ⟨next, piece, written, split⟩ := writeBasic_cons 2 true run c cs
      rw [split, List.append_assoc] at inside ⊢
      rw [written.readBasicLines inside, ih written.next_le]
      rfl
    · -- the rest of the string is at most two quotes, which stand before the closing ones
      rw [readBasicLines_of_closing closed]
      rcases leading with short | ⟨itself, -⟩
      · rw [closing?_of_lt (by omega)] at closed
        cases closed
      · rw [itself]

/-! ### Literal strings over lines -/

theorem readLiteralLines_of_closing {closed : List Char × List Char}
    (closes : closing? '\'' cs = some closed) : readLiteralLines cs = some closed := by
  cases cs with
  | nil => cases closes
  | cons c cs =>
    rw [readLiteralLines, closes]

/-- A literal string over lines is read as it stands. -/
theorem readLiteralLines_append (plain : ∀ c ∈ cs, c = '\n' ∨ isPlain c = true) {run : Nat}
    (few : longestRun '\'' run cs ≤ 2) (other : ∀ c ∈ rest.head?, c ≠ '\'') :
    readLiteralLines (cs ++ (List.replicate 3 '\'' ++ rest)) = some (cs, rest) := by
  induction cs generalizing run with
  | nil => exact readLiteralLines_of_closing (closing?_replicate (Nat.zero_le 2) other)
  | cons c cs ih =>
    have leading := leadingRun_of_longestRun few (List.replicate 3 '\'' ++ rest)
    have ends := closing?_of_leadingRun (c :: cs)
      (leading.imp (by omega) (.imp_right (by omega))) other
    rcases ends with inside | closed
    · obtain ⟨next, fewNext⟩ : ∃ next, longestRun '\'' next cs ≤ 2 := by
        rw [longestRun] at few
        split at few
        · exact ⟨run + 1, few⟩
        · exact ⟨0, by omega⟩
      rw [List.cons_append] at inside ⊢
      rw [readLiteralLines, inside]
      simp only [plain c List.mem_cons_self, if_true]
      rw [ih (fun c there => plain c (List.mem_cons_of_mem _ there)) fewNext]
      rfl
    · exact readLiteralLines_of_closing closed

/-! ### Strings in any form -/

/-- A string can be written in a form: the literal forms have no escapes, and only so many quotes
may stand together in them. -/
def Form.Suits (form : Form) (cs : List Char) : Prop :=
  match form with
  | .basic | .basicLines => True
  | .literal => (∀ c ∈ cs, isPlain c = true) ∧ '\'' ∉ cs
  | .literalLines =>
    (∀ c ∈ cs, c = '\n' ∨ isPlain c = true) ∧ longestRun '\'' 0 cs ≤ 2

theorem plain_of_traits (noControl : (Traits.of cs).control = false) :
    ∀ c ∈ cs, c = '\n' ∨ isPlain c = true := by
  intro c there
  have uncontrolled := List.any_eq_false.mp noControl c there
  by_cases isBreak : c = '\n'
  · exact .inl isBreak
  · right
    simpa [isBreak] using uncontrolled

/-- A run that has begun does not count for less at its end. -/
theorem le_longestRun (quote : Char) (run : Nat) (cs : List Char) :
    run ≤ longestRun quote run cs := by
  induction cs generalizing run with
  | nil => exact Nat.le_refl _
  | cons c cs ih =>
    rw [longestRun]
    split
    · exact Nat.le_trans (Nat.le_succ _) (ih _)
    · exact Nat.le_max_left ..

/-- A character that occurs has a run. -/
theorem notMem_of_longestRun {run : Nat} (none : longestRun quote run cs = 0) : quote ∉ cs := by
  induction cs generalizing run with
  | nil => exact List.not_mem_nil
  | cons c cs ih =>
    rw [longestRun] at none
    split at none
    · rename_i isQuote
      have counted := le_longestRun quote (run + 1) cs
      omega
    · rename_i other
      have later : longestRun quote 0 cs = 0 := by omega
      exact fun there => (List.mem_cons.mp there).elim (fun same => other same.symm) (ih later)

/-- The form in which a string is written suits it. -/
theorem Form.suits_preferred (cs : List Char) : (Form.preferred cs).Suits cs := by
  unfold Form.preferred
  dsimp only
  split
  · exact trivial
  · split
    · rename_i literal
      obtain ⟨noControl, noSingles, noBreak⟩ := literal
      have noBreak : '\n' ∉ cs := by simpa [Traits.of] using noBreak
      refine ⟨fun c there => ?_, notMem_of_longestRun noSingles⟩
      exact (plain_of_traits (by simpa using noControl) c there).resolve_left
        fun isBreak => noBreak (isBreak ▸ there)
    · split
      · exact trivial
      · split
        · rename_i literal
          exact ⟨plain_of_traits (by simpa using literal.1), literal.2⟩
        · split <;> exact trivial

theorem dropLineBreak_of_head? (other : ∀ c ∈ cs.head?, c ≠ '\n' ∧ c ≠ '\r') :
    dropLineBreak cs = cs := by
  unfold dropLineBreak
  split
  · exact absurd rfl (other _ rfl).1
  · exact absurd rfl (other _ rfl).2
  · rfl

/-- A line break after the opening quotes is left out, and one is written there just where the
string has a line break, so that none of its own is lost. -/
theorem dropLineBreak_opening (cs body : List Char)
    (own : '\n' ∉ cs → ∀ c ∈ body.head?, c ≠ '\n' ∧ c ≠ '\r') :
    dropLineBreak ((if cs.contains '\n' then ['\n'] else []) ++ body) = body := by
  by_cases hasBreak : '\n' ∈ cs
  · rw [if_pos (by simpa using hasBreak)]
    rfl
  · rw [if_neg (by simpa using hasBreak)]
    exact dropLineBreak_of_head? (own hasBreak)

/-- The body of a basic string over lines begins with a line break only if the string does. -/
theorem head?_writeBasic (run : Nat) (noBreak : '\n' ∉ cs) (rest : List Char) :
    ∀ c ∈ (writeBasic 2 true run cs ++ (List.replicate 3 '"' ++ rest)).head?,
      c ≠ '\n' ∧ c ≠ '\r' := by
  cases cs with
  | nil => simp [writeBasic, List.replicate]
  | cons c cs =>
    obtain ⟨next, piece, written, split⟩ := writeBasic_cons 2 true run c cs
    rw [split]
    cases written with
    | quote isQuote => simp [isQuote]
    | lineFeed isBreak => exact absurd (isBreak ▸ List.mem_cons_self) noBreak
    | plain plain =>
      have notBreak : c ≠ '\n' := fun same => noBreak (same ▸ List.mem_cons_self)
      have notReturn : c ≠ '\r' := by
        rintro rfl
        cases plain
      simpa using ⟨notBreak, notReturn⟩
    | escape => simp

/-- One quote opens a basic string unless two more follow it. -/
theorem string?_double (two : ∀ more, cs ≠ '"' :: '"' :: more) :
    string? ('"' :: cs) = readBasic cs := by
  unfold string?
  split
  · rename_i more same
    exact absurd (List.cons.inj same).2 (two more)
  · rename_i same
    rw [(List.cons.inj same).2]
  · rename_i same
    cases same
  · rename_i same
    cases same
  · rename_i none _ _
    exact absurd rfl (none cs)

theorem string?_single (two : ∀ more, cs ≠ '\'' :: '\'' :: more) :
    string? ('\'' :: cs) = readLiteral cs := by
  unfold string?
  split
  · rename_i same
    cases same
  · rename_i same
    cases same
  · rename_i more same
    exact absurd (List.cons.inj same).2 (two more)
  · rename_i same
    rw [(List.cons.inj same).2]
  · rename_i none
    exact absurd rfl (none cs)

/-- The body of a basic string begins with no quote of its own. -/
theorem writeBasic_ne_quotes (cs : List Char) (other : ∀ c ∈ rest.head?, c ≠ '"')
    (more : List Char) : writeBasic 0 false 0 cs ++ '"' :: rest ≠ '"' :: '"' :: more := by
  intro same
  cases cs with
  | nil =>
    obtain rfl : rest = '"' :: more := (List.cons.inj same).2
    exact other _ rfl rfl
  | cons c cs =>
    obtain ⟨next, piece, written, split⟩ := writeBasic_cons 0 false 0 c cs
    rw [split] at same
    cases written with
    | quote _ few => cases few
    | lineFeed _ kept => cases kept
    | plain _ notQuote => exact notQuote (List.cons.inj same).1
    | escape => cases same

/-- A string in a form that suits it is read as it was written. What follows it must begin with no
quote. -/
theorem string?_write {form : Form} (suits : form.Suits cs)
    (double : ∀ c ∈ rest.head?, c ≠ '"') (single : ∀ c ∈ rest.head?, c ≠ '\'') :
    string? (form.write cs ++ rest) = some (cs, rest) := by
  cases form with
  | basic =>
    simp only [Form.write, List.append_assoc, List.cons_append, List.nil_append]
    rw [string?_double (writeBasic_ne_quotes cs double), readBasic_writeBasic]
  | literal =>
    obtain ⟨plain, noQuote⟩ := suits
    simp only [Form.write, List.append_assoc, List.cons_append, List.nil_append]
    rw [string?_single, readLiteral_append plain noQuote]
    intro more same
    cases cs with
    | nil =>
      obtain rfl : rest = '\'' :: more := (List.cons.inj same).2
      exact single _ rfl rfl
    | cons c cs => exact noQuote (List.mem_cons.mpr (.inl (List.cons.inj same).1.symm))
  | basicLines =>
    simp only [Form.write, List.append_assoc, List.cons_append, List.nil_append]
    have read := readBasicLines_writeBasic (Nat.zero_le 2) cs double
    have kept := dropLineBreak_opening cs _ fun noBreak => head?_writeBasic 0 noBreak rest
    rw [string?]
    exact (congrArg _ kept).trans read
  | literalLines =>
    obtain ⟨plain, few⟩ := suits
    simp only [Form.write, List.append_assoc, List.cons_append, List.nil_append]
    have read := readLiteralLines_append plain few single
    have kept := dropLineBreak_opening cs (cs ++ (List.replicate 3 '\'' ++ rest)) <| by
      intro noBreak c first
      cases cs with
      | nil =>
        obtain rfl : '\'' = c := by simpa [List.replicate] using first
        decide
      | cons d cs =>
        obtain rfl : d = c := by simpa using first
        have notBreak : d ≠ '\n' := fun same => noBreak (same ▸ List.mem_cons_self)
        refine ⟨notBreak, ?_⟩
        rintro rfl
        exact absurd ((plain _ List.mem_cons_self).resolve_left notBreak) (by decide)
    rw [string?]
    exact (congrArg _ kept).trans read

/-- A written string is read as it was. What follows it must begin with no quote. -/
theorem string?_writeString (s : String) (double : ∀ c ∈ rest.head?, c ≠ '"')
    (single : ∀ c ∈ rest.head?, c ≠ '\'') :
    string? ((writeString s).toList ++ rest) = some (s.toList, rest) := by
  rw [writeString, String.toList_ofList]
  exact string?_write (Form.suits_preferred s.toList) double single

end LeasePool.Toml
