import LeasePool.Duration.Text
import Mathlib.Data.List.Basic
import Mathlib.Data.List.Induction

/-!
# Which texts are durations

A text is read as a duration exactly if it is spelled as one: an amount with an optional plus sign
before it and the name of a unit after it, with blanks before, between and behind, and the amount
fits in 64 bits. Amounts and blanks hold no letter of a unit, and units hold no blanks, so that the
longest name at the end of a text is its unit, and no text can be taken for two amounts or two
units.

## Main definitions

* `Text.Numeral`: decimal digits and the number that they write.
* `Duration.TimeUnit.nanos`: how long so many of a unit are.
* `Duration.Spelling`: the parts of a text that is spelled as a duration.

## Main results

* `Text.digits?_eq_some_iff`: what is read from digits is the number that they write.
* `Duration.Spelling.parse?_text`: what a text is read as that is spelled as a duration.
* `Duration.exists_spelling`: whatever is read is spelled as a duration.
* `Duration.read_iff_spelled`: a text is read exactly if it is spelled as a duration that fits, and
  in one way only.
-/

namespace LeasePool

/-! ### Numerals -/

namespace Text

variable {cs digits : List Char} {n bound : Nat}

theorem isBlank_of_isDigit {c : Char} (digit : c.isDigit = true) : isBlank c = false := by
  obtain ⟨low, high⟩ : 48 ≤ c.toNat ∧ c.toNat ≤ 57 := by
    simp only [Char.isDigit, Bool.and_eq_true, decide_eq_true_eq, ge_iff_le,
      UInt32.le_iff_toNat_le] at digit
    exact digit
  simp only [isBlank, Bool.or_eq_false_iff, Bool.and_eq_false_iff, decide_eq_false_iff_not,
    beq_eq_false_iff_ne]
  omega

/-- One or more decimal digits write a number, the digit of least weight last. There may be zeros
in front. -/
inductive Numeral : List Char → Nat → Prop
  | digit {c : Char} (isDigit : c.isDigit) : Numeral [c] (c.toNat - '0'.toNat)
  | snoc {cs : List Char} {n : Nat} {c : Char} (numeral : Numeral cs n) (isDigit : c.isDigit) :
    Numeral (cs ++ [c]) (10 * n + (c.toNat - '0'.toNat))

theorem Numeral.ne_nil (numeral : Numeral digits n) : digits ≠ [] := by
  cases numeral with
  | digit => exact List.cons_ne_nil _ _
  | snoc => exact List.append_ne_nil_of_right_ne_nil _ (List.cons_ne_nil _ _)

theorem Numeral.isDigit_of_mem (numeral : Numeral digits n) {c : Char} (there : c ∈ digits) :
    c.isDigit := by
  induction numeral with
  | digit isDigit => exact List.mem_singleton.mp there ▸ isDigit
  | snoc _ isDigit ih =>
    rcases List.mem_append.mp there with before | last
    · exact ih before
    · exact List.mem_singleton.mp last ▸ isDigit

theorem Numeral.ofDigitChars_eq (numeral : Numeral digits n) :
    Nat.ofDigitChars 10 digits 0 = n := by
  induction numeral with
  | digit _ =>
    rw [Nat.ofDigitChars_cons, Nat.ofDigitChars_nil, Nat.mul_zero, Nat.zero_add]
  | snoc _ _ ih => rw [Nat.ofDigitChars_append, ih, Nat.ofDigitChars_cons, Nat.ofDigitChars_nil]

theorem numeral_ofDigitChars (nonempty : digits ≠ []) (all : ∀ c ∈ digits, c.isDigit) :
    Numeral digits (Nat.ofDigitChars 10 digits 0) := by
  induction digits using List.reverseRecOn with
  | nil => exact absurd rfl nonempty
  | append_singleton digits c ih =>
    have isDigit : c.isDigit := all c (List.mem_append_right _ List.mem_cons_self)
    rw [Nat.ofDigitChars_append, Nat.ofDigitChars_cons, Nat.ofDigitChars_nil]
    cases digits with
    | nil =>
      rw [Nat.ofDigitChars_nil, Nat.mul_zero, Nat.zero_add]
      exact .digit isDigit
    | cons d digits =>
      exact .snoc (ih (List.cons_ne_nil _ _) fun c there => all c (List.mem_append_left _ there))
        isDigit

theorem digits?_eq_some_iff : digits? cs = some n ↔ Numeral cs n := by
  unfold digits?
  constructor
  · intro read
    split at read
    · rename_i isNumber
      rw [← Option.some.inj read]
      exact numeral_ofDigitChars isNumber.1 (List.all_eq_true.mp isNumber.2)
    · cases read
  · intro numeral
    rw [if_pos ⟨numeral.ne_nil, List.all_eq_true.mpr fun _ => numeral.isDigit_of_mem⟩,
      numeral.ofDigitChars_eq]

/-- Digits with a plus sign before them or without one. -/
def signed (plus : Bool) (digits : List Char) : List Char :=
  if plus then '+' :: digits else digits

theorem Numeral.dropPlus_signed (numeral : Numeral digits n) (plus : Bool) :
    dropPlus (signed plus digits) = digits := by
  cases plus with
  | true => rfl
  | false =>
    show dropPlus digits = digits
    unfold dropPlus
    split
    · have isDigit := numeral.isDigit_of_mem List.mem_cons_self
      cases isDigit
    · rfl

theorem exists_signed_dropPlus (cs : List Char) : ∃ plus, cs = signed plus (dropPlus cs) := by
  unfold dropPlus
  split
  · exact ⟨true, rfl⟩
  · exact ⟨false, rfl⟩

/-- A number is read, with a sign or without one, if it is below the bound. -/
theorem Numeral.below?_signed (numeral : Numeral digits n) (plus : Bool) :
    below? bound (signed plus digits) = if h : n < bound then some ⟨n, h⟩ else none := by
  rw [below?, numeral.dropPlus_signed, digits?_eq_some_iff.mpr numeral, Option.bind_some]

theorem exists_numeral_of_below? {n : Fin bound} (read : below? bound cs = some n) :
    ∃ plus digits, cs = signed plus digits ∧ Numeral digits n := by
  obtain ⟨m, digits, fits⟩ := Option.bind_eq_some_iff.mp read
  split at fits
  · obtain rfl := Option.some.inj fits
    obtain ⟨plus, whole⟩ := exists_signed_dropPlus cs
    exact ⟨plus, _, whole, digits?_eq_some_iff.mp digits⟩
  · cases fits

theorem Numeral.signed_ne_nil (numeral : Numeral digits n) (plus : Bool) :
    signed plus digits ≠ [] := by
  cases plus with
  | true => exact List.cons_ne_nil _ _
  | false => exact numeral.ne_nil

theorem Numeral.mem_signed (numeral : Numeral digits n) {plus : Bool} {c : Char}
    (there : c ∈ signed plus digits) : c = '+' ∨ c.isDigit := by
  cases plus with
  | true => exact (List.mem_cons.mp there).imp_right numeral.isDigit_of_mem
  | false => exact .inr (numeral.isDigit_of_mem there)

theorem Numeral.isBlank_of_mem_signed (numeral : Numeral digits n) {plus : Bool} {c : Char}
    (there : c ∈ signed plus digits) : isBlank c = false := by
  rcases numeral.mem_signed there with rfl | digit
  · decide
  · exact isBlank_of_isDigit digit

end Text

namespace Duration

/-! ### Units -/

/-- The number of nanoseconds that so many of a unit last. No more than `2 ^ 64 - 1` seconds are
counted for minutes. -/
def TimeUnit.nanos : TimeUnit → Nat → Nat
  | milliseconds, n => n * 1_000_000
  | seconds, n => n * 1_000_000_000
  | minutes, n => min (60 * n) 0xffffffffffffffff * 1_000_000_000
  | unnamed, n => n * 1_000_000_000

theorem TimeUnit.nanos_of (unit : TimeUnit) (n : Amount) : (unit.of n).nanos = unit.nanos n := by
  cases unit with
  | milliseconds | seconds | unnamed => rfl
  | minutes =>
    show min (n.val * 60) 0xffffffffffffffff * 1_000_000_000 = _
    rw [Nat.mul_comm n.val 60]
    rfl

theorem TimeUnit.isBlank_of_mem_name {unit : TimeUnit} {c : Char} (there : c ∈ unit.name) :
    Text.isBlank c = false := by
  have letters : unit.name.all fun c => !Text.isBlank c := by cases unit <;> decide
  simpa using List.all_eq_true.mp letters c there

theorem TimeUnit.name_ne_nil {unit : TimeUnit} (named : unit ≠ .unnamed) : unit.name ≠ [] := by
  cases unit with
  | milliseconds | seconds | minutes => exact List.cons_ne_nil _ _
  | unnamed => exact absurd rfl named

/-- A text is what precedes its unit, and the name of its unit. -/
theorem splitUnit_append (cs : List Char) : (splitUnit cs).1 ++ (splitUnit cs).2.name = cs := by
  have reversed : ∀ ds, (splitUnitReversed ds).1 ++ (splitUnitReversed ds).2.name = ds.reverse := by
    intro ds
    unfold splitUnitReversed
    split <;> simp [TimeUnit.name]
  rw [splitUnit, reversed, List.reverse_reverse]

/-- What precedes the name of a unit and the unit are found if no letter of a unit stands before
the name. -/
theorem splitUnit_append_name {front : List Char} (unit : TimeUnit)
    (noLetter : ∀ c ∈ front.getLast?, c ≠ 's' ∧ c ≠ 'm') :
    splitUnit (front ++ unit.name) = (front, unit) := by
  have noUnit {c : Char} {more : List Char} (begins : front.reverse = c :: more) :
      c ≠ 's' ∧ c ≠ 'm' := by
    refine noLetter c ?_
    rw [← List.head?_reverse, begins]
    rfl
  rw [splitUnit, List.reverse_append]
  cases unit with
  | milliseconds => exact congrArg (·, TimeUnit.milliseconds) (List.reverse_reverse _)
  | seconds =>
    -- the one name that a letter before it would turn into another
    show splitUnitReversed ('s' :: front.reverse) = _
    unfold splitUnitReversed
    split
    · rename_i begins
      exact absurd rfl (noUnit (List.cons.inj begins).2).2
    · rename_i begins
      rw [← (List.cons.inj begins).2, List.reverse_reverse]
    · rename_i begins
      cases begins
    · rename_i other _
      exact absurd rfl (other _)
  | minutes => exact congrArg (·, TimeUnit.minutes) (List.reverse_reverse _)
  | unnamed =>
    show splitUnitReversed front.reverse = _
    unfold splitUnitReversed
    split
    · exact absurd rfl (noUnit ‹_›).1
    · exact absurd rfl (noUnit ‹_›).1
    · exact absurd rfl (noUnit ‹_›).2
    · rw [List.reverse_reverse]

/-- A duration is read by splitting its unit off and reading the amount before it. -/
theorem parse?_eq (s : String) : parse? s =
    (amount? (Text.trim (splitUnit (Text.trim s.toList)).1)).map
      (splitUnit (Text.trim s.toList)).2.of :=
  rfl

/-! ### Spellings -/

/-- The parts of a text that is spelled as a duration. -/
structure Spelling where
  before : List Char
  /-- A plus sign precedes the digits. -/
  plus : Bool
  digits : List Char
  between : List Char
  unit : TimeUnit
  after : List Char
  /-- The number that the digits write. -/
  amount : Nat
  numeral : Text.Numeral digits amount
  blank_before : ∀ c ∈ before, Text.isBlank c
  blank_between : ∀ c ∈ between, Text.isBlank c
  blank_after : ∀ c ∈ after, Text.isBlank c

namespace Spelling

variable {p q : Spelling}

/-- The amount with its sign. -/
def written (p : Spelling) : List Char := Text.signed p.plus p.digits

/-- The whole text. -/
def text (p : Spelling) : List Char :=
  p.before ++ p.written ++ p.between ++ p.unit.name ++ p.after

theorem written_ne_nil (p : Spelling) : p.written ≠ [] := p.numeral.signed_ne_nil p.plus

theorem isBlank_of_mem_written {c : Char} (there : c ∈ p.written) : Text.isBlank c = false :=
  p.numeral.isBlank_of_mem_signed there

/-- Neither in the amount nor in the blanks behind it stands a letter of a unit. -/
theorem noLetter_of_mem {c : Char} (there : c ∈ p.written ++ p.between) : c ≠ 's' ∧ c ≠ 'm' := by
  rcases List.mem_append.mp there with amount | blank
  · rcases p.numeral.mem_signed amount with rfl | digit
    · decide
    · constructor <;> rintro rfl <;> cases digit
  · have isBlank := p.blank_between c blank
    constructor <;> rintro rfl <;> cases isBlank

/-- Trimming leaves the amount if it stands between blanks. -/
theorem trim_written (p : Spelling) {before after : List Char}
    (blankBefore : ∀ c ∈ before, Text.isBlank c) (blankAfter : ∀ c ∈ after, Text.isBlank c) :
    Text.trim (before ++ p.written ++ after) = p.written :=
  Text.trim_between_blanks blankBefore blankAfter p.written_ne_nil
    (fun _ first => isBlank_of_mem_written (List.mem_of_head? first))
    (fun _ last => isBlank_of_mem_written (List.mem_of_getLast? last))

/-- Trimming leaves the amount, the name of the unit and the blanks between them, if there is a
name. -/
theorem trim_text (p : Spelling) (named : p.unit ≠ .unnamed) :
    Text.trim p.text = p.written ++ p.between ++ p.unit.name := by
  have whole : p.text = p.before ++ (p.written ++ p.between ++ p.unit.name) ++ p.after := by
    simp only [text, List.append_assoc]
  rw [whole]
  refine Text.trim_between_blanks p.blank_before p.blank_after ?_ (fun c first => ?_)
    (fun c last => ?_)
  · exact List.append_ne_nil_of_right_ne_nil _ (TimeUnit.name_ne_nil named)
  · rw [List.append_assoc, List.head?_append_of_ne_nil _ p.written_ne_nil] at first
    exact isBlank_of_mem_written (List.mem_of_head? first)
  · rw [List.getLast?_append_of_ne_nil _ (TimeUnit.name_ne_nil named)] at last
    exact TimeUnit.isBlank_of_mem_name (List.mem_of_getLast? last)

/-- Splitting the text into its unit and what precedes it, between trimming, finds the unit and
the amount. -/
theorem splitUnit_text (p : Spelling) : ∃ front,
    splitUnit (Text.trim p.text) = (front, p.unit) ∧ Text.trim front = p.written := by
  have trimmed {blanks : List Char} (blank : ∀ c ∈ blanks, Text.isBlank c) :
      Text.trim (p.written ++ blanks) = p.written :=
    @trim_written p [] blanks (by simp) blank
  -- without a name the blanks behind the amount go with those at the end of the text
  by_cases named : p.unit = .unnamed
  · have whole : p.text = p.before ++ p.written ++ (p.between ++ p.after) := by
      simp only [text, named, TimeUnit.name, List.append_nil, List.append_assoc]
    have blankAfter : ∀ c ∈ p.between ++ p.after, Text.isBlank c := fun c there =>
      (List.mem_append.mp there).elim (p.blank_between c) (p.blank_after c)
    have bare : p.written ++ TimeUnit.unnamed.name = p.written := List.append_nil _
    have alone : Text.trim (p.written ++ []) = p.written := trimmed (by simp)
    rw [List.append_nil] at alone
    refine ⟨p.written, ?_, alone⟩
    rw [whole, p.trim_written p.blank_before blankAfter, named]
    calc splitUnit p.written
      _ = splitUnit (p.written ++ TimeUnit.unnamed.name) := by rw [bare]
      _ = (p.written, .unnamed) := splitUnit_append_name .unnamed fun c last =>
          noLetter_of_mem (List.mem_append_left _ (List.mem_of_getLast? last))
  · refine ⟨p.written ++ p.between, ?_, trimmed p.blank_between⟩
    rw [p.trim_text named]
    exact splitUnit_append_name p.unit fun c last => noLetter_of_mem (List.mem_of_getLast? last)

/-- The amount and the unit of a text that is spelled as a duration are read, if the amount fits in
64 bits. -/
theorem parse?_text (p : Spelling) : parse? (String.ofList p.text) =
    if h : p.amount < 0x10000000000000000 then some (p.unit.of ⟨p.amount, h⟩) else none := by
  obtain ⟨front, found, trimmed⟩ := p.splitUnit_text
  rw [parse?_eq, String.toList_ofList, found, trimmed, amount?, written,
    p.numeral.below?_signed]
  split <;> rfl

/-- A text is spelled as so many of a unit for one amount and one unit only. -/
theorem unique (same : p.text = q.text) : p.amount = q.amount ∧ p.unit = q.unit := by
  obtain ⟨front, found, trimmed⟩ := p.splitUnit_text
  obtain ⟨front', found', trimmed'⟩ := q.splitUnit_text
  rw [same, found'] at found
  obtain ⟨rfl, unit⟩ := Prod.mk.inj found
  have digits : p.digits = q.digits :=
    calc p.digits
      _ = Text.dropPlus p.written := (p.numeral.dropPlus_signed p.plus).symm
      _ = Text.dropPlus q.written := by rw [← trimmed, trimmed']
      _ = q.digits := q.numeral.dropPlus_signed q.plus
  refine ⟨?_, unit.symm⟩
  rw [← p.numeral.ofDigitChars_eq, digits, q.numeral.ofDigitChars_eq]

end Spelling

variable {s : String} {d : Duration}

/-- Whatever is read is spelled as a duration of an amount that fits in 64 bits. -/
theorem exists_spelling (read : parse? s = some d) : ∃ p : Spelling, p.text = s.toList ∧
    ∃ fits : p.amount < 0x10000000000000000, d = p.unit.of ⟨p.amount, fits⟩ := by
  rw [parse?_eq] at read
  obtain ⟨n, amount, rfl⟩ := Option.map_eq_some_iff.mp read
  obtain ⟨plus, digits, isSigned, numeral⟩ := Text.exists_numeral_of_below? amount
  obtain ⟨before, after, whole, blankBefore, blankAfter⟩ := Text.exists_trim_eq s.toList
  obtain ⟨ahead, between, front, blankAhead, blankBetween⟩ :=
    Text.exists_trim_eq (splitUnit (Text.trim s.toList)).1
  -- `ahead` is empty, since the text was trimmed; as blanks before the amount it fits anyway
  let p : Spelling := {
    before := before ++ ahead, plus, digits, between, after, numeral
    unit := (splitUnit (Text.trim s.toList)).2
    amount := n.val
    blank_before := fun c there => (List.mem_append.mp there).elim (blankBefore c) (blankAhead c)
    blank_between := blankBetween
    blank_after := blankAfter }
  refine ⟨p, ?_, n.isLt, rfl⟩
  calc p.text
    _ = before ++ (ahead ++ Text.signed plus digits ++ between ++ p.unit.name) ++ after := by
        simp only [Spelling.text, Spelling.written, p, List.append_assoc]
    _ = before ++ Text.trim s.toList ++ after := by rw [← isSigned, ← front, splitUnit_append]
    _ = s.toList := whole.symm

/-- **Durations are read exactly from their spellings.** A text is read as a duration exactly if it
is spelled as so many of a unit and the amount fits in 64 bits, and then as that duration; every
other text is refused. No text is spelled in two ways that differ in the amount or the unit. -/
theorem read_iff_spelled (s : String) :
    (∀ d, parse? s = some d ↔ ∃ p : Spelling,
      p.text = s.toList ∧ p.amount < 0x10000000000000000 ∧ d.nanos = p.unit.nanos p.amount) ∧
    (parse? s = none ↔
      ¬ ∃ p : Spelling, p.text = s.toList ∧ p.amount < 0x10000000000000000) ∧
    ∀ p q : Spelling, p.text = s.toList → q.text = s.toList →
      p.amount = q.amount ∧ p.unit = q.unit := by
  have accepts (p : Spelling) (spelled : p.text = s.toList)
      (fits : p.amount < 0x10000000000000000) : parse? s = some (p.unit.of ⟨p.amount, fits⟩) := by
    rw [← String.ofList_toList (s := s), ← spelled, p.parse?_text, dif_pos fits]
  refine ⟨fun d => ⟨fun read => ?_, ?_⟩, ?_, fun p q first second => ?_⟩
  · obtain ⟨p, spelled, fits, rfl⟩ := exists_spelling read
    exact ⟨p, spelled, fits, p.unit.nanos_of _⟩
  · rintro ⟨p, spelled, fits, length⟩
    rw [accepts p spelled fits]
    exact congrArg some (Duration.ext ((p.unit.nanos_of _).trans length.symm))
  · rw [Option.eq_none_iff_forall_ne_some]
    constructor
    · rintro refused ⟨p, spelled, fits⟩
      exact refused _ (accepts p spelled fits)
    · intro unspelled d read
      obtain ⟨p, spelled, fits, -⟩ := exists_spelling read
      exact unspelled ⟨p, spelled, fits⟩
  · exact Spelling.unique (first.trans second.symm)

/-- Blanks of several kinds, a plus sign and zeros in front stand in one text. -/
theorem read_iff_spelled_padded :
    let p : Spelling := {
      before := ['\u00a0'], plus := true, digits := ['0', '0', '7'], between := [' ']
      unit := .minutes, after := ['\n'], amount := 7
      numeral := Text.digits?_eq_some_iff.mp (by decide)
      blank_before := List.forall_mem_singleton.mpr rfl
      blank_between := List.forall_mem_singleton.mpr rfl
      blank_after := List.forall_mem_singleton.mpr rfl }
    p.text = "\u00a0+007 m\n".toList ∧
      parse? "\u00a0+007 m\n" = some (ofSeconds 420) ∧
      ∀ q : Spelling, q.text = "\u00a0+007 m\n".toList → q.amount = 7 ∧ q.unit = .minutes := by
  intro p
  have spelled : p.text = "\u00a0+007 m\n".toList := by decide
  obtain ⟨accepts, -, unique⟩ := read_iff_spelled "\u00a0+007 m\n"
  exact ⟨spelled, (accepts _).mpr ⟨p, spelled, by decide, by decide⟩,
    fun q same => unique q p same spelled⟩

/-- There are no blanks inside a unit. -/
example : parse? "5 m s" = none := by decide

/-- The amount does not fit in 64 bits. -/
example : parse? "18446744073709551616ms" = none := by decide

end Duration

end LeasePool
