import LeasePool.Proofs.Strings
import LeasePool.Text.Digits
import LeasePool.Toml.Document
import LeasePool.Toml.Printer

/-!
# Documents are read as they were written

A written document is read line by line, and its lines are put together to what was to be written:
the same sections, each with the same entries in the same order. Integers stay within their range,
so that whatever can be written can be read. A comment before the document and an empty line after
it change nothing.

## Main definitions

* `Toml.IsBare`: a key that needs no quotes.
* `Toml.WellNamed`: the names of the sections are told apart, and so are the keys in each.
* `Toml.sections?`: the sections of a document.
* `Toml.entriesOf`: the outermost table of a written document.

## Main results

* `Toml.value?_write`: a scalar is read as it was written.
* `Toml.line?_writeAssignment`, `Toml.line?_header`: so are the lines of a section.
* `Toml.sections?_write`: a written document holds its sections.
* `Toml.read?_write`, `Toml.read?_commented`: and they are put together to its table.
-/

namespace LeasePool.Toml

open Text (isDigit_of_mem_toDigits)

variable {cs ds rest : List Char} {c : Char} {n : Nat}

/-! ### Digits -/

theorem digitValue_of_isDigit (digit : c.isDigit = true) : digitValue c = c.toNat - '0'.toNat :=
  if_pos digit

/-- The digits of a number are read as that number. -/
theorem numberOf_toDigits (n : Nat) : numberOf 10 (Nat.toDigits 10 n) = n := by
  have same (ds : List Char) (digits : ∀ c ∈ ds, c.isDigit = true) (k : Nat) :
      ds.foldl (fun n c => 10 * n + digitValue c) k = Nat.ofDigitChars 10 ds k := by
    induction ds generalizing k with
    | nil => rfl
    | cons d ds ih =>
      rw [List.foldl_cons, digitValue_of_isDigit (digits d List.mem_cons_self),
        ih fun c there => digits c (List.mem_cons_of_mem _ there), Nat.ofDigitChars_cons]
  have digits := isDigit_of_mem_toDigits n
  exact (same _ digits 0).trans Nat.ofDigitChars_ten_toDigits

/-- Only zero is written with a zero in front. -/
theorem head?_toDigits (positive : 0 < n) : (Nat.toDigits 10 n).head? ≠ some '0' := by
  induction n using Nat.strongRecOn with
  | ind n ih =>
    by_cases small : n < 10
    · rw [Nat.toDigits_of_lt_base small]
      simpa using Nat.ne_of_gt positive
    · have large : 10 ≤ n := Nat.le_of_not_lt small
      rw [Nat.toDigits_of_base_le (by decide) large,
        List.head?_append_of_ne_nil _ Nat.toDigits_ne_nil]
      exact ih (n / 10) (by omega) (by omega)

theorem grouped?_of_digits (digits : ∀ c ∈ ds, c.isDigit = true) (some' : ds ≠ []) :
    grouped? Char.isDigit ds = some ds := by
  induction ds with
  | nil => exact absurd rfl some'
  | cons d ds ih =>
    have digit := digits d List.mem_cons_self
    have others : ∀ c ∈ ds, c.isDigit = true :=
      fun c there => digits c (List.mem_cons_of_mem _ there)
    cases ds with
    | nil => simp [grouped?, digit]
    | cons d' ds =>
      have notBar : d' ≠ '_' := by
        rintro rfl
        exact absurd (others _ List.mem_cons_self) (by decide)
      rw [grouped?]
      · rw [if_pos digit, ih others (List.cons_ne_nil _ _)]
        rfl
      · simp
      · exact fun _ same => notBar (List.cons.inj same).1

/-- The digits of a number are a decimal number as a document holds it. -/
theorem wholeDigits?_toDigits (n : Nat) :
    wholeDigits? (Nat.toDigits 10 n) = some (Nat.toDigits 10 n) := by
  have digits := isDigit_of_mem_toDigits n
  rw [wholeDigits?, grouped?_of_digits digits Nat.toDigits_ne_nil]
  rcases Nat.eq_zero_or_pos n with rfl | positive
  · rfl
  · have notZero := head?_toDigits positive
    simp [Option.filter, notZero]

/-! ### Words -/

theorem isWordChar_of_isDigit (digit : c.isDigit = true) : isWordChar c = true := by
  simp [isWordChar, Char.isAlphanum, digit]

theorem after?_of_digits (digits : ∀ c ∈ ds, c.isDigit = true) (other : c.isDigit = false) :
    after? c ds = none := by
  cases ds with
  | nil => rfl
  | cons d ds =>
    refine if_neg ?_
    rintro rfl
    rw [digits _ List.mem_cons_self] at other
    cases other

theorem digits_of_twoDigits? (digits : ∀ c ∈ ds, c.isDigit = true)
    (found : twoDigits? ds = some (n, rest)) : ∀ c ∈ rest, c.isDigit = true := by
  unfold twoDigits? at found
  split at found
  · split at found <;> cases found
    exact fun c there => digits c (List.mem_cons_of_mem _ (List.mem_cons_of_mem _ there))
  · cases found

theorem digits_of_inRange? {low high : Nat} (digits : ∀ c ∈ ds, c.isDigit = true)
    (found : inRange? low high ds = some rest) : ∀ c ∈ rest, c.isDigit = true := by
  obtain ⟨⟨n, following⟩, two, inRange⟩ := Option.bind_eq_some_iff.mp found
  have same : following = rest := by
    dsimp only at inRange
    split at inRange
    · exact Option.some.inj inRange
    · cases inRange
  exact same ▸ digits_of_twoDigits? digits two

/-- Digits alone are no time of day, for want of a colon. -/
theorem time?_of_digits (digits : ∀ c ∈ ds, c.isDigit = true) : time? ds = none := by
  unfold time?
  cases hours : inRange? 0 23 ds with
  | none => rfl
  | some rest =>
    have missing := after?_of_digits (c := ':') (digits_of_inRange? digits hours) (by decide)
    simp only [missing, Option.bind_eq_bind, Option.bind_some, Option.bind_none]

/-- Digits alone are no date, for want of a hyphen. -/
theorem date?_of_digits (digits : ∀ c ∈ ds, c.isDigit = true) : date? ds = none := by
  unfold date?
  cases century : twoDigits? ds with
  | none => rfl
  | some found =>
    cases year : twoDigits? found.2 with
    | none => simp only [Option.bind_eq_bind, Option.bind_some, year, Option.bind_none]
    | some found' =>
      have left := digits_of_twoDigits? (digits_of_twoDigits? digits century) year
      have missing := after?_of_digits (c := '-') left (by decide)
      simp only [Option.bind_eq_bind, Option.bind_some, year, missing, Option.bind_none]

/-- Digits are no date and no time, also after a minus. -/
theorem isMoment_of_digits (digits : ∀ c ∈ ds, c.isDigit = true) :
    isMoment ds = false ∧ isMoment ('-' :: ds) = false := by
  constructor
  · rw [isMoment, time?_of_digits digits, date?_of_digits digits]
    rfl
  · have noDigits : twoDigits? ('-' :: ds) = none := by
      cases ds with
      | nil => rfl
      | cons d ds =>
        rw [twoDigits?]
        exact if_neg fun two => absurd two.1 (by decide)
    have noTime : time? ('-' :: ds) = none := by
      rw [time?, inRange?, noDigits]
      rfl
    have noDate : date? ('-' :: ds) = none := by
      rw [date?, noDigits]
      rfl
    rw [isMoment, noTime, noDate]
    rfl

/-- Digits, with a minus or without, have no mark for another base. -/
theorem integer?_of_digits (digits : ∀ c ∈ ds, c.isDigit = true) :
    integer? ds = (wholeDigits? ds).bind (fun ds => signed? false (numberOf 10 ds)) ∧
      integer? ('-' :: ds) =
        (wholeDigits? ds).bind (fun ds => signed? true (numberOf 10 ds)) := by
  have unmarked {mark : Char} {rest : List Char} (other : mark.isDigit = false) :
      ds ≠ '0' :: mark :: rest := by
    rintro rfl
    rw [digits mark (by simp)] at other
    cases other
  have unsigned {sign : Char} {rest : List Char} (other : sign.isDigit = false) :
      ds ≠ sign :: rest := by
    rintro rfl
    rw [digits sign List.mem_cons_self] at other
    cases other
  constructor
  · have noSign : splitSign ds = (false, ds) := by
      unfold splitSign
      split
      · exact absurd rfl (unsigned (by decide))
      · exact absurd rfl (unsigned (by decide))
      · rfl
    unfold integer?
    split
    · exact absurd rfl (unmarked (by decide))
    · exact absurd rfl (unmarked (by decide))
    · exact absurd rfl (unmarked (by decide))
    · rw [noSign]
  · rfl

theorem boolean?_of_digits (digits : ∀ c ∈ ds, c.isDigit = true) :
    boolean? ds = none ∧ boolean? ('-' :: ds) = none := by
  constructor
  · unfold boolean?
    split
    · exact absurd (digits 't' (by simp)) (by decide)
    · exact absurd (digits 'f' (by simp)) (by decide)
    · rfl
  · rfl

/-- An integer in the range is read as it was written. -/
theorem word?_toString {n : Int} (low : -(integerLimit : Int) ≤ n) (high : n < integerLimit) :
    word? (toString n).toList = some (.integer n) := by
  have digits := isDigit_of_mem_toDigits
  rw [Int.toString_eq_repr]
  cases n with
  | ofNat m =>
    have written : (Int.ofNat m).repr.toList = Nat.toDigits 10 m := Nat.toList_repr
    have inRange : m < integerLimit := Int.ofNat_lt.mp high
    rw [written, word?, (isMoment_of_digits (digits m)).1, (boolean?_of_digits (digits m)).1,
      (integer?_of_digits (digits m)).1, wholeDigits?_toDigits, Option.bind_some,
      numberOf_toDigits, signed?, if_neg Bool.false_ne_true, if_pos inRange]
    rfl
  | negSucc m =>
    have written : (Int.negSucc m).repr.toList = '-' :: Nat.toDigits 10 (m + 1) := by
      simp [Int.repr, Nat.toList_repr]
    have inRange : m + 1 ≤ integerLimit := by omega
    rw [written, word?, (isMoment_of_digits (digits _)).2, (boolean?_of_digits (digits _)).2,
      (integer?_of_digits (digits _)).2, wholeDigits?_toDigits, Option.bind_some,
      numberOf_toDigits, signed?, if_pos rfl, if_pos inRange]
    rfl

/-! ### Values -/

/-- What begins like no string, no array and no table in braces is read as a word. -/
theorem value?_of_isWordChar (word : isWordChar c = true) (rest : List Char) :
    value? (c :: rest) = wordValue? (c :: rest) := by
  have other {d : Char} (noWord : isWordChar d = false) : c ≠ d := by
    rintro rfl
    rw [word] at noWord
    cases noWord
  unfold value? nestingLimit valueWithin?
  split
  · exact absurd ‹_› (by simp [other (d := '[') (by decide)])
  · exact absurd ‹_› (by simp [other (d := '\x7b') (by decide)])
  · exact absurd ‹_› (by simp [other (d := '"') (by decide)])
  · exact absurd ‹_› (by simp [other (d := '\'') (by decide)])
  · rfl

/-- A word is read up to the end of its line. -/
theorem value?_word {w : List Char} (wordChars : ∀ c ∈ w, isWordChar c = true) (some' : w ≠ [])
    (rest : List Char) :
    value? (w ++ '\n' :: rest) = (word? w).map fun v => (v, '\n' :: rest) := by
  have taken : (w ++ '\n' :: rest).takeWhile isWordChar = w := by
    rw [List.takeWhile_append_of_pos wordChars]
    simp [isWordChar]
  have left : (w ++ '\n' :: rest).dropWhile isWordChar = '\n' :: rest := by
    rw [List.dropWhile_append_of_pos wordChars]
    rfl
  have asWord : value? (w ++ '\n' :: rest) = wordValue? (w ++ '\n' :: rest) := by
    cases w with
    | nil => exact absurd rfl some'
    | cons c w => exact value?_of_isWordChar (wordChars c List.mem_cons_self) _
  rw [asWord, wordValue?, taken, left]
  rfl

/-- The characters of a written integer are those of words. -/
theorem isWordChar_toString (n : Int) : ∀ c ∈ (toString n).toList, isWordChar c = true := by
  have digits (m : Nat) : ∀ c ∈ Nat.toDigits 10 m, isWordChar c = true := fun c there =>
    isWordChar_of_isDigit (isDigit_of_mem_toDigits m c there)
  rw [Int.toString_eq_repr]
  cases n with
  | ofNat m => simpa [Int.repr, Nat.toList_repr] using digits m
  | negSucc m =>
    have minus : isWordChar '-' = true := by decide
    simpa [Int.repr, Nat.toList_repr, minus] using digits (m + 1)

theorem toString_int_ne_nil (n : Int) : (toString n).toList ≠ [] := by
  rw [Int.toString_eq_repr]
  cases n with
  | ofNat m => simp [Int.repr, Nat.toList_repr, Nat.toDigits_ne_nil]
  | negSucc m => simp [Int.repr]

/-- What is read as a string is a value. -/
theorem value?_of_string? (found : string? cs = some (ds, rest)) :
    value? cs = some (.text (String.ofList ds), rest) := by
  have quoted : (∃ rest', cs = '"' :: rest') ∨ ∃ rest', cs = '\'' :: rest' := by
    unfold string? at found
    split at found
    · exact .inl ⟨_, rfl⟩
    · exact .inl ⟨_, rfl⟩
    · exact .inr ⟨_, rfl⟩
    · exact .inr ⟨_, rfl⟩
    · cases found
  have taken (found' : Option (List Char × List Char)) (same : found' = some (ds, rest)) :
      found'.map (fun read => (Value.text (String.ofList read.1), read.2)) =
        some (.text (String.ofList ds), rest) := by
    rw [same]
    rfl
  rcases quoted with ⟨rest', rfl⟩ | ⟨rest', rfl⟩
  · exact taken (string? ('"' :: rest')) found
  · exact taken (string? ('\'' :: rest')) found

/-- A scalar is read as it was written, up to the end of its line. -/
theorem value?_write {v : Scalar} {w : String} (written : v.write? = some w) (rest : List Char) :
    value? (w.toList ++ '\n' :: rest) = some (v.value, '\n' :: rest) := by
  cases v with
  | text s =>
    obtain rfl : writeString s = w := Option.some.inj written
    have asString :
        string? ((writeString s).toList ++ '\n' :: rest) = some (s.toList, '\n' :: rest) :=
      string?_writeString s (by simp) (by simp)
    rw [value?_of_string? asString, String.ofList_toList]
    rfl
  | integer n =>
    obtain ⟨⟨low, high⟩, rfl⟩ :
        (-(integerLimit : Int) ≤ n ∧ n < integerLimit) ∧ toString n = w := by
      simpa [Scalar.write?] using written
    rw [value?_word (isWordChar_toString n) (toString_int_ne_nil n), word?_toString low high]
    rfl
  | boolean b =>
    obtain rfl : toString b = w := Option.some.inj written
    cases b <;> rfl

/-! ### Lines -/

/-- A key that needs no quotes. -/
def IsBare (name : String) : Prop := name.toList ≠ [] ∧ ∀ c ∈ name.toList, isBareKeyChar c = true

instance (name : String) : Decidable (IsBare name) :=
  decidable_of_iff (name.toList ≠ [] ∧ name.toList.all isBareKeyChar)
    (and_congr_right fun _ => List.all_eq_true)

/-- A key of one part. -/
def Key.ofName (name : String) : Key := ⟨[], name⟩

variable {name : String}

theorem isBareKeyChar_of_isSpace (blank : isSpace c = true) : isBareKeyChar c = false := by
  have either : c = ' ' ∨ c = '\t' := by simpa [isSpace] using blank
  rcases either with rfl | rfl <;> rfl

/-- What begins with a character that is no blank has no blanks to drop. -/
theorem dropSpace_of_head? (noBlank : ∀ c ∈ cs.head?, isSpace c = false) : dropSpace cs = cs := by
  cases cs with
  | nil => rfl
  | cons c cs => exact List.dropWhile_cons_of_neg (by simp [noBlank c rfl])

/-- A bare key begins with a character of one. -/
theorem IsBare.exists_cons (bare : IsBare name) :
    ∃ c part, name.toList = c :: part ∧ isBareKeyChar c = true := by
  obtain ⟨some', chars⟩ := bare
  cases same : name.toList with
  | nil => exact absurd same some'
  | cons c part => exact ⟨c, part, rfl, chars c (same ▸ List.mem_cons_self)⟩

theorem IsBare.dropSpace (bare : IsBare name) (rest : List Char) :
    dropSpace (name.toList ++ rest) = name.toList ++ rest := by
  obtain ⟨c, part, same, first⟩ := bare.exists_cons
  refine dropSpace_of_head? fun d there => ?_
  obtain rfl : c = d := by simpa [same] using there
  by_contra blank
  rw [isBareKeyChar_of_isSpace ((Bool.not_eq_false _).mp blank)] at first
  cases first

theorem IsBare.keyPart? (bare : IsBare name) (ends : ∀ c ∈ rest.head?, isBareKeyChar c = false) :
    keyPart? (name.toList ++ rest) = some (name.toList, rest) := by
  have taken : (name.toList ++ rest).takeWhile isBareKeyChar = name.toList := by
    rw [List.takeWhile_append_of_pos bare.2]
    cases rest with
    | nil => simp
    | cons c rest => simp [ends c rfl]
  have left : (name.toList ++ rest).dropWhile isBareKeyChar = rest := by
    rw [List.dropWhile_append_of_pos bare.2]
    cases rest with
    | nil => rfl
    | cons c rest => simp [ends c rfl]
  have dispatched : Toml.keyPart? (name.toList ++ rest) =
      if name.toList = [] then none else some (name.toList, rest) := by
    obtain ⟨c, part, same, first⟩ := bare.exists_cons
    unfold Toml.keyPart?
    split
    · rename_i _ begins
      obtain ⟨rfl, -⟩ : c = '"' ∧ _ := by simpa [same] using begins
      cases first
    · rename_i _ begins
      obtain ⟨rfl, -⟩ : c = '\'' ∧ _ := by simpa [same] using begins
      cases first
    · rw [taken, left]
  rw [dispatched, if_neg bare.1]

/-- A bare key is read with the blanks after it, if no dot follows them. -/
theorem IsBare.key? (bare : IsBare name) (ends : ∀ c ∈ rest.head?, isBareKeyChar c = false)
    (noDot : ∀ c ∈ (Toml.dropSpace rest).head?, c ≠ '.') :
    key? (name.toList ++ rest) = some (.ofName name, Toml.dropSpace rest) := by
  have parts : keyParts? (name.toList ++ rest) = some ([name], Toml.dropSpace rest) := by
    rw [keyParts?, bare.dropSpace, bare.keyPart? ends]
    dsimp only
    split
    · rename_i _ begins
      exact absurd rfl (noDot '.' (by simp [begins]))
    · rw [String.ofList_toList]
  rw [Toml.key?, parts]
  rfl

theorem value?_of_isSpace (blank : isSpace c = true) (rest : List Char) :
    value? (c :: rest) = none := by
  have either : c = ' ' ∨ c = '\t' := by simpa [isSpace] using blank
  rcases either with rfl | rfl
  · cases rest with
    | nil => rfl
    | cons c rest =>
      have noDate : ¬ (c.isDigit = true ∧ date? [] = some []) := fun both => nomatch both.2
      exact if_neg noDate
  · rfl

theorem dropSpace_of_value? {found : Value × List Char} (isValue : value? cs = some found) :
    dropSpace cs = cs := by
  refine dropSpace_of_head? fun c there => ?_
  by_contra blank
  obtain ⟨rest, rfl⟩ : ∃ rest, cs = c :: rest := by
    cases cs with
    | nil => cases there
    | cons d rest => exact ⟨rest, by rw [Option.some.inj there]⟩
  rw [value?_of_isSpace ((Bool.not_eq_false _).mp blank)] at isValue
  cases isValue

theorem endLine?_of_isBareKeyChar (bare : isBareKeyChar c = true) (rest : List Char) :
    endLine? false (c :: rest) = none := by
  have other {d : Char} (noKey : isBareKeyChar d = false) : c ≠ d := by
    rintro rfl
    rw [bare] at noKey
    cases noKey
  have noBlank : isSpace c ≠ true := fun blank => by
    rw [isBareKeyChar_of_isSpace blank] at bare
    cases bare
  have inLine : startsLine (c :: rest) = false := by
    unfold startsLine
    split
    · exact absurd ‹_› (by simp [other (d := '\n') (by decide)])
    · exact absurd ‹_› (by simp [other (d := '\r') (by decide)])
    · rfl
  rw [endLine?, inLine, if_neg Bool.false_ne_true, if_neg Bool.false_ne_true, if_neg noBlank,
    if_neg (other (by decide))]

/-- What begins with a bare key is an entry if it is anything. -/
theorem line?_of_bare (bare : IsBare name) (rest : List Char) :
    line? (name.toList ++ rest) =
      (assignment? value? (name.toList ++ rest)).bind fun ((key, v), rest) =>
        (endLine? false rest).map fun rest => (.entry key v, rest) := by
  have noLine : endLine? false (name.toList ++ rest) = none := by
    obtain ⟨c, part, same, first⟩ := bare.exists_cons
    rw [same]
    exact endLine?_of_isBareKeyChar first _
  have noHeader (rest' : List Char) : name.toList ++ rest ≠ '[' :: rest' := by
    obtain ⟨c, part, same, first⟩ := bare.exists_cons
    rw [same]
    rintro ⟨⟩
    cases first
  unfold line?
  rw [bare.dropSpace]
  split
  · exact absurd ‹_› (noHeader _)
  · exact absurd ‹_› (noHeader _)
  · rw [noLine]

/-- An entry on a line of its own. -/
theorem line?_writeAssignment {e : String × Scalar} {w : String}
    (written : writeAssignment? e = some w) (bare : IsBare e.1) (rest : List Char) :
    line? (w.toList ++ rest) = some (.entry (.ofName e.1) e.2.value, rest) := by
  obtain ⟨v, isWritten, rfl⟩ := Option.map_eq_some_iff.mp written
  have value := value?_write isWritten rest
  have layout : (e.1 ++ " = " ++ v ++ "\n").toList ++ rest =
      e.1.toList ++ ' ' :: '=' :: ' ' :: (v.toList ++ '\n' :: rest) := by
    simp [String.toList_append]
  have key : key? (e.1.toList ++ ' ' :: '=' :: ' ' :: (v.toList ++ '\n' :: rest)) =
      some (.ofName e.1, '=' :: ' ' :: (v.toList ++ '\n' :: rest)) :=
    bare.key? (by simp; decide) (fun c there => by cases there; decide)
  have assigned :
      assignment? value? (e.1.toList ++ ' ' :: '=' :: ' ' :: (v.toList ++ '\n' :: rest)) =
      some ((.ofName e.1, e.2.value), '\n' :: rest) := by
    have opened : dropSpace (' ' :: (v.toList ++ '\n' :: rest)) = v.toList ++ '\n' :: rest :=
      dropSpace_of_value? value
    rw [assignment?, key]
    show ((value? (dropSpace _)).map _) = _
    rw [opened, value]
    rfl
  rw [layout, line?_of_bare bare, assigned]
  rfl

/-- A header on a line of its own. -/
theorem line?_header (bare : IsBare name) (rest : List Char) :
    line? ('[' :: (name.toList ++ ']' :: '\n' :: rest)) = some (.table (.ofName name), rest) := by
  have oneBracket (more : List Char) : name.toList ++ ']' :: '\n' :: rest ≠ '[' :: more := by
    obtain ⟨c, part, same, first⟩ := bare.exists_cons
    rw [same]
    rintro ⟨⟩
    cases first
  have key : key? (name.toList ++ ']' :: '\n' :: rest) =
      some (.ofName name, ']' :: '\n' :: rest) :=
    bare.key? (by simp; decide) (fun c there => by cases there; decide)
  have header : headerEnd? 1 (name.toList ++ ']' :: '\n' :: rest) = some (.ofName name, rest) := by
    rw [headerEnd?, key]
    rfl
  have opened : line? ('[' :: (name.toList ++ ']' :: '\n' :: rest)) =
      (headerEnd? 1 (name.toList ++ ']' :: '\n' :: rest)).map fun header =>
        (.table header.1, header.2) := by
    unfold line?
    split
    · rename_i _ begins
      exact absurd (List.cons.inj begins).2 (oneBracket _)
    · rename_i _ begins
      rw [← (List.cons.inj begins).2]
    · rename_i _ other
      exact absurd rfl (other _)
  rw [opened, header]
  rfl

/-- An empty line. -/
theorem line?_empty (rest : List Char) : line? ('\n' :: rest) = some (.blank, rest) := rfl

/-- A comment ends with its line. -/
theorem endLine?_of_isPlain (plain : ∀ c ∈ cs, isPlain c = true) (rest : List Char) :
    endLine? true (cs ++ '\n' :: rest) = some rest := by
  induction cs with
  | nil => rfl
  | cons c cs ih =>
    have first := plain c List.mem_cons_self
    have inLine : startsLine (c :: (cs ++ '\n' :: rest)) = false := by
      unfold startsLine
      split
      · rename_i _ begins
        exact absurd first (by rw [(List.cons.inj begins).1]; decide)
      · rename_i _ begins
        exact absurd first (by rw [(List.cons.inj begins).1]; decide)
      · rfl
    rw [List.cons_append, endLine?, inLine, if_neg Bool.false_ne_true, if_pos rfl, if_pos first]
    exact ih fun c there => plain c (List.mem_cons_of_mem _ there)

/-- A line that holds nothing but a comment. -/
theorem line?_comment (plain : ∀ c ∈ cs, isPlain c = true) (rest : List Char) :
    line? ('#' :: (cs ++ '\n' :: rest)) = some (.blank, rest) := by
  have ended : endLine? false ('#' :: (cs ++ '\n' :: rest)) = some rest :=
    endLine?_of_isPlain plain rest
  have noBlank : dropSpace ('#' :: (cs ++ '\n' :: rest)) = '#' :: (cs ++ '\n' :: rest) := rfl
  unfold line?
  rw [noBlank]
  simp [ended]

/-! ### Sections -/

variable {others : List Section}

/-- What the lines of a document say, put together by headers. -/
def sections? (cs : List Char) : Option (List Section) := (lines? cs).map sections

/-- A line is read before the lines that follow it. -/
theorem lines?_cons {line : Line} (first : line? cs = some (line, rest))
    (shorter : rest.length < cs.length) : lines? cs = (lines? rest).map (line :: ·) := by
  have some' : cs ≠ [] := by
    rintro rfl
    exact absurd shorter (Nat.not_lt_zero _)
  rw [lines?, if_neg some', first]
  exact dif_pos shorter

/-- What the lines of a section say. -/
def sectionLines (s : NamedSection) : List Line :=
  .table (.ofName s.1) :: s.2.map fun e => .entry (.ofName e.1) e.2.value

/-- A written section, as its lines are put together. -/
def Section.ofNamed (s : NamedSection) : Section :=
  ⟨some (.ofName s.1, false), s.2.map fun e => (.ofName e.1, e.2.value)⟩

/-- The names of the sections are told apart, and so are the keys in each; none needs quotes. -/
structure WellNamed (ss : List NamedSection) : Prop where
  bare : ∀ s ∈ ss, IsBare s.1
  bareKeys : ∀ s ∈ ss, ∀ e ∈ s.2, IsBare e.1
  nodup : (ss.map Prod.fst).Nodup
  nodupKeys : ∀ s ∈ ss, (s.2.map Prod.fst).Nodup

/-- What is written of a list is what is written of its first element, and of the others. -/
theorem exists_of_mapM_cons {α β : Type} {f : α → Option β} {x : α} {xs : List α} {ys : List β}
    (written : (x :: xs).mapM f = some ys) :
    ∃ y ys', f x = some y ∧ xs.mapM f = some ys' ∧ y :: ys' = ys := by
  rw [List.mapM_cons] at written
  obtain ⟨y, first, more⟩ := Option.bind_eq_some_iff.mp written
  obtain ⟨ys', others, same⟩ := Option.bind_eq_some_iff.mp more
  exact ⟨y, ys', first, others, Option.some.inj same⟩

theorem lines?_writeAssignments {entries : List (String × Scalar)} {ws : List String}
    (written : entries.mapM writeAssignment? = some ws) (bare : ∀ e ∈ entries, IsBare e.1)
    (rest : List Char) :
    lines? ((String.join ws).toList ++ rest) = (lines? rest).map
      ((entries.map fun e => Line.entry (.ofName e.1) e.2.value) ++ ·) := by
  induction entries generalizing ws with
  | nil =>
    obtain rfl : [] = ws := by simpa using written
    simp
  | cons e entries ih =>
    obtain ⟨w, ws', first, others, rfl⟩ := exists_of_mapM_cons written
    have line := line?_writeAssignment first (bare e List.mem_cons_self)
      ((String.join ws').toList ++ rest)
    have some' : w.toList ≠ [] := by
      obtain ⟨v, -, rfl⟩ := Option.map_eq_some_iff.mp first
      simp [String.toList_append]
    rw [String.join_cons, String.toList_append, List.append_assoc, lines?_cons line (by
      simpa using List.length_pos_of_ne_nil some'),
      ih others fun e there => bare e (List.mem_cons_of_mem _ there), Option.map_map]
    rfl

/-- The lines of a written section. -/
theorem lines?_writeSection {s : NamedSection} {w : String} (written : writeSection? s = some w)
    (bare : IsBare s.1) (bareKeys : ∀ e ∈ s.2, IsBare e.1) (rest : List Char) :
    lines? (w.toList ++ rest) = (lines? rest).map (sectionLines s ++ ·) := by
  obtain ⟨ws, entries, rfl⟩ := Option.map_eq_some_iff.mp written
  have layout : ("[" ++ s.1 ++ "]\n" ++ String.join ws).toList ++ rest =
      '[' :: (s.1.toList ++ ']' :: '\n' :: ((String.join ws).toList ++ rest)) := by
    simp [String.toList_append]
  rw [layout, lines?_cons (line?_header bare _) (by simp; omega),
    lines?_writeAssignments entries bareKeys, Option.map_map]
  rfl

/-- The entries of a section end where the next header or the document does. -/
theorem sections_sectionLines (s : NamedSection) {lines : List Line} {others : List Section}
    (after : sections lines = ⟨none, []⟩ :: others) :
    sections (sectionLines s ++ lines) = ⟨none, []⟩ :: Section.ofNamed s :: others := by
  have entries (es : List (String × Scalar)) :
      sections ((es.map fun e => Line.entry (.ofName e.1) e.2.value) ++ lines) =
        ⟨none, es.map fun e => (.ofName e.1, e.2.value)⟩ :: others := by
    induction es with
    | nil => exact after
    | cons e es ih =>
      rw [List.map_cons, List.cons_append, sections, ih]
      rfl
  rw [sectionLines, List.cons_append, sections, entries]
  rfl

/-- An empty line between sections says nothing. -/
theorem sections?_emptyLine (cs : List Char) (ends : sections? cs = some (⟨none, []⟩ :: others)) :
    sections? ('\n' :: cs) = some (⟨none, []⟩ :: others) := by
  obtain ⟨lines, found, together⟩ := Option.map_eq_some_iff.mp ends
  rw [sections?, lines?_cons (line?_empty cs) (by simp), found]
  simp only [Option.map_some, sections, together]

/-- A comment before a document says nothing. -/
theorem sections?_comment {comment : List Char} (plain : ∀ c ∈ comment, isPlain c = true)
    (ends : sections? cs = some (⟨none, []⟩ :: others)) :
    sections? ('#' :: (comment ++ '\n' :: cs)) = some (⟨none, []⟩ :: others) := by
  obtain ⟨lines, found, together⟩ := Option.map_eq_some_iff.mp ends
  rw [sections?, lines?_cons (line?_comment plain cs) (by simp; omega), found]
  simp only [Option.map_some, sections, together]

theorem sections?_writeSection {s : NamedSection} {w : String} (written : writeSection? s = some w)
    (bare : IsBare s.1 ∧ ∀ e ∈ s.2, IsBare e.1)
    (ends : sections? cs = some (⟨none, []⟩ :: others)) :
    sections? (w.toList ++ cs) = some (⟨none, []⟩ :: Section.ofNamed s :: others) := by
  obtain ⟨lines, found, together⟩ := Option.map_eq_some_iff.mp ends
  rw [sections?, lines?_writeSection written bare.1 bare.2, found]
  exact congrArg some (sections_sectionLines s together)

/-- A written document holds its sections, and nothing before the first. -/
theorem sections?_write {ss : List NamedSection} {text : String} (written : write? ss = some text)
    (bare : ∀ s ∈ ss, IsBare s.1 ∧ ∀ e ∈ s.2, IsBare e.1)
    (ends : sections? rest = some [⟨none, []⟩]) :
    sections? (text.toList ++ rest) = some (⟨none, []⟩ :: ss.map Section.ofNamed) := by
  obtain ⟨ws, all, rfl⟩ := Option.map_eq_some_iff.mp written
  clear written
  induction ss generalizing ws with
  | nil =>
    obtain rfl : [] = ws := by simpa using all
    exact ends
  | cons s ss ih =>
    obtain ⟨w, ws', first, others, rfl⟩ := exists_of_mapM_cons all
    have bareHere := bare s List.mem_cons_self
    cases ss with
    | nil =>
      obtain rfl : [] = ws' := by simpa using others
      rw [String.intercalate_singleton]
      exact sections?_writeSection first bareHere ends
    | cons s' ss =>
      obtain ⟨w', ws'', -, -, rfl⟩ := exists_of_mapM_cons others
      have following := sections?_emptyLine _
        (ih (fun s there => bare s (List.mem_cons_of_mem _ there)) _ others)
      rw [String.intercalate_cons_cons, String.toList_append, String.toList_append,
        List.append_assoc, List.append_assoc]
      exact sections?_writeSection first bareHere following

/-! ### Tables -/

/-- A key of one part that is not there yet adds its value at the end. -/
theorem insert?_of_lookup {nodes : Nodes} (new : nodes.lookup name = none) (v : Value) :
    insert? [] name v nodes = some (nodes ++ [(name, .value v)]) := by
  simp [insert?, descend?, new]

/-- A name that is not there and not added is not there afterwards. -/
theorem lookup_append_of_ne {nodes : Nodes} {name' : String} {node : Node}
    (new : nodes.lookup name = none) (other : name ≠ name') :
    (nodes ++ [(name', node)]).lookup name = none := by
  rw [List.lookup_append, new, List.lookup_cons, beq_eq_false_iff_ne.mpr other]
  rfl

/-- Keys that are told apart add their values in their order. -/
theorem insertAll?_of_nodup (entries : List (String × Scalar)) (nodes : Nodes)
    (nodup : (entries.map Prod.fst).Nodup) (new : ∀ e ∈ entries, nodes.lookup e.1 = none) :
    insertAll? (entries.map fun e => (Key.ofName e.1, e.2.value)) nodes =
      some (nodes ++ entries.map fun e => (e.1, .value e.2.value)) := by
  induction entries generalizing nodes with
  | nil => simp [insertAll?]
  | cons e entries ih =>
    obtain ⟨apart, nodup⟩ := List.nodup_cons.mp nodup
    have stillNew : ∀ e' ∈ entries,
        (nodes ++ [(e.1, Node.value e.2.value)]).lookup e'.1 = none := by
      intro e' there
      have other : e'.1 ≠ e.1 := fun same => apart (same ▸ List.mem_map_of_mem there)
      exact lookup_append_of_ne (new e' (List.mem_cons_of_mem _ there)) other
    have step := ih _ nodup stillNew
    unfold insertAll? at step ⊢
    rw [List.map_cons, List.foldlM_cons]
    show (insert? [] e.1 e.2.value nodes).bind _ = _
    rw [insert?_of_lookup (new e List.mem_cons_self), Option.bind_some, step]
    simp

/-- The outermost table of a written document. -/
def entriesOf (ss : List NamedSection) : Entries :=
  ss.map fun s => (s.1, .table (s.2.map fun e => (e.1, e.2.value)))

/-- The outermost table of a written document under construction. -/
def nodesOf (ss : List NamedSection) : Nodes :=
  ss.map fun s => (s.1, .table .stated (s.2.map fun e => (e.1, .value e.2.value)))

theorem finish_values (entries : List (String × Scalar)) :
    finish (entries.map fun e => (e.1, .value e.2.value)) =
      entries.map fun e => (e.1, e.2.value) := by
  induction entries with
  | nil => rw [List.map_nil, List.map_nil, finish]
  | cons e entries ih => rw [List.map_cons, List.map_cons, finish, Node.finish, ih]

theorem finish_nodesOf (ss : List NamedSection) : finish (nodesOf ss) = entriesOf ss := by
  induction ss with
  | nil => rw [nodesOf, List.map_nil, finish]; rfl
  | cons s ss ih =>
    rw [nodesOf, List.map_cons, finish, Node.finish, finish_values, ← nodesOf, ih]
    rfl

/-- Sections that are told apart make tables in their order. -/
theorem add?_ofNamed {s : NamedSection} {nodes : Nodes} (nodup : (s.2.map Prod.fst).Nodup)
    (new : nodes.lookup s.1 = none) :
    (Section.ofNamed s).add? nodes = some (nodes ++ nodesOf [s]) := by
  have filled := insertAll?_of_nodup s.2 [] nodup fun _ _ => rfl
  show addTable? (insertAll? (s.2.map fun e => (Key.ofName e.1, e.2.value))) [] s.1 nodes = _
  rw [addTable?, descend?, new, filled]
  rfl

theorem foldlM_add?_ofNamed (ss : List NamedSection) (nodes : Nodes)
    (nodup : (ss.map Prod.fst).Nodup) (nodupKeys : ∀ s ∈ ss, (s.2.map Prod.fst).Nodup)
    (new : ∀ s ∈ ss, nodes.lookup s.1 = none) :
    (ss.map Section.ofNamed).foldlM (fun nodes s => s.add? nodes) nodes =
      some (nodes ++ nodesOf ss) := by
  induction ss generalizing nodes with
  | nil => simp [nodesOf]
  | cons s ss ih =>
    obtain ⟨apart, nodup⟩ := List.nodup_cons.mp nodup
    have stillNew : ∀ s' ∈ ss, (nodes ++ nodesOf [s]).lookup s'.1 = none := by
      intro s' there
      have other : s'.1 ≠ s.1 := fun same => apart (same ▸ List.mem_map_of_mem there)
      exact lookup_append_of_ne (new s' (List.mem_cons_of_mem _ there)) other
    rw [List.map_cons, List.foldlM_cons,
      add?_ofNamed (nodupKeys s List.mem_cons_self) (new s List.mem_cons_self), Option.bind_eq_bind,
      Option.bind_some,
      ih _ nodup (fun s there => nodupKeys s (List.mem_cons_of_mem _ there)) stillNew]
    simp [nodesOf]

/-! ### Documents -/

/-- What the sections of a document are put together to. -/
theorem read?_of_sections? {ss : List NamedSection} (named : WellNamed ss) {text : String}
    (noMark : text.toList.head? ≠ some '\ufeff')
    (found : sections? text.toList = some (⟨none, []⟩ :: ss.map Section.ofNamed)) :
    read? text = some (entriesOf ss) := by
  have whole : dropByteOrderMark text.toList = text.toList := by
    unfold dropByteOrderMark
    split
    · exact absurd (by simp [*]) noMark
    · rfl
  obtain ⟨lines, read, together⟩ := Option.map_eq_some_iff.mp found
  have added := foldlM_add?_ofNamed ss [] named.nodup named.nodupKeys fun _ _ => rfl
  rw [read?, whole, read, Option.bind_some, together, List.foldlM_cons]
  show ((some []).bind _).map finish = _
  rw [Option.bind_some, added, Option.map_some, List.nil_append, finish_nodesOf]

/-- A written document begins with a header if it holds anything. -/
theorem head?_write {ss : List NamedSection} {text : String} (written : write? ss = some text) :
    ∀ c ∈ text.toList.head?, c = '[' := by
  obtain ⟨ws, all, rfl⟩ := Option.map_eq_some_iff.mp written
  cases ss with
  | nil =>
    obtain rfl : [] = ws := by simpa using all
    simp
  | cons s ss =>
    obtain ⟨w, ws', first, -, rfl⟩ := exists_of_mapM_cons all
    obtain ⟨entries, -, rfl⟩ := Option.map_eq_some_iff.mp first
    cases ws' with
    | nil => simp [String.toList_append]
    | cons w' ws' => simp [String.intercalate_cons_cons, String.toList_append]

theorem sections?_nil : sections? [] = some [⟨none, []⟩] := by
  rw [sections?, lines?]
  rfl

/-- A written document is read as it was. -/
theorem read?_write {ss : List NamedSection} (named : WellNamed ss) {text : String}
    (written : write? ss = some text) : read? text = some (entriesOf ss) := by
  have found := sections?_write written
    (fun s there => ⟨named.bare s there, named.bareKeys s there⟩)
    sections?_nil
  rw [List.append_nil] at found
  refine read?_of_sections? named (fun mark => ?_) found
  exact absurd (head?_write written _ mark) (by decide)

/-- A comment before a written document and an empty line after it change nothing. -/
theorem read?_commented {ss : List NamedSection} (named : WellNamed ss) {text shown : String}
    (written : write? ss = some text) {comment : List Char}
    (plain : ∀ c ∈ comment, isPlain c = true)
    (whole : shown.toList = '#' :: (comment ++ '\n' :: (text.toList ++ ['\n']))) :
    read? shown = some (entriesOf ss) := by
  have found := sections?_write written
    (fun s there => ⟨named.bare s there, named.bareKeys s there⟩)
    (sections?_emptyLine [] sections?_nil)
  refine read?_of_sections? named (by simp [whole]) ?_
  rw [whole]
  exact sections?_comment plain found

end LeasePool.Toml
