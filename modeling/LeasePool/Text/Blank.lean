/-!
# Blank characters

Blank characters are those with the Unicode property `White_Space`: they may surround the parts
of a duration, and a query made of nothing else counts as missing.

## Main definitions

* `Text.isBlank`: membership in `White_Space`.
* `Text.trim`: a text without the blanks at its two ends.
-/

namespace LeasePool.Text

/-- The character has the Unicode property `White_Space`. -/
def isBlank (c : Char) : Bool :=
  let n := c.toNat
  (0x09 ≤ n && n ≤ 0x0d) || n == 0x20 || n == 0x85 || n == 0xa0 || n == 0x1680 ||
    (0x2000 ≤ n && n ≤ 0x200a) || n == 0x2028 || n == 0x2029 || n == 0x202f || n == 0x205f ||
    n == 0x3000

/-- The text from its first character that is not blank. -/
def trimStart (cs : List Char) : List Char := cs.dropWhile isBlank

/-- The text up to its last character that is not blank. -/
def trimEnd (cs : List Char) : List Char := (cs.reverse.dropWhile isBlank).reverse

/-- The text without the blanks at its two ends. -/
def trim (cs : List Char) : List Char := trimEnd (trimStart cs)

@[simp] theorem trim_nil : trim [] = [] := rfl

/-- Blanks, then the kept text, then blanks make up the whole. -/
theorem exists_trim_eq (cs : List Char) :
    ∃ before after, cs = before ++ trim cs ++ after ∧
      (∀ c ∈ before, isBlank c) ∧ ∀ c ∈ after, isBlank c := by
  refine ⟨cs.takeWhile isBlank, ((trimStart cs).reverse.takeWhile isBlank).reverse, ?_, ?_, ?_⟩
  · have tail : trim cs ++ ((trimStart cs).reverse.takeWhile isBlank).reverse = trimStart cs := by
      rw [trim, trimEnd, ← List.reverse_append, List.takeWhile_append_dropWhile,
        List.reverse_reverse]
    rw [List.append_assoc, tail, trimStart, List.takeWhile_append_dropWhile]
  · exact fun c hc => List.all_eq_true.mp (List.all_takeWhile (p := isBlank) (l := cs)) c hc
  · intro c hc
    exact List.all_eq_true.mp List.all_takeWhile c (List.mem_reverse.mp hc)

/-- A text that does not begin with a blank is kept from its first character. -/
theorem dropWhile_isBlank {cs : List Char} (first : ∀ c ∈ cs.head?, isBlank c = false) :
    cs.dropWhile isBlank = cs := by
  cases cs with
  | nil => rfl
  | cons c cs => rw [List.dropWhile_cons_of_neg (by simp [first c rfl])]

/-- Of a text between blanks whose ends are not blank, exactly that text is kept. -/
theorem trim_between_blanks {before core after : List Char} (blankBefore : ∀ c ∈ before, isBlank c)
    (blankAfter : ∀ c ∈ after, isBlank c) (nonempty : core ≠ [])
    (first : ∀ c ∈ core.head?, isBlank c = false) (last : ∀ c ∈ core.getLast?, isBlank c = false) :
    trim (before ++ core ++ after) = core := by
  have start : trimStart (before ++ core ++ after) = core ++ after := by
    rw [trimStart, List.append_assoc, List.dropWhile_append_of_pos blankBefore]
    cases core with
    | nil => exact absurd rfl nonempty
    | cons c core => exact dropWhile_isBlank first
  have finish : (core ++ after).reverse.dropWhile isBlank = core.reverse := by
    rw [List.reverse_append,
      List.dropWhile_append_of_pos fun c there => blankAfter c (List.mem_reverse.mp there)]
    refine dropWhile_isBlank fun c isLast => last c ?_
    rwa [List.head?_reverse] at isLast
  rw [trim, start, trimEnd, finish, List.reverse_reverse]

end LeasePool.Text
