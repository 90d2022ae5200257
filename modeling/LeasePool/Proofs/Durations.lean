import LeasePool.Proofs.Spellings

/-!
# Which durations are read as they were written

A duration of whole milliseconds is written without loss, and reads back if its amount fits in
64 bits. In seconds it always does; in milliseconds it does up to `2 ^ 64` of them, while durations
reach a thousand times further. A duration that was read is always one that reads back.

## Main definitions

* `Duration.IsReadable`: the written amount fits in 64 bits.

## Main results

* `Duration.parse?_format`: what a written duration is read as.
* `Duration.spec_of_parse?`: what was read can be written and read again.
-/

namespace LeasePool

/-- The digits of a number write it. -/
theorem Text.numeral_toDigits (n : Nat) : Text.Numeral (Nat.toDigits 10 n) n := by
  have written := Text.numeral_ofDigitChars Nat.toDigits_ne_nil (Text.isDigit_of_mem_toDigits n)
  rwa [Nat.ofDigitChars_ten_toDigits] at written

namespace Duration

variable {d : Duration}

/-- Digits with a unit after them are read as so many of the unit, if they fit in 64 bits. -/
theorem parse?_toDigits (n : Nat) (unit : TimeUnit) :
    parse? (String.ofList (Nat.toDigits 10 n ++ unit.name)) =
      if h : n < 0x10000000000000000 then some (unit.of ⟨n, h⟩) else none := by
  let p : Spelling := {
    before := [], plus := false, digits := Nat.toDigits 10 n, between := [], unit, after := []
    amount := n, numeral := Text.numeral_toDigits n
    blank_before := by simp, blank_between := by simp, blank_after := by simp }
  have whole : p.text = Nat.toDigits 10 n ++ unit.name := by
    simp [p, Spelling.text, Spelling.written, Text.signed]
  rw [← whole]
  exact p.parse?_text

/-- The amount that is written fits in 64 bits. -/
def IsReadable (d : Duration) : Prop := d.millis % 1000 = 0 ∨ d.millis < 0x10000000000000000

instance (d : Duration) : Decidable d.IsReadable :=
  inferInstanceAs (Decidable (d.millis % 1000 = 0 ∨ d.millis < 0x10000000000000000))

/-- A duration of whole milliseconds is read as it was written if its amount fits in 64 bits, and
else not at all. -/
theorem parse?_format (whole : d.IsWholeMillis) :
    parse? d.format = if d.IsReadable then some d else none := by
  have bound := d.nanos_lt
  have wholeMillis : d.millis * 1_000_000 = d.nanos :=
    Nat.div_mul_cancel (Nat.dvd_of_mod_eq_zero whole)
  by_cases seconds : d.millis % 1000 = 0
  · have written : d.format =
        String.ofList (Nat.toDigits 10 (d.millis / 1000) ++ TimeUnit.seconds.name) := by
      rw [format, if_pos seconds, ← String.toList_inj]
      simp only [String.toList_append, String.toList_ofList, Nat.toString_eq_repr, Nat.toList_repr]
      rfl
    have fits : d.millis / 1000 < 0x10000000000000000 := by omega
    have wholeSeconds : d.millis / 1000 * 1_000_000_000 = d.nanos :=
      calc d.millis / 1000 * 1_000_000_000
        _ = d.millis / 1000 * 1000 * 1_000_000 :=
            (Nat.mul_assoc _ 1000 1_000_000).symm
        _ = d.nanos := by rw [Nat.div_mul_cancel (Nat.dvd_of_mod_eq_zero seconds), wholeMillis]
    have same : ofSeconds ⟨d.millis / 1000, fits⟩ = d := Duration.ext wholeSeconds
    rw [written, parse?_toDigits, dif_pos fits, if_pos (.inl seconds)]
    exact congrArg some same
  · have written : d.format =
        String.ofList (Nat.toDigits 10 d.millis ++ TimeUnit.milliseconds.name) := by
      rw [format, if_neg seconds, ← String.toList_inj]
      simp only [String.toList_append, String.toList_ofList, Nat.toString_eq_repr, Nat.toList_repr]
      rfl
    rw [written, parse?_toDigits]
    by_cases fits : d.millis < 0x10000000000000000
    · have same : ofMillis ⟨d.millis, fits⟩ = d := Duration.ext wholeMillis
      rw [dif_pos fits, if_pos (.inr fits)]
      exact congrArg some same
    · rw [dif_neg fits, if_neg fun readable => readable.elim seconds fits]

/-! ### Durations that were read -/

/-- Whatever the unit, an amount of it is whole milliseconds, and reads back. -/
theorem TimeUnit.of_spec (unit : TimeUnit) (n : Amount) :
    (unit.of n).IsWholeMillis ∧ (unit.of n).IsReadable := by
  have bound := n.isLt
  cases unit
  all_goals
    simp only [TimeUnit.of, IsWholeMillis, IsReadable, millis, nanos_ofMillis, nanos_ofSeconds,
      nanos_ofMinutes]
    omega

theorem spec_of_parse? {s : String} (read : parse? s = some d) :
    d.IsWholeMillis ∧ d.IsReadable := by
  obtain ⟨n, -, rfl⟩ := Option.map_eq_some_iff.mp read
  exact TimeUnit.of_spec _ n

end Duration

end LeasePool
