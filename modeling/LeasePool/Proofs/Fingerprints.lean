import LeasePool.Fingerprint

/-!
# Which data sources share a fingerprint

What is hashed for a data source can be told apart field by field: the first byte of a field says
whether there is a text, and the eight bytes after it say where that text ends, whatever stands in
it. So different data sources are hashed from different bytes, neither of which begins the other,
and if they share a fingerprint they have made the digest collide.

## Main definitions

* `Digest.Collide`: two different messages have the same digest.
* `Fingerprint.FitsLength`: the length of a field can be written in its eight bytes.
* `DataSource.FitsLengths`: so can the lengths of all fields of a data source.

## Main results

* `Fingerprint.encodeField_append_inj`: where a field ends can be told from its bytes.
* `DataSource.encode_append_inj`: where a data source ends can be told, and which one it is.
* `DataSource.told_apart`: one data source is hashed from one sequence of bytes, none begins
  another, and different data sources share a fingerprint only if the digest collides.
-/

namespace LeasePool

/-! ### Numbers and texts as bytes -/

namespace Digest

/-- Two different messages have the same digest. -/
def Collide (message other : List UInt8) : Prop :=
  message ≠ other ∧ sha256 message = sha256 other

theorem bigEndian_succ (count n : Nat) :
    bigEndian (count + 1) n = UInt8.ofNat (n / Nat.pow 256 count) :: bigEndian count n := by
  rw [bigEndian, List.range_succ, List.reverse_append, List.reverse_singleton,
    List.singleton_append, List.map_cons]
  rfl

/-- The low bytes of a number determine it up to a multiple of what they can hold. -/
theorem mod_eq_of_bigEndian_eq {count n m : Nat} (same : bigEndian count n = bigEndian count m) :
    n % Nat.pow 256 count = m % Nat.pow 256 count := by
  induction count with
  | zero => exact (Nat.mod_one n).trans (Nat.mod_one m).symm
  | succ count ih =>
    rw [bigEndian_succ, bigEndian_succ] at same
    obtain ⟨first, rest⟩ := List.cons.inj same
    have highest : n / Nat.pow 256 count % 256 = m / Nat.pow 256 count % 256 :=
      congrArg UInt8.toNat first
    -- one more byte is one more digit in front, in base 256
    have digit (k : Nat) : k % Nat.pow 256 (count + 1) =
        k % Nat.pow 256 count + Nat.pow 256 count * (k / Nat.pow 256 count % 256) :=
      Nat.mod_pow_succ
    rw [digit n, digit m, ih rest, highest]

/-- A number that fits in so many bytes is determined by them. -/
theorem eq_of_bigEndian_eq {count n m : Nat} (fits : n < Nat.pow 256 count)
    (fits' : m < Nat.pow 256 count) (same : bigEndian count n = bigEndian count m) : n = m :=
  calc n
    _ = n % Nat.pow 256 count := (Nat.mod_eq_of_lt fits).symm
    _ = m % Nat.pow 256 count := mod_eq_of_bigEndian_eq same
    _ = m := Nat.mod_eq_of_lt fits'

end Digest

namespace Fingerprint

variable {s t : String} {field field' : Option String} {rest rest' : List UInt8}
  {endpoint endpoint' : String} {credentials credentials' : Credentials}

/-- Listing bytes goes through them from the front. -/
theorem toList_loop (bytes : ByteArray) (i : Nat) (before : List UInt8) :
    ByteArray.toList.loop bytes i before = before.reverse ++ bytes.data.toList.drop i := by
  fun_induction ByteArray.toList.loop bytes i before with
  | case1 i before inside ih =>
    have listed : i < bytes.data.toList.length := inside
    have here : bytes.get! i = bytes.data.toList[i] := getElem!_pos bytes.data i inside
    rw [ih, List.drop_eq_getElem_cons listed, List.reverse_cons, List.append_assoc,
      List.singleton_append, here]
  | case2 i before outside =>
    rw [List.drop_eq_nil_of_le (Nat.le_of_not_lt outside), List.append_nil]

theorem utf8_eq (s : String) : utf8 s = s.toByteArray.data.toList :=
  toList_loop s.toByteArray 0 []

theorem length_utf8 (s : String) : (utf8 s).length = s.utf8ByteSize := by
  rw [utf8_eq]
  rfl

/-- A text is determined by its bytes. -/
theorem utf8_inj : utf8 s = utf8 t ↔ s = t := by
  constructor
  · intro same
    rw [utf8_eq, utf8_eq] at same
    exact String.toByteArray_inj.mp (ByteArray.ext (Array.toList_inj.mp same))
  · rintro rfl
    rfl

/-! ### Fields -/

/-- The length of the text, if there is one, can be written in eight bytes. -/
def FitsLength (field : Option String) : Prop := ∀ s ∈ field, s.utf8ByteSize < 0x10000000000000000

instance (field : Option String) : Decidable (FitsLength field) :=
  inferInstanceAs (Decidable (∀ s ∈ field, _))

/-- Two texts that are each preceded by their length end at the same place, whatever stands in
them and after them. -/
theorem text_append_inj (fits : FitsLength (some s)) (fits' : FitsLength (some t))
    (same : Digest.bigEndian 8 (utf8 s).length ++ utf8 s ++ rest =
      Digest.bigEndian 8 (utf8 t).length ++ utf8 t ++ rest') : s = t ∧ rest = rest' := by
  rw [List.append_assoc, List.append_assoc] at same
  obtain ⟨lengths, texts⟩ := List.append_inj same (by simp)
  have length : (utf8 s).length = (utf8 t).length := by
    refine Digest.eq_of_bigEndian_eq ?_ ?_ lengths
    · rw [length_utf8]
      exact fits s rfl
    · rw [length_utf8]
      exact fits' t rfl
  obtain ⟨text, more⟩ := List.append_inj texts length
  exact ⟨utf8_inj.mp text, more⟩

/-- Fields that begin the same bytes are the same, and the same bytes follow them. -/
theorem encodeField_append_inj (fits : FitsLength field) (fits' : FitsLength field')
    (same : encodeField field ++ rest = encodeField field' ++ rest') :
    field = field' ∧ rest = rest' := by
  -- the first byte tells whether there is a text
  cases field with
  | none =>
    cases field' with
    | none => exact ⟨rfl, (List.cons.inj same).2⟩
    | some t => exact absurd (List.cons.inj same).1 (by decide)
  | some s =>
    cases field' with
    | none => exact absurd (List.cons.inj same).1 (by decide)
    | some t =>
      obtain ⟨rfl, more⟩ := text_append_inj fits fits' (List.cons.inj same).2
      exact ⟨rfl, more⟩

/-- Fingerprints are the same exactly if the digests of what was hashed are. -/
theorem of_eq_of_iff : of endpoint credentials = of endpoint' credentials' ↔
    Digest.sha256 (encode endpoint credentials) = Digest.sha256 (encode endpoint' credentials') := by
  rw [of, of, Fingerprint.mk.injEq]

end Fingerprint

/-! ### Data sources -/

namespace DataSource

open Fingerprint (encode encodeField_append_inj of_eq_of_iff FitsLength)

/-- The length of every text of the data source can be written in eight bytes. -/
structure FitsLengths (d : DataSource) : Prop where
  endpoint : FitsLength (some d.endpoint)
  username : FitsLength d.credentials.username
  password : FitsLength d.credentials.password

variable {d d' : DataSource} {rest rest' : List UInt8}

/-- Data sources whose bytes begin the same sequence are the same, and the same bytes follow. -/
theorem encode_append_inj (fits : d.FitsLengths) (fits' : d'.FitsLengths)
    (same : encode d.endpoint d.credentials ++ rest = encode d'.endpoint d'.credentials ++ rest') :
    d = d' ∧ rest = rest' := by
  simp only [encode, List.append_assoc] at same
  obtain ⟨endpoints, same⟩ := encodeField_append_inj fits.endpoint fits'.endpoint same
  obtain ⟨usernames, same⟩ := encodeField_append_inj fits.username fits'.username same
  obtain ⟨passwords, same⟩ := encodeField_append_inj fits.password fits'.password same
  refine ⟨?_, same⟩
  obtain ⟨endpoint, username, password⟩ := d
  obtain ⟨endpoint', username', password'⟩ := d'
  obtain rfl := Option.some.inj endpoints
  obtain rfl : username = username' := usernames
  obtain rfl : password = password' := passwords
  rfl

/-- The bytes of a data source begin only its own. -/
theorem encode_isPrefix_iff (fits : d.FitsLengths) (fits' : d'.FitsLengths) :
    encode d.endpoint d.credentials <+: encode d'.endpoint d'.credentials ↔ d = d' := by
  constructor
  · rintro ⟨more, whole⟩
    rw [← List.append_nil (encode d'.endpoint d'.credentials)] at whole
    exact (encode_append_inj fits fits' whole).1
  · rintro rfl
    exact List.prefix_rfl

theorem encode_inj (fits : d.FitsLengths) (fits' : d'.FitsLengths) :
    encode d.endpoint d.credentials = encode d'.endpoint d'.credentials ↔ d = d' := by
  constructor
  · intro same
    exact (encode_isPrefix_iff fits fits').mp (same ▸ List.prefix_rfl)
  · rintro rfl
    rfl

/-- **Data sources are told apart.** Different data sources are hashed from different bytes,
neither of which begins the other, so they share a fingerprint exactly if the digest collides on
these bytes. -/
theorem told_apart (fits : d.FitsLengths) (fits' : d'.FitsLengths) :
    (encode d.endpoint d.credentials = encode d'.endpoint d'.credentials ↔ d = d') ∧
      (encode d.endpoint d.credentials <+: encode d'.endpoint d'.credentials ↔ d = d') ∧
      (d.fingerprint = d'.fingerprint ↔ d = d' ∨
        Digest.Collide (encode d.endpoint d.credentials) (encode d'.endpoint d'.credentials)) := by
  refine ⟨encode_inj fits fits', encode_isPrefix_iff fits fits', ?_⟩
  rw [fingerprint, fingerprint, of_eq_of_iff, Digest.Collide, ne_eq, encode_inj fits fits']
  constructor
  · intro same
    by_cases equal : d = d'
    · exact .inl equal
    · exact .inr ⟨equal, same⟩
  · rintro (rfl | ⟨-, same⟩)
    · rfl
    · exact same

/-- The endpoint of one data source goes on as what is hashed for the other does. -/
theorem told_apart_imitated :
    let d : DataSource := ⟨"a", { username := some "b" }⟩
    let d' : DataSource := ⟨"a\x01\x00\x00\x00\x00\x00\x00\x00\x01b", {}⟩
    d.FitsLengths ∧ d'.FitsLengths ∧
      ¬ encode d.endpoint d.credentials <+: encode d'.endpoint d'.credentials ∧
      (d.fingerprint = d'.fingerprint →
        Digest.Collide (encode d.endpoint d.credentials) (encode d'.endpoint d'.credentials)) := by
  intro d d'
  have fits : d.FitsLengths := ⟨by decide, by decide, by decide⟩
  have fits' : d'.FitsLengths := ⟨by decide, by decide, by decide⟩
  have different : d ≠ d' := by decide
  obtain ⟨-, begins, shares⟩ := told_apart fits fits'
  exact ⟨fits, fits', fun first => different (begins.mp first),
    fun shared => (shares.mp shared).resolve_left different⟩

end DataSource

end LeasePool
