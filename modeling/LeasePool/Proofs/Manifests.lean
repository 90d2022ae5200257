import LeasePool.CommandLine
import LeasePool.Proofs.Documents
import LeasePool.Proofs.Durations
import LeasePool.Proofs.Integers

/-!
# Pool files are read as they were written

A pool file that was written is read as it was, as long as its times read back. What was read can
always be written again, because its counts are integers of a document and its times come from
amounts that fit in 64 bits. The same holds with the password masked; so what a check shows of a
file that loads is itself a file that loads. Masked, it tells all but the password, and of that only
whether there is one.

## Main definitions

* `Settings.Writable`: the counts are integers of a document, and the times read back.
* `Manifest.SameButPassword`: two pool files differ at most in their passwords.

## Main results

* `Settings.ofValue_settingsSection`, `DataSource.ofValue_sourceSection`: the two sections are read
  as they were written.
* `Manifest.read_back_unless_unreadable`: so is a written pool file, if its times read back.
* `Manifest.writable_of_parse`: what was read can be written.
* `Manifest.redacted_eq_iff`: what the masked content tells.
* `Manifest.saved_and_shown`: and so can what a check shows, which is itself a pool file.
-/

namespace LeasePool

open Toml (Value Entries Scalar NamedSection)

variable {s t : Settings} {m : Manifest} {text : String}

/-! ### Settings -/

namespace Setting

theorem ofKey?_key (setting : Setting) : ofKey? setting.key = some setting := by
  cases setting <;> rfl

/-- One setting taken from some settings into others. -/
def copy (setting : Setting) (source target : Settings) : Settings :=
  match setting with
  | .maxActive => { target with maxActive := source.maxActive }
  | .maxIdle => { target with maxIdle := source.maxIdle }
  | .maxCheckoutTime => { target with maxCheckoutTime := source.maxCheckoutTime }
  | .waitTimeout => { target with waitTimeout := source.waitTimeout }
  | .badConnectionTolerance =>
    { target with badConnectionTolerance := source.badConnectionTolerance }
  | .pingEnabled => { target with pingEnabled := source.pingEnabled }
  | .pingQuery => { target with pingQuery := source.pingQuery }
  | .pingIdleThreshold => { target with pingIdleThreshold := source.pingIdleThreshold }

/-- The time that a setting is, if it is one. -/
def time? (setting : Setting) (s : Settings) : Option Duration :=
  match setting with
  | .maxCheckoutTime => some s.maxCheckoutTime
  | .waitTimeout => some s.waitTimeout
  | .pingIdleThreshold => some s.pingIdleThreshold
  | _ => none

/-- The time that a setting is, if it does not read back. -/
def unreadable? (setting : Setting) (s : Settings) : Option Duration :=
  (setting.time? s).filter fun d => ¬ d.IsReadable

theorem decodeDuration_format {d : Duration} (whole : d.IsWholeMillis) :
    decodeDuration (.text d.format) =
      if d.IsReadable then .ok d else .error (.notDuration d.format) := by
  rw [decodeDuration, Duration.parse?_format whole]
  by_cases readable : d.IsReadable
  · rw [if_pos readable, if_pos readable]
  · rw [if_neg readable, if_neg readable]

theorem decodeCount_integer (n : Nat) : decodeCount (.integer n) = .ok n := by
  rw [decodeCount, if_neg (by omega), Int.toNat_natCast]

theorem map_decodeDuration_format {d : Duration} (whole : d.IsWholeMillis)
    (set : Duration → Settings) :
    (decodeDuration (.text d.format)).map set =
      match (some d).filter fun d => ¬ d.IsReadable with
      | some d => .error (.notDuration d.format)
      | none => .ok (set d) := by
  rw [decodeDuration_format whole]
  by_cases readable : d.IsReadable
  · rw [if_pos readable, Option.filter_some_neg (by simpa using readable)]
    rfl
  · rw [if_neg readable, Option.filter_some_pos (by simpa using readable)]
    rfl

/-- A setting is read as it was written, unless it is a time that does not read back. -/
theorem decode_encode (setting : Setting) (valid : s.Valid) :
    setting.decode (setting.encode s).value t =
      match setting.unreadable? s with
      | some d => .error (.notDuration d.format)
      | none => .ok (setting.copy s t) := by
  obtain ⟨-, -, checkout, wait, ping⟩ := valid
  cases setting with
  | maxCheckoutTime =>
    exact map_decodeDuration_format checkout fun d => { t with maxCheckoutTime := d }
  | waitTimeout => exact map_decodeDuration_format wait fun d => { t with waitTimeout := d }
  | pingIdleThreshold =>
    exact map_decodeDuration_format ping fun d => { t with pingIdleThreshold := d }
  | maxActive =>
    exact congrArg (Except.map fun n => { t with maxActive := n }) (decodeCount_integer s.maxActive)
  | maxIdle =>
    exact congrArg (Except.map fun n => { t with maxIdle := n }) (decodeCount_integer s.maxIdle)
  | badConnectionTolerance =>
    exact congrArg (Except.map fun n => { t with badConnectionTolerance := n })
      (decodeCount_integer s.badConnectionTolerance)
  | pingEnabled | pingQuery => rfl

end Setting

namespace Settings

/-- Settings written one after the other are read as they were, up to the first time that does
not read back. -/
theorem foldlM_decode_encode (settings : List Setting) (valid : s.Valid) :
    settings.foldlM (fun t setting => setting.decode (setting.encode s).value t) t =
      match settings.findSome? (·.unreadable? s) with
      | some d => .error (.notDuration d.format)
      | none => .ok (settings.foldl (fun t setting => setting.copy s t) t) := by
  induction settings generalizing t with
  | nil => rfl
  | cons setting settings ih =>
    rw [List.foldlM_cons, Setting.decode_encode setting valid, List.findSome?_cons]
    cases setting.unreadable? s with
    | some d => rfl
    | none => exact ih

/-- The first time that does not read back, if there is one. -/
def unreadable? (s : Settings) : Option Duration :=
  (s.times.find? fun (_, d) => ¬ d.IsReadable).map Prod.snd

theorem findSome?_unreadable? (s : Settings) :
    Setting.all.findSome? (·.unreadable? s) = s.unreadable? := by
  have inOrder : Setting.all.filterMap (·.time? s) = s.times.map Prod.snd := rfl
  rw [← List.head?_filterMap, unreadable?]
  unfold Setting.unreadable?
  rw [← List.filter_filterMap, inOrder, List.head?_filter, List.find?_map]
  rfl

/-- All settings taken over from some settings are these settings. -/
theorem foldl_copy (s t : Settings) :
    Setting.all.foldl (fun t setting => setting.copy s t) t = s := by
  simp only [Setting.all, List.foldl_cons, List.foldl_nil, Setting.copy]

/-- Written settings are read as they were, if every time of them reads back. -/
theorem ofValue_settingsSection (valid : s.Valid) :
    ofValue (.table ((Manifest.settingsSection s).2.map fun e => (e.1, e.2.value))) =
      match s.unreadable? with
      | some d => .error (.notDuration d.format)
      | none => .ok s := by
  have known := foldlM_decode_encode (t := {}) Setting.all valid
  rw [findSome?_unreadable?, foldl_copy] at known
  rw [ofValue, ofEntries, Manifest.settingsSection, List.map_map, List.foldlM_map]
  simp only [Function.comp_apply, Setting.ofKey?_key]
  exact known

end Settings

/-! ### Data sources -/

/-- The data source is read as it was written, whether it has credentials or not. -/
theorem DataSource.ofValue_sourceSection (d : DataSource) :
    ofValue (.table ((Manifest.sourceSection d).2.map fun e => (e.1, e.2.value))) = .ok d := by
  obtain ⟨endpoint, username, password⟩ := d
  cases username <;> cases password <;> rfl

/-! ### Pool files -/

namespace Manifest

/-- The sections of a pool file. -/
def sections (m : Manifest) : List NamedSection :=
  [sourceSection m.source, settingsSection m.settings]

/-- The keys of a data source, some of them left out. -/
theorem keys_sourceSection (d : DataSource) :
    ((sourceSection d).2.map Prod.fst).Sublist ["endpoint", "username", "password"] := by
  obtain ⟨endpoint, username, password⟩ := d
  cases username <;> cases password <;> simp [sourceSection, optionalEntry]

theorem keys_settingsSection (s : Settings) :
    (settingsSection s).2.map Prod.fst = Setting.all.map Setting.key := by
  rw [settingsSection, List.map_map]
  rfl

theorem forall_mem_sections {P : NamedSection → Prop} (source : P (sourceSection m.source))
    (settings : P (settingsSection m.settings)) : ∀ s ∈ m.sections, P s :=
  List.forall_mem_cons.mpr ⟨source, List.forall_mem_singleton.mpr settings⟩

theorem wellNamed_sections (m : Manifest) : Toml.WellNamed m.sections := by
  have sourceKeys := keys_sourceSection m.source
  have settingKeys := keys_settingsSection m.settings
  have bareSource : ∀ key ∈ ["endpoint", "username", "password"], Toml.IsBare key := by decide
  have bareSettings : ∀ key ∈ Setting.all.map Setting.key, Toml.IsBare key := by decide
  constructor
  case bare =>
    have datasource : Toml.IsBare "datasource" := by decide
    have pool : Toml.IsBare "pool" := by decide
    exact forall_mem_sections datasource pool
  case bareKeys =>
    refine forall_mem_sections (fun e there => ?_) (fun e there => ?_)
    · exact bareSource _ (sourceKeys.mem (List.mem_map_of_mem there))
    · exact bareSettings _ (settingKeys ▸ List.mem_map_of_mem there)
  case nodup =>
    show ["datasource", "pool"].Nodup
    decide
  case nodupKeys =>
    refine forall_mem_sections (sourceKeys.nodup (by decide)) ?_
    rw [settingKeys]
    decide

theorem write_eq_ok_iff :
    m.write = .ok text ↔ m.settings.Valid ∧ Toml.write? m.sections = some text := by
  rw [← Settings.fault?_eq_none_iff]
  unfold write check
  cases m.settings.fault? with
  | some fault => simp [Except.bind]
  | none =>
    rw [sections]
    cases Toml.write? [sourceSection m.source, settingsSection m.settings] <;> simp [Except.bind]

/-- The data source is looked at before the settings. -/
theorem ofEntries_pair {v w : Value} {d : DataSource} (source : DataSource.ofValue v = .ok d) :
    ofEntries [("datasource", v), ("pool", w)] =
      (Settings.ofValue w).map fun settings => { source := d, settings } := by
  have noSource : "pool" ≠ "datasource" := by decide
  simp only [ofEntries, List.foldlM_cons, List.foldlM_nil, if_true, if_neg noSource, source]
  cases Settings.ofValue w <;> rfl

/-- What is put together from a written pool file. -/
theorem ofEntries_sections (valid : m.settings.Valid) :
    ofEntries (Toml.entriesOf m.sections) =
      match m.settings.unreadable? with
      | some d => .error (.notDuration d.format)
      | none => .ok m := by
  refine (ofEntries_pair (DataSource.ofValue_sourceSection m.source)).trans ?_
  rw [Settings.ofValue_settingsSection valid]
  cases m.settings.unreadable? <;> rfl

/-- A text with the content of a written pool file is read as the pool file, if every time of it
reads back. -/
theorem parse_of_read? (valid : m.settings.Valid)
    (read : Toml.read? text = some (Toml.entriesOf m.sections)) :
    parse text =
      match m.settings.unreadable? with
      | some d => .error (.misfit (.notDuration d.format))
      | none => .ok m := by
  have noFault := (Settings.fault?_eq_none_iff _).mpr valid
  rw [parse, read]
  dsimp only
  rw [ofEntries_sections valid]
  cases m.settings.unreadable? with
  | some d => rfl
  | none =>
    show m.check.map _ = _
    rw [check, noFault]
    rfl

/-- What a written pool file is read as. -/
theorem parse_of_write (written : m.write = .ok text) :
    parse text =
      match m.settings.unreadable? with
      | some d => .error (.misfit (.notDuration d.format))
      | none => .ok m := by
  obtain ⟨valid, document⟩ := write_eq_ok_iff.mp written
  exact parse_of_read? valid (Toml.read?_write (wellNamed_sections m) document)

end Manifest

/-! ### What can be written -/

theorem Toml.exists_mapM {α β : Type} {f : α → Option β} {xs : List α}
    (each : ∀ x ∈ xs, ∃ y, f x = some y) : ∃ ys, xs.mapM f = some ys := by
  induction xs with
  | nil => exact ⟨[], rfl⟩
  | cons x xs ih =>
    obtain ⟨⟨y, first⟩, others⟩ := List.forall_mem_cons.mp each
    obtain ⟨ys, rest⟩ := ih others
    exact ⟨y :: ys, by simp [List.mapM_cons, first, rest]⟩

/-- A document can be written if its scalars can. -/
theorem Toml.exists_write {ss : List NamedSection}
    (scalars : ∀ s ∈ ss, ∀ e ∈ s.2, ∃ w, Scalar.write? e.2 = some w) :
    ∃ text, Toml.write? ss = some text := by
  have ofSection : ∀ s ∈ ss, ∃ w, Toml.writeSection? s = some w := by
    intro s there
    obtain ⟨ws, entries⟩ := exists_mapM (f := Toml.writeAssignment?) fun e there' => by
      obtain ⟨w, written⟩ := scalars s there e there'
      exact ⟨_, Option.map_eq_some_iff.mpr ⟨w, written, rfl⟩⟩
    exact ⟨_, Option.map_eq_some_iff.mpr ⟨ws, entries, rfl⟩⟩
  obtain ⟨ws, written⟩ := exists_mapM ofSection
  exact ⟨_, Option.map_eq_some_iff.mpr ⟨ws, written, rfl⟩⟩

namespace Settings

/-- The counts are integers of a document, and the times read back. -/
structure Writable (s : Settings) : Prop where
  maxActive : s.maxActive < Toml.integerLimit
  maxIdle : s.maxIdle < Toml.integerLimit
  badConnectionTolerance : s.badConnectionTolerance < Toml.integerLimit
  maxCheckoutTime : s.maxCheckoutTime.IsReadable
  waitTimeout : s.waitTimeout.IsReadable
  pingIdleThreshold : s.pingIdleThreshold.IsReadable

theorem writable_default : Writable {} := by
  constructor <;> decide

theorem Writable.unreadable? (writable : s.Writable) : s.unreadable? = none := by
  simp [Settings.unreadable?, times, writable.maxCheckoutTime, writable.waitTimeout,
    writable.pingIdleThreshold]

end Settings

/-- The value of a setting can be written. -/
theorem Setting.exists_write_encode (setting : Setting) (writable : s.Writable) :
    ∃ w, (setting.encode s).write? = some w := by
  have count {n : Nat} (fits : n < Toml.integerLimit) :
      ∃ w, (Scalar.integer n).write? = some w := by
    have low : -(Toml.integerLimit : Int) ≤ n := by omega
    refine ⟨toString (n : Int), ?_⟩
    rw [Scalar.write?, if_pos ⟨low, Int.ofNat_lt.mpr fits⟩]
  cases setting with
  | maxActive => exact count writable.maxActive
  | maxIdle => exact count writable.maxIdle
  | badConnectionTolerance => exact count writable.badConnectionTolerance
  | maxCheckoutTime | waitTimeout | pingEnabled | pingQuery | pingIdleThreshold => exact ⟨_, rfl⟩

namespace Manifest

/-- A valid pool file whose settings are in the range can be written, and is read as it was. -/
theorem exists_write (valid : m.settings.Valid) (writable : m.settings.Writable) :
    ∃ text, m.write = .ok text ∧ parse text = .ok m := by
  have source : ∀ e ∈ (sourceSection m.source).2, ∃ w, Scalar.write? e.2 = some w := by
    obtain ⟨⟨endpoint, username, password⟩, settings⟩ := m
    cases username <;> cases password <;> simp [sourceSection, optionalEntry, Scalar.write?]
  have settings : ∀ e ∈ (settingsSection m.settings).2, ∃ w, Scalar.write? e.2 = some w := by
    intro e there
    obtain ⟨setting, -, rfl⟩ := List.mem_map.mp there
    exact setting.exists_write_encode writable
  obtain ⟨text, document⟩ := Toml.exists_write (forall_mem_sections source settings)
  have written := write_eq_ok_iff.mpr ⟨valid, document⟩
  have read := parse_of_write written
  rw [writable.unreadable?] at read
  exact ⟨text, written, read⟩

end Manifest

/-! ### What was read -/

theorem map_eq_ok {α β ε : Type} {x : Except ε α} {f : α → β} {b : β} (h : x.map f = .ok b) :
    ∃ a, x = .ok a ∧ f a = b := by
  cases x with
  | error e => cases h
  | ok a => exact ⟨a, rfl, Except.ok.inj h⟩

theorem bind_eq_ok {α β ε : Type} {x : Except ε α} {f : α → Except ε β} {b : β}
    (h : x >>= f = .ok b) : ∃ a, x = .ok a ∧ f a = .ok b := by
  cases x with
  | error e => cases h
  | ok a => exact ⟨a, rfl, h⟩

/-- What each step keeps is kept by all of them. -/
theorem foldlM_invariant {σ α ε : Type} {P : σ → Prop} {step : σ → α → Except ε σ} {xs : List α}
    (keeps : ∀ x ∈ xs, ∀ s t, P s → step s x = .ok t → P t) {s t : σ} (holds : P s)
    (folded : xs.foldlM step s = .ok t) : P t := by
  induction xs generalizing s with
  | nil =>
    cases folded
    exact holds
  | cons x xs ih =>
    obtain ⟨here, later⟩ := List.forall_mem_cons.mp keeps
    rw [List.foldlM_cons] at folded
    obtain ⟨next, first, others⟩ := bind_eq_ok folded
    exact ih later (here s next holds first) others

theorem lt_of_decodeCount {v : Value} {n : Nat} (inRange : v.InRange)
    (decoded : decodeCount v = .ok n) : n < Toml.integerLimit := by
  unfold decodeCount at decoded
  split at decoded
  · split at decoded
    · cases decoded
    · cases decoded
      cases inRange with
      | integer low high => omega
  · cases decoded

theorem isReadable_of_decodeDuration {v : Value} {d : Duration}
    (decoded : decodeDuration v = .ok d) : d.IsReadable := by
  unfold decodeDuration at decoded
  split at decoded
  · split at decoded
    · cases decoded
      exact (Duration.spec_of_parse? ‹_›).2
    · cases decoded
  · split at decoded
    · cases decoded
      exact (Duration.TimeUnit.of_spec .seconds _).2
    · cases decoded
  · cases decoded

/-- A setting that was read can be written. -/
theorem Setting.decode_writable {setting : Setting} {v : Value} (inRange : v.InRange)
    (writable : s.Writable) (decoded : setting.decode v s = .ok t) : t.Writable := by
  cases setting
  case pingEnabled | pingQuery =>
    obtain ⟨_, -, rfl⟩ := map_eq_ok decoded
    exact { writable with }
  case maxActive =>
    obtain ⟨n, count, rfl⟩ := map_eq_ok decoded
    exact { writable with maxActive := lt_of_decodeCount inRange count }
  case maxIdle =>
    obtain ⟨n, count, rfl⟩ := map_eq_ok decoded
    exact { writable with maxIdle := lt_of_decodeCount inRange count }
  case badConnectionTolerance =>
    obtain ⟨n, count, rfl⟩ := map_eq_ok decoded
    exact { writable with badConnectionTolerance := lt_of_decodeCount inRange count }
  case maxCheckoutTime =>
    obtain ⟨d, time, rfl⟩ := map_eq_ok decoded
    exact { writable with maxCheckoutTime := isReadable_of_decodeDuration time }
  case waitTimeout =>
    obtain ⟨d, time, rfl⟩ := map_eq_ok decoded
    exact { writable with waitTimeout := isReadable_of_decodeDuration time }
  case pingIdleThreshold =>
    obtain ⟨d, time, rfl⟩ := map_eq_ok decoded
    exact { writable with pingIdleThreshold := isReadable_of_decodeDuration time }

/-- Settings that were read can be written. -/
theorem Settings.writable_of_ofValue {v : Value} (inRange : v.InRange)
    (read : Settings.ofValue v = .ok s) : s.Writable := by
  unfold ofValue at read
  split at read
  · cases inRange with
    | table all =>
      refine foldlM_invariant (fun e there s t writable decoded => ?_) writable_default read
      split at decoded
      · exact Setting.decode_writable (all e there) writable decoded
      · cases decoded
        exact writable
  · cases inRange with
    | array all =>
      refine foldlM_invariant (fun given there s t writable decoded => ?_) writable_default read
      exact Setting.decode_writable (all _ (List.of_mem_zip there).2) writable decoded
  · cases read
    exact writable_default
  · cases read

namespace Manifest

/-- What was read of a document can be written. -/
theorem writable_of_ofEntries {entries : Entries} (inRange : ∀ e ∈ entries, e.2.InRange)
    (read : ofEntries entries = .ok m) : m.settings.Writable := by
  unfold ofEntries at read
  obtain ⟨found, folded, last⟩ := bind_eq_ok read
  have writable : found.2.Writable := by
    refine foldlM_invariant (P := fun found => found.2.Writable)
      (fun e there s t writable step => ?_) Settings.writable_default folded
    split at step
    · obtain ⟨_, -, rfl⟩ := map_eq_ok step
      exact writable
    · split at step
      · obtain ⟨settings, isSettings, rfl⟩ := map_eq_ok step
        exact Settings.writable_of_ofValue (inRange e there) isSettings
      · cases step
        exact writable
  split at last
  · cases last
    exact writable
  · cases last

/-- What was read of a text can be written. -/
theorem writable_of_parse (read : parse text = .ok m) :
    m.settings.Valid ∧ m.settings.Writable := by
  unfold parse at read
  split at read
  · cases read
  · rename_i entries document
    split at read
    · cases read
    · rename_i m' content
      obtain ⟨_, checked, rfl⟩ := map_eq_ok read
      refine ⟨?_, writable_of_ofEntries (Toml.read?_inRange document) content⟩
      rw [← Settings.fault?_eq_none_iff]
      unfold check at checked
      split at checked
      · cases checked
      · assumption

/-! ### Pool files are read as they were written -/

/-- A written pool file is read as it was, if every time of it reads back; else its first time
that does not is complained about. A time of whole milliseconds reads back if it is whole seconds
or fewer than `2 ^ 64` milliseconds. -/
theorem read_back_unless_unreadable (written : m.write = .ok text) :
    ((∀ time ∈ m.settings.times, time.2.IsReadable) → parse text = .ok m) ∧
      (∀ key d, (m.settings.times.find? fun time => ¬ time.2.IsReadable) = some (key, d) →
        parse text = .error (.misfit (.notDuration d.format))) ∧
      ∀ d : Duration, d.IsWholeMillis →
        Duration.parse? d.format = if d.IsReadable then some d else none := by
  have read := parse_of_write written
  refine ⟨fun readable => ?_, fun key d first => ?_, fun d whole => Duration.parse?_format whole⟩
  · have none' : m.settings.unreadable? = none := by
      simpa [Settings.unreadable?, List.find?_eq_none] using readable
    rw [read, none']
  · have some' : m.settings.unreadable? = some d := congrArg (Option.map Prod.snd) first
    rw [read, some']

/-- A pool file with the default settings. -/
def plain : Manifest := { source := { endpoint := "db" } }

theorem read_back_plain : ∃ text, plain.write = .ok text ∧ parse text = .ok plain := by
  obtain ⟨text, written⟩ : ∃ text, plain.write = .ok text := ⟨_, rfl⟩
  exact ⟨text, written, (read_back_unless_unreadable written).1 (by decide)⟩

/-- A pool file whose bound on a wait is `2 ^ 64` milliseconds. -/
def lasting : Manifest where
  source := { endpoint := "db" }
  settings := { waitTimeout := ⟨0x10000000000000000 * 1_000_000, by decide⟩ }

/-- A pool file is written that is not read again. -/
theorem written_and_refused : ∃ text, lasting.write = .ok text ∧
    parse text = .error (.misfit (.notDuration "18446744073709551616ms")) := by
  obtain ⟨text, written⟩ : ∃ text, lasting.write = .ok text := ⟨_, rfl⟩
  have first : lasting.settings.unreadable? = some lasting.settings.waitTimeout := by decide +kernel
  have format : lasting.settings.waitTimeout.format = "18446744073709551616ms" := by decide +kernel
  have read := parse_of_write written
  rw [first] at read
  exact ⟨text, written, format ▸ read⟩

/-! ### The password -/

/-- Two pool files differ at most in their passwords, and either both have one or neither has. -/
structure SameButPassword (m m' : Manifest) : Prop where
  endpoint : m.source.endpoint = m'.source.endpoint
  username : m.source.credentials.username = m'.source.credentials.username
  settings : m.settings = m'.settings
  hasPassword : m.source.credentials.password.isSome = m'.source.credentials.password.isSome

/-- The masked content tells all but the password, and of that only whether there is one. -/
theorem redacted_eq_iff {m' : Manifest} : m.redacted = m'.redacted ↔ m.SameButPassword m' := by
  obtain ⟨⟨endpoint, ⟨username, password⟩⟩, settings⟩ := m
  obtain ⟨⟨endpoint', ⟨username', password'⟩⟩, settings'⟩ := m'
  constructor
  · intro same
    simp only [redacted, Credentials.masked, mk.injEq, DataSource.mk.injEq,
      Credentials.mk.injEq] at same
    obtain ⟨⟨rfl, rfl, masked⟩, rfl⟩ := same
    refine ⟨rfl, rfl, rfl, ?_⟩
    simpa using congrArg Option.isSome masked
  · rintro ⟨rfl, rfl, rfl, hasPassword⟩
    cases password <;> cases password' <;> first | rfl | cases hasPassword

theorem redacted_redacted (m : Manifest) : m.redacted.redacted = m.redacted := by
  obtain ⟨⟨endpoint, ⟨username, password⟩⟩, settings⟩ := m
  cases password <;> rfl

/-- What stands in the place of the password is the mask. -/
theorem eq_mask_of_redacted {password : String}
    (shown : password ∈ m.redacted.source.credentials.password) : password = Credentials.mask := by
  obtain ⟨_, -, rfl⟩ := Option.map_eq_some_iff.mp shown
  rfl

/-! ### What loads can be saved and shown -/

theorem isPlain_of_mem_hex (bytes : List UInt8) :
    ∀ c ∈ (Digest.hex bytes).toList, Toml.isPlain c = true := by
  have digits : ∀ n < 16, Toml.isPlain (Nat.digitChar n) = true := by decide
  intro c there
  obtain ⟨b, -, digit⟩ := List.mem_flatMap.mp (by simpa [Digest.hex] using there)
  have bound := b.toNat_lt
  rcases List.mem_pair.mp digit with rfl | rfl
  · exact digits _ (by omega)
  · exact digits _ (by omega)

theorem load_toUTF8 (text : String) : load (.ok text.toUTF8) = parse text := by
  have read : String.fromUTF8? text.toUTF8 = some text := dif_pos text.isValidUTF8
  rw [load, read]

/-- What a check shows of a pool file is itself a pool file: the one with the password masked. -/
theorem parse_rendered {shown : String} (rendered : CommandLine.rendered m = .ok shown)
    (readable : m.settings.unreadable? = none) : parse (shown ++ "\n") = .ok m.redacted := by
  obtain ⟨written, isWritten, rfl⟩ := map_eq_ok rendered
  obtain ⟨valid, document⟩ := write_eq_ok_iff.mp isWritten
  have plain :
      ∀ c ∈ (" fingerprint " ++ m.source.fingerprint.hex).toList, Toml.isPlain c = true := by
    rw [String.toList_append]
    exact List.forall_mem_append.mpr ⟨List.all_eq_true.mp (by decide), isPlain_of_mem_hex _⟩
  have layout :
      ("# fingerprint " ++ m.source.fingerprint.hex ++ "\n" ++ written ++ "\n").toList =
        '#' :: ((" fingerprint " ++ m.source.fingerprint.hex).toList ++
          '\n' :: (written.toList ++ ['\n'])) := by
    simp [String.toList_append]
  have read := Toml.read?_commented (wellNamed_sections m.redacted) document plain layout
  have same : m.redacted.settings.unreadable? = none := readable
  rw [parse_of_read? valid read, same]

/-- Every text that loads can be saved, and shown with the password masked and all else as it is;
both load again. A check of a file that loads ends well, and what it shows, with the fingerprint in
a comment, loads too. -/
theorem saved_and_shown (read : parse text = .ok m) :
    (∃ saved, m.write = .ok saved ∧ parse saved = .ok m) ∧
      (m.SameButPassword m.redacted ∧
        ∀ password ∈ m.redacted.source.credentials.password, password = Credentials.mask) ∧
      ∃ shown, m.redacted.write = .ok shown ∧ parse shown = .ok m.redacted ∧
        ∀ path content, load content = .ok m →
          CommandLine.check path content =
              { exit := 0
                stdout := "# fingerprint " ++ m.source.fingerprint.hex ++ "\n" ++ shown ++ "\n" } ∧
            load (.ok (CommandLine.check path content).stdout.toUTF8) = .ok m.redacted := by
  obtain ⟨valid, writable⟩ := writable_of_parse read
  obtain ⟨shown, written, reads⟩ := exists_write (m := m.redacted) valid writable
  have masked : m.SameButPassword m.redacted := redacted_eq_iff.mp (redacted_redacted m).symm
  refine ⟨exists_write valid writable, ⟨masked, fun _ => eq_mask_of_redacted⟩, shown, written,
    reads, fun path content loaded => ?_⟩
  have rendered : CommandLine.rendered m =
      .ok ("# fingerprint " ++ m.source.fingerprint.hex ++ "\n" ++ shown) := by
    rw [CommandLine.rendered, written]
    rfl
  have ends : CommandLine.check path content =
      { exit := 0
        stdout := "# fingerprint " ++ m.source.fingerprint.hex ++ "\n" ++ shown ++ "\n" } := by
    rw [CommandLine.check, loaded]
    dsimp only
    rw [rendered]
  refine ⟨ends, ?_⟩
  rw [ends, load_toUTF8]
  exact parse_rendered rendered writable.unreadable?

/-- A pool file with its settings in their order, a time among them in seconds and one in
minutes. -/
def terse : String :=
  "datasource.endpoint = 'db'\ndatasource.password = \"secret\"\npool = [4, 2, 30, ' +5 m ']\n"

/-- What it holds. -/
def terseContent : Manifest where
  source := { endpoint := "db", credentials := { password := some "secret" } }
  settings :=
    { maxActive := 4, maxIdle := 2, maxCheckoutTime := .ofSeconds 30
      waitTimeout := .ofMinutes 5 }

theorem saved_and_shown_terse :
    parse terse = .ok terseContent ∧
      (∃ saved, terseContent.write = .ok saved ∧ parse saved = .ok terseContent) ∧
      (terseContent.SameButPassword terseContent.redacted ∧
        terseContent.redacted.source.credentials.password = some "************") ∧
      ∃ shown, terseContent.redacted.write = .ok shown ∧
        (CommandLine.check "pool.toml" (.ok terse.toUTF8)).stdout =
          "# fingerprint " ++ terseContent.source.fingerprint.hex ++ "\n" ++ shown ++ "\n" := by
  have read : parse terse = .ok terseContent := by decide +kernel
  obtain ⟨saved, ⟨masked, -⟩, shown, written, -, checked⟩ := saved_and_shown read
  refine ⟨read, saved, ⟨masked, rfl⟩, shown, written, ?_⟩
  rw [(checked "pool.toml" (.ok terse.toUTF8) ((load_toUTF8 terse).trans read)).1]

end Manifest

end LeasePool
