import LeasePool.Proofs.Calls
import Mathlib.Data.List.Nodup
import Mathlib.Data.List.Perm.Basic
import Mathlib.Data.List.Range
import Mathlib.Logic.Relation

/-!
# Where connections are

A connection of a pool lies idle, is active, or is in the hand of the operation that works on it.
Operations move it from one place to another, make calls on it, and dispose of it. What the journal
says agrees with where the connections are: a holder has just the active ones, nothing is pending on
those that lie idle, and of those that are nowhere the pool has disposed. Every move keeps to that.

## Main definitions

* `Places`: where the connections of a pool are, and what the journal says of them.
* `Places.Move`, `Places.Moves`: what is done with one connection, and several such things.
* `Places.Agrees`: the journal agrees with where the connections are.
* `Places.Course`: what moves do to the connections that were there, and to those that were not.

## Main results

* `Places.Agrees.move`: every move leaves the journal in agreement.
* `Places.Moves.course`: moves touch no connection but those that are there and new ones, and what
  leaves is disposed of.
-/

namespace LeasePool

/-- The connection with a number leaves its holder. -/
inductive Event.Parts (n : Nat) : Event → Prop
  | reclaimed : Parts n (.reclaimed n)
  | withdrawn : Parts n (.withdrawn n)
  | returned : Parts n (.returned n)

namespace Event.Parts

variable {n m : Nat} {event : Event}

theorem note_self (parts : event.Parts n) (s : Standing) :
    s.note n event = { s with held := false } := by
  cases parts <;> simp [Standing.note]

theorem note_of_ne (parts : event.Parts n) (s : Standing) (other : m ≠ n) : s.note m event = s := by
  cases parts <;> simp [Standing.note, other.symm]

theorem calls_record {σ : Type} (parts : event.Parts m) (e : Environment σ) (n : Nat) :
    (e.record event).calls n = e.calls n := by
  by_cases same : n = m
  · subst same
    simp [Environment.calls, parts.note_self]
  · simp [Environment.calls, parts.note_of_ne _ same]

theorem opened?_eq_none (parts : event.Parts n) : event.opened? = none := by
  cases parts <;> rfl

end Event.Parts

/-- Where the connections of a pool are, by their numbers, with the number of the next one and what
lies outside the pool. -/
structure Places (σ : Type) where
  /-- The connections in the hand of an operation. -/
  hand : List Nat
  idle : List Nat
  active : List Nat
  next : Nat
  environment : Environment σ

namespace Places

variable {σ : Type} {w w' w'' : Places σ}

/-- The connections that are somewhere. -/
def all (w : Places σ) : List Nat := w.hand ++ (w.idle ++ w.active)

/-- What is done with one connection. -/
inductive Move (w : Places σ) : Places σ → Prop
  /-- Nothing: whatever happens, it concerns no connection. -/
  | pause {e : Environment σ} (standing : ∀ n, e.standing n = w.environment.standing n)
      (opened : e.opened = w.environment.opened) : Move w { w with environment := e }
  /-- An idle connection is taken into the hand. -/
  | take (n : Nat) (before after : List Nat) (among : w.idle = before ++ n :: after) :
      Move w { w with hand := n :: w.hand, idle := before ++ after }
  /-- A connection is opened, and comes into the hand. -/
  | connect {e : Environment σ} (standing : ∀ n, e.standing n = w.environment.standing n)
      (opened : e.opened = w.environment.opened ++ [w.next]) :
      Move w { w with hand := w.next :: w.hand, next := w.next + 1, environment := e }
  /-- Calls are made on a connection in the hand, or on an active one. -/
  | call {n : Nat} {made : List Call} {e : Environment σ} (there : n ∈ w.hand ++ w.active)
      (called : Environment.Called n made w.environment e) : Move w { w with environment := e }
  /-- An active connection leaves its holder, and comes into the hand. -/
  | retrieve (n : Nat) (before after : List Nat) {event : Event}
      (among : w.active = before ++ n :: after) (parts : event.Parts n) :
      Move w
        { w with
          hand := n :: w.hand, active := before ++ after
          environment := w.environment.record event }
  /-- The connection in the hand comes to a holder. -/
  | handOut {n : Nat} {rest : List Nat} {name : String} (inHand : w.hand = n :: rest) :
      Move w
        { w with
          hand := rest, active := w.active ++ [n]
          environment := w.environment.record (.handedOut name n) }
  /-- The connection in the hand is laid to the idle ones, with nothing pending on it. -/
  | lay {n : Nat} {rest : List Nat} (inHand : w.hand = n :: rest)
      (settles : (w.environment.standing n).calls.head?.any Call.settles = true) :
      Move w { w with hand := rest, idle := w.idle ++ [n] }
  /-- The connection in the hand is disposed of. -/
  | dispose {n : Nat} {rest : List Nat} {made : List Call} {e : Environment σ}
      (inHand : w.hand = n :: rest) (disposes : Disposes made)
      (called : Environment.Called n made w.environment e) :
      Move w { w with hand := rest, environment := e }

/-- Several things that are done with connections. -/
abbrev Moves : Places σ → Places σ → Prop := Relation.ReflTransGen Move

/-! ### Agreement -/

/-- What the journal says agrees with where the connections are: the connections that were opened
are numbered in order, and each is in one place at most. A holder has the active ones; nothing is
pending on those that lie idle; those that are nowhere were disposed of; and nothing was done with a
connection that was not opened yet. -/
structure Agrees (w : Places σ) : Prop where
  nodup : w.all.Nodup
  opened : w.environment.opened = List.range' 1 w.environment.opened.length
  next : w.next = w.environment.opened.length + 1
  known : ∀ n ∈ w.all, n ∈ w.environment.opened
  inHand : ∀ n ∈ w.hand, (w.environment.standing n).held = false
  idle : ∀ n ∈ w.idle, (w.environment.standing n).IsSettled
  active : ∀ n ∈ w.active, (w.environment.standing n).held = true
  nowhere : ∀ n ∈ w.environment.opened, n ∉ w.all → (w.environment.standing n).IsDisposed
  unknown : ∀ n ∉ w.environment.opened, w.environment.standing n = {}

namespace Agrees

variable {n : Nat}

theorem mem_opened_iff (agrees : w.Agrees) : n ∈ w.environment.opened ↔ 0 < n ∧ n < w.next := by
  rw [agrees.opened, agrees.next, List.mem_range'_1]
  omega

/-- If the next number went up, connections of the numbers between were opened. -/
theorem opened_eq_append (agrees : w.Agrees) (agrees' : w'.Agrees) {k : Nat}
    (next : w'.next = w.next + k) :
    w'.environment.opened = w.environment.opened ++ List.range' w.next k := by
  have count := agrees.next
  have count' := agrees'.next
  have more : w'.environment.opened.length = w.environment.opened.length + k := by omega
  calc w'.environment.opened
    _ = List.range' 1 (w.environment.opened.length + k) := more ▸ agrees'.opened
    _ = List.range' 1 w.environment.opened.length ++ List.range' w.next k := by
        rw [count, Nat.add_comm _ 1, List.range'_append_1]
    _ = w.environment.opened ++ List.range' w.next k := by rw [← agrees.opened]

/-- With as many connections in other places, the journal agrees if it does for each of them. -/
theorem of_perm (agrees : w.Agrees) (same : w'.all.Perm w.all)
    (opened : w'.environment.opened = w.environment.opened) (next : w'.next = w.next)
    (inHand : ∀ n ∈ w'.hand, (w'.environment.standing n).held = false)
    (idle : ∀ n ∈ w'.idle, (w'.environment.standing n).IsSettled)
    (active : ∀ n ∈ w'.active, (w'.environment.standing n).held = true)
    (others : ∀ n ∉ w.all, w'.environment.standing n = w.environment.standing n) : w'.Agrees where
  nodup := same.nodup_iff.mpr agrees.nodup
  opened := opened ▸ agrees.opened
  next := next.trans (opened ▸ agrees.next)
  known n there := opened ▸ agrees.known n (same.mem_iff.mp there)
  inHand := inHand
  idle := idle
  active := active
  nowhere n isOpened absent := by
    have absentBefore : n ∉ w.all := fun there => absent (same.mem_iff.mpr there)
    rw [others n absentBefore]
    exact agrees.nowhere n (opened ▸ isOpened) absentBefore
  unknown n isNew := by
    have isNewBefore : n ∉ w.environment.opened := opened ▸ isNew
    rw [others n fun there => isNewBefore (agrees.known n there)]
    exact agrees.unknown n isNewBefore

theorem not_isDisposed (agrees : w.Agrees) (there : n ∈ w.idle ++ w.active) :
    ¬ (w.environment.standing n).IsDisposed := by
  rcases List.mem_append.mp there with idle | active
  · exact (agrees.idle n idle).not_isDisposed
  · rintro ⟨unheld, -⟩
    rw [agrees.active n active] at unheld
    cases unheld

/-- With nothing in the hand, the connections that were opened lie idle, are active, or were
disposed of. -/
theorem perm_opened (agrees : w.Agrees) (empty : w.hand = []) :
    w.environment.opened.Perm (w.idle ++ w.active ++ w.environment.disposed) := by
  have whole : w.all = w.idle ++ w.active := by rw [all, empty, List.nil_append]
  have once : w.environment.opened.Nodup := agrees.opened ▸ List.nodup_range'
  have apart : (w.idle ++ w.active).Disjoint w.environment.disposed := fun n there disposed =>
    agrees.not_isDisposed there (Environment.mem_disposed.mp disposed).2
  have onceInPlaces : (w.idle ++ w.active ++ w.environment.disposed).Nodup :=
    (whole ▸ agrees.nodup).append (once.filter _) apart
  refine (List.perm_ext_iff_of_nodup once onceInPlaces).mpr fun n => ?_
  rw [List.mem_append, ← whole, Environment.mem_disposed]
  constructor
  · intro opened
    by_cases there : n ∈ w.all
    · exact .inl there
    · exact .inr ⟨opened, agrees.nowhere n opened there⟩
  · rintro (there | ⟨opened, -⟩)
    · exact agrees.known n there
    · exact opened

theorem notMem_idle (agrees : w.Agrees) (there : n ∈ w.hand ++ w.active) : n ∉ w.idle := by
  have apart := agrees.nodup
  intro idle
  rcases List.mem_append.mp there with inHand | active
  · exact List.disjoint_of_nodup_append apart inHand (List.mem_append_left _ idle)
  · exact List.disjoint_of_nodup_append apart.of_append_right idle active

/-- Calls leave the journal in agreement unless they are made on an idle connection. -/
theorem call (agrees : w.Agrees) {made : List Call} {e : Environment σ}
    (there : n ∈ w.hand ++ w.active) (called : Environment.Called n made w.environment e) :
    Agrees { w with environment := e } := by
  have self : e.standing n =
      { w.environment.standing n with calls := made ++ w.environment.calls n } :=
    Environment.standing_called called
  have other : ∀ m ≠ n, e.standing m = w.environment.standing m :=
    fun m => Environment.standing_called_of_ne called
  -- whoever had a connection has it still
  have held : ∀ m, (e.standing m).held = (w.environment.standing m).held := by
    intro m
    by_cases same : m = n
    · rw [same, self]
    · rw [other m same]
  refine agrees.of_perm (.refl _) (Environment.opened_called called) rfl ?_ ?_ ?_ ?_
  · exact fun m inHand => (held m).trans (agrees.inHand m inHand)
  · intro m idle
    have apart : m ≠ n := fun same => agrees.notMem_idle there (same ▸ idle)
    exact (other m apart).symm ▸ agrees.idle m idle
  · exact fun m active => (held m).trans (agrees.active m active)
  · intro m absent
    refine other m fun same => absent ?_
    rw [same, all, List.mem_append, List.mem_append]
    exact (List.mem_append.mp there).imp_right .inr

/-- An idle connection is in no other place when it comes into the hand, and no holder has it. -/
theorem take (agrees : w.Agrees) {before after : List Nat} (among : w.idle = before ++ n :: after) :
    Agrees { w with hand := n :: w.hand, idle := before ++ after } := by
  have settled : ∀ m ∈ before ++ n :: after, (w.environment.standing m).IsSettled :=
    among ▸ agrees.idle
  refine agrees.of_perm ?_ rfl rfl ?_ ?_ agrees.active fun _ _ => rfl
  · simp only [all, among, List.append_assoc, List.cons_append]
    exact (List.perm_middle.append_left _).trans List.perm_middle |>.symm
  · intro m inHand
    rcases List.mem_cons.mp inHand with rfl | inHand
    · exact (settled m (by simp)).1
    · exact agrees.inHand m inHand
  · intro m idle
    exact settled m (by simp only [List.mem_append, List.mem_cons] at idle ⊢; tauto)

/-- Nothing was noted of a new connection before it was opened. -/
theorem connect (agrees : w.Agrees) {e : Environment σ}
    (standing : ∀ n, e.standing n = w.environment.standing n)
    (opened : e.opened = w.environment.opened ++ [w.next]) :
    Agrees { w with hand := w.next :: w.hand, next := w.next + 1, environment := e } := by
  have isNew : w.next ∉ w.environment.opened :=
    fun there => Nat.lt_irrefl _ (agrees.mem_opened_iff.mp there).2
  have unheld : w.environment.standing w.next = {} := agrees.unknown _ isNew
  refine ⟨List.nodup_cons.mpr ⟨fun there => isNew (agrees.known _ there), agrees.nodup⟩, ?_, ?_,
    ?_, ?_, fun m idle => standing m ▸ agrees.idle m idle,
    fun m active => standing m ▸ agrees.active m active, ?_, ?_⟩
  · rw [opened, List.length_append, List.length_singleton, List.range'_concat, ← agrees.opened,
      agrees.next, Nat.one_mul, Nat.add_comm 1]
  · rw [opened, agrees.next, List.length_append, List.length_singleton]
  · intro m there
    rw [opened, List.mem_append, List.mem_singleton]
    exact (List.mem_cons.mp there).symm.imp_left (agrees.known m)
  · intro m inHand
    rcases List.mem_cons.mp inHand with rfl | inHand
    · exact congrArg Standing.held ((standing _).trans unheld)
    · exact standing m ▸ agrees.inHand m inHand
  · intro m isOpened absent
    have absentBefore : m ∉ w.all := fun there => absent (List.mem_cons_of_mem _ there)
    rw [opened, List.mem_append, List.mem_singleton] at isOpened
    rcases isOpened with isOpened | rfl
    · exact standing m ▸ agrees.nowhere m isOpened absentBefore
    · exact absurd List.mem_cons_self absent
  · intro m isNew'
    rw [opened, List.mem_append] at isNew'
    exact (standing m).trans (agrees.unknown m fun there => isNew' (.inl there))

/-- An active connection is in no other place when it leaves its holder. -/
theorem retrieve (agrees : w.Agrees) {before after : List Nat} {event : Event}
    (among : w.active = before ++ n :: after) (parts : event.Parts n) :
    Agrees
      { w with
        hand := n :: w.hand, active := before ++ after
        environment := w.environment.record event } := by
  have moved : (n :: (w.hand ++ (w.idle ++ (before ++ after)))).Perm w.all := by
    simp only [all, among, ← List.append_assoc]
    exact List.perm_middle.symm
  have apart : n ∉ w.hand ++ (w.idle ++ (before ++ after)) :=
    (List.nodup_cons.mp (moved.nodup_iff.mpr agrees.nodup)).1
  have other : ∀ m ≠ n, (w.environment.record event).standing m = w.environment.standing m :=
    fun m => parts.note_of_ne _
  -- the connection was in no other place, so no other stands differently
  have kept : ∀ m ∈ w.hand ++ (w.idle ++ (before ++ after)),
      (w.environment.record event).standing m = w.environment.standing m :=
    fun m there => other m fun same => apart (same ▸ there)
  refine agrees.of_perm moved ?_ rfl ?_ ?_ ?_ ?_
  · rw [Environment.opened_record, parts.opened?_eq_none, Option.toList_none, List.append_nil]
  · intro m inHand
    rcases List.mem_cons.mp inHand with rfl | inHand
    · exact congrArg Standing.held (parts.note_self (w.environment.standing m))
    · exact (kept m (by simp [inHand])).symm ▸ agrees.inHand m inHand
  · exact fun m idle => (kept m (by simp [idle])).symm ▸ agrees.idle m idle
  · intro m active
    have activeBefore : m ∈ w.active := by
      rw [among]
      simp only [List.mem_append, List.mem_cons] at active ⊢
      tauto
    have same := kept m (List.mem_append_right _ (List.mem_append_right _ active))
    exact same.symm ▸ agrees.active m activeBefore
  · intro m absent
    exact other m fun same => absent (moved.mem_iff.mp (same ▸ List.mem_cons_self))

/-- The connection in the hand is in no other place when it comes to a holder. -/
theorem handOut (agrees : w.Agrees) {rest : List Nat} (name : String)
    (inHand : w.hand = n :: rest) :
    Agrees
      { w with
        hand := rest, active := w.active ++ [n]
        environment := w.environment.record (.handedOut name n) } := by
  have moved : (rest ++ (w.idle ++ (w.active ++ [n]))).Perm w.all := by
    simp only [all, inHand, ← List.append_assoc]
    exact List.perm_append_singleton n _
  have apart : n ∉ rest ++ (w.idle ++ w.active) := by
    have nodup := agrees.nodup
    rw [all, inHand] at nodup
    exact (List.nodup_cons.mp nodup).1
  have other : ∀ m ≠ n,
      (w.environment.record (.handedOut name n)).standing m = w.environment.standing m :=
    fun m differs => if_neg (Ne.symm differs)
  have kept : ∀ m ∈ rest ++ (w.idle ++ w.active),
      (w.environment.record (.handedOut name n)).standing m = w.environment.standing m :=
    fun m there => other m fun same => apart (same ▸ there)
  refine agrees.of_perm moved ?_ rfl ?_ ?_ ?_ ?_
  · exact (Environment.opened_record _ _).trans (List.append_nil _)
  · intro m there
    exact (kept m (by simp [there])).symm ▸ agrees.inHand m (inHand ▸ List.mem_cons_of_mem _ there)
  · exact fun m idle => (kept m (by simp [idle])).symm ▸ agrees.idle m idle
  · intro m active
    rcases List.mem_append.mp active with active | isNew
    · exact (kept m (by simp [active])).symm ▸ agrees.active m active
    · obtain rfl := List.mem_singleton.mp isNew
      exact congrArg Standing.held (if_pos rfl)
  · intro m absent
    exact other m fun same => absent (moved.mem_iff.mp (by simp [same]))

theorem lay (agrees : w.Agrees) {rest : List Nat} (inHand : w.hand = n :: rest)
    (settles : (w.environment.calls n).head?.any Call.settles = true) :
    Agrees { w with hand := rest, idle := w.idle ++ [n] } := by
  refine agrees.of_perm ?_ rfl rfl ?_ ?_ agrees.active fun _ _ => rfl
  · simp only [all, inHand, List.append_assoc, List.cons_append, List.nil_append]
    rw [← List.append_assoc]
    exact List.perm_middle.trans (by rw [List.append_assoc])
  · exact fun m there => agrees.inHand m (inHand ▸ List.mem_cons_of_mem _ there)
  · intro m idle
    rcases List.mem_append.mp idle with idle | isNew
    · exact agrees.idle m idle
    · obtain rfl := List.mem_singleton.mp isNew
      exact ⟨agrees.inHand m (inHand ▸ List.mem_cons_self), settles⟩

theorem dispose (agrees : w.Agrees) {rest : List Nat} {made : List Call} {e : Environment σ}
    (inHand : w.hand = n :: rest) (disposes : Disposes made)
    (called : Environment.Called n made w.environment e) :
    Agrees { w with hand := rest, environment := e } := by
  have there : n ∈ w.hand := inHand ▸ List.mem_cons_self
  have after := agrees.call (List.mem_append_left _ there) called
  have split : w.all = n :: (rest ++ (w.idle ++ w.active)) := by rw [all, inHand, List.cons_append]
  refine ⟨(List.nodup_cons.mp (split ▸ after.nodup)).2, after.opened, after.next, ?_, ?_,
    after.idle, after.active, ?_, after.unknown⟩
  · exact fun m there => after.known m (split ▸ List.mem_cons_of_mem n there)
  · exact fun m there => after.inHand m (inHand ▸ List.mem_cons_of_mem n there)
  · intro m isOpened absent
    by_cases same : m = n
    · have standing : e.standing n = _ := Environment.standing_called called
      refine same ▸ ⟨after.inHand n there, ?_⟩
      change (e.standing n).calls.head?.any Call.isFinal = true
      rw [standing]
      exact disposes.isFinal _
    · refine after.nowhere m isOpened fun there => ?_
      rcases List.mem_cons.mp (split ▸ there) with same' | there
      · exact same same'
      · exact absent there

/-- Every move leaves the journal in agreement. -/
theorem move (agrees : w.Agrees) (move : Move w w') : w'.Agrees := by
  cases move with
  | pause standing opened =>
    exact agrees.of_perm (.refl _) opened rfl (fun m there => standing m ▸ agrees.inHand m there)
      (fun m there => standing m ▸ agrees.idle m there)
      (fun m there => standing m ▸ agrees.active m there) fun m _ => standing m
  | take _ _ _ among => exact agrees.take among
  | connect standing opened => exact agrees.connect standing opened
  | call there called => exact agrees.call there called
  | retrieve _ _ _ among parts => exact agrees.retrieve among parts
  | handOut inHand => exact agrees.handOut _ inHand
  | lay inHand settles => exact agrees.lay inHand settles
  | dispose inHand disposes called => exact agrees.dispose inHand disposes called

theorem moves (agrees : w.Agrees) (moves : Moves w w') : w'.Agrees := by
  induction moves with
  | refl => exact agrees
  | tail _ last ih => exact ih.move last

end Agrees

/-! ### The course of moves -/

/-- What becomes of connections from one time to another. Those that are somewhere were so before,
or are new. Nothing happens to a connection that was nowhere and is not new. Calls are only added,
and the last calls on a connection that is nowhere any more are those of a disposal. -/
structure Course (w w' : Places σ) : Prop where
  next_le : w.next ≤ w'.next
  all : ∀ n ∈ w'.all, n ∈ w.all ∨ w.next ≤ n
  elsewhere : ∀ n < w.next, n ∉ w.all → w'.environment.standing n = w.environment.standing n
  calls : ∀ n, w.environment.calls n <:+ w'.environment.calls n
  left : ∀ n < w'.next, n ∉ w'.all → n ∈ w.all ∨ w.next ≤ n → ∃ made earlier,
    Disposes made ∧ w.environment.calls n <:+ earlier ∧ w'.environment.calls n = made ++ earlier

namespace Course

theorem refl (w : Places σ) : Course w w where
  next_le := Nat.le_refl _
  all _ there := .inl there
  elsewhere _ _ _ := rfl
  calls _ := List.suffix_refl _
  left _ isOld absent before := (before.elim absent (Nat.not_le_of_lt isOld)).elim

theorem trans (first : Course w w') (second : Course w' w'') : Course w w'' where
  next_le := Nat.le_trans first.next_le second.next_le
  all n there := by
    rcases second.all n there with before | isNew
    · exact first.all n before
    · exact .inr (Nat.le_trans first.next_le isNew)
  elsewhere n isOld absent := by
    have absentThen : n ∉ w'.all := by
      intro there
      rcases first.all n there with before | isNew
      · exact absent before
      · exact Nat.not_lt_of_le isNew isOld
    rw [second.elsewhere n (Nat.lt_of_lt_of_le isOld first.next_le) absentThen]
    exact first.elsewhere n isOld absent
  calls n := (first.calls n).trans (second.calls n)
  left n isOld absent before := by
    by_cases between : n ∈ w'.all ∨ w'.next ≤ n
    · obtain ⟨made, earlier, disposes, suffix, split⟩ := second.left n isOld absent between
      exact ⟨made, earlier, disposes, (first.calls n).trans suffix, split⟩
    · obtain ⟨absentThen, isOldThen⟩ := not_or.mp between
      have isOldThen := Nat.lt_of_not_le isOldThen
      obtain ⟨made, earlier, disposes, suffix, split⟩ := first.left n isOldThen absentThen before
      have same := congrArg Standing.calls (second.elsewhere n isOldThen absentThen)
      exact ⟨made, earlier, disposes, suffix, same.trans split⟩

end Course

/-- Where only one connection stands differently, one that is somewhere and stays so, it is enough
that its calls were only added to. -/
theorem Course.of_one {n : Nat} (next : w'.next = w.next) (same : ∀ m, m ∈ w'.all ↔ m ∈ w.all)
    (there : n ∈ w.all) (self : w.environment.calls n <:+ w'.environment.calls n)
    (others : ∀ m ≠ n, w'.environment.standing m = w.environment.standing m) : Course w w' where
  next_le := Nat.le_of_eq next.symm
  all m there' := .inl ((same m).mp there')
  elsewhere m _ absent := others m fun isN => absent (isN ▸ there)
  calls m := by
    by_cases isN : m = n
    · exact isN ▸ self
    · exact Environment.calls_suffix (congrArg Standing.calls (others m isN))
  left m isOld absent before := by
    rcases before with there' | isNew
    · exact absurd ((same m).mpr there') absent
    · exact absurd isOld (Nat.not_lt_of_le (next ▸ isNew))

/-- What concerns no connection leaves all of them alone. -/
theorem Course.pause {e : Environment σ} (standing : ∀ n, e.standing n = w.environment.standing n) :
    Course w { w with environment := e } where
  next_le := Nat.le_refl _
  all _ there := .inl there
  elsewhere n _ _ := standing n
  calls n := Environment.calls_suffix (congrArg Standing.calls (standing n))
  left _ isOld absent before := (before.elim absent (Nat.not_le_of_lt isOld)).elim

theorem Course.connect {e : Environment σ}
    (standing : ∀ n, e.standing n = w.environment.standing n) :
    Course w { w with hand := w.next :: w.hand, next := w.next + 1, environment := e } where
  next_le := Nat.le_succ _
  all n there := (List.mem_cons.mp there).symm.imp_right fun isNew => Nat.le_of_eq isNew.symm
  elsewhere n _ _ := standing n
  calls n := Environment.calls_suffix (congrArg Standing.calls (standing n))
  left n isOld absent before := by
    -- the new connection is in the hand
    obtain ⟨notNew, absentBefore⟩ := not_or.mp fun there => absent (List.mem_cons.mpr there)
    exact absurd (Nat.le_antisymm (Nat.le_of_lt_succ isOld) (before.resolve_left absentBefore))
      notNew

/-- The connection that is disposed of leaves, after the calls of the disposal. -/
theorem Course.dispose {n : Nat} {rest : List Nat} {made : List Call} {e : Environment σ}
    (inHand : w.hand = n :: rest) (disposes : Disposes made)
    (called : Environment.Called n made w.environment e) :
    Course w { w with hand := rest, environment := e } := by
  have others : ∀ m ≠ n, e.standing m = w.environment.standing m :=
    fun m => Environment.standing_called_of_ne called
  have self : e.calls n = made ++ w.environment.calls n := Environment.calls_called called
  have split : w.all = n :: (rest ++ (w.idle ++ w.active)) := by
    rw [Places.all, inHand, List.cons_append]
  refine ⟨Nat.le_refl _, fun m there => .inl (split ▸ List.mem_cons_of_mem n there),
    fun m _ absent => others m fun same => absent (split ▸ same ▸ List.mem_cons_self),
    fun m => ?_, fun m isOld absent before => ?_⟩
  · by_cases same : m = n
    · exact same ▸ ⟨made, self.symm⟩
    · exact Environment.calls_suffix (congrArg Standing.calls (others m same))
  · -- no connection but the one in the hand leaves
    have there : m ∈ w.all := before.resolve_right (Nat.not_le_of_lt isOld)
    rcases List.mem_cons.mp (split ▸ there) with rfl | there
    · exact ⟨made, _, disposes, List.suffix_refl _, self⟩
    · exact absurd there absent

theorem Move.course (move : Move w w') : Course w w' := by
  cases move with
  | pause standing => exact .pause standing
  | take n before after among =>
    refine .of_one (n := n) rfl (fun m => ?_) ?_ (List.suffix_refl _) fun _ _ => rfl
    · simp only [all, among, List.mem_append, List.mem_cons]
      tauto
    · simp [all, among]
  | connect standing => exact .connect standing
  | @call n made e there called =>
    refine .of_one rfl (fun m => .rfl) ?_ ?_ fun m => Environment.standing_called_of_ne called
    · rw [all, List.mem_append, List.mem_append]
      exact (List.mem_append.mp there).imp_right .inr
    · exact ⟨made, (Environment.calls_called called).symm⟩
  | retrieve n before after among parts =>
    refine .of_one rfl (fun m => ?_) ?_ ?_ fun m => parts.note_of_ne _
    · simp only [all, among, List.mem_append, List.mem_cons]
      tauto
    · simp [all, among]
    · exact Environment.calls_suffix (parts.calls_record _ n)
  | @handOut n rest name inHand =>
    refine .of_one rfl (fun m => ?_) ?_ ?_ fun m differs => if_neg (Ne.symm differs)
    · simp only [all, inHand, List.mem_append, List.mem_cons, List.not_mem_nil, or_false]
      tauto
    · simp [all, inHand]
    · exact Environment.calls_suffix (Environment.calls_handedOut _ name n n)
  | @lay n rest inHand =>
    refine .of_one (n := n) rfl (fun m => ?_) ?_ (List.suffix_refl _) fun _ _ => rfl
    · simp only [all, inHand, List.mem_append, List.mem_cons, List.not_mem_nil, or_false]
      tauto
    · simp [all, inHand]
  | dispose inHand disposes called => exact .dispose inHand disposes called

theorem Moves.course (moves : Moves w w') : Course w w' := by
  induction moves with
  | refl => exact .refl w
  | tail _ last ih => exact ih.trans last.course

end Places

end LeasePool
