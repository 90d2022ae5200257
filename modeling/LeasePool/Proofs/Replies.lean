import LeasePool.Proofs.Links

/-!
# Whose bytes a query reads

A query on a TCP connection is sent as one line, and then read for once, for no more bytes than have
arrived by then and the buffer holds. Nothing tells where an answer ends. So what a query leaves
unread of its answer, because that is too long, comes in pieces or comes late, the next query that
reads anything takes for its own answer, whether or not the peer answers that one. No query reads
what was not meant for it as long as none reads anything after one that has read less than was sent
in answer to it. If everything arrives in time, that is as long as the answers fit in the buffer.

## Main definitions

* `Tcp.IsOneLine`: a query has no line end in it.
* `Tcp.Link.answer`: the number of bytes that the peer sends in answer to a query.
* `Tcp.Link.taken`: the number of bytes that a query reads; `Tcp.Link.readable`: that it can read.
* `Tcp.Link.executeAll`: several queries, one after the other.
* `Tcp.Link.Exchanges`: what a query does to a connection, and when it succeeds.
* `Tcp.Link.AnswersOwn`: a query that succeeds reads nothing that was sent before it, and is
  answered.

## Main results

* `Tcp.Link.exchanges_execute`: every query does so, whatever becomes of it on its way.
* `Tcp.Link.unread_add_sent`: what is unread is what was sent and not read.
* `Tcp.probe_eq_true_iff`: a probe succeeds exactly if its query does.
* `Tcp.Link.answersOwn_iff_read_whole`: queries are answered for themselves exactly if none succeeds
  after one that has read less than was sent in answer to it.
-/

namespace LeasePool.Tcp

/-- There is no line end in a query, so that it is sent as one line. -/
def IsOneLine (query : String) : Prop := ¬ ['\r', '\n'] <:+: query.toList

instance (query : String) : Decidable (IsOneLine query) := inferInstanceAs (Decidable (¬ _))

/-- A line that is ended is one line, with nothing left. -/
theorem splitLines_of_isOneLine {cs : List Char} (oneLine : ¬ ['\r', '\n'] <:+: cs) :
    splitLines (cs ++ ['\r', '\n']) = ([String.ofList cs], "") := by
  induction cs with
  | nil => rfl
  | cons c cs ih =>
    have rest := ih fun inside => oneLine (inside.trans (List.suffix_cons c cs).isInfix)
    rw [List.cons_append, splitLines, rest]
    · simp
    · -- the character and the next one are no line end
      rintro after rfl whole
      cases cs with
      | nil => cases whole
      | cons d cs =>
        obtain ⟨rfl, -⟩ := List.cons.inj whole
        exact oneLine ⟨[], cs, rfl⟩

/-- A line that is not ended is none yet. -/
theorem splitLines_of_noEnd {cs : List Char} (noEnd : ¬ ['\r', '\n'] <:+: cs) :
    splitLines cs = ([], String.ofList cs) := by
  induction cs with
  | nil => rfl
  | cons c cs ih =>
    have rest := ih fun inside => noEnd (inside.trans (List.suffix_cons c cs).isInfix)
    rw [splitLines, rest]
    · simp
    · rintro after rfl rfl
      exact noEnd ⟨[], after, rfl⟩

namespace Link

variable {l : Link} {query : String}

/-- The number of bytes that were sent to this end and not read. -/
def unread (l : Link) : Nat := l.arrived + l.underWay

/-- The next query reaches the peer: it is written, and neither end has closed the connection. -/
def Reaches (l : Link) : Prop := l.closed = false ∧ l.hungUp = false ∧ l.transit.writes = true

instance (l : Link) : Decidable l.Reaches := inferInstanceAs (Decidable (_ ∧ _))

/-- The number of bytes that the peer sends in answer to a query. -/
def answer (l : Link) (query : String) : Nat :=
  if l.Reaches then bytesSent query (l.reactions.headD .echo) else 0

/-- The number of bytes that a query reads. -/
def taken (l : Link) (query : String) : Nat :=
  if l.closed then 0 else (l.exchange query).1.toOption.getD 0

/-- The number of bytes that a query can read: those that have arrived by then, as far as the buffer
holds them. -/
def readable (l : Link) (query : String) : Nat :=
  match l.transit with
  | .whole => min (l.unread + l.answer query) bufferSize
  | .part count => min (l.arrived + min count (l.underWay + l.answer query)) bufferSize
  | .unwritten .. | .unread _ => 0

/-- Several queries, one after the other. -/
def executeAll (l : Link) (queries : List String) : Link :=
  queries.foldl (fun l query => (l.execute query).2) l

theorem executeAll_concat (l : Link) (before : List String) (query : String) :
    l.executeAll (before ++ [query]) = ((l.executeAll before).execute query).2 :=
  List.foldl_concat ..

theorem executeAll_append (l : Link) (before after : List String) :
    l.executeAll (before ++ after) = (l.executeAll before).executeAll after :=
  List.foldl_append

/-! ### Reading -/

@[simp] theorem unread_arrive (l : Link) (count : Nat) : (l.arrive count).unread = l.unread := by
  simp only [unread, arrive]
  omega

theorem unread_take {count : Nat} (among : count ≤ l.arrived) :
    (l.take count).unread + count = l.unread := by
  simp only [unread, take]
  omega

/-- A read takes what has arrived as far as the buffer holds it. It meets the end only where nothing
has. -/
theorem read_spec (l : Link) (ended : Bool) :
    (l.read ended).1.toOption.getD 0 = min l.arrived bufferSize ∧
      (l.read ended).2 = l.take (min l.arrived bufferSize) ∧
      ((l.read ended).1 = .ok 0 → ended = true ∧ l.arrived = 0) := by
  unfold read
  by_cases arrived : 0 < l.arrived
  · rw [if_pos arrived]
    have some : 0 < min l.arrived bufferSize := Nat.lt_min.mpr ⟨arrived, Nat.succ_pos _⟩
    exact ⟨rfl, rfl, fun none => absurd (Except.ok.inj none) (Nat.ne_of_gt some)⟩
  · have none : l.arrived = 0 := Nat.eq_zero_of_not_pos arrived
    have same : l = l.take 0 := rfl
    rw [if_neg arrived, none, Nat.zero_min, ← same]
    split
    · rename_i met
      exact ⟨rfl, rfl, fun _ => ⟨(Bool.and_eq_true_iff.mp met).1, rfl⟩⟩
    · exact ⟨rfl, rfl, nofun⟩

/-! ### One query on its way -/

/-- Between two queries no part of a line is under way to a peer that receives anything, and nothing
is left to be read from a closed connection. -/
structure Between (l : Link) : Prop where
  partialLine : l.hungUp = false → l.partialLine = ""
  nothing : l.closed = true → l.unread = 0

theorem between_fresh (reactions : List Reaction) (transits : List Transit) :
    Between { reactions, transits } := ⟨fun _ => rfl, nofun⟩

/-- The peer receives a query as one line. -/
theorem receive_of_isOneLine (partialLine : l.hungUp = false → l.partialLine = "")
    (oneLine : IsOneLine query) : l.receive (query ++ lineEnd) = l.receiveLine query := by
  unfold receive
  split
  · rename_i hungUp
    exact (if_pos hungUp).symm
  · rename_i listens
    have nothing := partialLine (by simpa using listens)
    have whole : (l.partialLine ++ (query ++ lineEnd)).toList = query.toList ++ ['\r', '\n'] := by
      rw [nothing, String.empty_append, String.toList_append]
      rfl
    have same : { l with partialLine := "" } = l := by
      rw [← nothing]
    rw [whole, splitLines_of_isOneLine oneLine, String.ofList_toList]
    exact congrArg (receiveLine · query) same

/-- Where a query breaks off the peer receives no line. -/
theorem receive_of_brokenOff (partialLine : l.hungUp = false → l.partialLine = "")
    (oneLine : IsOneLine query) (count : Nat) :
    ∃ rest,
      l.receive (String.ofList (query.toList.take count)) = { l with partialLine := rest } := by
  unfold receive
  split
  · exact ⟨l.partialLine, rfl⟩
  · rename_i listens
    have nothing := partialLine (by simpa using listens)
    have noEnd : ¬ ['\r', '\n'] <:+: query.toList.take count :=
      fun inside => oneLine (inside.trans (List.take_prefix count _).isInfix)
    rw [nothing, String.empty_append, String.toList_ofList, splitLines_of_noEnd noEnd]
    exact ⟨_, rfl⟩

/-- What becomes of a connection while a query is on its way that reads so many bytes. -/
structure Passes (l : Link) (query : String) (count : Nat)
    (out : Except BackendError Nat × Link) : Prop where
  taken : out.1.toOption.getD 0 = count
  received : out.2.received = if l.Reaches then query :: l.received else l.received
  unread : out.2.unread + count = l.unread + l.answer query
  /-- The end of the connection is met only behind everything else. -/
  ended : out.1 = .ok 0 → out.2.unread = 0
  partialLine : out.2.hungUp = false → out.2.partialLine = ""
  transits : out.2.transits = l.transits.tail

/-- What a line changes that is written to the peer. -/
theorem sent_spec (isOpen : l.closed = false) (written : l.transit.writes = true)
    (query : String) :
    let sent := l.onward.receiveLine query
    sent.received = (if l.Reaches then query :: l.received else l.received) ∧
      sent.arrived = l.arrived ∧ sent.underWay = l.underWay + l.answer query ∧
      sent.partialLine = l.partialLine ∧ (sent.hungUp = false → l.hungUp = false) ∧
      sent.transits = l.transits.tail := by
  have reaches : l.Reaches ↔ l.hungUp = false := by
    simp only [Reaches, isOpen, written, and_true, true_and]
  unfold receiveLine onward answer
  cases hungUp : l.hungUp with
  | true => simp [reaches, hungUp]
  | false => simp [reaches, hungUp]

/-- A query is written, some of the bytes under way arrive, and it is read. -/
theorem passes_read (isOpen : l.closed = false) (between : l.Between)
    (written : l.transit.writes = true) (count : Nat) (ended : Bool)
    (all : ended = true → l.underWay + l.answer query ≤ count) :
    l.Passes query (min (l.arrived + min count (l.underWay + l.answer query)) bufferSize)
      (((l.onward.receiveLine query).arrive count).read ended) := by
  obtain ⟨received, arrived, underWay, partialLine, hungUp, transits⟩ :=
    sent_spec isOpen written query
  generalize l.onward.receiveLine query = sent at *
  obtain ⟨taken, rest, met⟩ := (sent.arrive count).read_spec ended
  have there : (sent.arrive count).arrived =
      l.arrived + min count (l.underWay + l.answer query) := by
    rw [← arrived, ← underWay]
    rfl
  have unread : (sent.arrive count).unread = l.unread + l.answer query := by
    rw [unread_arrive, Link.unread, Link.unread, arrived, underWay, Nat.add_assoc]
  rw [there] at taken rest met
  have most : min (l.arrived + min count (l.underWay + l.answer query)) bufferSize ≤
      (sent.arrive count).arrived := there ▸ Nat.min_le_left _ _
  have left := unread_take most
  refine ⟨taken, ?_, ?_, fun none => ?_, fun listens => ?_, ?_⟩
  · rw [rest]
    exact received
  · rw [rest, left, unread]
  · obtain ⟨isEnded, nothing⟩ := met none
    have everything := all isEnded
    have parts : l.unread = l.arrived + l.underWay := rfl
    rw [unread] at left
    rw [rest]
    omega
  · rw [rest] at listens ⊢
    exact partialLine.trans (between.partialLine (hungUp listens))
  · rw [rest]
    exact transits

/-- Whatever becomes of a query on its way, it reads what it can. -/
theorem passes_exchange (isOpen : l.closed = false) (between : l.Between)
    (oneLine : IsOneLine query) : l.Passes query (l.readable query) (l.exchange query) := by
  have whole : l.onward.receive (query ++ lineEnd) = l.onward.receiveLine query :=
    receive_of_isOneLine between.partialLine oneLine
  unfold exchange readable
  cases onItsWay : l.transit with
  | whole =>
    have written : l.transit.writes = true := by rw [onItsWay]; rfl
    have underWay := (sent_spec isOpen written query).2.2.1
    dsimp only
    rw [whole, underWay, unread, Nat.add_assoc]
    have least := Nat.le_refl (l.underWay + l.answer query)
    have passes := passes_read isOpen between written _ true fun _ => least
    rwa [Nat.min_self] at passes
  | part count =>
    have written : l.transit.writes = true := by rw [onItsWay]; rfl
    dsimp only
    rw [whole]
    exact passes_read isOpen between written count false nofun
  | unwritten count reason =>
    -- the peer has heard nothing, and will not
    have unheard : ¬ l.Reaches :=
      fun reaches => by simp [Reaches, onItsWay, Transit.writes] at reaches
    have noAnswer : l.answer query = 0 := if_neg unheard
    obtain ⟨rest, received⟩ :=
      receive_of_brokenOff (l := l.onward) between.partialLine oneLine count
    dsimp only
    rw [received]
    exact ⟨rfl, (if_neg unheard).symm, by rw [noAnswer]; rfl, nofun, nofun, rfl⟩
  | unread reason =>
    have written : l.transit.writes = true := by rw [onItsWay]; rfl
    obtain ⟨received, arrived, underWay, partialLine, hungUp, transits⟩ :=
      sent_spec isOpen written query
    dsimp only
    rw [whole]
    refine ⟨rfl, received, ?_, nofun, fun listens => ?_, transits⟩
    · rw [Nat.add_zero, Link.unread, Link.unread, arrived, underWay, Nat.add_assoc]
    · exact partialLine.trans (between.partialLine (hungUp listens))

/-! ### One query -/

/-- What a query does to a connection. Unless the connection is closed on either side, or the query
cannot be written, the peer receives the query as its next line. The query reads what it can, be it
old or new, leaves the rest, and succeeds if it reads anything. -/
structure Exchanges (l : Link) (query : String) : Prop where
  received : (l.execute query).2.received = if l.Reaches then query :: l.received else l.received
  taken : l.taken query = if l.closed then 0 else l.readable query
  succeeds : (l.execute query).1 = .ok () ↔ 0 < l.taken query
  unread : (l.execute query).2.unread + l.taken query = l.unread + l.answer query

/-- What is left of a connection on which nothing more is done. -/
theorem exchanges_of_closed (isClosed : l.closed = true) (query : String) : l.Exchanges query := by
  have same := execute_of_closed isClosed query
  have unheard : ¬ l.Reaches := fun reaches => by simp [Reaches, isClosed] at reaches
  have noAnswer : l.answer query = 0 := if_neg unheard
  have none : l.taken query = 0 := if_pos isClosed
  refine ⟨?_, ?_, ?_, ?_⟩
  · rw [same, if_neg unheard]
  · rw [none, if_pos isClosed]
  · rw [same, none]
    exact iff_of_false nofun (Nat.lt_irrefl 0)
  · rw [same, none, noAnswer]

/-- A query on an open connection leaves it as the system does, but for the mark that its end was
met, and succeeds if it reads anything. -/
theorem execute_of_open (isOpen : l.closed = false) (query : String) :
    ∃ closed, (l.execute query).2 = { (l.exchange query).2 with closed } ∧
      (closed = true → (l.exchange query).1 = .ok 0) ∧
      ((l.execute query).1 = .ok () ↔ 0 < l.taken query) := by
  have taken : l.taken query = (l.exchange query).1.toOption.getD 0 :=
    if_neg (by simp [isOpen])
  have unmarked : (l.exchange query).2.closed = false := (closed_exchange l query).trans isOpen
  have executes := executes_execute isOpen query
  generalize l.execute query = result at executes
  rw [taken]
  cases executes with
  | answered read =>
    rw [read]
    refine ⟨(l.exchange query).2.closed, rfl, fun closed => ?_, iff_of_true rfl (Nat.succ_pos _)⟩
    rw [unmarked] at closed
    cases closed
  | ended read =>
    rw [read]
    exact ⟨true, rfl, fun _ => rfl, iff_of_false nofun (Nat.lt_irrefl 0)⟩
  | failed failed =>
    rw [failed]
    refine ⟨(l.exchange query).2.closed, rfl, fun closed => ?_,
      iff_of_false nofun (Nat.lt_irrefl 0)⟩
    rw [unmarked] at closed
    cases closed

theorem exchanges_execute (between : l.Between) (oneLine : IsOneLine query) :
    l.Exchanges query ∧ (l.execute query).2.Between ∧
      (l.execute query).2.transits ⊆ l.transits := by
  cases isClosed : l.closed with
  | true =>
    have same := execute_of_closed isClosed query
    exact ⟨exchanges_of_closed isClosed query, same ▸ between, same ▸ fun _ there => there⟩
  | false =>
    have passes := passes_exchange isClosed between oneLine
    obtain ⟨closed, left, met, succeeds⟩ := execute_of_open isClosed query
    have taken : l.taken query = l.readable query := by
      rw [Link.taken, isClosed, ← passes.taken]
      rfl
    refine ⟨⟨?_, ?_, succeeds, ?_⟩, ⟨?_, fun marked => ?_⟩, ?_⟩
    · rw [left]
      exact passes.received
    · rw [taken, isClosed]
      rfl
    · rw [left, taken]
      exact passes.unread
    · rw [left]
      exact passes.partialLine
    · rw [left] at marked ⊢
      exact passes.ended (met marked)
    · rw [left]
      exact passes.transits ▸ (List.tail_suffix l.transits).subset

/-! ### Several queries -/

/-- The number of bytes that the peer sends in answer to several queries. -/
def sent (l : Link) : List String → Nat
  | [] => 0
  | query :: queries => l.answer query + (l.execute query).2.sent queries

/-- The number of bytes that several queries read. -/
def bytesRead (l : Link) : List String → Nat
  | [] => 0
  | query :: queries => l.taken query + (l.execute query).2.bytesRead queries

theorem between_executeAll {queries : List String} (between : l.Between)
    (oneLine : ∀ query ∈ queries, IsOneLine query) :
    (l.executeAll queries).Between ∧ (l.executeAll queries).transits ⊆ l.transits := by
  induction queries generalizing l with
  | nil => exact ⟨between, fun _ there => there⟩
  | cons query queries ih =>
    obtain ⟨first, rest⟩ := List.forall_mem_cons.mp oneLine
    obtain ⟨-, between', transits⟩ := exchanges_execute between first
    obtain ⟨after, among⟩ := ih between' rest
    exact ⟨after, fun _ there => transits (among there)⟩

/-- The queries before one of several are one line each if all are. -/
theorem isOneLine_of_before {queries before : List String}
    (oneLine : ∀ query ∈ queries, IsOneLine query) (among : before ++ [query] <+: queries) :
    ∀ earlier ∈ before, IsOneLine earlier :=
  fun earlier there => oneLine earlier (among.subset (List.mem_append_left _ there))

/-- Each of several queries finds the connection as those before it have left it. -/
theorem exchanges_executeAll {queries before : List String} (between : l.Between)
    (oneLine : ∀ query ∈ queries, IsOneLine query) (among : before ++ [query] <+: queries) :
    (l.executeAll before).Exchanges query := by
  have between' := (between_executeAll between (isOneLine_of_before oneLine among)).1
  have there : query ∈ queries := among.subset (List.mem_append_right _ List.mem_cons_self)
  exact (exchanges_execute between' (oneLine query there)).1

/-- What is unread was unread before or sent since, and not read. -/
theorem unread_add_sent {queries : List String} (between : l.Between)
    (oneLine : ∀ query ∈ queries, IsOneLine query) :
    l.unread + l.sent queries = l.bytesRead queries + (l.executeAll queries).unread := by
  induction queries generalizing l with
  | nil => exact (Nat.zero_add _).symm
  | cons query queries ih =>
    obtain ⟨first, rest⟩ := List.forall_mem_cons.mp oneLine
    obtain ⟨exchanges, between', -⟩ := exchanges_execute between first
    have others := ih between' rest
    have left := exchanges.unread
    change _ + (_ + _) = _ + _ + ((l.execute query).2.executeAll queries).unread
    omega

/-! ### Answers -/

/-- A query is answered for itself: if it succeeds, it reads nothing that was sent before it, and
the peer sends something in answer to it. -/
def AnswersOwn (l : Link) (query : String) : Prop :=
  (l.execute query).1 = .ok () → l.unread = 0 ∧ 0 < l.answer query

/-- A query reads as much as is sent in answer to it. -/
def ReadsWhole (l : Link) (query : String) : Prop := l.answer query ≤ l.taken query

/-- Where nothing is left unread a query can only read what is sent in answer to it. -/
theorem Exchanges.answersOwn (exchanges : l.Exchanges query) (nothing : l.unread = 0) :
    l.AnswersOwn query := by
  intro succeeds
  have some := exchanges.succeeds.mp succeeds
  have left := exchanges.unread
  exact ⟨nothing, by omega⟩

/-- What is left unread stays so until a query succeeds. -/
theorem unread_pos_of_answersOwn {queries : List String} (between : l.Between)
    (oneLine : ∀ query ∈ queries, IsOneLine query) (some : 0 < l.unread)
    (own : ∀ before query, before ++ [query] <+: queries →
      (l.executeAll before).AnswersOwn query) : 0 < (l.executeAll queries).unread := by
  induction queries generalizing l with
  | nil => exact some
  | cons query queries ih =>
    obtain ⟨first, rest⟩ := List.forall_mem_cons.mp oneLine
    obtain ⟨exchanges, between', -⟩ := exchanges_execute between first
    -- the query would read what was there before it
    have fails : ¬ (l.execute query).1 = .ok () := fun succeeds =>
      Nat.ne_of_gt some (own [] query ⟨queries, rfl⟩ succeeds).1
    have left := exchanges.unread
    rw [exchanges.succeeds] at fails
    have still : 0 < (l.execute query).2.unread := by omega
    refine ih between' rest still fun before query' among => ?_
    exact own (query :: before) query' (List.cons_prefix_cons.mpr ⟨rfl, among⟩)

/-- Where every query has read as much as was sent in answer to it nothing is left unread. -/
theorem unread_of_readsWhole {queries : List String} (between : l.Between)
    (oneLine : ∀ query ∈ queries, IsOneLine query) (nothing : l.unread = 0)
    (whole : ∀ before query, before ++ [query] <+: queries →
      (l.executeAll before).ReadsWhole query) : (l.executeAll queries).unread = 0 := by
  induction queries generalizing l with
  | nil => exact nothing
  | cons query queries ih =>
    obtain ⟨first, rest⟩ := List.forall_mem_cons.mp oneLine
    obtain ⟨exchanges, between', -⟩ := exchanges_execute between first
    have enough : l.answer query ≤ l.taken query := whole [] query ⟨queries, rfl⟩
    have left := exchanges.unread
    have still : (l.execute query).2.unread = 0 := by omega
    refine ih between' rest still fun before query' among => ?_
    exact whole (query :: before) query' (List.cons_prefix_cons.mpr ⟨rfl, among⟩)

/-- All queries are answered for themselves exactly if none succeeds after one that has read less
than was sent in answer to it. -/
theorem answersOwn_iff {queries : List String} (between : l.Between) (fresh : l.unread = 0)
    (oneLine : ∀ query ∈ queries, IsOneLine query) :
    (∀ before query, before ++ [query] <+: queries → (l.executeAll before).AnswersOwn query) ↔
      ∀ before query inBetween next, before ++ query :: (inBetween ++ [next]) <+: queries →
        ((l.executeAll (before ++ query :: inBetween)).execute next).1 = .ok () →
          (l.executeAll before).ReadsWhole query := by
  constructor
  · intro own before query inBetween next among succeeds
    have last : (before ++ query :: inBetween) ++ [next] <+: queries := by simpa using among
    have first : before ++ [query] <+: queries :=
      List.IsPrefix.trans ⟨inBetween ++ [next], by simp⟩ among
    have oneLineBefore := isOneLine_of_before oneLine last
    have nothing := (own _ next last succeeds).1
    -- what the query had left would still be there
    by_contra less
    have exchanges := exchanges_executeAll between oneLine first
    have left := exchanges.unread
    have some : 0 < (l.executeAll (before ++ [query])).unread := by
      rw [executeAll_concat]
      unfold ReadsWhole at less
      omega
    have split : before ++ query :: inBetween = (before ++ [query]) ++ inBetween := by simp
    have between' := (between_executeAll between
      fun earlier there => oneLineBefore earlier (split ▸ List.mem_append_left _ there)).1
    have still := unread_pos_of_answersOwn between'
      (fun earlier there => oneLineBefore earlier (split ▸ List.mem_append_right _ there)) some
      fun before' query' among' => by
        rw [← executeAll_append]
        refine own _ query' (List.IsPrefix.trans ?_ ((List.prefix_append _ [next]).trans last))
        rw [split, List.append_assoc]
        exact (List.prefix_append_right_inj _).mpr among'
    rw [← executeAll_append, ← split, nothing] at still
    exact Nat.lt_irrefl 0 still
  · intro whole before next among succeeds
    have exchanges := exchanges_executeAll between oneLine among
    have nothing : (l.executeAll before).unread = 0 := by
      refine unread_of_readsWhole between (isOneLine_of_before oneLine among) fresh ?_
      rintro before' query ⟨inBetween, rfl⟩
      have split : before' ++ query :: inBetween = before' ++ [query] ++ inBetween := by simp
      exact whole before' query inBetween next (by simpa using among) (split ▸ succeeds)
    exact exchanges.answersOwn nothing succeeds

/-- If everything arrives in time, all that is unread is there for a query on an open connection. -/
theorem taken_of_prompt {queries before : List String} (between : l.Between)
    (oneLine : ∀ query ∈ queries, IsOneLine query)
    (prompt : ∀ transit ∈ l.transits, transit = .whole) (among : before ++ [query] <+: queries)
    (isOpen : (l.executeAll before).closed = false) :
    (l.executeAll before).taken query =
      min ((l.executeAll before).unread + (l.executeAll before).answer query) bufferSize := by
  obtain ⟨-, transits⟩ := between_executeAll between (isOneLine_of_before oneLine among)
  have whole : (l.executeAll before).transit = .whole := by
    unfold transit
    cases next : (l.executeAll before).transits with
    | nil => rfl
    | cons first rest => exact prompt first (transits (next ▸ List.mem_cons_self))
  rw [(exchanges_executeAll between oneLine among).taken, isOpen, Link.readable, whole]
  rfl

/-- If everything arrives in time, all queries are answered for themselves exactly if every answer
fits in the buffer that is followed by another query. -/
theorem answersOwn_iff_fits {queries : List String} (between : l.Between) (fresh : l.unread = 0)
    (oneLine : ∀ query ∈ queries, IsOneLine query)
    (prompt : ∀ transit ∈ l.transits, transit = .whole) :
    (∀ before query, before ++ [query] <+: queries → (l.executeAll before).AnswersOwn query) ↔
      ∀ before query next, before ++ [query, next] <+: queries →
        (l.executeAll before).answer query ≤ bufferSize := by
  have readable (before : List String) (query : String) (among : before ++ [query] <+: queries) :=
    taken_of_prompt between oneLine prompt among
  rw [answersOwn_iff between fresh oneLine]
  constructor
  · intro reads before query next among
    have first : before ++ [query] <+: queries := List.IsPrefix.trans ⟨[next], by simp⟩ among
    have last : (before ++ [query]) ++ [next] <+: queries := by simpa using among
    by_contra long
    have left := (exchanges_executeAll between oneLine first).unread
    have exchanges := exchanges_executeAll between oneLine last
    -- an answer that does not fit leaves something for the next query
    have little : (l.executeAll before).taken query ≤ bufferSize := by
      cases isClosed : (l.executeAll before).closed with
      | true =>
        have none : (l.executeAll before).taken query = 0 := if_pos isClosed
        exact none ▸ Nat.zero_le _
      | false => exact readable before query first isClosed ▸ Nat.min_le_right _ _
    have some : 0 < (l.executeAll (before ++ [query])).unread := by
      rw [executeAll_concat]
      omega
    have isOpen : (l.executeAll (before ++ [query])).closed = false := by
      by_contra closed
      have between' := (between_executeAll between (isOneLine_of_before oneLine last)).1
      exact Nat.ne_of_gt some (between'.nothing (by simpa using closed))
    have succeeds : ((l.executeAll (before ++ [query])).execute next).1 = .ok () := by
      rw [exchanges.succeeds, readable _ next last isOpen]
      exact Nat.lt_min.mpr ⟨by omega, Nat.succ_pos _⟩
    have whole := reads before query [] next among succeeds
    unfold ReadsWhole at whole
    omega
  · intro fits before query inBetween next among _
    have first : before ++ [query] <+: queries :=
      List.IsPrefix.trans ⟨inBetween ++ [next], by simp⟩ among
    cases isClosed : (l.executeAll before).closed with
    | true =>
      have noAnswer : (l.executeAll before).answer query = 0 :=
        if_neg fun reaches => by simp [Reaches, isClosed] at reaches
      rw [ReadsWhole, noAnswer]
      exact Nat.zero_le _
    | false =>
      have followed : ∃ next', before ++ [query, next'] <+: queries := by
        cases inBetween with
        | nil => exact ⟨next, among⟩
        | cons next' rest => exact ⟨next', List.IsPrefix.trans ⟨rest ++ [next], by simp⟩ among⟩
      obtain ⟨next', among'⟩ := followed
      have fit := fits before query next' among'
      rw [ReadsWhole, readable before query first isClosed]
      exact Nat.le_min.mpr ⟨Nat.le_add_left _ _, fit⟩

end Link

/-- A probe succeeds exactly if its query does, since nothing is to be rolled back after it. -/
theorem probe_eq_true_iff (e : Environment Network) (n : Nat) (query : String) :
    (e.probe backend n query).1 = true ↔ ((link e n).execute query).1 = .ok () := by
  have answer : (e.ask backend .pool n (.execute query)).1 = ((link e n).execute query).1 :=
    answer_ask e .pool n (.execute query)
  rw [← answer]
  unfold Environment.probe
  split
  · rename_i asked
    rw [asked]
    exact iff_of_false nofun nofun
  · rename_i e' asked
    have reset := (reset_eq e' n).1
    rw [asked]
    split
    · rename_i failed
      rw [failed] at reset
      cases reset
    · exact iff_of_true rfl rfl

namespace Link

/-- Queries are sent to a peer that reacts to each line as it likes, over a network that delivers
its answers as it likes. Each of them succeeds exactly if it reads anything, and so does a probe; it
reads what has arrived, as far as its buffer holds it. They are all answered for themselves exactly
if none succeeds after one that has read less than was sent in answer to it. If everything arrives
in time, that is exactly if every answer fits in the buffer that is followed by another query. -/
theorem answersOwn_iff_read_whole (reactions : List Reaction) (transits : List Transit)
    {queries : List String} (oneLine : ∀ query ∈ queries, IsOneLine query) :
    let l : Link := { reactions, transits }
    (∀ before query, before ++ [query] <+: queries →
      (l.executeAll before).Exchanges query ∧
        l.sent before = l.bytesRead before + (l.executeAll before).unread ∧
        ∀ (e : Environment Network) (n : Nat), link e n = l.executeAll before →
          ((e.probe backend n query).1 = true ↔ 0 < (l.executeAll before).taken query)) ∧
      ((∀ before query, before ++ [query] <+: queries → (l.executeAll before).AnswersOwn query) ↔
        ∀ before query inBetween next, before ++ query :: (inBetween ++ [next]) <+: queries →
          ((l.executeAll (before ++ query :: inBetween)).execute next).1 = .ok () →
            (l.executeAll before).ReadsWhole query) ∧
      ((∀ transit ∈ transits, transit = .whole) →
        ((∀ before query, before ++ [query] <+: queries →
            (l.executeAll before).AnswersOwn query) ↔
          ∀ before query next, before ++ [query, next] <+: queries →
            (l.executeAll before).answer query ≤ bufferSize)) := by
  intro l
  have between : l.Between := between_fresh reactions transits
  refine ⟨fun before query among => ?_, answersOwn_iff between rfl oneLine,
    fun prompt => answersOwn_iff_fits between rfl oneLine prompt⟩
  have exchanges := exchanges_executeAll between oneLine among
  have account := unread_add_sent between (isOneLine_of_before oneLine among)
  rw [show l.unread = 0 from rfl, Nat.zero_add] at account
  refine ⟨exchanges, account, fun e n same => ?_⟩
  rw [probe_eq_true_iff, same]
  exact exchanges.succeeds

/-- An answer fills the buffer, and the peer does not answer the next query: that query fails. -/
theorem answersOwn_of_full_buffer :
    let l : Link := { reactions := [.replyBytes 4096, .silent] }
    (∀ query ∈ ["PING", "PING"], IsOneLine query) ∧ l.answer "PING" = 4096 ∧
      ((l.executeAll ["PING"]).execute "PING").1 ≠ .ok () ∧
      ∀ before query, before ++ [query] <+: ["PING", "PING"] →
        (l.executeAll before).AnswersOwn query := by
  intro l
  have oneLine : ∀ query ∈ ["PING", "PING"], IsOneLine query := by decide
  refine ⟨oneLine, by decide, by decide +kernel, ?_⟩
  have exact' := (answersOwn_iff_read_whole [.replyBytes 4096, .silent] [] oneLine).2.2 nofun
  refine exact'.mpr fun before query next among => ?_
  -- only the first query is followed by another
  obtain rfl : before = [] := by
    have few := among.length_le
    simp only [List.length_append, List.length_cons, List.length_nil] at few
    exact List.eq_nil_of_length_eq_zero (by omega)
  obtain ⟨rfl, -⟩ := List.cons_prefix_cons.mp among
  decide

/-- An answer has more bytes than the buffer, and the peer does not answer the next query. That
query reads what is left, and succeeds. -/
theorem answered_by_leftovers :
    let l : Link := { reactions := [.replyBytes 5000, .silent] }
    IsOneLine "PING" ∧ (l.execute "PING").1 = .ok () ∧
      ((l.executeAll ["PING"]).execute "PING").1 = .ok () ∧
      (l.executeAll ["PING"]).answer "PING" = 0 ∧
      (l.executeAll ["PING", "PING"]).received = ["PING", "PING"] := by
  decide +kernel

/-! An answer that fits in the buffer is as bad if it comes in pieces. -/

example :
    let l : Link := { reactions := [.replyBytes 200, .silent], transits := [.part 100] }
    ((l.executeAll ["PING"]).execute "PING").1 = .ok () ∧
      (l.executeAll ["PING"]).answer "PING" = 0 := by
  decide +kernel

end Link

end LeasePool.Tcp
