import LeasePool.Backend

/-!
# TCP connections that speak in lines

A query is sent as one line, ended by a carriage return and a line feed, and answered by whatever
bytes arrive. The peer splits what it receives into lines and reacts to each. Of the bytes that it
sends only their number matters.

The peer and the network take their time. The bytes that the peer sends are under way until they
arrive, some of them perhaps long after the query that they answer; a query reads once, as many as
have arrived by then and its buffer holds, and leaves the rest unread. Writing and reading can also
fail.

## Main definitions

* `Reaction`: what a peer does about a line.
* `Transit`: what becomes of a query and of the bytes that are under way.
* `Link`: a connection, seen from both ends.
* `Link.receive`: bytes arrive at the peer; `Link.arrive`, `Link.take`: they arrive at this end, and
  are read.
* `Link.exchange`: a line is written, and something is read.
* `Link.execute`: a query is sent as a line and its answer discarded.
-/

namespace LeasePool.Tcp

/-- What a peer does about a line. -/
inductive Reaction
  /-- It sends the line back. -/
  | echo
  /-- It sends a text. -/
  | reply (text : String)
  /-- It sends so many bytes. -/
  | replyBytes (count : Nat)
  | silent
  /-- It closes the connection. -/
  | hangUp
deriving DecidableEq

/-- What becomes of a query, and of the bytes that are under way to this end. -/
inductive Transit
  /-- The query reaches the peer, and all that is under way arrives before it is read; so does the
  end of the connection, if the peer has closed it. -/
  | whole
  /-- The query reaches the peer, and only so many of the bytes that are under way arrive before it
  is read. -/
  | part (count : Nat)
  /-- The query cannot be written. No more than so many characters of it have reached the peer, and
  no more will. -/
  | unwritten (count : Nat) (reason : String)
  /-- The query reaches the peer, and what is under way cannot be read now. -/
  | unread (reason : String)
deriving DecidableEq

/-- The query is written. -/
def Transit.writes : Transit → Bool
  | whole | part _ | unread _ => true
  | unwritten .. => false

/-- What ends a line. -/
def lineEnd : String := "\r\n"

/-- Splits a text into the lines that it completes and what is left. -/
def splitLines : List Char → List String × String
  | [] => ([], "")
  | '\r' :: '\n' :: rest =>
    let (lines, remainder) := splitLines rest
    ("" :: lines, remainder)
  | c :: rest =>
    match splitLines rest with
    | ([], remainder) => ([], String.ofList (c :: remainder.toList))
    | (line :: lines, remainder) => (String.ofList (c :: line.toList) :: lines, remainder)

/-- A connection, seen from both ends. -/
structure Link where
  /-- What the peer does about the next lines; when this has run out, it echoes. -/
  reactions : List Reaction
  /-- What becomes of the next queries; when this has run out, nothing is late. -/
  transits : List Transit := []
  /-- The lines that the peer has received, the latest first. -/
  received : List String := []
  /-- What the peer has received of a line whose end has not come yet. -/
  partialLine : String := ""
  /-- The number of bytes that the peer has sent and that have not arrived. -/
  underWay : Nat := 0
  /-- The number of bytes that have arrived and were not read. -/
  arrived : Nat := 0
  /-- The peer receives and sends nothing more: it has closed the connection, or that is broken. -/
  hungUp : Bool := false
  /-- This end has closed the connection, or has met its end. -/
  closed : Bool := false
  /-- Why the system fails to shut the connection down, if it does. -/
  shutdownFault : Option String := none

namespace Link

/-- The number of bytes that a query reads at most. -/
def bufferSize : Nat := 4096

/-- The number of bytes that a reaction to a line sends. -/
def bytesSent (line : String) : Reaction → Nat
  | .echo => line.utf8ByteSize + lineEnd.utf8ByteSize
  | .reply text => text.utf8ByteSize
  | .replyBytes count => count
  | .silent | .hangUp => 0

/-- The peer receives a line, unless it has closed the connection. -/
def receiveLine (l : Link) (line : String) : Link :=
  if l.hungUp then l
  else
    let reaction := l.reactions.headD .echo
    { l with
      reactions := l.reactions.tail
      received := line :: l.received
      underWay := l.underWay + bytesSent line reaction
      hungUp := decide (reaction = .hangUp) }

/-- A text arrives at the peer, unless it has closed the connection. -/
def receive (l : Link) (text : String) : Link :=
  if l.hungUp then l
  else
    -- what was left of the bytes before goes first
    let (lines, remainder) := splitLines (l.partialLine ++ text).toList
    lines.foldl receiveLine { l with partialLine := remainder }

/-- Some of the bytes under way arrive. -/
def arrive (l : Link) (count : Nat) : Link :=
  { l with underWay := l.underWay - count, arrived := l.arrived + min count l.underWay }

/-- Some of the bytes that have arrived are read. -/
def take (l : Link) (count : Nat) : Link := { l with arrived := l.arrived - count }

/-- The error of a read that waited too long. -/
def timedOut : BackendError := .io "Resource temporarily unavailable (os error 11)"

/-- One read: the number of bytes that it takes. If none have arrived it is none at the end of the
connection; before that the read waits too long. -/
def read (l : Link) (ended : Bool) : Except BackendError Nat × Link :=
  if 0 < l.arrived then
    let count := min l.arrived bufferSize
    (.ok count, l.take count)
  else if ended && l.hungUp then (.ok 0, l)
  else (.error timedOut, l)

/-- What becomes of the next query. -/
def transit (l : Link) : Transit := l.transits.headD .whole

/-- The connection when another query has been seen on its way. -/
def onward (l : Link) : Link := { l with transits := l.transits.tail }

/-- A query is written as a line, and something is read: the number of bytes, or the failure of the
system. -/
def exchange (l : Link) (query : String) : Except BackendError Nat × Link :=
  match l.transit with
  | .whole =>
    let sent := l.onward.receive (query ++ lineEnd)
    (sent.arrive sent.underWay).read true
  | .part count => ((l.onward.receive (query ++ lineEnd)).arrive count).read false
  | .unwritten count reason =>
    (.error (.io reason),
      { l.onward.receive (String.ofList (query.toList.take count)) with hungUp := true })
  | .unread reason => (.error (.io reason), l.onward.receive (query ++ lineEnd))

/-- Send a query and discard what is read. To read nothing is to meet the end of the connection. -/
def execute (l : Link) (query : String) : Except BackendError Unit × Link :=
  if l.closed then (.error .closed, l)
  else
    match l.exchange query with
    | (.error cause, l) => (.error cause, l)
    | (.ok 0, l) => (.error .closed, { l with closed := true })
    | (.ok (_ + 1), l) => (.ok (), l)

/-- Close this end, unless it is closed. It counts as closed even if the system fails to shut the
connection down. -/
def close (l : Link) : Except BackendError Unit × Link :=
  if l.closed then (.ok (), l)
  else
    (match l.shutdownFault with
      | some reason => .error (.io reason)
      | none => .ok (),
      { l with closed := true })

/-- Perform an operation. Nothing needs to be rolled back, as every line stands alone. -/
def perform (l : Link) : (operation : Operation) → operation.Answer × Link
  | .close => l.close
  | .rollback => (.ok (), l)
  | .autoCommit => (.ok true, l)
  | .isClosed => (l.closed, l)
  | .execute query => l.execute query

end Link

end LeasePool.Tcp
