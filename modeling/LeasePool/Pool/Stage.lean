import LeasePool.Pool.Acquire

/-!
# The stages of a search

A search holds the pool to itself, but not the tokens: one may be marked as cancelled at any time.
So where it matters at which instant a search looks at its token, the search is taken apart into
stages. It looks whether it is still wanted; it looks for a candidate; it tries the candidate, or
begins to wait. Stage by stage a search comes to what it comes to in one piece.

## Main definitions

* `Stage`, `Search`: how far a search has come; a search under way.
* `Search.next`: the next stage of a search, or its end.
* `Search.Runs`: the stages that are left, with nothing in between.

## Main results

* `Search.runs_seek`: stage by stage a search comes to what `Pool.seek` comes to.
-/

namespace LeasePool

/-- How far a search has come. -/
inductive Stage
  /-- It is about to look whether it is wanted: the pool serves, and the token is not cancelled. -/
  | asking
  /-- It is wanted, and about to look for a candidate. -/
  | choosing
  /-- There is nothing to try, and it is about to wait. -/
  | parking
  /-- It is about to try a candidate. -/
  | trying (lease : Lease)
deriving DecidableEq

/-- A search under way. -/
structure Search where
  request : Request
  /-- The acquire has waited before. -/
  waited : Bool
  /-- How many more bad connections it may discard. -/
  spare : Nat
  discarded : Nat
  stage : Stage := .asking
deriving DecidableEq

/-- What a stage comes to. -/
inductive Progress
  /-- The search goes on. -/
  | goes (search : Search)
  /-- The search is over. -/
  | ends (acquired : Acquired)
deriving DecidableEq

namespace Search

variable {σ : Type} (b : Backend σ)

/-- The end of a search. -/
def finish (ended : Acquired × Pool σ) : Progress × Pool σ := (.ends ended.1, ended.2)

/-- The next stage of a search. -/
def next (x : Search) (p : Pool σ) : Progress × Pool σ :=
  match x.stage with
  | .asking =>
    if p.shutDown then finish (p.fail x.request .closed)
    else if p.isCancelled x.request.token then finish (p.fail x.request .interrupted)
    else (.goes { x with stage := .choosing }, p)
  | .choosing =>
    match p.candidate b x.request.credentials with
    | (.error cause, p) => finish (p.fail x.request (.connect cause))
    | (.ok none, p) => (.goes { x with stage := .parking }, p)
    | (.ok (some lease), p) => (.goes { x with stage := .trying lease }, p)
  | .parking => finish (.waiting, p.park x.request x.waited x.discarded)
  | .trying lease =>
    match p.usable b lease with
    | (true, p) =>
      let granted := p.handOut b x.request lease
      finish (.granted granted.1, granted.2)
    | (false, p) =>
      match x.spare with
      | 0 => finish ((p.discard b lease).fail x.request (.exhausted (x.discarded + 1)))
      | spare + 1 =>
        (.goes { x with spare, discarded := x.discarded + 1, stage := .asking }, p.discard b lease)

/-- The stages that are left to a search, with nothing in between, come to this. -/
inductive Runs : Search → Pool σ → Acquired × Pool σ → Prop
  | ends {x : Search} {p : Pool σ} {ended : Acquired × Pool σ} (last : x.next b p = finish ended) :
      Runs x p ended
  | goes {x y : Search} {p q : Pool σ} {ended : Acquired × Pool σ}
      (first : x.next b p = (.goes y, q)) (others : Runs y q ended) : Runs x p ended

/-- Stage by stage a search comes to what it comes to in one piece. -/
theorem runs_seek (r : Request) (waited : Bool) (spare discarded : Nat) (p : Pool σ) :
    Runs b ⟨r, waited, spare, discarded, .asking⟩ p (Pool.seek b r waited spare discarded p) := by
  -- a search that is wanted goes on to look for a candidate
  have wanted {spare discarded : Nat} {p : Pool σ} {ended : Acquired × Pool σ}
      (serving : ¬ p.shutDown = true) (uncancelled : ¬ p.isCancelled r.token = true)
      (others : Runs b ⟨r, waited, spare, discarded, .choosing⟩ p ended) :
      Runs b ⟨r, waited, spare, discarded, .asking⟩ p ended := by
    refine .goes ?_ others
    simp only [next, if_neg serving, if_neg uncancelled]
  fun_induction Pool.seek b r waited spare discarded p with
  | case1 spare discarded p shut => exact .ends (by simp only [next, if_pos shut])
  | case2 spare discarded p serving cancelled =>
    exact .ends (by simp only [next, if_neg serving, if_pos cancelled])
  | case3 spare discarded p serving uncancelled cause q found =>
    exact wanted serving uncancelled (.ends (by simp only [next, found]))
  | case4 spare discarded p serving uncancelled q found =>
    have nothing : next b ⟨r, waited, spare, discarded, .choosing⟩ p =
        (.goes ⟨r, waited, spare, discarded, .parking⟩, q) := by simp only [next, found]
    exact wanted serving uncancelled (.goes nothing (.ends rfl))
  | case5 spare discarded p serving uncancelled l taken found checked good granted =>
    have candidate : next b ⟨r, waited, spare, discarded, .choosing⟩ p =
        (.goes ⟨r, waited, spare, discarded, .trying l⟩, taken) := by simp only [next, found]
    exact wanted serving uncancelled (.goes candidate (.ends (by simp only [next, good, granted])))
  | case6 discarded p serving uncancelled l taken found checked bad =>
    have candidate : next b ⟨r, waited, 0, discarded, .choosing⟩ p =
        (.goes ⟨r, waited, 0, discarded, .trying l⟩, taken) := by simp only [next, found]
    exact wanted serving uncancelled (.goes candidate (.ends (by simp only [next, bad])))
  | case7 discarded p serving uncancelled l taken found checked bad spare ih =>
    have candidate : next b ⟨r, waited, spare + 1, discarded, .choosing⟩ p =
        (.goes ⟨r, waited, spare + 1, discarded, .trying l⟩, taken) := by simp only [next, found]
    have turnedDown : next b ⟨r, waited, spare + 1, discarded, .trying l⟩ taken =
        (.goes ⟨r, waited, spare, discarded + 1, .asking⟩, checked.discard b l) := by
      simp only [next, bad]
    exact wanted serving uncancelled (.goes candidate (.goes turnedDown ih))

end Search

end LeasePool
