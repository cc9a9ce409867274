import Mathlib.Data.List.Perm.Basic
import Outbox.Proofs.Footprints

/-!
# Independent accounts

A desk serves many accounts, and requests for them come in whatever order they come.  Between requests
for one account the order matters, because one uses the nonce after the other's.  Between requests for
different accounts it must not: otherwise what happens to one account would depend on who else sends.

Two dispatches for different accounts may change places (`IsOrderFree.swap`).  Each has the same result
and calls its callback with the same nonces as if the other had not been there, and whichever goes first,
the desks at the end are alike (`Alike`): the same nonces, the same lines, the same signers and the same
counts.  Hence any run may be put into another order as long as the order within each account is kept
(`Reorders`), and each dispatch of it still has the report it had (`IsOrderFree.reorder`).

All of this follows from footprints, that is from what a dispatch looks at and what it changes.  The
step from two dispatches to a run is to take the first dispatch of the one order out of the other, past
dispatches of which none is for its account.

The sink is told only of transactions of which the log cannot be told.  If there may be such, it has to
be steady like the others; otherwise it may do what it likes, because it is never told anything
(`SinkIsSteady`).
-/

namespace Outbox

variable {ρ α β : Type}

/-! ## 1.  Acts with nothing in common -/

namespace Counters

/-- How often something was counted. -/
def of (event : Counted) (c : Counters) : Nat :=
  match event with
  | .dispatch outcome => c.dispatches.count outcome
  | .nonceRetry => c.nonceRetries
  | .nonceLookup reason => c.nonceLookups.count reason
  | .sinkError => c.sinkErrors

theorem of_add (event other : Counted) (c : Counters) :
    (c.add event).of other = c.of other + if event = other then 1 else 0 := by
  cases event <;> cases other <;> simp [of, add, eq_comm]

theorem of_addAll (event : Counted) (events : List Counted) (c : Counters) :
    (c.addAll events).of event = c.of event + events.count event := by
  induction events generalizing c with
  | nil => rfl
  | cons other events ih =>
    have hstep : c.addAll (other :: events) = (c.add other).addAll events := rfl
    rw [hstep, ih, of_add, List.count_cons]
    simp only [beq_iff_eq]
    omega

end Counters

namespace Desk

/-- Two desks keep the same for every account, and have counted the same. -/
structure Alike (d e : Desk (Queued ρ)) : Prop where
  capacity : d.world.queue.capacity = e.world.queue.capacity
  signers : d.world.queue.signers = e.world.queue.signers
  nonce : ∀ key, d.book.get? key = e.book.get? key
  line : ∀ a, d.world.queue.pendingOf a = e.world.queue.pendingOf a
  counts : ∀ event, d.counters.of event = e.counters.of event

section

variable {accounts others : Set Address} {d e f : Desk (Queued ρ)}
  {x : Act (Deed LogLine) (Desk (Queued ρ)) α} {y : Act (Deed LogLine) (Desk (Queued ρ)) β}

theorem Alike.refl (d : Desk (Queued ρ)) : Alike d d :=
  ⟨rfl, rfl, fun _ => rfl, fun _ => rfl, fun _ => rfl⟩

theorem Alike.trans (h : Alike d e) (h' : Alike e f) : Alike d f :=
  ⟨h.capacity.trans h'.capacity, h.signers.trans h'.signers,
    fun key => (h.nonce key).trans (h'.nonce key), fun a => (h.line a).trans (h'.line a),
    fun event => (h.counts event).trans (h'.counts event)⟩

theorem Alike.sameOn (h : Alike d e) : SameOn accounts d e :=
  ⟨h.capacity, fun a _ => h.nonce a.key, fun a _ => h.line a,
    fun a _ => by rw [PendingQueue.hasSigner, PendingQueue.hasSigner, h.signers]⟩

theorem HasFootprint.changesOnly (hx : HasFootprint accounts x) (d : Desk (Queued ρ)) :
    ChangesOnly accounts d (x d).next :=
  (hx d d (.refl d)).frame

/-- What two desks agree on after an act, and what they agreed on elsewhere before it, is all they have
to agree on. -/
theorem Alike.of_sameOn {d' e' : Desk (Queued ρ)} (hsame : SameOn accounts d' e')
    (hd : ChangesOnly accounts d d') (he : ChangesOnly accounts e e')
    (hsigners : d.world.queue.signers = e.world.queue.signers)
    (hnonce : ∀ key : Key, (∀ a ∈ accounts, key ≠ a.key) → d.book.get? key = e.book.get? key)
    (hline : ∀ a ∉ accounts, d.world.queue.pendingOf a = e.world.queue.pendingOf a)
    (hcounts : ∀ event, d'.counters.of event = e'.counters.of event) : Alike d' e' where
  capacity := hsame.capacity
  signers := hd.signers.trans (hsigners.trans he.signers.symm)
  nonce := by
    intro key
    by_cases hkey : ∀ a ∈ accounts, key ≠ a.key
    · rw [hd.nonce key hkey, he.nonce key hkey, hnonce key hkey]
    · simp only [not_forall, not_not] at hkey
      obtain ⟨a, ha, rfl⟩ := hkey
      exact hsame.nonce a ha
  line := by
    intro a
    by_cases ha : a ∈ accounts
    · exact hsame.line a ha
    · rw [hd.line a ha, he.line a ha, hline a ha]
  counts := hcounts

/-- An act with a footprint takes desks that are alike to desks that are alike. -/
theorem HasFootprint.alike (hx : HasFootprint accounts x) (h : Alike d e) :
    Alike (x d).next (x e).next := by
  have htwins := hx d e h.sameOn
  obtain ⟨events, hd, he⟩ := htwins.counters
  refine .of_sameOn htwins.same (hx.changesOnly d) (hx.changesOnly e) h.signers
    (fun key _ => h.nonce key) (fun a _ => h.line a) fun event => ?_
  rw [hd, he, Counters.of_addAll, Counters.of_addAll, h.counts event]

/-- What has changed for some accounts before an act that has nothing to do with them has changed for
them after it, and for no others. -/
theorem HasFootprint.changesOnly_next (hy : HasFootprint others y)
    (hdisjoint : ∀ a ∈ others, a ∉ accounts) (h : ChangesOnly accounts d e) :
    ChangesOnly accounts (y d).next (y e).next := by
  have hsame := (hy d e (h.sameOn hdisjoint)).same
  have hd := hy.changesOnly d
  have he := hy.changesOnly e
  refine ⟨hsame.capacity.symm, he.signers.trans (h.signers.trans hd.signers.symm), fun key hkey => ?_,
    fun a ha => ?_⟩
  · by_cases hother : ∀ a ∈ others, key ≠ a.key
    · rw [he.nonce key hother, hd.nonce key hother, h.nonce key hkey]
    · simp only [not_forall, not_not] at hother
      obtain ⟨a, ha, rfl⟩ := hother
      exact (hsame.nonce a ha).symm
  · by_cases hother : a ∈ others
    · exact (hsame.line a hother).symm
    · rw [he.line a hother, hd.line a hother, h.line a ha]

/-- **Acts with nothing in common may change places.** -/
theorem HasFootprint.alike_swap (hx : HasFootprint accounts x) (hy : HasFootprint others y)
    (hdisjoint : ∀ a ∈ accounts, a ∉ others) (d : Desk (Queued ρ)) :
    Alike (y (x d).next).next (x (y d).next).next := by
  have hcross : ∀ a ∈ others, a ∉ accounts := fun a ha ha' => hdisjoint a ha' ha
  -- `x` does the same before and after `y`, and `y` the same before and after `x`.
  have hxs := hx d (y d).next ((hy.changesOnly d).sameOn hdisjoint)
  have hys := hy d (x d).next ((hx.changesOnly d).sameOn hcross)
  have hsame : SameOn accounts (y (x d).next).next (x (y d).next).next :=
    ((hy.changesOnly (x d).next).sameOn hdisjoint).symm.trans hxs.same
  refine .of_sameOn hsame (hy.changesOnly_next hcross (hx.changesOnly d)) (hx.changesOnly (y d).next)
    rfl (fun _ _ => rfl) (fun _ _ => rfl) fun event => ?_
  obtain ⟨xs, hx₁, hx₂⟩ := hxs.counters
  obtain ⟨ys, hy₁, hy₂⟩ := hys.counters
  rw [hy₂, hx₁, hx₂, hy₁]
  simp only [Counters.of_addAll]
  omega

end

end Desk

/-! ## 2.  Runs -/

/-- A network, of which nothing is assumed but that it always gives the same answer to the same
question. -/
structure SteadyNetwork (ρ : Type) where
  source : NonceSource LogLine (Queued ρ)
  /-- Its answers. -/
  answer : Int → Value → Except Fault Value
  steady : NonceSource.IsSteady source answer

/-- A request for a chain with its callback, of which nothing is assumed but that what comes of it
depends on the nonce. -/
structure Parcel (ρ : Type) where
  chain : Int
  request : Request
  send : SendCallback LogLine (Queued ρ)
  /-- What comes of the callback. -/
  outcome : Value → Except Fault Value
  steady : SendCallback.IsSteady send outcome

/-- What a dispatch comes to: how it ends, and the nonces with which its callback is called. -/
structure Report where
  result : Except Fault Value
  nonces : List Value

namespace Parcel

/-- The account of the sender, if it is accepted. -/
def account? (p : Parcel ρ) : Option Address := (Address.accept p.request.sender).toOption

variable (network : SteadyNetwork ρ) (sink : Option (ErrorSink LogLine (Queued ρ)))

/-- The request is dispatched with the queue as the gate. -/
def act (p : Parcel ρ) : Act (Deed LogLine) (Desk (Queued ρ)) Value :=
  Desk.dispatch Queued.gate network.source sink p.chain p.request p.send

/-- What the dispatch comes to at a desk. -/
def report (d : Desk (Queued ρ)) (p : Parcel ρ) : Report :=
  ⟨(p.act network sink d).result, Deed.nonces (p.act network sink d).notes⟩

/-- The desk after the dispatch. -/
def after (d : Desk (Queued ρ)) (p : Parcel ρ) : Desk (Queued ρ) := (p.act network sink d).next

/-- The desk after several dispatches. -/
def afterAll (d : Desk (Queued ρ)) (ps : List (Parcel ρ)) : Desk (Queued ρ) :=
  ps.foldl (after network sink) d

/-- What several dispatches come to, one after another, each with the parcel that it is for. -/
def reports (d : Desk (Queued ρ)) : List (Parcel ρ) → List (Parcel ρ × Report)
  | [] => []
  | p :: ps => (p, p.report network sink d) :: reports (p.after network sink d) ps

end Parcel

/-! ## 3.  Other orders -/

/-- The same things in another order, in which those of one account stand as they stood. -/
structure Reorders (account : α → Option Address) (xs ys : List α) : Prop where
  perm : xs.Perm ys
  within : ∀ a, xs.filter (account · = some a) = ys.filter (account · = some a)

/-- Two things are not of one account. -/
def Apart (account : α → Option Address) (x y : α) : Prop :=
  ∀ a, account x = some a → account y ≠ some a

namespace Reorders

variable {account : α → Option Address} {x : α} {us vs xs ys zs : List α}

theorem refl (xs : List α) : Reorders account xs xs := ⟨.refl xs, fun _ => rfl⟩

theorem trans (h : Reorders account xs ys) (h' : Reorders account ys zs) : Reorders account xs zs :=
  ⟨h.perm.trans h'.perm, fun a => (h.within a).trans (h'.within a)⟩

theorem cons (x : α) (h : Reorders account xs ys) : Reorders account (x :: xs) (x :: ys) :=
  ⟨h.perm.cons x, fun a => by rw [List.filter_cons, List.filter_cons, h.within a]⟩

/-- What is taken to the front of a list passes nothing of its own account. -/
theorem filter_middle (hapart : ∀ u ∈ us, Apart account x u) (vs : List α) (a : Address) :
    (us ++ x :: vs).filter (account · = some a) =
      (if account x = some a then [x] else []) ++ (us ++ vs).filter (account · = some a) := by
  by_cases hx : account x = some a
  · have hnone : us.filter (account · = some a) = [] := by
      rw [List.filter_eq_nil_iff]
      intro u hu
      simpa using hapart u hu a hx
    simp [hx, hnone]
  · simp [hx]

/-- Something may be taken to the front past what is not of its account. -/
theorem middle (hapart : ∀ u ∈ us, Apart account x u) (vs : List α) :
    Reorders account (x :: (us ++ vs)) (us ++ x :: vs) where
  perm := List.perm_middle.symm
  within := by
    intro a
    rw [filter_middle hapart, List.filter_cons]
    split <;> simp_all

/-- **What stands first in one order can be taken to the front of the other**, past things of other
accounts, and the rest is the rest in another order. -/
theorem exists_middle (h : Reorders account (x :: xs) ys) :
    ∃ us vs, ys = us ++ x :: vs ∧ (∀ u ∈ us, Apart account x u) ∧ Reorders account xs (us ++ vs) := by
  have hfront : ∃ us vs, ys = us ++ x :: vs ∧ ∀ u ∈ us, Apart account x u := by
    cases hx : account x with
    | none =>
      obtain ⟨us, vs, hys⟩ := List.append_of_mem (h.perm.mem_iff.mp List.mem_cons_self)
      exact ⟨us, vs, hys, fun u _ a ha => by simp [hx] at ha⟩
    | some a =>
      have hfirst := (h.within a).symm
      rw [List.filter_cons_of_pos (by simpa using hx)] at hfirst
      obtain ⟨us, vs, hys, hus, -, -⟩ := List.filter_eq_cons_iff.mp hfirst
      refine ⟨us, vs, hys, fun u hu b hb => ?_⟩
      obtain rfl : a = b := Option.some.inj (hx.symm.trans hb)
      simpa using hus u hu
  obtain ⟨us, vs, rfl, hapart⟩ := hfront
  refine ⟨us, vs, rfl, hapart, (h.perm.trans List.perm_middle).cons_inv, fun a => ?_⟩
  have hwithin := h.within a
  rw [filter_middle hapart, List.filter_cons] at hwithin
  by_cases hx : account x = some a
  · simpa [hx] using hwithin
  · simpa [hx] using hwithin

end Reorders

/-! ## 4.  Dispatches for different accounts -/

namespace Parcel

/-- The log can be told of every transaction that the callback gives, at the queue of a desk. -/
def IsLegible (d : Desk (Queued ρ)) (p : Parcel ρ) : Prop :=
  ∀ nonce tx, p.outcome nonce = .ok tx → d.world.queue.canTell tx = true

/-- The sink is steady, or nothing is ever told to it of the parcels. -/
def SinkIsSteady (sink : Option (ErrorSink LogLine (Queued ρ))) (d : Desk (Queued ρ))
    (ps : List (Parcel ρ)) : Prop :=
  (∀ tell ∈ sink, ErrorSink.IsSteady tell) ∨ ∀ p ∈ ps, p.IsLegible d

section

variable (network : SteadyNetwork ρ) {sink : Option (ErrorSink LogLine (Queued ρ))}
  (hsink : ∀ tell ∈ sink, ErrorSink.IsSteady tell) {d e : Desk (Queued ρ)} {p q : Parcel ρ}

include hsink

/-- A dispatch is about its account. -/
theorem act_hasFootprint (p : Parcel ρ) :
    Desk.HasFootprint {a | p.account? = some a} (p.act network sink) := by
  refine Desk.dispatch_hasFootprint network.steady p.steady hsink p.request fun a ha => ?_
  show (Address.accept p.request.sender).toOption = some a
  rw [ha]
  rfl

/-- A dispatch for one account has the same report after a dispatch for another. -/
theorem report_after (hapart : Apart account? p q) (d : Desk (Queued ρ)) :
    report network sink (after network sink d q) p = report network sink d p := by
  have hsame : Desk.SameOn {a | p.account? = some a} d (after network sink d q) :=
    ((q.act_hasFootprint network hsink).changesOnly d).sameOn hapart
  have htwins := p.act_hasFootprint network hsink _ _ hsame
  rw [report, report, htwins.result, htwins.nonces]

/-- Two dispatches for different accounts may change places. -/
theorem alike_after (hapart : Apart account? p q) (d : Desk (Queued ρ)) :
    Desk.Alike (after network sink (after network sink d p) q)
      (after network sink (after network sink d q) p) :=
  (p.act_hasFootprint network hsink).alike_swap (q.act_hasFootprint network hsink) hapart d

/-- Runs from desks that are alike have the same reports and end at desks that are alike. -/
theorem reports_of_alike (h : Desk.Alike d e) (ps : List (Parcel ρ)) :
    reports network sink d ps = reports network sink e ps ∧
      Desk.Alike (afterAll network sink d ps) (afterAll network sink e ps) := by
  induction ps generalizing d e with
  | nil => exact ⟨rfl, h⟩
  | cons p ps ih =>
    have htwins := p.act_hasFootprint network hsink _ _ h.sameOn
    have hnext : Desk.Alike (after network sink d p) (after network sink e p) :=
      (p.act_hasFootprint network hsink).alike h
    obtain ⟨hreports, halike⟩ := ih hnext
    refine ⟨?_, halike⟩
    rw [reports, reports, hreports, report, report, htwins.result, htwins.nonces]

/-- **A dispatch may be taken to the front of a run** past dispatches for other accounts. -/
theorem reports_front {us : List (Parcel ρ)} (hapart : ∀ u ∈ us, Apart account? p u)
    (d : Desk (Queued ρ)) :
    report network sink (afterAll network sink d us) p = report network sink d p ∧
      reports network sink (after network sink d p) us = reports network sink d us ∧
      Desk.Alike (afterAll network sink (after network sink d p) us)
        (after network sink (afterAll network sink d us) p) := by
  induction us generalizing d with
  | nil => exact ⟨rfl, rfl, .refl _⟩
  | cons u us ih =>
    have hu : Apart account? p u := hapart u List.mem_cons_self
    have hu' : Apart account? u p := fun a ha ha' => hu a ha' ha
    obtain ⟨hreport, hreports, halike⟩ :=
      ih (fun v hv => hapart v (List.mem_cons_of_mem u hv)) (after network sink d u)
    -- first past `u`, and then past the rest
    obtain ⟨hrest, hend⟩ := reports_of_alike network hsink (alike_after network hsink hu d) us
    refine ⟨hreport.trans (report_after network hsink hu d), ?_, hend.trans halike⟩
    rw [reports, reports, report_after network hsink hu' d, hrest, hreports]

omit hsink in
theorem reports_append (d : Desk (Queued ρ)) (ps qs : List (Parcel ρ)) :
    reports network sink d (ps ++ qs) =
      reports network sink d ps ++ reports network sink (afterAll network sink d ps) qs := by
  induction ps generalizing d with
  | nil => rfl
  | cons p ps ih =>
    rw [List.cons_append, reports, reports, ih]
    rfl

omit hsink in
theorem afterAll_cons (d : Desk (Queued ρ)) (p : Parcel ρ) (ps : List (Parcel ρ)) :
    afterAll network sink d (p :: ps) = afterAll network sink (after network sink d p) ps :=
  List.foldl_cons ..

omit hsink in
theorem afterAll_append (d : Desk (Queued ρ)) (ps qs : List (Parcel ρ)) :
    afterAll network sink d (ps ++ qs) =
      afterAll network sink (afterAll network sink d ps) qs :=
  List.foldl_append

omit hsink in
theorem map_fst_reports (d : Desk (Queued ρ)) (ps : List (Parcel ρ)) :
    (reports network sink d ps).map Prod.fst = ps := by
  induction ps generalizing d with
  | nil => rfl
  | cons p ps ih => rw [reports, List.map_cons, ih]

/-- **A run in another order has the same reports in that order**, and ends at a desk that is alike. -/
theorem reports_reorder {ps qs : List (Parcel ρ)} (h : Reorders account? ps qs) (d : Desk (Queued ρ)) :
    Reorders (fun r => account? r.1) (reports network sink d ps) (reports network sink d qs) ∧
      Desk.Alike (afterAll network sink d ps) (afterAll network sink d qs) := by
  induction ps generalizing d qs with
  | nil =>
    obtain rfl := h.perm.nil_eq
    exact ⟨.refl _, .refl _⟩
  | cons p ps ih =>
    obtain ⟨us, vs, rfl, hapart, hrest⟩ := h.exists_middle
    obtain ⟨hreports, halike⟩ := ih hrest (after network sink d p)
    obtain ⟨hfront, hpassed, hmoved⟩ := reports_front network hsink hapart d
    obtain ⟨hlater, hend⟩ := reports_of_alike network hsink hmoved vs
    have hpast : ∀ r ∈ reports network sink d us,
        Apart (fun r : Parcel ρ × Report => account? r.1) (p, report network sink d p) r := by
      intro r hr
      refine hapart r.1 ?_
      rw [← map_fst_reports network d us]
      exact List.mem_map_of_mem hr
    constructor
    · have hright : reports network sink d (us ++ p :: vs) =
          reports network sink d us ++ (p, report network sink d p) ::
            reports network sink (after network sink (afterAll network sink d us) p) vs := by
        rw [reports_append, ← hfront]
        rfl
      rw [reports_append, hpassed, hlater] at hreports
      rw [hright]
      exact (hreports.cons (p, report network sink d p)).trans (.middle hpast _)
    · rw [afterAll_append] at halike ⊢
      exact halike.trans hend

end

/-! ## 5.  Sinks that are told nothing -/

section

variable (network : SteadyNetwork ρ) (sink : Option (ErrorSink LogLine (Queued ρ)))
  {d : Desk (Queued ρ)} {p q : Parcel ρ}

/-- A sink that is told nothing may be left out. -/
theorem act_of_isLegible (h : p.IsLegible d) : p.act network sink d = p.act network none d :=
  Desk.dispatch_eq_of_canTell network.steady p.steady sink p.request h

theorem after_of_isLegible (h : p.IsLegible d) :
    after network sink d p = after network none d p := by
  rw [after, act_of_isLegible network sink h, after]

theorem report_of_isLegible (h : p.IsLegible d) :
    report network sink d p = report network none d p := by
  rw [report, act_of_isLegible network sink h, report]

/-- What is legible stays so. -/
theorem IsLegible.after (h : p.IsLegible d) (hq : q.IsLegible d) :
    p.IsLegible (after network sink d q) := by
  intro nonce tx htx
  rw [after_of_isLegible network sink hq]
  exact (Desk.HasFootprint.canTell_next (act_hasFootprint network (by simp) q) d tx).trans
    (h nonce tx htx)

theorem reports_of_isLegible {ps : List (Parcel ρ)} (h : ∀ p ∈ ps, p.IsLegible d) :
    reports network sink d ps = reports network none d ps ∧
      afterAll network sink d ps = afterAll network none d ps := by
  induction ps generalizing d with
  | nil => exact ⟨rfl, by simp only [afterAll, List.foldl_nil]⟩
  | cons p ps ih =>
    have hp := h p List.mem_cons_self
    have hrest : ∀ q ∈ ps, q.IsLegible (Parcel.after network none d p) := fun q hq =>
      IsLegible.after network none (h q (List.mem_cons_of_mem p hq)) hp
    obtain ⟨hreports, hend⟩ := ih hrest
    constructor
    · rw [reports, reports, report_of_isLegible network sink hp, after_of_isLegible network sink hp,
        hreports]
    · rw [afterAll_cons, afterAll_cons, after_of_isLegible network sink hp, hend]

end

/-- At a desk the order of dispatches for different accounts is free. -/
structure IsOrderFree (network : SteadyNetwork ρ) (sink : Option (ErrorSink LogLine (Queued ρ)))
    (d : Desk (Queued ρ)) : Prop where
  /-- Two dispatches for different accounts come to the same in either order, and the desks after them
  are alike. -/
  swap : ∀ p q : Parcel ρ, Apart account? p q → SinkIsSteady sink d [p, q] →
    report network sink (after network sink d q) p = report network sink d p ∧
      report network sink (after network sink d p) q = report network sink d q ∧
      Desk.Alike (after network sink (after network sink d p) q)
        (after network sink (after network sink d q) p)
  /-- A run whose order within each account is kept comes to the same, dispatch by dispatch, and the
  desks after it are alike. -/
  reorder : ∀ ps qs : List (Parcel ρ), Reorders account? ps qs → SinkIsSteady sink d ps →
    Reorders (fun r => account? r.1) (reports network sink d ps) (reports network sink d qs) ∧
      Desk.Alike (afterAll network sink d ps) (afterAll network sink d qs)

theorem isOrderFree_of_isSteady (network : SteadyNetwork ρ)
    {sink : Option (ErrorSink LogLine (Queued ρ))} (hsink : ∀ tell ∈ sink, ErrorSink.IsSteady tell)
    (d : Desk (Queued ρ)) : IsOrderFree network sink d where
  swap _ _ hapart _ :=
    ⟨report_after network hsink hapart d,
      report_after network hsink (fun a ha ha' => hapart a ha' ha) d,
      alike_after network hsink hapart d⟩
  reorder _ _ h _ := reports_reorder network hsink h d

/-- **Dispatches for different accounts may come in any order**, whatever the book, the queue and the
counters are. -/
theorem isOrderFree (network : SteadyNetwork ρ) (sink : Option (ErrorSink LogLine (Queued ρ)))
    (d : Desk (Queued ρ)) : IsOrderFree network sink d where
  swap := by
    rintro p q hapart (hsink | hlegible)
    · exact (isOrderFree_of_isSteady network hsink d).swap p q hapart (.inl hsink)
    · have hp := hlegible p (by simp)
      have hq := hlegible q (by simp)
      rw [report_of_isLegible network sink (hp.after network sink hq),
        report_of_isLegible network sink (hq.after network sink hp),
        after_of_isLegible network sink (hp.after network sink hq),
        after_of_isLegible network sink (hq.after network sink hp),
        report_of_isLegible network sink hp, report_of_isLegible network sink hq,
        after_of_isLegible network sink hp, after_of_isLegible network sink hq]
      exact (isOrderFree_of_isSteady network (by simp) d).swap p q hapart (.inl (by simp))
  reorder := by
    rintro ps qs h (hsink | hlegible)
    · exact (isOrderFree_of_isSteady network hsink d).reorder ps qs h (.inl hsink)
    · have hlegible' : ∀ q ∈ qs, q.IsLegible d := fun q hq => hlegible q (h.perm.mem_iff.mpr hq)
      obtain ⟨hreports, hend⟩ := reports_of_isLegible network sink hlegible
      obtain ⟨hreports', hend'⟩ := reports_of_isLegible network sink hlegible'
      rw [hreports, hreports', hend, hend']
      exact (isOrderFree_of_isSteady network (by simp) d).reorder ps qs h (.inl (by simp))

end Parcel

namespace TwoAccounts

/-- A network that gives everybody the nonce five. -/
def network : SteadyNetwork Unit where
  source _ _ := pure (.int 5)
  answer _ _ := .ok (.int 5)
  steady _ _ := ⟨fun _ => rfl, fun _ => rfl⟩

/-- An account sends by force, and its transaction is its nonce. -/
def parcel (sender : String) : Parcel Unit where
  chain := 1
  request :=
    { sender := .text sender
      terms := .terms ⟨.int 2, .int 100, .int 60, .int 5⟩
      force := .bool true }
  send nonce := pure nonce
  outcome nonce := .ok nonce
  steady _ := ⟨fun _ => rfl, fun _ => rfl⟩

/-- The account of forty ones sends. -/
def ones : Parcel Unit := parcel "0x1111111111111111111111111111111111111111"

/-- The account of forty twos sends. -/
def twos : Parcel Unit := parcel "0x2222222222222222222222222222222222222222"

/-- Each sends with the nonce five, whoever is first. -/
theorem free_onesTwos :
    Apart Parcel.account? ones twos ∧
      Parcel.report network none (Parcel.after network none Crowd.desk twos) ones =
        ⟨.ok (.int 5), [.int 5]⟩ := by
  have hapart : Apart Parcel.account? ones twos := by
    intro a ha ha'
    have hones : Parcel.account? ones = some (.uniform 1) := rfl
    have htwos : Parcel.account? twos = some (.uniform 2) := rfl
    rw [hones] at ha
    rw [htwos, ← ha] at ha'
    exact absurd ha' (by decide)
  refine ⟨hapart, ?_⟩
  rw [((Parcel.isOrderFree network none Crowd.desk).swap ones twos hapart (.inl (by simp))).1]
  rfl

end TwoAccounts

end Outbox
