import Mathlib.Data.List.Forall2
import Outbox.Proofs.Accounting
import Outbox.Proofs.Capacity
import Outbox.Proofs.Lines

/-!
# Spellings make no difference

An account has many spellings, and whoever writes to the library picks one.  If two of them were ever
kept apart, one account would have two sequences of nonces or two lines in a queue, and what is sent
for one of them would be refused for the other.  So every place at which a sender may be named has to
accept the name before anything is looked up, noted or asked, and that is a statement about all of
them together.

The statement is about two sessions that differ in their spellings only (`Respells`), and says that
they are one and the same: each step ends with the same result, takes the same notes --- who was asked,
for whom, and what was logged --- and leaves the same desk (`session_respelled`).  The gate may be the
queue or any other, and nothing is assumed of the network, the callbacks and the sinks.

## Which spellings there are

`Address.spellings` has seven of an account: its checksummed text, and its digits in lower and in upper
case behind each of three prefixes.  All of them are accepted (`accept_of_mem_spellings`).
-/

namespace Outbox

/-! ## 1.  Spellings of an account -/

namespace Address

open Text

/-- Both values are texts that are accepted as senders, and they spell the same account. -/
def Respells (v w : Value) : Prop :=
  ∃ (s t : String) (a : Address), v = .text s ∧ w = .text t ∧ spelled? s.toList = some a ∧
    spelled? t.toList = some a ∧ (accept v).isOk ∧ (accept w).isOk

/-- A text is accepted as the account that it spells or not at all. -/
theorem accept_of_spelled? {s : String} {a : Address} (hspelled : spelled? s.toList = some a)
    (hok : (accept (.text s)).isOk) : accept (.text s) = .ok a := by
  cases haccept : accept (.text s) with
  | error e => simp [haccept, Except.isOk, Except.toBool] at hok
  | ok b =>
    unfold accept at haccept
    simp only [hspelled] at haccept
    split at haccept
    · exact absurd haccept (by simp)
    · split at haccept
      · exact absurd haccept (by simp)
      · split at haccept
        · exact absurd haccept (by simp)
        · exact haccept.symm

/-- Two spellings of one account are accepted as that account. -/
theorem Respells.accept_eq {v w : Value} (h : Respells v w) : accept v = accept w := by
  obtain ⟨s, t, a, rfl, rfl, hs, ht, hv, hw⟩ := h
  rw [accept_of_spelled? hs hv, accept_of_spelled? ht hw]

/-- The digits of an account, letters in upper case. -/
def upperDigits (a : Address) : List Char := a.nibbles.map Nibble.upperDigit

/-- What may stand before the digits of an account. -/
def headings : List (List Char) := [[], ['0', 'x'], ['0', 'X']]

/-- The spellings of an account: its text, and its digits in one case behind any heading. -/
def spellings (a : Address) : List String :=
  a.text :: headings.flatMap fun heading =>
    [String.ofList (heading ++ a.lowerDigits), String.ofList (heading ++ a.upperDigits)]

/-- What follows a heading is found, if it cannot be taken for a part of one. -/
theorem unprefixed_append {heading cs : List Char} (hheading : heading ∈ headings)
    (hx : 'x' ∉ cs) (hX : 'X' ∉ cs) : unprefixed (heading ++ cs) = cs := by
  simp only [headings, List.mem_cons, List.not_mem_nil, or_false] at hheading
  obtain rfl | rfl | rfl := hheading
  · rw [List.nil_append]
    unfold unprefixed
    split
    · exact absurd (by simp) hx
    · exact absurd (by simp) hX
    · rfl
  · rfl
  · rfl

section

variable {digit : Nibble → Char} {a : Address}

theorem nibbles?_map (hread : ∀ n, nibble? (digit n) = some n) (ns : List Nibble) :
    nibbles? (ns.map digit) = some ns := by
  induction ns with
  | nil => rfl
  | cons n ns ih => rw [List.map_cons, nibbles?, hread, ih]

/-- No digit is taken for a part of a heading. -/
theorem unprefixed_heading (hread : ∀ n, nibble? (digit n) = some n) {heading : List Char}
    (hheading : heading ∈ headings) (ns : List Nibble) :
    unprefixed (heading ++ ns.map digit) = ns.map digit := by
  have hmark {c : Char} (hc : nibble? c = none) : c ∉ ns.map digit := by
    intro hmem
    obtain ⟨n, -, rfl⟩ := List.mem_map.mp hmem
    exact absurd (hread n) (by simp [hc])
  exact unprefixed_append hheading (hmark (by decide)) (hmark (by decide))

/-- Digits in one case are accepted behind any heading. -/
theorem accept_heading (hread : ∀ n, nibble? (digit n) = some n)
    (hcase : (∀ n, (digit n).isUpper = false) ∨ ∀ n, (digit n).isLower = false)
    {heading : List Char} (hheading : heading ∈ headings) (ha : a ≠ zero) :
    accept (.text (String.ofList (heading ++ a.nibbles.map digit))) = .ok a := by
  have hdigits := unprefixed_heading hread hheading a.nibbles
  have hspelled : spelled? (heading ++ a.nibbles.map digit) = some a := by
    simp [spelled?, hdigits, ofDigits?, nibbles?_map hread]
  have hboth : hasBothCases (a.nibbles.map digit) = false := by
    unfold hasBothCases
    rcases hcase with h | h <;> simp [h]
  have hne : a.nibbles ≠ [] := by
    intro h
    simpa [h] using a.length_nibbles
  simp [accept, hne, hspelled, hdigits, hboth, ha]

/-- **Every spelling of an account is accepted as that account.** -/
theorem accept_of_mem_spellings (ha : a ≠ zero) {s : String} (hs : s ∈ a.spellings) :
    accept (.text s) = .ok a := by
  rw [spellings, List.mem_cons, List.mem_flatMap] at hs
  obtain rfl | ⟨heading, hheading, hs⟩ := hs
  · exact accept_text ha
  · simp only [List.mem_cons, List.not_mem_nil, or_false] at hs
    obtain rfl | rfl := hs
    · exact accept_heading nibble?_lowerDigit (.inl (by decide)) hheading ha
    · exact accept_heading nibble?_upperDigit (.inr (by decide)) hheading ha

/-- A text that is accepted spells the account. -/
theorem spelled?_of_accept {s : String} (h : accept (.text s) = .ok a) :
    spelled? s.toList = some a := by
  cases hspelled : spelled? s.toList with
  | none =>
    simp only [accept, hspelled] at h
    split at h <;> exact absurd h (by simp)
  | some b => rw [← Except.ok.inj (h.symm.trans (accept_of_spelled? hspelled (by rw [h]; rfl)))]

/-- Any two spellings of an account are spellings of one account. -/
theorem respells_of_mem_spellings (ha : a ≠ zero) {s t : String} (hs : s ∈ a.spellings)
    (ht : t ∈ a.spellings) : Respells (.text s) (.text t) := by
  have haccept := accept_of_mem_spellings ha hs
  have haccept' := accept_of_mem_spellings ha ht
  refine ⟨s, t, a, rfl, rfl, spelled?_of_accept haccept, spelled?_of_accept haccept', ?_, ?_⟩
  · rw [haccept]
    rfl
  · rw [haccept']
    rfl

end

end Address

/-! ## 2.  Operations, requests and steps -/

namespace PendingQueue

/-- The operation with the sender spelled in another way. -/
def Operation.respell (w : Value) : Operation → Operation
  | .addSigner _ => .addSigner w
  | .removeSigner _ => .removeSigner w
  | .insert tx given _ => .insert tx given w
  | .markMined _ hash => .markMined w hash
  | .canQueue _ => .canQueue w
  | .canSign _ => .canSign w
  | .pending _ => .pending w

theorem forSender_respell {α : Type} {v w : Value} (h : Address.Respells v w)
    (f : Address → Act LogLine PendingQueue α) : forSender w f = forSender v f := by
  rw [forSender, forSender, h.accept_eq]

theorem map_forSender_respell {α : Type} {v w : Value} (h : Address.Respells v w) (g : α → Reply)
    (f : Address → Act LogLine PendingQueue α) : g <$> forSender w f = g <$> forSender v f := by
  rw [forSender_respell h]

/-- No operation looks at the spelling. -/
theorem Operation.act_respell {op : Operation} {w : Value} (h : Address.Respells op.spelled w) :
    (op.respell w).act = op.act := by
  cases op with
  | insert tx given spelled =>
    show (fun _ => Reply.nothing) <$> PendingQueue.insert tx given w = _
    unfold PendingQueue.insert
    simp only [forSender_respell h]
    rfl
  | addSigner spelled => exact map_forSender_respell h _ _
  | removeSigner spelled => exact map_forSender_respell h _ _
  | markMined spelled hash => exact map_forSender_respell h _ _
  | canQueue spelled => exact map_forSender_respell h _ _
  | canSign spelled => exact map_forSender_respell h _ _
  | pending spelled => exact map_forSender_respell h _ _

/-- No new queue looks at the spellings of its signers. -/
theorem create_respelled {signers signers' : List Value}
    (h : List.Forall₂ (fun v w => w = v ∨ Address.Respells v w) signers signers')
    (capacity : Value) : create capacity signers' = create capacity signers := by
  have hstep {v w : Value} (hvw : w = v ∨ Address.Respells v w) (q : PendingQueue) :
      enrollSpelled q w = enrollSpelled q v := by
    rcases hvw with rfl | hvw
    · rfl
    · rw [enrollSpelled, enrollSpelled, hvw.accept_eq]
  have hall (q : PendingQueue) : signers'.foldlM enrollSpelled q = signers.foldlM enrollSpelled q := by
    induction h generalizing q with
    | nil => rfl
    | cons hvw _ ih => simp only [List.foldlM_cons, hstep hvw, ih]
  unfold create
  exact congrArg _ (funext fun limit => hall { capacity := limit })

end PendingQueue

/-- A step of a session at a desk in whose world there is a queue: the desk is used, or asked for the
nonce of an account, or something is asked of the queue. -/
inductive Step (ρ : Type) where
  | desk (use : Use LogLine (Queued ρ))
  | nonceFor (account : Value)
  | ask (op : PendingQueue.Operation)

namespace Step

variable {ρ : Type}

/-- What is done. -/
def act : Step ρ → Act (Deed LogLine) (Desk (Queued ρ)) Reply
  | .desk use => .value <$> use.act
  | .nonceFor account => fun d =>
    ⟨((d.nonceFor account).mapError RequestError.fault).map .nonce?, [], d⟩
  | .ask op => Desk.outside (Queued.onQueue op.act)

/-- How a sender is spelled in the step, if one is.  A single settlement is for a key. -/
def spelled? : Step ρ → Option Value
  | .desk (.dispatch _ _ _ _ request _) => some request.sender
  | .desk (.settle ..) => none
  | .nonceFor account => some account
  | .ask op => some op.spelled

/-- The step with the sender spelled in another way. -/
def respell (w : Value) : Step ρ → Step ρ
  | .desk (.dispatch gate source sink chain request send) =>
    .desk (.dispatch gate source sink chain { request with sender := w } send)
  | .desk (.settle source chain account send) => .desk (.settle source chain account send)
  | .nonceFor _ => .nonceFor w
  | .ask op => .ask (op.respell w)

/-- The two steps are the same but for the spelling of a sender. -/
def Respelled (step step' : Step ρ) : Prop :=
  step' = step ∨ ∃ v w, step.spelled? = some v ∧ Address.Respells v w ∧ step' = step.respell w

/-- A request is accepted in any spelling of its sender as it is in another. -/
theorem accept_respell {request : Request} {w : Value} (h : Address.Respells request.sender w) :
    Request.accept { request with sender := w } = request.accept := by
  unfold Request.accept
  rw [h.accept_eq]

/-- **No step looks at the spelling.** -/
theorem act_respelled {step step' : Step ρ} (h : Respelled step step') : step'.act = step.act := by
  obtain rfl | ⟨v, w, hspelled, hvw, rfl⟩ := h
  · rfl
  cases step with
  | desk use =>
    cases use with
    | settle source chain account send => rfl
    | dispatch gate source sink chain request send =>
      obtain rfl : request.sender = v := Option.some.inj hspelled
      show Reply.value <$> Desk.dispatch gate source sink chain { request with sender := w } send =
        Reply.value <$> Desk.dispatch gate source sink chain request send
      -- the check is the only place at which a dispatch looks at the sender as it was given
      unfold Desk.dispatch Desk.checked
      rw [accept_respell hvw]
      rfl
  | nonceFor account =>
    obtain rfl : account = v := Option.some.inj hspelled
    funext d
    simp only [respell, act, Desk.nonceFor, hvw.accept_eq]
  | ask op =>
    obtain rfl : op.spelled = v := Option.some.inj hspelled
    simp only [respell, act, PendingQueue.Operation.act_respell hvw]

/-! ## 3.  Sessions -/

/-- What comes of several steps, one after another. -/
def play : List (Step ρ) → Desk (Queued ρ) → List (Outcome (Deed LogLine) (Desk (Queued ρ)) Reply)
  | [], _ => []
  | step :: steps, d => step.act d :: play steps (step.act d).next

/-- What comes of a session that begins with the making of a queue. -/
def session (capacity : Value) (signers : List Value) (book : NonceBook) (counters : Counters)
    (rest : ρ) (steps : List (Step ρ)) :
    Except Fault (List (Outcome (Deed LogLine) (Desk (Queued ρ)) Reply)) :=
  (PendingQueue.create capacity signers).map fun queue => play steps ⟨book, counters, queue, rest⟩

theorem play_respelled {steps steps' : List (Step ρ)} (h : List.Forall₂ Respelled steps steps')
    (d : Desk (Queued ρ)) : play steps' d = play steps d := by
  induction h generalizing d with
  | nil => rfl
  | cons hstep _ ih => rw [play, play, act_respelled hstep, ih]

/-- **Spellings make no difference.**  If the signers of the queue and the senders in the steps of a
session are spelled in other ways, everything that comes of the session is the same: the results, what
is asked of whom, what is logged, and the desk after each step. -/
theorem session_respelled {signers signers' : List Value} {steps steps' : List (Step ρ)}
    (hsigners : List.Forall₂ (fun v w => w = v ∨ Address.Respells v w) signers signers')
    (hsteps : List.Forall₂ Respelled steps steps') (capacity : Value) (book : NonceBook)
    (counters : Counters) (rest : ρ) :
    session capacity signers' book counters rest steps' =
      session capacity signers book counters rest steps := by
  unfold session
  rw [PendingQueue.create_respelled hsigners]
  exact congrArg (fun f => Except.map f _) (funext fun queue => play_respelled hsteps _)

end Step

namespace TwoSpellings

/-- The account of forty tens, with small letters. -/
def lower : Value := .text "0xaaaaaaaaaaaaaaaaaaaaaaaaaaaaaaaaaaaaaaaa"

/-- The same account, with capital ones. -/
def upper : Value := .text "0XAAAAAAAAAAAAAAAAAAAAAAAAAAAAAAAAAAAAAAAA"

theorem respells : Address.Respells lower upper :=
  ⟨_, _, .uniform (.ofNat 10), rfl, rfl, rfl, rfl, rfl, rfl⟩

/-- The account is asked for its nonce and sends a transaction, and then the queue is asked for what
waits for it. -/
def steps (sender : Value) : List (Step Unit) :=
  [.nonceFor sender,
    .desk (.dispatch Queued.gate (fun _ _ => pure (.int 5)) none 1
      { sender, terms := .terms ⟨.int 2, .int 100, .int 60, .int 5⟩ } fun nonce => pure nonce),
    .ask (.pending sender)]

theorem steps_respelled : List.Forall₂ Step.Respelled (steps lower) (steps upper) :=
  .cons (.inr ⟨lower, upper, rfl, respells, rfl⟩) <|
    .cons (.inr ⟨lower, upper, rfl, respells, rfl⟩) <|
      .cons (.inr ⟨lower, upper, rfl, respells, rfl⟩) .nil

/-- Nobody can tell which spelling was used. -/
theorem session_upper :
    Step.session (.int 1) [upper] .empty .empty () (steps upper) =
      Step.session (.int 1) [lower] .empty .empty () (steps lower) :=
  Step.session_respelled (.cons (.inr respells) .nil) steps_respelled (.int 1) .empty .empty ()

end TwoSpellings

end Outbox
