import Outbox.Broadcast

/-!
# What a broadcast asks, and what it signs

To broadcast a transaction is to ask a node and an account at most four things: a price, an
estimate, a signature and the delivery.  Each may be answered by a fault.  This file says which of
them are asked and in which order, what is shown to whom, and what comes back.

## Exchanges

An `Exchange` is a question with its answer.  `Leads` says that a row of exchanges is how a node
and an account answer, one question after another, beginning in some state of the world.

## What is promised

A `Draft` is what a transaction is made of: the fields that are given, the account, the nonce,
the chain, and the cap.  `Draft.plan` has the steps that it takes, and `Draft.IsBroadcast` what is
promised of the exchanges and the result.  **Every broadcast keeps the promise**
(`send_isBroadcast`).  The last thing done is to write the nonce into the log, and this is the one
thing that can fail besides the four answers.

## How it is proved

`Draft.Progress` is what holds of the exchanges while nothing has failed.  It is kept by an answer
that is no fault (`Progress.ask`), a fault makes a broadcast of it (`Progress.fail`), and so does
the end (`Progress.finish`).  `Draft.Ends` carries this through the act from its end to its
beginning, and there is one rule for asking (`Progress.ends_ask`).
-/

namespace Outbox

/-- A line of the log. -/
def BroadcastNote.isLine : BroadcastNote → Bool
  | .logs _ => true
  | _ => false

/-- If the node answers the question for its price, then with a whole number of wei that can be
written in gwei. -/
def Node.PriceInRange {σ : Type} (node : Node σ) (s : σ) : Prop :=
  ∀ v, (node.gasPrice s).result = .ok v → ∃ price : Int, price ≤ Gwei.maxWei ∧ v = .int price

namespace Broadcast

variable {σ α : Type}

/-! ## 1.  Exchanges -/

/-- The steps of a broadcast. -/
inductive Step where
  | price
  | estimate
  | signature
  | delivery
  deriving DecidableEq

/-- A question to the node or to the account. -/
inductive Question where
  | price
  | estimate (fields : Fields)
  | signature (fields : Fields)
  | delivery (raw : List UInt8)

namespace Question

/-- What a question may be answered with. -/
def Answer : Question → Type
  | .price => Value
  | .estimate _ => Value
  | .signature _ => Signed
  | .delivery _ => Unit

/-- The step to which a question belongs. -/
def step : Question → Step
  | .price => .price
  | .estimate _ => .estimate
  | .signature _ => .signature
  | .delivery _ => .delivery

/-- What is noted of a question. -/
def note : Question → BroadcastNote
  | .price => .asksPrice
  | .estimate fields => .estimates fields
  | .signature fields => .signs fields
  | .delivery raw => .sends raw

/-- The act of asking. -/
def ask (node : Node σ) (signer : Signer σ) : (q : Question) → Act Empty σ q.Answer
  | .price => node.gasPrice
  | .estimate fields => node.estimateGas fields
  | .signature fields => signer.sign fields
  | .delivery raw => node.sendRaw raw

end Question

/-- A question with its answer. -/
structure Exchange where
  question : Question
  answer : Except Fault question.Answer

/-- The fault with which a question was answered, if it was. -/
def Exchange.fault? (x : Exchange) : Option Fault :=
  match x.answer with
  | .ok _ => none
  | .error e => some e

@[simp] theorem Exchange.fault?_ok (q : Question) (a : q.Answer) : fault? ⟨q, .ok a⟩ = none := rfl

@[simp] theorem Exchange.fault?_error (q : Question) (e : Fault) : fault? ⟨q, .error e⟩ = some e :=
  rfl

/-- The exchanges are how the node and the account answer, beginning in one state of the world and
ending in another. -/
inductive Leads (node : Node σ) (signer : Signer σ) : σ → List Exchange → σ → Prop
  | nil (s : σ) : Leads node signer s [] s
  | cons (q : Question) {s s' : σ} {t : List Exchange}
      (h : Leads node signer (q.ask node signer s).next t s') :
      Leads node signer s (⟨q, (q.ask node signer s).result⟩ :: t) s'

/-- What is asked: the notes that are no lines of the log. -/
def asked (notes : List BroadcastNote) : List BroadcastNote := notes.filter fun n => !n.isLine

@[simp] theorem asked_append (ms ns : List BroadcastNote) : asked (ms ++ ns) = asked ms ++ asked ns :=
  List.filter_append ..

theorem asked_note (q : Question) : asked [q.note] = [q.note] := by
  cases q <;> rfl

/-! ## 2.  The promise -/

/-- What a transaction is made of. -/
structure Draft where
  given : Fields
  address : String
  nonce : Int
  chain : Int
  /-- The cap on the price, in wei. -/
  limit : Nat

/-- What an answer adds to the fields. -/
def Exchange.written? (limit : Nat) : Exchange → Option (String × Value)
  | ⟨.price, .ok (.int price)⟩ => some ("gasPrice", .int (min price limit))
  | ⟨.estimate _, .ok gas⟩ => some ("gas", gas)
  | _ => none

namespace Draft

variable (d : Draft)

/-- The caller gave a price of neither kind. -/
def IsUnpriced : Prop :=
  "gasPrice" ∉ d.given.map Prod.fst ∧ "maxFeePerGas" ∉ d.given.map Prod.fst

/-- The caller gave no amount of gas. -/
def IsUnfuelled : Prop := "gas" ∉ d.given.map Prod.fst

instance : Decidable d.IsUnpriced := inferInstanceAs (Decidable (_ ∧ _))

instance : Decidable d.IsUnfuelled := inferInstanceAs (Decidable (_ ∉ _))

/-- The steps of a broadcast after the price is known. -/
def planFromEstimate : List Step :=
  (if d.IsUnfuelled then [.estimate] else []) ++ [.signature, .delivery]

/-- The steps of a broadcast, in their order. -/
def plan : List Step := (if d.IsUnpriced then [.price] else []) ++ d.planFromEstimate

/-- The fields that are written over those that are given: the account, the nonce, the chain, and
what the answers add. -/
def written (t : List Exchange) : Fields :=
  [("from", .text d.address), ("nonce", .int d.nonce), ("chainId", .int d.chain)] ++
    t.filterMap (Exchange.written? d.limit)

/-- The fields are those that are given with those that are written over them, and no others. -/
structure Fills (t : List Exchange) (fields : Fields) : Prop where
  lookup_eq : ∀ key, fields.lookup key = ((d.written t).lookup key).or (d.given.lookup key)
  nodup : (d.given.map Prod.fst).Nodup → (fields.map Prod.fst).Nodup

/-- What is shown in a question is as it should be after the exchanges before it.  The fields that
are shown to the node for an estimate have no gas yet, and the bytes that are handed to it are
those that were signed. -/
def Fits (t : List Exchange) : Question → Prop
  | .price => True
  | .estimate fields => d.Fills t fields ∧ fields.lookup "gas" = none
  | .signature fields => d.Fills t fields
  | .delivery raw => ∃ fields signed, ⟨.signature fields, .ok signed⟩ ∈ t ∧ raw = signed.raw

/-- Every question fits the exchanges before it. -/
def AllFit (t : List Exchange) : Prop :=
  ∀ i (hi : i < t.length), d.Fits (t.take i) t[i].question

/-- The transaction that a broadcast returns. -/
def receipt (signed : Signed) (price : Value) : Value :=
  .sent (.text (hashText signed.hash)) (.int d.nonce) (.text d.address) (.int d.chain) price
    (.bytes signed.raw)

/-- What is promised of the exchanges of a broadcast and of its result. -/
structure IsBroadcast (t : List Exchange) (r : Except Fault Value) : Prop where
  /-- The questions are asked in the order of the plan, each at most once. -/
  inOrder : t.map (·.question.step) <+: d.plan
  /-- All of them are asked if none is answered by a fault. -/
  completes : (∀ x ∈ t, x.fault? = none) → t.map (·.question.step) = d.plan
  /-- Nothing is asked after a fault. -/
  stops : ∀ x ∈ t.dropLast, x.fault? = none
  /-- The broadcast fails with the fault of an answer, unchanged, and with no other, unless all has
  been answered and the nonce has too many digits for the log. -/
  fails : ∀ e, r = .error e ↔ (∃ x ∈ t, x.fault? = some e) ∨
    (∀ x ∈ t, x.fault? = none) ∧ (Value.int d.nonce).message = .error e
  fits : d.AllFit t
  /-- The receipt is that of the signed transaction, with the price that this holds. -/
  returns : ∀ v, r = .ok v → ∃ fields signed price, ⟨.signature fields, .ok signed⟩ ∈ t ∧
    (fields.lookup "gasPrice").or (fields.lookup "maxFeePerGas") = some price ∧
    v = d.receipt signed price

/-- The exchanges are those of which an outcome tells, and they are as promised. -/
structure Keeps (node : Node σ) (signer : Signer σ) (s : σ) (t : List Exchange)
    (o : Outcome BroadcastNote σ Value) : Prop where
  leads : Leads node signer s t o.next
  asks : asked o.notes = t.map (·.question.note)
  isBroadcast : d.IsBroadcast t o.result

/-! ## 3.  Progress -/

/-- What holds of the exchanges while nothing has failed and the steps given are still to be
taken. -/
structure Progress (t : List Exchange) (todo : List Step) : Prop where
  inOrder : t.map (·.question.step) ++ todo = d.plan
  quiet : ∀ x ∈ t, x.fault? = none
  fits : d.AllFit t

variable {d} {t : List Exchange} {todo : List Step} {q : Question}

theorem allFit_nil : d.AllFit [] := by
  intro i hi
  exact absurd hi (by simp)

/-- One question more. -/
theorem AllFit.concat (h : d.AllFit t) (hq : d.Fits t q) (r : Except Fault q.Answer) :
    d.AllFit (t ++ [⟨q, r⟩]) := by
  intro i hi
  have hle : i ≤ t.length := by
    simp only [List.length_append, List.length_singleton] at hi
    omega
  rw [List.take_append_of_le_length hle]
  cases Nat.lt_or_eq_of_le hle with
  | inl hlt =>
    rw [List.getElem_append_left hlt]
    exact h i hlt
  | inr hlast =>
    subst hlast
    rw [List.take_length, List.getElem_concat_length rfl]
    exact hq

theorem progress_nil : d.Progress [] d.plan := ⟨rfl, by simp, allFit_nil⟩

/-- An answer that is no fault. -/
theorem Progress.ask (h : d.Progress t (q.step :: todo)) (hq : d.Fits t q) (a : q.Answer) :
    d.Progress (t ++ [⟨q, .ok a⟩]) todo where
  inOrder := by
    rw [List.map_append, List.append_assoc]
    exact h.inOrder
  quiet := by
    intro x hx
    rcases List.mem_append.mp hx with hx | hx
    · exact h.quiet x hx
    · rw [List.mem_singleton.mp hx, Exchange.fault?_ok]
  fits := h.fits.concat hq _

/-- An answer that is a fault is the end. -/
theorem Progress.fail (h : d.Progress t (q.step :: todo)) (hq : d.Fits t q) (e : Fault) :
    d.IsBroadcast (t ++ [⟨q, .error e⟩]) (.error e) where
  inOrder := by
    rw [← h.inOrder, List.map_append]
    exact List.prefix_append_right_inj _ |>.mpr ⟨todo, rfl⟩
  completes := by
    intro hquiet
    have hlast := hquiet ⟨q, .error e⟩ (by simp)
    simp at hlast
  stops := by
    rw [List.dropLast_concat]
    exact h.quiet
  fails := by
    intro e'
    constructor
    · intro he'
      exact .inl ⟨⟨q, .error e⟩, by simp, congrArg some (Except.error.inj he')⟩
    · rintro (⟨x, hx, hfault⟩ | ⟨hquiet, -⟩)
      · rcases List.mem_append.mp hx with hx | hx
        · rw [h.quiet x hx] at hfault
          exact absurd hfault (by simp)
        · rw [List.mem_singleton.mp hx, Exchange.fault?_error] at hfault
          exact congrArg _ (Option.some.inj hfault)
      · exact absurd (hquiet ⟨q, .error e⟩ (by simp)) (by simp)
  fits := h.fits.concat hq _
  returns := by simp

theorem Progress.map_step (h : d.Progress t []) : t.map (·.question.step) = d.plan := by
  rw [← h.inOrder, List.append_nil]

/-- The end of a broadcast in which nothing has failed. -/
theorem Progress.finish {fields : Fields} {signed : Signed} {price : Value} {shown : String}
    (h : d.Progress t []) (hshown : (Value.int d.nonce).message = .ok shown)
    (hsigned : ⟨.signature fields, .ok signed⟩ ∈ t)
    (hprice : (fields.lookup "gasPrice").or (fields.lookup "maxFeePerGas") = some price) :
    d.IsBroadcast t (.ok (d.receipt signed price)) where
  inOrder := ⟨[], by rw [List.append_nil, h.map_step]⟩
  completes := fun _ => h.map_step
  stops := fun x hx => h.quiet x (List.dropLast_subset t hx)
  fails := by
    intro e
    refine iff_of_false (by simp) ?_
    rintro (⟨x, hx, hfault⟩ | ⟨-, hunshown⟩)
    · rw [h.quiet x hx] at hfault
      exact absurd hfault (by simp)
    · rw [hshown] at hunshown
      exact absurd hunshown (by simp)
  fits := h.fits
  returns := by
    rintro v hv
    exact ⟨fields, signed, price, hsigned, hprice, (Except.ok.inj hv).symm⟩

/-- The end of a broadcast whose nonce cannot be written into the log. -/
theorem Progress.finish_unshown {e : Fault} (h : d.Progress t [])
    (hunshown : (Value.int d.nonce).message = .error e) : d.IsBroadcast t (.error e) where
  inOrder := ⟨[], by rw [List.append_nil, h.map_step]⟩
  completes := fun _ => h.map_step
  stops := fun x hx => h.quiet x (List.dropLast_subset t hx)
  fails := by
    intro e'
    constructor
    · intro he'
      exact .inr ⟨h.quiet, by rw [hunshown, Except.error.inj he']⟩
    · rintro (⟨x, hx, hfault⟩ | ⟨-, hunshown'⟩)
      · rw [h.quiet x hx] at hfault
        exact absurd hfault (by simp)
      · exact congrArg _ (Except.error.inj (hunshown.symm.trans hunshown'))
  fits := h.fits
  returns := by simp

/-! ## 4.  Filling in the fields -/

theorem fills_identified :
    d.Fills [] (identified d.address (.int d.nonce) d.chain d.given) where
  lookup_eq := by
    intro key
    simp only [identified, Association.lookup_put, written, List.filterMap_nil, List.append_nil]
    by_cases hchain : key = "chainId"
    · subst hchain
      rfl
    by_cases hnonce : key = "nonce"
    · subst hnonce
      rfl
    by_cases hfrom : key = "from"
    · subst hfrom
      rfl
    rw [if_neg hchain, if_neg hnonce, if_neg hfrom]
    simp [List.lookup_cons, beq_eq_false_iff_ne.mpr hchain, beq_eq_false_iff_ne.mpr hnonce,
      beq_eq_false_iff_ne.mpr hfrom]
  nodup := fun h =>
    Association.nodup_put _ _ (Association.nodup_put _ _ (Association.nodup_put _ _ h))

/-- An answer is written under a key under which there is nothing yet. -/
theorem Fills.put {fields : Fields} {x : Exchange} {key : String} {v : Value}
    (h : d.Fills t fields) (hx : x.written? d.limit = some (key, v))
    (hnew : fields.lookup key = none) : d.Fills (t ++ [x]) (Association.put key v fields) where
  lookup_eq := by
    intro other
    have hwritten : d.written (t ++ [x]) = d.written t ++ [(key, v)] := by
      simp [written, hx]
    rw [Association.lookup_put, hwritten, List.lookup_append, Option.or_assoc]
    by_cases hother : other = key
    · have hnone : (d.written t).lookup key = none := by
        have hor := h.lookup_eq key
        rw [hnew] at hor
        exact (Option.or_eq_none_iff.mp hor.symm).1
      simp [hother, hnone]
    · have hne : (other == key) = false := by simpa using hother
      rw [if_neg hother, h.lookup_eq other]
      simp [List.lookup_cons, hne]
  nodup := fun hnodup => Association.nodup_put _ _ (h.nodup hnodup)

/-! ## 5.  From the end to the beginning -/

variable (d)

/-- After the exchanges so far the act goes on with others to a broadcast. -/
def Ends (node : Node σ) (signer : Signer σ) (t : List Exchange) (x : Act BroadcastNote σ Value)
    (s : σ) : Prop :=
  ∃ more, Leads node signer s more (x s).next ∧
    asked (x s).notes = more.map (·.question.note) ∧ d.IsBroadcast (t ++ more) (x s).result

variable {d} {node : Node σ} {signer : Signer σ} {s : σ}

/-- An act that is over. -/
theorem ends_pure {v : Value} (h : d.IsBroadcast t (.ok v)) : d.Ends node signer t (pure v) s :=
  ⟨[], .nil s, rfl, by rwa [List.append_nil]⟩

/-- An act that fails. -/
theorem ends_fail {x : Act BroadcastNote σ Value} {e : Fault} (hx : x s = ⟨.error e, [], s⟩)
    (h : d.IsBroadcast t (.error e)) : d.Ends node signer t x s := by
  refine ⟨[], ?_, ?_, ?_⟩
  · rw [hx]
    exact .nil s
  · rw [hx]
    rfl
  · rwa [hx, List.append_nil]

/-- An act that asks nothing comes first. -/
theorem Ends.bind_quiet {x : Act BroadcastNote σ α} {f : α → Act BroadcastNote σ Value} {a : α}
    {lines : List BroadcastNote} (hx : x s = ⟨.ok a, lines, s⟩) (hlines : asked lines = [])
    (hf : d.Ends node signer t (f a) s) : d.Ends node signer t (x >>= f) s := by
  obtain ⟨more, hleads, hnotes, hbroadcast⟩ := hf
  have hbind : (x >>= f) s = (f a s).after lines := by
    rw [Act.bind_of_ok (by rw [hx]), hx]
  refine ⟨more, ?_, ?_, ?_⟩
  · rwa [hbind]
  · rw [hbind, Outcome.notes_after, asked_append, hlines, List.nil_append, hnotes]
  · rwa [hbind]

/-- **A question is asked next.** -/
theorem Progress.ends_ask {f : q.Answer → Act BroadcastNote σ Value}
    (h : d.Progress t (q.step :: todo)) (hq : d.Fits t q)
    (hf : ∀ a, (q.ask node signer s).result = .ok a → d.Progress (t ++ [⟨q, .ok a⟩]) todo →
      d.Ends node signer (t ++ [⟨q, .ok a⟩]) (f a) (q.ask node signer s).next) :
    d.Ends node signer t
      (do
        Act.note q.note
        let a ← (q.ask node signer).silent
        f a) s := by
  have hnote : (do
        Act.note q.note
        let a ← (q.ask node signer).silent
        f a : Act BroadcastNote σ Value) s =
      (((q.ask node signer).silent >>= f) s).after [q.note] := rfl
  cases hanswer : (q.ask node signer s).result with
  | error e =>
    have hfailed := Act.bind_of_error (f := f) (x := (q.ask node signer).silent) hanswer
    rw [Act.notes_silent] at hfailed
    rw [Ends, hnote, hfailed]
    have hleads : Leads node signer s [⟨q, (q.ask node signer s).result⟩]
        (q.ask node signer s).next := .cons q (.nil _)
    rw [hanswer] at hleads
    exact ⟨_, hleads, asked_note q, h.fail hq e⟩
  | ok a =>
    have hanswered := Act.bind_of_ok (f := f) (x := (q.ask node signer).silent) hanswer
    rw [Act.notes_silent, Outcome.after_nil] at hanswered
    obtain ⟨more, hleads, hnotes, hbroadcast⟩ := hf a hanswer (h.ask hq a)
    rw [Ends, hnote, hanswered]
    refine ⟨⟨q, .ok a⟩ :: more, ?_, ?_, ?_⟩
    · rw [← hanswer]
      exact .cons q hleads
    · rw [Outcome.notes_after, asked_append, asked_note]
      exact congrArg _ hnotes
    · rwa [List.append_assoc] at hbroadcast

end Draft

/-! ## 6.  The price under the cap -/

/-- What becomes of a whole price under a cap that can be converted. -/
theorem capped_int {cap : Binary64} {limit : Nat} (hcap : Gwei.toWei cap = .ok limit) (price : Int) :
    (capped cap (.int price) : Act BroadcastNote σ Value) =
      if (limit : Int) < price then do
        let gwei ← Act.ofExcept ((Gwei.fromWei (.whole price)).mapError Gwei.Error.fault)
        Act.note
          (.logs ⟨.warning, .broadcast, s!"Gas price {gwei} gwei above cap, using {cap} gwei"⟩)
        return .int limit
      else return .int price := by
  unfold capped
  rw [hcap]
  funext s
  rw [Act.bind_of_ok rfl, Act.ofExcept_eq, Outcome.after_nil]
  simp only [Value.numeral?, Numeral.lt_whole, decide_eq_true_eq]

/-- A price that can be written in gwei is capped, with a line in the log at most. -/
theorem capped_of_le {cap : Binary64} {limit : Nat} (hcap : Gwei.toWei cap = .ok limit) {price : Int}
    (hprice : price ≤ Gwei.maxWei) (s : σ) :
    ∃ lines, capped cap (.int price) s = ⟨.ok (.int (min price limit)), lines, s⟩ ∧
      asked lines = [] := by
  rw [capped_int hcap]
  by_cases habove : (limit : Int) < price
  · obtain ⟨gwei, hgwei⟩ := Gwei.fromWei_of_le (by omega) hprice
    have hmin : min price limit = limit := by omega
    rw [if_pos habove, hgwei, hmin]
    exact ⟨_, rfl, rfl⟩
  · have hmin : min price limit = price := by omega
    rw [if_neg habove, hmin]
    exact ⟨[], rfl, rfl⟩

/-- **A price that cannot be written in gwei is a fault.** -/
theorem capped_of_lt {cap : Binary64} {limit : Nat} (hcap : Gwei.toWei cap = .ok limit) {price : Int}
    (hprice : (Gwei.maxWei : Int) < price) (s : σ) :
    (capped cap (.int price) : Act BroadcastNote σ Value) s =
      ⟨.error Gwei.Error.weiOutOfRange.fault, [], s⟩ := by
  have hlimit := Gwei.toWei_le hcap
  rw [capped_int hcap, if_pos (by omega), Gwei.fromWei_of_lt hprice]
  rfl

/-! ## 7.  Every broadcast keeps the promise -/

namespace Draft

variable {d : Draft} {node : Node σ} {signer : Signer σ} {chain : Int} {cap : Binary64}
  {t : List Exchange} {fields : Fields} {s : σ}

/-- Fields that have a price hold it. -/
theorem held_of_hasPrice (h : hasPrice fields = true) :
    (fields.lookup "gasPrice").or (fields.lookup "maxFeePerGas") = some (heldPrice fields) := by
  rw [hasPrice, Association.has, Association.has, ← Option.isSome_or] at h
  obtain ⟨price, hprice⟩ := Option.isSome_iff_exists.mp h
  rw [heldPrice, hprice]
  rfl

theorem isUnpriced_iff : d.IsUnpriced ↔ hasPrice d.given = false := by
  rw [IsUnpriced, hasPrice, Bool.or_eq_false_iff, ← Association.has_iff, ← Association.has_iff,
    Bool.not_eq_true, Bool.not_eq_true]

theorem isUnfuelled_iff : d.IsUnfuelled ↔ Association.has "gas" d.given = false := by
  rw [IsUnfuelled, ← Association.has_iff, Bool.not_eq_true]

/-- Complete fields are signed, and what is signed is handed to the node. -/
theorem ends_deliver (hsigner : signer.address = d.address)
    (h : d.Progress t [.signature, .delivery]) (hfills : d.Fills t fields)
    (hprice : hasPrice fields = true) :
    d.Ends node signer t (deliver node signer d.chain (.int d.nonce) fields) s := by
  refine Progress.ends_ask (q := .signature fields) h hfills fun signed _ hsigned => ?_
  have hmem : ⟨.signature fields, .ok signed⟩ ∈ t ++ [⟨.signature fields, .ok signed⟩] := by simp
  refine Progress.ends_ask (q := .delivery signed.raw) hsigned ⟨fields, signed, hmem, rfl⟩
    fun _ _ hdelivered => ?_
  dsimp only
  cases hshown : (Value.int d.nonce).message with
  | error e =>
    have hline : sentLine (hashText signed.hash) signer.address (.int d.nonce) = .error e := by
      rw [sentLine, hshown]
      rfl
    refine ends_fail ?_ (hdelivered.finish_unshown hshown)
    rw [hline]
    rfl
  | ok shown =>
    have hline : sentLine (hashText signed.hash) signer.address (.int d.nonce) =
        .ok s!"Sent tx {hashText signed.hash} from {signer.address} with nonce {shown}" := by
      rw [sentLine, hshown]
      rfl
    rw [hline]
    refine Ends.bind_quiet (Act.ofExcept_eq _ _) rfl ?_
    refine Ends.bind_quiet (Act.note_eq _ _) rfl ?_
    rw [hsigner]
    refine ends_pure (hdelivered.finish hshown ?_ (held_of_hasPrice hprice))
    exact List.mem_append_left _ hmem

/-- Gas is estimated if the caller gave none. -/
theorem ends_withGas {f : Fields → Act BroadcastNote σ Value}
    (h : d.Progress t d.planFromEstimate) (hfills : d.Fills t fields)
    (hprice : hasPrice fields = true)
    (hgas : Association.has "gas" fields = Association.has "gas" d.given)
    (hf : ∀ t fields s, d.Progress t [.signature, .delivery] → d.Fills t fields →
      hasPrice fields = true → d.Ends node signer t (f fields) s) :
    d.Ends node signer t (withGas node fields >>= f) s := by
  unfold withGas
  rw [hgas]
  unfold planFromEstimate at h
  cases hgiven : Association.has "gas" d.given with
  | true =>
    rw [if_neg (by simp [isUnfuelled_iff, hgiven])] at h
    exact Ends.bind_quiet (Act.pure_eq _ _) rfl (hf t fields s h hfills hprice)
  | false =>
    rw [if_pos (isUnfuelled_iff.mpr hgiven)] at h
    have hnew : fields.lookup "gas" = none := by
      rw [hgiven] at hgas
      simpa [Association.has] using hgas
    simp only [Bool.false_eq_true, if_false, bind_assoc, pure_bind]
    refine Progress.ends_ask (q := .estimate fields) h ⟨hfills, hnew⟩
      fun (gas : Value) _ hestimated => ?_
    refine hf _ _ _ hestimated (hfills.put rfl hnew) ?_
    simpa only [hasPrice, Association.has_put, String.reduceEq, decide_false,
      Bool.false_or] using hprice

/-- The node is asked for its price if the caller gave none, and the price is capped. -/
theorem ends_withPrice {f : Fields → Act BroadcastNote σ Value}
    (hcap : Gwei.toWei cap = .ok d.limit) (hnode : node.PriceInRange s)
    (hfills : d.Fills [] fields) (hprice : hasPrice fields = hasPrice d.given)
    (hf : ∀ t fields s, d.Progress t d.planFromEstimate → d.Fills t fields →
      hasPrice fields = true → Association.has "gas" fields = Association.has "gas" d.given →
      d.Ends node signer t (f fields) s) :
    d.Ends node signer [] (withPrice node cap fields >>= f) s := by
  have h : d.Progress [] d.plan := progress_nil
  have hgas : Association.has "gas" fields = Association.has "gas" d.given := by
    rw [Association.has, hfills.lookup_eq]
    rfl
  unfold withPrice
  unfold plan at h
  cases hgiven : hasPrice d.given with
  | true =>
    rw [if_neg (by simp [isUnpriced_iff, hgiven])] at h
    rw [hgiven] at hprice
    rw [hprice]
    exact Ends.bind_quiet (Act.pure_eq _ _) rfl (hf [] fields s h hfills hprice hgas)
  | false =>
    rw [if_pos (isUnpriced_iff.mpr hgiven)] at h
    rw [hprice, hgiven, price]
    simp only [Bool.false_eq_true, if_false, bind_assoc, pure_bind]
    refine Progress.ends_ask (q := .price) h trivial fun v hv hasked => ?_
    obtain ⟨price, hle, rfl⟩ := hnode v hv
    obtain ⟨lines, hcapped, hlines⟩ := capped_of_le hcap hle (node.gasPrice s).next
    refine Ends.bind_quiet hcapped hlines ?_
    have hnew : fields.lookup "gasPrice" = none := by
      rw [hgiven, hasPrice, Bool.or_eq_false_iff] at hprice
      simpa [Association.has] using hprice.1
    refine hf _ _ _ hasked (hfills.put rfl hnew) ?_ ?_
    · simp [hasPrice, Association.has_put]
    · simpa only [Association.has_put, String.reduceEq, decide_false, Bool.false_or] using hgas

/-- From no exchanges at all, the whole broadcast. -/
theorem ends_send (d : Draft) (hsigner : signer.address = d.address)
    (hcap : Gwei.toWei cap = .ok d.limit) (hnode : node.PriceInRange s) :
    d.Ends node signer [] (send node signer d.chain cap (.dict d.given) (.int d.nonce)) s := by
  unfold send
  rw [hsigner]
  refine Ends.bind_quiet (Act.ofExcept_eq _ _) rfl ?_
  refine ends_withPrice hcap hnode fills_identified ?_ ?_
  · simp [hasPrice, identified, Association.has_put]
  · intro t priced s hpriced hfills hprice hgas
    refine ends_withGas hpriced hfills hprice hgas ?_
    intro t fields s hcomplete hfills hprice
    exact ends_deliver hsigner hcomplete hfills hprice

end Draft

/-- **Every broadcast keeps the promise.**  The cap can be converted, and if the node answers the
question for its price, then with a whole number that can be written in gwei.  Whatever the caller
gives, and however the node and the account answer, there are exchanges with them of which the
notes tell, in which they answer as they do, and which are as promised. -/
theorem send_isBroadcast (node : Node σ) (signer : Signer σ) (chain : Int) {cap : Binary64}
    {limit : Nat} (given : Fields) (nonce : Int) (s : σ) (hcap : Gwei.toWei cap = .ok limit)
    (hnode : node.PriceInRange s) :
    ∃ t, Draft.Keeps ⟨given, signer.address, nonce, chain, limit⟩ node signer s t
      (send node signer chain cap (.dict given) (.int nonce) s) := by
  obtain ⟨t, hleads, hasks, hbroadcast⟩ :=
    Draft.ends_send ⟨given, signer.address, nonce, chain, limit⟩ rfl hcap hnode
  exact ⟨t, hleads, hasks, hbroadcast⟩

/-- A node with a price. -/
def nodeAt (price : Int) : Node Unit where
  gasPrice := pure (.int price)
  estimateGas _ := pure (.int 21000)
  sendRaw _ := pure ()

/-- An account whose signature shows nothing of what is signed. -/
def blindSigner : Signer Unit where
  address := "0x1111111111111111111111111111111111111111"
  sign _ := pure ⟨[2], [7]⟩

/-- The cap that holds if none is set. -/
theorem toWei_usualCap : Gwei.toWei (.ofInt 500) = .ok 500000000000 := by
  rfl

/-- A node that asks for more than the cap. -/
theorem send_isBroadcast_aboveCap :
    ∃ t, Draft.Keeps ⟨[], blindSigner.address, 5, 1, 500000000000⟩ (nodeAt 600000000000)
      blindSigner () t (send (nodeAt 600000000000) blindSigner 1 (.ofInt 500) (.dict []) (.int 5) ()) := by
  refine send_isBroadcast (nodeAt 600000000000) blindSigner 1 [] 5 () toWei_usualCap ?_
  intro v hv
  exact ⟨600000000000, by decide, (Except.ok.inj hv).symm⟩

end Broadcast
end Outbox
