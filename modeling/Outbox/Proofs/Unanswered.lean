import Outbox.Proofs.Phases

/-!
# Dispatches without a network

A network may be out of reach, or there may be none for a chain.  Whoever asks it for a nonce then gets
the same fault every time, and the question is what becomes of a dispatch.

It need not fail.  The network is asked only if the book has no nonce for the sender, or if the nonce
that the book has was refused as a clash (`Talk.NeedsNetwork`).  A dispatch that comes to this fails, and
its fault has the network's as its cause; any other does not ask the network at all, and so it goes as if
there were one (`Desk.dispatch_of_unanswered`).

Nothing is assumed of the gate, the callback and the sink, and of the network only that all its answers
in this one dispatch are the same fault, which is no order to stop.
-/

namespace Outbox

/-! ## 1.  Settlements -/

/-- A settlement cannot do without the network: the book has no nonce for its account, or the one that
it has was refused as a clash. -/
def Talk.NeedsNetwork (cached : Option Numeral) (t : Talk) : Prop :=
  cached = none ∨ ∃ nonce refusal, Call.send nonce (.error refusal) ∈ t.calls ∧ refusal.IsClash

section

variable {given : Value → Prop} {chain : Int} {account : Key} {cached : Option Numeral} {t : Talk}
  {e : Fault}

/-- Submissions and nonces are a matter of the settlement. -/
theorem Talk.mem_calls_append_iff {t₁ t₂ t₃ : Talk} (h₁ : ∀ call ∈ t₁.calls, call.part ≠ .settlement)
    (h₃ : ∀ call ∈ t₃.calls, call.part ≠ .settlement) {call : Call} (hcall : call.part = .settlement) :
    call ∈ (t₁ ++ t₂ ++ t₃).calls ↔ call ∈ t₂.calls := by
  have h₁' : call ∉ t₁.calls := fun hmem => h₁ call hmem hcall
  have h₃' : call ∉ t₃.calls := fun hmem => h₃ call hmem hcall
  simp [h₁', h₃']

theorem Talk.needsNetwork_append_iff {t₁ t₂ t₃ : Talk}
    (h₁ : ∀ call ∈ t₁.calls, call.part ≠ .settlement)
    (h₃ : ∀ call ∈ t₃.calls, call.part ≠ .settlement) :
    (t₁ ++ t₂ ++ t₃).NeedsNetwork cached ↔ t₂.NeedsNetwork cached := by
  have hsend (nonce : Value) (refusal : Fault) :
      Call.send nonce (.error refusal) ∈ (t₁ ++ t₂ ++ t₃).calls ↔
        Call.send nonce (.error refusal) ∈ t₂.calls := Talk.mem_calls_append_iff h₁ h₃ rfl
  simp only [NeedsNetwork, hsend]

/-- If the network has no nonces, the first nonce is the book's. -/
theorem FirstNonce.of_unanswered {v : Value} (h : FirstNonce given chain account cached t v)
    (hanswers : ∀ answer, Call.nonce chain account.value answer ∈ t.calls → answer = .error e) :
    cached ≠ none ∧ t = [] := by
  cases h with
  | cached n hline => exact ⟨by simp, rfl⟩
  | answered hgiven => exact absurd (hanswers _ (List.mem_singleton.mpr rfl)) (by simp)

/-- If the network has no nonces, a question for one fails with the network's fault as the cause. -/
theorem NoNonce.of_unanswered {f : Fault} (h : NoNonce given chain account t f)
    (he : e.isInterrupt = false)
    (hanswers : ∀ answer, Call.nonce chain account.value answer ∈ t.calls → answer = .error e) :
    f = Desk.notLookedUp e := by
  cases h with
  | unanswered e' =>
    obtain rfl := Except.error.inj (hanswers _ (List.mem_singleton.mpr rfl))
    rw [Fault.rewrite_of_fault _ he]
  | unshown hgiven hline => exact absurd (hanswers _ (List.mem_singleton.mpr rfl)) (by simp)

/-- **If the network has no nonces, a settlement fails that cannot do without it**, and any other does
not ask it. -/
theorem Sending.of_unanswered {ending : Ending} (h : Sending given chain account cached t ending)
    (he : e.isInterrupt = false)
    (hanswers : ∀ answer, Call.nonce chain account.value answer ∈ t.calls → answer = .error e) :
    (t.NeedsNetwork cached → ending = .failed (Desk.notLookedUp e)) ∧
      (¬ t.NeedsNetwork cached → ∀ c a answer, Call.nonce c a answer ∉ t.calls) := by
  have hfirst {t' : Talk} {v : Value} (h : FirstNonce given chain account cached t' v)
      (hcalls : ∀ call ∈ t'.calls, call ∈ t.calls) : cached ≠ none ∧ t' = [] :=
    h.of_unanswered fun answer hanswer => hanswers answer (hcalls _ hanswer)
  cases h with
  | unstarted hnone =>
    cases hnone with
    | unshown n hline =>
      refine ⟨fun hneeds => ?_, fun _ => by simp [Talk.calls]⟩
      rcases hneeds with hnone | ⟨nonce, refusal, hsend, -⟩
      · exact absurd hnone (by simp)
      · simp [Talk.calls] at hsend
    | unasked hnone =>
      rw [hnone.of_unanswered he hanswers]
      exact ⟨fun _ => rfl, fun h => absurd (.inl rfl) h⟩
  | sent h =>
    obtain ⟨hcached, rfl⟩ := hfirst h (by simp +contextual)
    refine ⟨fun hneeds => ?_, fun _ => by simp⟩
    rcases hneeds with hnone | ⟨nonce, refusal, hsend, -⟩
    · exact absurd hnone hcached
    · simp at hsend
  | stopped h hclash =>
    obtain ⟨hcached, rfl⟩ := hfirst h (by simp +contextual)
    refine ⟨fun hneeds => ?_, fun _ => by simp⟩
    rcases hneeds with hnone | ⟨nonce, refusal, hsend, hrefusal⟩
    · exact absurd hnone hcached
    · obtain ⟨-, rfl⟩ : _ ∧ refusal = _ := by simpa using hsend
      exact absurd hrefusal hclash
  | @unsynced _ t' v refusal e' h hclash hnone =>
    rw [hnone.of_unanswered he fun answer hanswer => hanswers answer (by simp [hanswer])]
    exact ⟨fun _ => rfl, fun h => absurd (.inr ⟨v, refusal, by simp, hclash⟩) h⟩
  | @lost _ _ m _ _ h hclash hgiven => exact absurd (hanswers (.ok m) (by simp)) (by simp)
  | @recovered _ _ m _ _ h hclash hgiven => exact absurd (hanswers (.ok m) (by simp)) (by simp)

end

/-! ## 2.  Dispatches -/

namespace Desk

variable {ν σ : Type} {gate : Gate ν σ} {source : NonceSource ν σ} {sink : Option (ErrorSink ν σ)}
  {chain : Int} {request : Request} {send : SendCallback ν σ} {d : Desk σ}

/-- A dispatch needs the network: it comes to a settlement that cannot do without. -/
def NeedsNetwork (gate : Gate ν σ) (request : Request) (d : Desk σ) (t : Talk) : Prop :=
  ∃ sender d₁, send? gate request d = some (sender, d₁) ∧ t.NeedsNetwork (d₁.book.get? sender.key)

/-- What a dispatch that has come to a settlement needs is what the settlement needs. -/
theorem of_settled {e : Fault} {sender : Address} {terms : Terms} {t₁ t₂ t₃ : Talk} {ending : Ending}
    {d₁ : Desk σ} (he : e.isInterrupt = false) (haccept : request.accept = .ok (sender, terms))
    (hadmission : Admission sender (d.book.get? sender.key) request.isForced t₁ (.ok ()))
    (hadmitting : Goes (admitting gate.heard request sender) d (.ok ()) t₁ d₁)
    (hsending : Sending (source.Gives chain sender.key.value) chain sender.key
      (d₁.book.get? sender.key) t₂ ending)
    (h₃ : ∀ call ∈ t₃.calls, call.part ≠ .settlement)
    (hanswers : ∀ account answer, Call.nonce chain account answer ∈ (t₁ ++ t₂ ++ t₃).calls →
      answer = .error e) :
    (NeedsNetwork gate request d (t₁ ++ t₂ ++ t₃) → ending = .failed (notLookedUp e)) ∧
      (¬ NeedsNetwork gate request d (t₁ ++ t₂ ++ t₃) →
        ∀ c account answer, Call.nonce c account answer ∉ (t₁ ++ t₂ ++ t₃).calls) := by
  have h₁ : ∀ call ∈ t₁.calls, call.part ≠ .settlement := fun call hcall => by
    simp [hadmission.part_eq call hcall]
  have hnonce {c : Int} {account : Value} {answer : Except Fault Value} :
      Call.nonce c account answer ∈ (t₁ ++ t₂ ++ t₃).calls ↔ Call.nonce c account answer ∈ t₂.calls :=
    Talk.mem_calls_append_iff h₁ h₃ rfl
  have hneeds : NeedsNetwork gate request d (t₁ ++ t₂ ++ t₃) ↔
      t₂.NeedsNetwork (d₁.book.get? sender.key) := by
    have hsend := send?_of_admitted haccept hadmitting
    constructor
    · rintro ⟨sender', d', hsend', hneeds⟩
      obtain ⟨rfl, rfl⟩ := Prod.mk.inj (Option.some.inj (hsend.symm.trans hsend'))
      exact (Talk.needsNetwork_append_iff h₁ h₃).mp hneeds
    · exact fun hneeds => ⟨sender, d₁, hsend, (Talk.needsNetwork_append_iff h₁ h₃).mpr hneeds⟩
  have hunanswered := hsending.of_unanswered he fun answer hanswer =>
    hanswers _ answer (hnonce.mpr hanswer)
  simpa only [hneeds, hnonce] using hunanswered

/-- **If the network has no nonces, a dispatch fails that needs it**, and any other does not ask it. -/
theorem dispatch_of_unanswered {e : Fault} (he : e.isInterrupt = false)
    (hanswers : ∀ account answer, Call.nonce chain account answer ∈
      (dispatchTalk gate source sink chain request send d).calls → answer = .error e) :
    (NeedsNetwork gate request d (dispatchTalk gate source sink chain request send d) →
        (dispatch gate source sink chain request send d).result = .error (notLookedUp e)) ∧
      (¬ NeedsNetwork gate request d (dispatchTalk gate source sink chain request send d) →
        ∀ c account answer, Call.nonce c account answer ∉
          (dispatchTalk gate source sink chain request send d).calls) := by
  have hphases := dispatch_phases gate source sink chain request send d
  generalize dispatchTalk gate source sink chain request send d = t at hphases hanswers ⊢
  generalize (dispatch gate source sink chain request send d).result = r at hphases ⊢
  generalize (dispatch gate source sink chain request send d).next = d' at hphases
  cases hphases with
  | declined haccept =>
    refine ⟨?_, fun _ => by simp [Talk.calls]⟩
    rintro ⟨sender, d₁, hsend, -⟩
    exact absurd ((send?_of_declined haccept).symm.trans hsend) (by simp)
  | refused haccept hadmission hadmitting =>
    have hcalls : ∀ c account answer, Call.nonce c account answer ∉ t.calls :=
      fun c account answer hcall => absurd (hadmission.part_eq _ hcall) (by simp [Call.part])
    refine ⟨?_, fun _ => hcalls⟩
    rintro ⟨sender, d₁, hsend, -⟩
    exact absurd ((send?_of_refused haccept hadmitting).symm.trans hsend) (by simp)
  | @failed _ _ t₁ t₂ ending f _ _ haccept hadmission hadmitting hsending hending hsettle =>
    rw [← List.append_nil (t₁ ++ t₂)] at hanswers ⊢
    obtain ⟨hneeds, hasks⟩ := of_settled he haccept hadmission hadmitting hsending
      (by simp [Talk.calls]) hanswers
    refine ⟨fun h => ?_, hasks⟩
    rw [hneeds h] at hending
    exact hending.symm
  | @unlogged _ _ t₁ t₂ ending tx f _ _ haccept hadmission hadmitting hsending hending hsettle hline =>
    rw [← List.append_nil (t₁ ++ t₂)] at hanswers ⊢
    obtain ⟨hneeds, hasks⟩ := of_settled he haccept hadmission hadmitting hsending
      (by simp [Talk.calls]) hanswers
    refine ⟨fun h => ?_, hasks⟩
    rw [hneeds h] at hending
    exact absurd hending (by simp [Ending.result])
  | sent haccept hadmission hadmitting hsending hending hsettle hline hregistration hregister =>
    obtain ⟨hneeds, hasks⟩ := of_settled he haccept hadmission hadmitting hsending
      (fun call hcall => by simp [hregistration.part_eq call hcall]) hanswers
    refine ⟨fun h => ?_, hasks⟩
    rw [hneeds h] at hending
    exact absurd hending (by simp [Ending.result])

end Desk
end Outbox
