import Outbox.Proofs.Listening

/-!
# What a conversation can do at most

A conversation at the desk is made of what its collaborators do.  If each of them keeps something so in
the world, and takes only notes of some kind while it is so, then the same is true of the whole
conversation, whatever its course: an act is *confined* (`Act.Confined`).

Confinement says nothing about the order of things or about results.  It is for facts that do not
depend on how a conversation goes, such as that nobody in it makes a connection, and it makes these
facts independent of how conversations are put together.  The desk adds deeds and lines of the log of
its own, and these are not bound by what its collaborators may note (`Deed.PassesOnly`).

Since a listener is a collaborator too, what is confined may be the answers that are heard
(`Act.Confined.heard`).
-/

namespace Outbox

variable {ν μ σ α β : Type}

/-- Begun while something holds of the state, an act keeps it so and takes only notes of some kind. -/
def Act.Confined (inv : σ → Prop) (may : ν → Prop) (x : Act ν σ α) : Prop :=
  ∀ s, inv s → inv (x s).next ∧ ∀ n ∈ (x s).notes, may n

namespace Act

variable {inv : σ → Prop} {may : ν → Prop} {x : Act ν σ α} {f : α → Act ν σ β}

/-! ## 1.  The ways in which acts are put together -/

theorem confined_pure (a : α) : (pure a : Act ν σ α).Confined inv may :=
  fun _ hs => ⟨hs, fun _ hn => absurd hn List.not_mem_nil⟩

theorem confined_fail (e : Fault) : (fail e : Act ν σ α).Confined inv may :=
  fun _ hs => ⟨hs, fun _ hn => absurd hn List.not_mem_nil⟩

theorem confined_ofExcept (r : Except Fault α) : (ofExcept r : Act ν σ α).Confined inv may :=
  fun _ hs => ⟨hs, fun _ hn => absurd hn List.not_mem_nil⟩

theorem confined_note {n : ν} (hn : may n) : (note n : Act ν σ Unit).Confined inv may :=
  fun _ hs => ⟨hs, fun _ hm => List.mem_singleton.mp hm ▸ hn⟩

theorem confined_change {g : σ → σ} (hg : ∀ s, inv s → inv (g s)) :
    (change g : Act ν σ Unit).Confined inv may :=
  fun s hs => ⟨hg s hs, fun _ hn => absurd hn List.not_mem_nil⟩

theorem Confined.bind (hx : x.Confined inv may) (hf : ∀ a, (f a).Confined inv may) :
    (x >>= f).Confined inv may := by
  intro s hs
  obtain ⟨hnext, hnotes⟩ := hx s hs
  cases hresult : (x s).result with
  | error e =>
    rw [bind_of_error hresult]
    exact ⟨hnext, hnotes⟩
  | ok a =>
    obtain ⟨hnext', hnotes'⟩ := hf a (x s).next hnext
    rw [bind_of_ok hresult]
    exact ⟨hnext', fun n hn => (List.mem_append.mp hn).elim (hnotes n) (hnotes' n)⟩

theorem Confined.map (g : α → β) (hx : x.Confined inv may) : (g <$> x).Confined inv may := by
  intro s hs
  rw [map_eq]
  exact hx s hs

theorem Confined.rescue {handler : Fault → Act ν σ α} (hx : x.Confined inv may)
    (hhandler : ∀ e, (handler e).Confined inv may) : (x.rescue handler).Confined inv may := by
  intro s hs
  obtain ⟨hnext, hnotes⟩ := hx s hs
  cases hresult : (x s).result with
  | ok a =>
    rw [rescue_of_ok hresult]
    exact ⟨hnext, hnotes⟩
  | error e =>
    cases he : e.isInterrupt with
    | true =>
      rw [rescue_of_interrupt hresult he]
      exact ⟨hnext, hnotes⟩
    | false =>
      obtain ⟨hnext', hnotes'⟩ := hhandler e (x s).next hnext
      rw [rescue_of_fault hresult he]
      exact ⟨hnext', fun n hn => (List.mem_append.mp hn).elim (hnotes n) (hnotes' n)⟩

/-- A listener notes the answers that may be given. -/
theorem Confined.heard {call : Except Fault α → Call} {may' : Call → Prop} (hx : x.Confined inv may)
    (hcall : ∀ s, inv s → may' (call (x s).result)) : (x.heard call).Confined inv may' :=
  fun s hs => ⟨(hx s hs).1, fun _ hn => List.mem_singleton.mp hn ▸ hcall s hs⟩

/-- An act that takes no notes keeps to every kind of them. -/
theorem Confined.silent {y : Act Empty σ α} (hy : ∀ s, inv s → inv (y s).next) :
    (y.silent : Act ν σ α).Confined inv may := by
  intro s hs
  rw [notes_silent]
  exact ⟨hy s hs, fun _ hn => absurd hn List.not_mem_nil⟩

end Act

/-- A deed passes on only notes of some kind, if it passes on any. -/
def Deed.PassesOnly (may : ν → Prop) : Deed ν → Prop
  | .passes n => may n
  | _ => True

namespace Desk

/-- Begun at a desk in a world of which something holds, an act keeps it so and passes on only notes of
some kind. -/
abbrev Confined (inv : σ → Prop) (may : ν → Prop) (x : Act (Deed ν) (Desk σ) α) : Prop :=
  Act.Confined (fun d => inv d.world) (Deed.PassesOnly may) x

variable {inv : σ → Prop} {may : ν → Prop}

theorem confined_outside {y : Act ν σ α} (hy : y.Confined inv may) : Confined inv may (outside y) := by
  intro d hd
  obtain ⟨hnext, hnotes⟩ := hy d.world hd
  refine ⟨hnext, fun deed hdeed => ?_⟩
  obtain ⟨n, hn, rfl⟩ := List.mem_map.mp hdeed
  exact hnotes n hn

theorem confined_cached (account : Key) :
    Confined inv may (cached account : Act (Deed ν) (Desk σ) (Option Numeral)) :=
  fun _ hd => ⟨hd, fun _ hn => absurd hn List.not_mem_nil⟩

theorem confined_log (level : LogLevel) (channel : Channel) (line : Except Fault String) :
    Confined inv may (log level channel line : Act (Deed ν) (Desk σ) Unit) := by
  cases line with
  | error e => exact Act.confined_fail e
  | ok text => exact Act.confined_note trivial

theorem confined_count (event : Counted) :
    Confined inv may (count event : Act (Deed ν) (Desk σ) Unit) :=
  Act.confined_change fun _ hd => hd

/-! ## 2.  Settlements -/

section

variable {source : NonceSource ν σ} {send : SendCallback ν σ} {chain : Int} {account : Key}

theorem confined_lookup (hsource : (source chain account.value).Confined inv may)
    (reason : LookupReason) : Confined inv may (lookup source chain account reason) := by
  refine (confined_count _).bind fun _ => ?_
  refine Act.Confined.bind (Act.Confined.rescue ?_ fun e => Act.confined_fail _) fun nonce => ?_
  · exact (Act.confined_note trivial).bind fun _ => confined_outside hsource
  · exact (confined_log _ _ _).bind fun _ => Act.confined_pure nonce

theorem confined_firstNonce (hsource : (source chain account.value).Confined inv may) :
    Confined inv may (firstNonce source chain account) := by
  refine (confined_cached account).bind fun n? => ?_
  cases n? with
  | none => exact confined_lookup hsource .cacheMiss
  | some n => exact (confined_log _ _ _).bind fun _ => Act.confined_pure _

theorem confined_submit (hsend : ∀ nonce, (send nonce).Confined inv may) (nonce : Value) :
    Confined inv may (submit send nonce) := by
  refine (Act.confined_note trivial).bind fun _ => ?_
  exact (confined_outside (hsend nonce)).bind fun tx => Act.confined_pure (nonce, tx)

theorem confined_afterRefusal (hsource : (source chain account.value).Confined inv may)
    (hsend : ∀ nonce, (send nonce).Confined inv may) (nonce : Value) (e : Fault) :
    Confined inv may (afterRefusal source chain account send nonce e) := by
  unfold afterRefusal
  split
  · refine Act.Confined.bind ?_ fun fresh => ?_
    · exact (confined_log _ _ _).bind fun _ => (confined_count _).bind fun _ =>
        confined_lookup hsource .nonceError
    · exact (confined_submit hsend fresh).rescue fun e => Act.confined_fail _
  · exact Act.confined_fail _
  · exact Act.confined_fail _

theorem confined_markUsed (nonce : Value) :
    Confined inv may (markUsed account nonce : Act (Deed ν) (Desk σ) Unit) :=
  (Act.confined_ofExcept _).bind fun _ => Act.confined_change fun _ hd => hd

/-- **A settlement does at most what the network and the callback do.** -/
theorem confined_settle (hsource : (source chain account.value).Confined inv may)
    (hsend : ∀ nonce, (send nonce).Confined inv may) :
    Confined inv may (settle source chain account send) := by
  refine (confined_firstNonce hsource).bind fun first => ?_
  refine Act.Confined.bind ?_ fun used => ?_
  · exact (confined_submit hsend first).rescue (confined_afterRefusal hsource hsend first)
  · exact (confined_markUsed used.1).bind fun _ => Act.confined_pure used.2

end

/-! ## 3.  Dispatches -/

/-- Everybody with whom a dispatch on a chain works is confined. -/
structure AllConfined (inv : σ → Prop) (may : ν → Prop) (gate : Gate ν σ) (source : NonceSource ν σ)
    (sink : Option (ErrorSink ν σ)) (chain : Int) (send : SendCallback ν σ) : Prop where
  room (sender : Address) : (gate.canQueue sender).Confined inv may
  signer (sender : Address) : (gate.canSign sender).Confined inv may
  insert (tx : Value) (terms : Terms) (sender : Address) : (gate.insert tx terms sender).Confined inv may
  source (account : Value) : (source chain account).Confined inv may
  sink : ∀ tell ∈ sink, ∀ e, (tell e).Confined inv may
  send (nonce : Value) : (send nonce).Confined inv may

section

variable {gate : Gate ν σ} {source : NonceSource ν σ} {sink : Option (ErrorSink ν σ)} {chain : Int}
  {send : SendCallback ν σ}

/-- Listened to, they are confined to the answers that they may give; here only those of the network
matter. -/
theorem AllConfined.heard (h : AllConfined inv may gate source sink chain send) {may' : Call → Prop}
    (hother : ∀ call : Call, (∀ c account answer, call ≠ .nonce c account answer) → may' call)
    (hnonce : ∀ account w, inv w → may' (.nonce chain account (source chain account w).result)) :
    AllConfined inv may' gate.heard source.heard (sink.map ErrorSink.heard) chain send.heard where
  room sender := (h.room sender).heard fun _ _ => hother _ fun _ _ _ => Call.noConfusion
  signer sender := (h.signer sender).heard fun _ _ => hother _ fun _ _ _ => Call.noConfusion
  insert tx terms sender :=
    (h.insert tx terms sender).heard fun _ _ => hother _ fun _ _ _ => Call.noConfusion
  source account := (h.source account).heard (hnonce account)
  sink := by
    intro tell htell e
    obtain ⟨tell, hmem, rfl⟩ := Option.map_eq_some_iff.mp htell
    exact (h.sink tell hmem e).heard fun _ _ => hother _ fun _ _ _ => Call.noConfusion
  send nonce := (h.send nonce).heard fun _ _ => hother _ fun _ _ _ => Call.noConfusion

theorem confined_counting (outcome : Fault → String) {x : Act (Deed ν) (Desk σ) α}
    (hx : Confined inv may x) : Confined inv may (counting outcome x) :=
  hx.rescue fun e => (confined_count _).bind fun _ => Act.confined_fail e

theorem confined_question {deed : Deed ν} (hdeed : deed.PassesOnly may) (denial : Fault)
    {y : Act ν σ Bool} (hy : y.Confined inv may) :
    Confined inv may
      (do
        Act.note deed
        if ← outside y then return () else .fail denial) := by
  refine (Act.confined_note hdeed).bind fun _ => (confined_outside hy).bind fun answer => ?_
  cases answer with
  | true => exact Act.confined_pure ()
  | false => exact Act.confined_fail denial

theorem confined_report (hsink : ∀ tell ∈ sink, ∀ e, (tell e).Confined inv may) (e : Fault) :
    Confined inv may (report sink e) := by
  refine (confined_count _).bind fun _ => (confined_log _ _ _).bind fun _ => ?_
  cases sink with
  | none => exact Act.confined_pure ()
  | some tell =>
    exact (Act.confined_note trivial).bind fun _ =>
      confined_outside (hsink tell rfl e)

/-- **A dispatch does at most what those do with whom it works.** -/
theorem confined_dispatch (h : AllConfined inv may gate source sink chain send) (request : Request) :
    Confined inv may (dispatch gate source sink chain request send) := by
  refine (confined_counting _ (Act.confined_ofExcept _)).bind fun accepted => ?_
  refine Act.Confined.bind (confined_counting _ ?_) fun _ => ?_
  · split
    · exact Act.confined_pure ()
    · refine Act.Confined.bind ?_ fun _ => ?_
      · exact (confined_cached _).bind fun _ =>
          confined_question (by exact trivial) _ (h.room accepted.1)
      · exact (confined_cached _).bind fun _ =>
          confined_question (by exact trivial) _ (h.signer accepted.1)
  · refine Act.Confined.bind (confined_counting _ (confined_settle (h.source _) h.send)) fun tx => ?_
    refine (confined_count _).bind fun _ => (confined_log _ _ _).bind fun _ => ?_
    have hreport (e : Fault) :
        Confined inv may (do report sink (← Act.ofExcept (notRegistered e))) :=
      (Act.confined_ofExcept _).bind fun report => confined_report h.sink report
    refine Act.Confined.bind (Act.Confined.rescue ?_ hreport) fun _ => Act.confined_pure tx
    refine (confined_cached _).bind fun _ => ?_
    exact (Act.confined_note trivial).bind fun _ =>
      confined_outside (h.insert tx accepted.2 accepted.1)

end

end Desk
end Outbox
