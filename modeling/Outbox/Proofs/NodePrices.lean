import Outbox.Proofs.Broadcasting

/-!
# How far a node's price matters

If the caller of a broadcast gives no price, then the node's is paid, or the cap if the node's is
above it.  So a node should not be able to make a broadcast dear, nor should it be able to prevent
one by its price.

The first holds.  The second holds for every price that can be written in gwei: after it the
broadcast goes on to the estimate and the signature, and they are shown the lesser of price and
cap.  A price beyond 256 bits is above every cap, and then the line of the log that says so cannot
be written.  The broadcast fails with the fault of that (`send_atPrice`), and nothing is signed.
`not_always_sent` is a node that prevents every broadcast in this way.
-/

namespace Outbox
namespace Broadcast

variable {σ : Type}

/-- The fields that are shown in a question. -/
def Question.fields? : Question → Option Fields
  | .price => none
  | .estimate fields => some fields
  | .signature fields => some fields
  | .delivery _ => none

namespace Draft

variable {d : Draft} {t : List Exchange} {r : Except Fault Value} {node : Node σ}
  {signer : Signer σ} {s s' : σ}

/-- Fields that are shown are those that are given with those that are written over them. -/
theorem Fits.fills {q : Question} {fields : Fields} (h : d.Fits t q) (hq : q.fields? = some fields) :
    d.Fills t fields := by
  cases q with
  | price => simp [Question.fields?] at hq
  | estimate shown =>
    obtain rfl : shown = fields := by simpa [Question.fields?] using hq
    exact h.1
  | signature shown =>
    obtain rfl : shown = fields := by simpa [Question.fields?] using hq
    exact h
  | delivery raw => simp [Question.fields?] at hq

/-- If the caller gave no price, then the first question is for the node's. -/
theorem IsBroadcast.asksPrice (h : d.IsBroadcast t r) (hunpriced : d.IsUnpriced) :
    ∃ x rest, t = x :: rest ∧ x.question = .price := by
  cases ht : t with
  | nil =>
    have hcomplete := h.completes (by simp [ht])
    rw [ht, plan, if_pos hunpriced] at hcomplete
    simp at hcomplete
  | cons x rest =>
    have horder := h.inOrder
    rw [ht, plan, if_pos hunpriced, List.map_cons, List.singleton_append,
      List.cons_prefix_cons] at horder
    refine ⟨x, rest, rfl, ?_⟩
    cases hx : x.question with
    | price => rfl
    | _ => rw [hx] at horder; exact absurd horder.1 (by simp [Question.step])

/-- After an answer with a price the lesser of it and the cap stands in the fields. -/
theorem Fills.lookup_gasPrice {price : Int} {fields : Fields}
    (h : d.Fills (⟨.price, .ok (.int price)⟩ :: t) fields) :
    fields.lookup "gasPrice" = some (.int (min price d.limit)) := by
  rw [h.lookup_eq]
  rfl

/-- **The fields that are shown hold the lesser of the node's price and the cap.** -/
theorem IsBroadcast.lookup_gasPrice {price : Int}
    (h : d.IsBroadcast (⟨.price, .ok (.int price)⟩ :: t) r) :
    ∀ x ∈ t, ∀ fields, x.question.fields? = some fields →
      fields.lookup "gasPrice" = some (.int (min price d.limit)) := by
  intro x hx fields hfields
  obtain ⟨i, hi, rfl⟩ := List.mem_iff_getElem.mp hx
  have hfits := h.fits (i + 1) (by simpa using hi)
  rw [List.take_succ_cons, List.getElem_cons_succ] at hfits
  exact (hfits.fills hfields).lookup_gasPrice

end Draft

variable {node : Node σ} {signer : Signer σ} {cap : Binary64} {limit : Nat} {s s' : σ}

/-- The first exchange is as the node and the account answer. -/
theorem Leads.head {x : Exchange} {t : List Exchange} (h : Leads node signer s (x :: t) s') :
    x.answer = (x.question.ask node signer s).result := by
  cases h
  rfl

/-- If the caller gave no price, then a price that can be written in gwei is the first answer. -/
theorem Draft.exists_after_price (d : Draft) (hsigner : signer.address = d.address)
    (hcap : Gwei.toWei cap = .ok d.limit) (hunpriced : d.IsUnpriced) {price : Int}
    (hprice : (node.gasPrice s).result = .ok (.int price)) (hle : price ≤ Gwei.maxWei) :
    ∃ t, d.Keeps node signer s (⟨.price, .ok (.int price)⟩ :: t)
      (send node signer d.chain cap (.dict d.given) (.int d.nonce) s) := by
  have hnode : node.PriceInRange s := by
    intro v hv
    exact ⟨price, hle, Except.ok.inj (hv.symm.trans hprice)⟩
  obtain ⟨t, hleads, hasks, hbroadcast⟩ := d.ends_send hsigner hcap hnode
  obtain ⟨⟨q, answer⟩, rest, rfl, hq⟩ := hbroadcast.asksPrice hunpriced
  obtain rfl : q = .price := hq
  obtain rfl : answer = .ok (.int price) := hleads.head.trans hprice
  exact ⟨rest, hleads, hasks, hbroadcast⟩

/-- A price beyond 256 bits is the end. -/
theorem price_of_lt (hcap : Gwei.toWei cap = .ok limit) {price : Int}
    (hprice : (node.gasPrice s).result = .ok (.int price)) (hlt : (Gwei.maxWei : Int) < price) :
    Broadcast.price node cap s =
      ⟨.error Gwei.Error.weiOutOfRange.fault, [.asksPrice], (node.gasPrice s).next⟩ := by
  have hasked : (node.gasPrice.silent s : Outcome BroadcastNote σ Value).result =
      .ok (.int price) := hprice
  have hcapped := capped_of_lt hcap hlt (node.gasPrice s).next
  have hnote : Broadcast.price node cap s =
      ((node.gasPrice.silent >>= capped cap) s).after [.asksPrice] := rfl
  rw [hnote, Act.bind_of_ok hasked, Act.notes_silent, Outcome.after_nil]
  exact congrArg (Outcome.after [.asksPrice]) hcapped

/-- Then nothing is signed. -/
theorem send_of_lt {chain : Int} {given : Fields} {nonce : Value}
    (hcap : Gwei.toWei cap = .ok limit) (hgiven : hasPrice given = false) {price : Int}
    (hprice : (node.gasPrice s).result = .ok (.int price)) (hlt : (Gwei.maxWei : Int) < price) :
    send node signer chain cap (.dict given) nonce s =
      ⟨.error Gwei.Error.weiOutOfRange.fault, [.asksPrice], (node.gasPrice s).next⟩ := by
  have hunpriced : hasPrice (identified signer.address nonce chain given) = false := by
    simpa [hasPrice, identified, Association.has_put] using hgiven
  have hfailed : withPrice node cap (identified signer.address nonce chain given) s =
      ⟨.error Gwei.Error.weiOutOfRange.fault, [.asksPrice], (node.gasPrice s).next⟩ := by
    have hend := price_of_lt hcap hprice hlt
    rw [withPrice, hunpriced, if_neg (by simp), Act.bind_of_error (by rw [hend]), hend]
  have hfields : send node signer chain cap (.dict given) nonce s =
      (withPrice node cap (identified signer.address nonce chain given) >>= fun priced =>
        withGas node priced >>= deliver node signer chain nonce) s := rfl
  rw [hfields, Act.bind_of_error (by rw [hfailed]), hfailed]

/-- **What a node's price does to a broadcast for which the caller gave none.**  If it can be written
in gwei, then the broadcast goes on as promised, and the fields that are shown to the node and to the
account hold the lesser of it and the cap.  If it cannot, then nothing else is asked, and the
broadcast fails with the fault of writing it. -/
theorem send_atPrice (node : Node σ) (signer : Signer σ) (chain : Int) {cap : Binary64}
    {limit : Nat} (given : Fields) (nonce : Int) (s : σ) (hcap : Gwei.toWei cap = .ok limit)
    (hgas : "gasPrice" ∉ given.map Prod.fst) (hfee : "maxFeePerGas" ∉ given.map Prod.fst)
    (price : Int) (hprice : (node.gasPrice s).result = .ok (.int price)) :
    (price ≤ Gwei.maxWei →
      ∃ t, Draft.Keeps ⟨given, signer.address, nonce, chain, limit⟩ node signer s
          (⟨.price, .ok (.int price)⟩ :: t)
          (send node signer chain cap (.dict given) (.int nonce) s) ∧
        ∀ x ∈ t, ∀ fields, x.question.fields? = some fields →
          fields.lookup "gasPrice" = some (.int (min price limit))) ∧
    (Gwei.maxWei < price →
      send node signer chain cap (.dict given) (.int nonce) s =
        ⟨.error Gwei.Error.weiOutOfRange.fault, [.asksPrice], (node.gasPrice s).next⟩) := by
  have hunpriced : Draft.IsUnpriced ⟨given, signer.address, nonce, chain, limit⟩ := ⟨hgas, hfee⟩
  refine ⟨fun hle => ?_, fun hlt => ?_⟩
  · obtain ⟨t, hkeeps⟩ := Draft.exists_after_price _ rfl hcap hunpriced hprice hle
    exact ⟨t, hkeeps, hkeeps.isBroadcast.lookup_gasPrice⟩
  · exact send_of_lt hcap (Draft.isUnpriced_iff.mp hunpriced) hprice hlt

/-- The largest price that does not prevent a broadcast. -/
theorem send_atPrice_maxWei :
    ∃ t, Draft.Keeps ⟨[], blindSigner.address, 5, 1, 500000000000⟩ (nodeAt Gwei.maxWei) blindSigner ()
        (⟨.price, .ok (.int Gwei.maxWei)⟩ :: t)
        (send (nodeAt Gwei.maxWei) blindSigner 1 (.ofInt 500) (.dict []) (.int 5) ()) ∧
      ∀ x ∈ t, ∀ fields, x.question.fields? = some fields →
        fields.lookup "gasPrice" = some (.int (min (Gwei.maxWei : Int) 500000000000)) := by
  refine (send_atPrice (nodeAt Gwei.maxWei) blindSigner 1 [] 5 () toWei_usualCap ?_ ?_ _ rfl).1 ?_
  · simp
  · simp
  · exact Int.le_refl _

/-- **A node can prevent a broadcast by its price.** -/
theorem not_always_sent :
    ¬ ∀ price : Int, ∃ v,
      (send (nodeAt price) blindSigner 1 (.ofInt 500) (.dict []) (.int 5) ()).result = .ok v := by
  intro h
  obtain ⟨v, hv⟩ := h (2 ^ 256)
  have hfails : send (nodeAt (2 ^ 256)) blindSigner 1 (.ofInt 500) (.dict []) (.int 5) () =
      ⟨.error Gwei.Error.weiOutOfRange.fault, [.asksPrice], ()⟩ :=
    send_of_lt toWei_usualCap rfl rfl (by decide)
  rw [hfails] at hv
  exact absurd hv (by simp)

end Broadcast
end Outbox
