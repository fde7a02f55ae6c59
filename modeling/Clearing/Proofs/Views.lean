import Clearing.Proofs.Footprints
import Clearing.Proofs.Lemmas.Patches
import Clearing.Proofs.Refusals
import Clearing.Proofs.TradeAcceptance

/-!
# What calls look at

How a settlement, a fill update, the move of a ledger entry, a verification or a deposit ends depends on a small part
of the rows, which is its view. In two stores in which a call has the same view it ends alike, the stamps of the rows
that it reports apart.
-/

namespace Clearing

/-! ## Results without stamps -/

/-- A report without the time of the update. -/
def FillReport.unstamped : FillReport → FillReport
  | .applied o remaining => .applied o.unstamped remaining
  | .remainderOverflow o => .remainderOverflow o.unstamped

theorem FillReport.unstamped_ofOrder (o : Order) : (ofOrder o).unstamped = ofOrder o.unstamped := by
  have hremaining : o.unstamped.remaining? = o.remaining? := rfl
  rw [ofOrder, ofOrder, hremaining]
  cases o.remaining? with
  | some remaining => rfl
  | none => rfl

/-- A result without the identifiers and times of the rows that it reports. -/
def Command.unstamped : (c : Command) → c.Result → c.Result
  | .settleTrade _, r => { r with trade := r.trade.unstamped }
  | .updateFill _, r => r.unstamped
  | .postTransfer .., r => { entry := r.entry.unstamped, fee := r.fee.unstamped }
  | .moveEntry .., r | .registerUser _, r | .verifyEmail .., r | .checkCurrencies .., r | .publishBatch _, r => r

/-! ## Views -/

namespace Execution

/-- One of the wallets over which a trade is settled: that of an owner of one of its orders in the quote currency of
its market. -/
def Uses (e : Execution) (t : Tables) (v : Wallet) : Prop :=
  ∃ o m, (t.order? e.buyOrderId = some o ∨ t.order? e.sellOrderId = some o) ∧ t.market? e.marketId = some m ∧
    t.walletOf? o.userId m.quoteCurrency = some v

/-- The orders of a trade stand in the same place, its market is the same, and so are its wallets. -/
structure SameView (e : Execution) (t t' : Tables) : Prop where
  buy : (t'.order? e.buyOrderId).map Order.placement = (t.order? e.buyOrderId).map Order.placement
  sell : (t'.order? e.sellOrderId).map Order.placement = (t.order? e.sellOrderId).map Order.placement
  market : t'.market? e.marketId = t.market? e.marketId
  wallet : ∀ o m, t.order? e.buyOrderId = some o ∨ t.order? e.sellOrderId = some o → t.market? e.marketId = some m →
    t'.walletOf? o.userId m.quoteCurrency = t.walletOf? o.userId m.quoteCurrency

theorem SameView.alike {e : Execution} {t t' : Tables} (h : e.SameView t t') : e.Alike t t' :=
  ⟨h.buy, h.sell, h.market, fun o m ho hm => congrArg _ (h.wallet o m ho hm)⟩

theorem SameView.found {e : Execution} {t t' : Tables} {p q : Parties} (h : e.SameView t t') (hp : e.Found t p)
    (hq : e.Found t' q) : p.Alike q ∧ q.buyer = p.buyer ∧ q.seller = p.seller := by
  obtain ⟨q', hq', hpq⟩ := h.alike.found hp
  obtain rfl := hq.unique hq'
  refine ⟨hpq, ?_, ?_⟩
  · have hbuyer := hq.buyer
    rw [(Order.of_placement hpq.buy).2.1, hpq.market, h.wallet p.buy p.market (.inl hp.buy) hp.market] at hbuyer
    exact Option.some.inj (hbuyer.symm.trans hp.buyer)
  · have hseller := hq.seller
    rw [(Order.of_placement hpq.sell).2.1, hpq.market, h.wallet p.sell p.market (.inr hp.sell) hp.market] at hseller
    exact Option.some.inj (hseller.symm.trans hp.seller)

end Execution

namespace Command

/-- Everything is the same that a call looks at. A deposit looks at no rows. -/
def SameView (t t' : Tables) : Command → Prop
  | .settleTrade e => e.SameView t t'
  | .updateFill request => t'.order? request.orderId = t.order? request.orderId
  | .postTransfer transfer _ => transfer.kind = .withdrawal → t' = t
  | .moveEntry id _ => t'.entry? id = t.entry? id
  | .verifyEmail id _ => t'.verification? id = t.verification? id ∧
      ∀ v, t.verification? id = some v → t'.userNamed? v.username = t.userNamed? v.username
  | .registerUser _ | .checkCurrencies .. | .publishBatch _ => t' = t

/-- A verification that a call names does not expire between two times. -/
def Timely (t : Tables) (now now' : Instant) : Command → Prop
  | .verifyEmail id _ => ∀ v, t.verification? id = some v → now'.before v.expiredAt = now.before v.expiredAt
  | _ => True

/-- The calls that can change places with each other: trades, fill updates, verifications, deposits, and moves of
entries that are there. -/
def Exchangeable (t : Tables) : Command → Prop
  | .settleTrade _ | .updateFill _ | .verifyEmail .. => True
  | .postTransfer transfer _ => transfer.kind = .deposit
  | .moveEntry id _ => ∃ e, t.entry? id = some e
  | .registerUser _ | .checkCurrencies .. | .publishBatch _ => False

theorem SameView.refl (c : Command) (t : Tables) : c.SameView t t := by
  cases c with
  | settleTrade e => exact ⟨rfl, rfl, rfl, fun _ _ _ _ => rfl⟩
  | verifyEmail id code => exact ⟨rfl, fun _ _ => rfl⟩
  | postTransfer transfer rates => exact fun _ => rfl
  | updateFill request | moveEntry id status | registerUser registration | checkCurrencies userId base quote
  | publishBatch config => rfl

end Command

/-! ## Calls with the same view end alike -/

section Refusals

variable {t t' : Tables} {err : SettlementError}

theorem FillRequest.Fails.congr {r : FillRequest} {c : Hurdle} (h : r.Fails t c err)
    (hview : t'.order? r.orderId = t.order? r.orderId) : r.Fails t' c err := by
  cases h with
  | order h => exact .order (hview.trans h)
  | transition ho h => exact .transition (hview.trans ho) h
  | decrease ho h => exact .decrease (hview.trans ho) h
  | excess ho h => exact .excess (hview.trans ho) h
  | amount ho h => exact .amount (hview.trans ho) h

theorem LedgerEntry.Fails.congr {id : Uuid} {status : TransferStatus} {c : Hurdle} (h : Fails id status t c err)
    (hview : t'.entry? id = t.entry? id) : Fails id status t' c err := by
  cases h with
  | entry h => exact .entry (hview.trans h)
  | transition he h => exact .transition (hview.trans he) h

theorem Verification.isUsableWith_congr {v : Verification} {code : String} {now now' : Instant}
    (h : now'.before v.expiredAt = now.before v.expiredAt) : v.isUsableWith code now' = v.isUsableWith code now := by
  rw [isUsableWith, isUsableWith, h]

theorem Verification.Fails.congr {id : Int} {code : String} {now now' : Instant} {c : Hurdle}
    (h : Fails id code now t c err) (hview : (Command.verifyEmail id code).SameView t t')
    (htimely : (Command.verifyEmail id code).Timely t now now') : Fails id code now' t' c err := by
  obtain ⟨hsame, huser⟩ := hview
  cases h with
  | code h =>
      refine .code fun v hv => ?_
      have hv : t.verification? id = some v := hsame.symm.trans hv
      rw [isUsableWith_congr (htimely v hv)]
      exact h v hv
  | user hv usable h =>
      exact .user (hsame.trans hv) ((isUsableWith_congr (htimely _ hv)).trans usable) ((huser _ hv).trans h)

end Refusals

/-- Outcomes that are explained by the same conditions are the same if their values are. -/
theorem Explains.map_eq {χ ε α β : Type} {fails fails' : χ → ε → Prop} {cs : List χ} {x y : Except ε α} {f : α → β}
    (hx : Explains fails cs x) (hy : Explains fails' cs y) (hunique : ∀ c e e', fails c e → fails c e' → e' = e)
    (hsame : ∀ c e, fails c e ↔ fails' c e) (hvalues : ∀ a b, x = .ok a → y = .ok b → f b = f a) :
    y.map f = x.map f := by
  have heq : fails' = fails := funext fun c => funext fun e => propext (hsame c e).symm
  subst heq
  cases x with
  | ok a =>
      obtain ⟨b, rfl⟩ := hy.ok_iff.mpr (hx.ok_iff.mp ⟨a, rfl⟩)
      exact congrArg Except.ok (hvalues a b rfl rfl)
  | error e => rw [(hy.error_iff hunique).mpr hx]

/-! ## What a call with the same view writes -/

section Effects

variable {ids ids' : IdSupply} {now now' : Instant} {t t' u u' : Tables}

theorem Wallet.eq_of_fixed {v v' : Wallet} (h : v'.fixed = v.fixed) (hbalance : v'.balance = v.balance) : v' = v := by
  show ({ v'.fixed with balance := v'.balance } : Wallet) = { v.fixed with balance := v.balance }
  rw [h, hbalance]

theorem Execution.Settled.congr {e : Execution} {r r' : Settlement} (h : e.Settled ids now t r u)
    (h' : e.Settled ids' now' t' r' u') (hview : e.SameView t t') :
    (Command.settleTrade e).unstamped r' = (Command.settleTrade e).unstamped r := by
  obtain ⟨⟨p, hp, hmoved⟩, htrade, -⟩ := h
  obtain ⟨⟨q, hq, hmoved'⟩, htrade', -⟩ := h'
  obtain ⟨hpq, hbuyer, hseller⟩ := hview.found hp hq
  obtain ⟨hb, hs⟩ := hmoved.alike hpq hmoved'
  obtain ⟨hfixedB, hfixedS⟩ := hmoved.fixed hp
  obtain ⟨hfixedB', hfixedS'⟩ := hmoved'.fixed hq
  have hbuyerWallet : r'.buyerWallet = r.buyerWallet :=
    Wallet.eq_of_fixed (by rw [hfixedB', hfixedB, hbuyer]) (Wallet.of_unlocked hb).2.2.2
  have hsellerWallet : r'.sellerWallet = r.sellerWallet :=
    Wallet.eq_of_fixed (by rw [hfixedS', hfixedS, hseller]) (Wallet.of_unlocked hs).2.2.2
  simp only [Command.unstamped, Settlement.mk.injEq]
  refine ⟨?_, hbuyerWallet, hsellerWallet⟩
  rw [htrade, htrade']
  rfl

theorem FillRequest.Filled.congr {request : FillRequest} {r r' : FillReport} {o o' : Order}
    (h : request.Filled now t r o u) (h' : request.Filled now' t' r' o' u')
    (hview : t'.order? request.orderId = t.order? request.orderId) : r'.unstamped = r.unstamped := by
  obtain rfl : o = o' := Option.some.inj (h.order.symm.trans (hview.symm.trans h'.order))
  rw [h.report, h'.report, FillReport.unstamped_ofOrder, FillReport.unstamped_ofOrder]
  rfl

theorem Transfer.Posted.congr {transfer : Transfer} {sizing sizing' : SizingPolicy} {rates : FeeRates} {p p' : Posting}
    (hkind : transfer.kind = .deposit) (h : transfer.Posted sizing rates ids now t p u)
    (h' : transfer.Posted sizing' rates ids' now' t' p' u') :
    (Command.postTransfer transfer rates).unstamped p' = (Command.postTransfer transfer rates).unstamped p := by
  have hamount : ∀ {sizing t amount}, transfer.Sized t sizing amount → amount = transfer.amount := by
    intro sizing t amount hsized
    cases hsized with
    | deposit => rfl
    | fromLargest kind | fromAccount kind => cases hkind.symm.trans kind
  simp only [Command.unstamped, Posting.mk.injEq]
  rw [h.entry, h'.entry, h.fee, h'.fee, hamount h.sized, hamount h'.sized]
  exact ⟨rfl, rfl⟩

theorem LedgerEntry.Moved.congr {id : Uuid} {status : TransferStatus} {r r' e e' : LedgerEntry}
    (h : LedgerEntry.Moved id status t r e u) (h' : LedgerEntry.Moved id status t' r' e' u')
    (hview : t'.entry? id = t.entry? id) : r' = r := by
  obtain rfl : e = e' := Option.some.inj (h.entry.symm.trans (hview.symm.trans h'.entry))
  exact h'.moved.trans h.moved.symm

theorem Verification.Verified.congr {id : Int} {code : String} {r r' : VerifiedUser}
    (h : Verified id code now t r u) (h' : Verified id code now' t' r' u')
    (hview : (Command.verifyEmail id code).SameView t t') : r' = r := by
  obtain ⟨⟨v, hv, -, hused⟩, ⟨x, hx, hverified⟩, -⟩ := h
  obtain ⟨⟨v', hv', -, hused'⟩, ⟨x', hx', hverified'⟩, -⟩ := h'
  obtain rfl : v = v' := Option.some.inj (hv.symm.trans (hview.1.symm.trans hv'))
  have hverification : r'.verification = r.verification := hused'.trans hused.symm
  rw [hverification, show r.verification.username = v.username by rw [hused], hview.2 v hv] at hx'
  rw [show r.verification.username = v.username by rw [hused]] at hx
  obtain rfl : x = x' := Option.some.inj (hx.symm.trans hx')
  cases r
  cases r'
  exact congrArg₂ VerifiedUser.mk (hverified'.trans hverified.symm) hverification

end Effects

variable {κ : Type} [Courier κ] {w w' : World MemoryStore κ}

/-- A call that may change places with others ends alike in two stores in which it has the same view, if the
verification that it names does not expire in between. -/
theorem Service.outcome_of_view (s : Service) {c : Command} (hfaults : w.store.faults = [])
    (hfaults' : w'.store.faults = []) (hc : c.Exchangeable w.store.committed)
    (hview : c.SameView w.store.committed w'.store.committed)
    (htimely : c.Timely w.store.committed w.store.now w'.store.now) :
    (s.perform c w').1.map c.unstamped = (s.perform c w).1.map c.unstamped := by
  have heffect : ∀ (v : World MemoryStore κ) r, (s.perform c v).1 = .ok r → c.Effect s v (s.perform c v).2 r :=
    fun v r h => Command.effect_of_perform (Prod.ext h rfl)
  cases c with
  | settleTrade e =>
      have hview : e.SameView w.store.committed w'.store.committed := hview
      refine (s.explains_settle e hfaults).map_eq (s.explains_settle e hfaults') (fun _ _ _ => Execution.Fails.unique)
        (fun _ _ => ⟨.alike hview.alike, .alike hview.alike.symm⟩) fun r r' hr hr' => ?_
      exact Execution.Settled.congr (heffect w r hr) (heffect w' r' hr') hview
  | updateFill request =>
      have hview : w'.store.committed.order? request.orderId = w.store.committed.order? request.orderId := hview
      refine (s.explains_fill request hfaults).map_eq (s.explains_fill request hfaults')
        (fun _ _ _ => FillRequest.Fails.unique) (fun _ _ => ⟨fun h => h.congr hview, fun h => h.congr hview.symm⟩)
        fun r r' hr hr' => ?_
      obtain ⟨o, hfilled⟩ := heffect w r hr
      obtain ⟨o', hfilled'⟩ := heffect w' r' hr'
      exact hfilled.congr hfilled' hview
  | postTransfer transfer rates =>
      have hkind : transfer.kind = .deposit := hc
      refine (s.explains_deposit rates hkind hfaults).map_eq (s.explains_deposit rates hkind hfaults')
        (fun _ _ _ => Transfer.Fails.unique) (fun _ _ => .rfl) fun r r' hr hr' => ?_
      exact Transfer.Posted.congr hkind (heffect w r hr) (heffect w' r' hr')
  | moveEntry id status =>
      have hview : w'.store.committed.entry? id = w.store.committed.entry? id := hview
      refine (s.explains_move id status hfaults).map_eq (s.explains_move id status hfaults')
        (fun _ _ _ => LedgerEntry.Fails.unique) (fun _ _ => ⟨fun h => h.congr hview, fun h => h.congr hview.symm⟩)
        fun r r' hr hr' => ?_
      obtain ⟨e, hmoved⟩ := heffect w r hr
      obtain ⟨e', hmoved'⟩ := heffect w' r' hr'
      exact hmoved.congr hmoved' hview
  | verifyEmail id code =>
      have hback : (Command.verifyEmail id code).SameView w'.store.committed w.store.committed :=
        ⟨hview.1.symm, fun v hv => (hview.2 v (hview.1.symm.trans hv)).symm⟩
      have htimelyBack : (Command.verifyEmail id code).Timely w'.store.committed w'.store.now w.store.now :=
        fun v hv => (htimely v (hview.1.symm.trans hv)).symm
      refine (s.explains_verify id code hfaults).map_eq (s.explains_verify id code hfaults')
        (fun _ _ _ => Verification.Fails.unique)
        (fun _ _ => ⟨fun h => h.congr hview htimely, fun h => h.congr hback htimelyBack⟩) fun r r' hr hr' => ?_
      exact Verification.Verified.congr (heffect w r hr) (heffect w' r' hr') hview
  | registerUser registration | checkCurrencies userId base quote | publishBatch config => exact hc.elim

end Clearing
