import Clearing.Ledger.Basic
import Clearing.Order.Basic
import Clearing.Outbox.Task
import Clearing.Proofs.Lemmas.Rereading
import Clearing.Trade.Basic

/-!
# Records that are written and read again

Every record of the books, and every outbox message, is read again from what is written of it, field by field.
-/

namespace Clearing

open Json

instance : HasAmounts Order where
  amounts o := [o.price, o.amount, o.filledAmount]
  mapAmounts f o := { o with price := f o.price, amount := f o.amount, filledAmount := f o.filledAmount }

instance : Rereads Order where
  again v o h := by
    simp only [ofJson?, Option.bind_eq_bind, Option.bind_eq_some_iff, Option.some.injEq] at h
    obtain ⟨ms, -, id, hid, userId, huserId, marketId, hmarketId, side, hside, price, hprice, amount, hamount,
      filledAmount, hfilledAmount, status, hstatus, createdAt, hcreatedAt, updatedAt, hupdatedAt, rfl⟩ := h
    exact members?_bind <| field?_bind hid rfl <| field?_bind huserId rfl <| field?_bind hmarketId rfl <|
      field?_bind hside rfl <| field?_bind hprice rfl <| field?_bind hamount rfl <| field?_bind hfilledAmount rfl <|
      field?_bind hstatus rfl <| field?_bind hcreatedAt rfl <| field?_bind hupdatedAt rfl rfl

instance : HasAmounts FillRequest where
  amounts r := [r.filledAmount]
  mapAmounts f r := { r with filledAmount := f r.filledAmount }

instance : Rereads FillRequest where
  again v r h := by
    simp only [ofJson?, Option.bind_eq_bind, Option.bind_eq_some_iff, Option.some.injEq] at h
    obtain ⟨ms, -, orderId, horderId, status, hstatus, filledAmount, hfilledAmount, rfl⟩ := h
    exact members?_bind <| field?_bind horderId rfl <| field?_bind hstatus rfl <| field?_bind hfilledAmount rfl rfl

instance : HasAmounts Market where
  amounts m := [m.minOrderAmount]
  mapAmounts f m := { m with minOrderAmount := f m.minOrderAmount }

instance : Rereads Market where
  again v m h := by
    simp only [ofJson?, Option.bind_eq_bind, Option.bind_eq_some_iff, Option.some.injEq] at h
    obtain ⟨ms, -, id, hid, baseCurrency, hbaseCurrency, quoteCurrency, hquoteCurrency, minOrderAmount,
      hminOrderAmount, pricePrecision, hpricePrecision, createdAt, hcreatedAt, rfl⟩ := h
    exact members?_bind <| field?_bind hid rfl <| field?_bind hbaseCurrency rfl <| field?_bind hquoteCurrency rfl <|
      field?_bind hminOrderAmount rfl <| field?_bind hpricePrecision rfl <| field?_bind hcreatedAt rfl rfl

instance : HasAmounts FeeSchedule where
  amounts f := [f.makerFee, f.takerFee]
  mapAmounts g f := { f with makerFee := g f.makerFee, takerFee := g f.takerFee }

instance : Rereads FeeSchedule where
  again v f h := by
    simp only [ofJson?, Option.bind_eq_bind, Option.bind_eq_some_iff, Option.some.injEq] at h
    obtain ⟨ms, -, id, hid, marketId, hmarketId, makerFee, hmakerFee, takerFee, htakerFee, createdAt, hcreatedAt,
      rfl⟩ := h
    exact members?_bind <| field?_bind hid rfl <| field?_bind hmarketId rfl <| field?_bind hmakerFee rfl <|
      field?_bind htakerFee rfl <| field?_bind hcreatedAt rfl rfl

instance : HasAmounts FeeRates where
  amounts r := [r.makerFee, r.takerFee]
  mapAmounts f r := { r with makerFee := f r.makerFee, takerFee := f r.takerFee }

instance : Rereads FeeRates where
  again v r h := by
    simp only [ofJson?, Option.bind_eq_bind, Option.bind_eq_some_iff, Option.some.injEq] at h
    obtain ⟨ms, -, marketId, hmarketId, makerFee, hmakerFee, takerFee, htakerFee, rfl⟩ := h
    exact members?_bind <| field?_bind hmarketId rfl <| field?_bind hmakerFee rfl <| field?_bind htakerFee rfl rfl

instance : HasAmounts Wallet where
  amounts w := [w.balance, w.lockedBalance]
  mapAmounts f w := { w with balance := f w.balance, lockedBalance := f w.lockedBalance }

instance : Rereads Wallet where
  again v w h := by
    simp only [ofJson?, Option.bind_eq_bind, Option.bind_eq_some_iff, Option.some.injEq] at h
    obtain ⟨ms, -, id, hid, userId, huserId, currency, hcurrency, balance, hbalance, lockedBalance, hlockedBalance,
      createdAt, hcreatedAt, rfl⟩ := h
    exact members?_bind <| field?_bind hid rfl <| field?_bind huserId rfl <| field?_bind hcurrency rfl <|
      field?_bind hbalance rfl <| field?_bind hlockedBalance rfl <| field?_bind hcreatedAt rfl rfl

instance : HasAmounts Execution where
  amounts e := [e.price, e.quantity, e.fee]
  mapAmounts f e := { e with price := f e.price, quantity := f e.quantity, fee := f e.fee }

instance : Rereads Execution where
  again v e h := by
    simp only [ofJson?, Option.bind_eq_bind, Option.bind_eq_some_iff, Option.some.injEq] at h
    obtain ⟨ms, -, buyOrderId, hbuyOrderId, sellOrderId, hsellOrderId, marketId, hmarketId, price, hprice,
      quantity, hquantity, fee, hfee, rfl⟩ := h
    exact members?_bind <| field?_bind hbuyOrderId rfl <| field?_bind hsellOrderId rfl <|
      field?_bind hmarketId rfl <| field?_bind hprice rfl <| field?_bind hquantity rfl <| field?_bind hfee rfl rfl

instance : HasAmounts Trade where
  amounts t := [t.price, t.amount, t.fee]
  mapAmounts f t := { t with price := f t.price, amount := f t.amount, fee := f t.fee }

instance : Rereads Trade where
  again v t h := by
    simp only [ofJson?, Option.bind_eq_bind, Option.bind_eq_some_iff, Option.some.injEq] at h
    obtain ⟨ms, -, id, hid, buyOrderId, hbuyOrderId, sellOrderId, hsellOrderId, marketId, hmarketId, price, hprice,
      amount, hamount, fee, hfee, createdAt, hcreatedAt, rfl⟩ := h
    exact members?_bind <| field?_bind hid rfl <| field?_bind hbuyOrderId rfl <| field?_bind hsellOrderId rfl <|
      field?_bind hmarketId rfl <| field?_bind hprice rfl <| field?_bind hamount rfl <| field?_bind hfee rfl <|
      field?_bind hcreatedAt rfl rfl

instance : HasAmounts Transfer where
  amounts t := [t.amount]
  mapAmounts f t := { t with amount := f t.amount }

instance : Rereads Transfer where
  again v t h := by
    simp only [ofJson?, Option.bind_eq_bind, Option.bind_eq_some_iff, Option.some.injEq] at h
    obtain ⟨ms, -, userId, huserId, kind, hkind, currency, hcurrency, amount, hamount, status, hstatus, address,
      haddress, txHash, htxHash, rfl⟩ := h
    exact members?_bind <| field?_bind huserId rfl <| field?_bind hkind rfl <| field?_bind hcurrency rfl <|
      field?_bind hamount rfl <| field?_bind hstatus rfl <| optional?_bind haddress rfl <|
      optional?_bind htxHash rfl rfl

instance : HasAmounts LedgerEntry where
  amounts e := [e.requestedAmount, e.amount]
  mapAmounts f e := { e with requestedAmount := f e.requestedAmount, amount := f e.amount }

instance : Rereads LedgerEntry where
  again v e h := by
    simp only [ofJson?, Option.bind_eq_bind, Option.bind_eq_some_iff, Option.some.injEq] at h
    obtain ⟨ms, -, id, hid, userId, huserId, kind, hkind, currency, hcurrency, requestedAmount, hrequestedAmount,
      amount, hamount, status, hstatus, address, haddress, txHash, htxHash, createdAt, hcreatedAt, rfl⟩ := h
    exact members?_bind <| field?_bind hid rfl <| field?_bind huserId rfl <| field?_bind hkind rfl <|
      field?_bind hcurrency rfl <| field?_bind hrequestedAmount rfl <| field?_bind hamount rfl <|
      field?_bind hstatus rfl <| optional?_bind haddress rfl <| optional?_bind htxHash rfl <|
      field?_bind hcreatedAt rfl rfl

instance : HasAmounts OutboxMessage := .without

instance : Rereads OutboxMessage where
  again v m h := by
    simp only [ofJson?, Option.bind_eq_bind, Option.bind_eq_some_iff, Option.some.injEq] at h
    obtain ⟨ms, -, id, hid, taskType, htaskType, payload, hpayload, queue, hqueue, maxRetry, hmaxRetry, delaySecs,
      hdelaySecs, status, hstatus, attempts, hattempts, lastError, hlastError, createdAt, hcreatedAt, publishedAt,
      hpublishedAt, rfl⟩ := h
    exact members?_bind <| fieldWith?_bind hid (Document.integer?_again _ _) rfl <| field?_bind htaskType rfl <|
      field?_bind hpayload rfl <| field?_bind hqueue rfl <| field?_bind hmaxRetry rfl <|
      fieldWith?_bind hdelaySecs (Document.integer?_again _ _) rfl <| field?_bind hstatus rfl <|
      field?_bind hattempts rfl <| optional?_bind hlastError rfl <| field?_bind hcreatedAt rfl <|
      optional?_bind hpublishedAt rfl rfl

instance : HasAmounts VerifyEmailPayload := .without

instance : Rereads VerifyEmailPayload where
  again v p h := by
    simp only [ofJson?, Option.bind_eq_bind, Option.bind_eq_some_iff, Option.some.injEq] at h
    obtain ⟨ms, -, email, hemail, rfl⟩ := h
    exact members?_bind <| field?_bind hemail rfl rfl

end Clearing
