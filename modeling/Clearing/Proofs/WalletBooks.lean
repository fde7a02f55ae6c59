import Clearing.Proofs.Books

/-!
# Wallets and the log of trades

While amounts are of moderate size and have few places, every balance is what its wallet was opened with, less
what its owner has paid, plus what its owner has received in the trades of its currency. Each trade takes two
fees out of its currency and nothing else.
-/

namespace Clearing

open Decimal

variable {κ : Type} [Courier κ]

/-! ## One action -/

namespace Action

/-- Wallets are opened and trades are settled with amounts of moderate size. -/
def Moderate : Action κ → Prop
  | .seedWallet _ _ balance => balance.Moderate
  | .perform _ (.settleTrade e) => e.Moderate
  | _ => True

theorem balanced {a : Action κ} {w : World MemoryStore κ} {ids : List Uuid} {os : List Opening}
    (h : w.store.committed.Balanced os) (hbound : openedWith os (fun _ => true) < 10 ^ 20)
    (hin : w.store.committed.Within ids) (hfresh : ∀ id ∈ a.seeded w, id ∉ ids) (ha : a.Moderate)
    (hnew : ∀ x ∈ a.opening?, ∀ o ∈ os, ¬ (o.userId = x.userId ∧ o.currency = x.currency)) :
    (a.apply w).store.committed.Balanced (os ++ a.opening?.toList) := by
  have hstep := a.booked w
  generalize (a.apply w).store.committed = t at hstep
  cases hstep with
  | same hopens hsame =>
      rw [hopens, Option.toList_none, List.append_nil]
      exact h.keep (.of_sameBooks hsame) hsame.wallets hsame.trades
  | wallet userId currency balance =>
      have hnone := hin.wallet?_eq_none (hfresh _ (List.mem_singleton_self _))
      exact h.open (hnew _ rfl) hnone ha
  | market base quote =>
      have hnone := hin.market?_eq_none (hfresh _ (List.mem_singleton_self _))
      rw [opening?, Option.toList_none, List.append_nil]
      exact h.keep (.putMarket hnone) rfl rfl
  | order userId marketId side price amount =>
      have hnone := hin.order?_eq_none (hfresh _ (List.mem_singleton_self _))
      rw [opening?, Option.toList_none, List.append_nil]
      refine h.keep (.putOrder ?_) rfl rfl
      intro x hx
      cases hnone.symm.trans hx
  | @fill s request r o t hfill =>
      rw [opening?, Option.toList_none, List.append_nil, hfill.rows]
      refine h.keep (.putOrder ?_) rfl rfl
      intro x hx
      have hid := (Tables.order?_eq_some.mp hfill.order).2
      obtain rfl : o = x := Option.some.inj (hfill.order.symm.trans (hid ▸ hx))
      rfl
  | trade hcheck hsettled =>
      rw [opening?, Option.toList_none, List.append_nil]
      exact Execution.Settled.balanced h hbound ha hcheck hsettled

end Action

/-! ## Whole runs -/

/-- A run from an empty store whose amounts are of moderate size, that seeds every row under an identifier of
its own and opens at most one wallet for each user and currency. -/
structure World.Moderate (w : World MemoryStore κ) (actions : List (Action κ)) : Prop where
  empty : w.store.committed = {}
  distinct : (w.seededIds actions).Nodup
  sole : ((openings actions).map fun o => (o.userId, o.currency)).Nodup
  each : ∀ a ∈ actions, a.Moderate
  bound : openedWith (openings actions) (fun _ => true) < 10 ^ 20

omit [Courier κ] in
theorem openedWith_nonneg {actions : List (Action κ)} (h : ∀ a ∈ actions, a.Moderate) (among : String → Bool) :
    0 ≤ openedWith (openings actions) among := by
  apply sumWhere_nonneg
  intro o ho
  obtain ⟨a, ha, hopens⟩ := List.mem_filterMap.mp ho
  cases a with
  | seedWallet userId currency balance =>
      obtain rfl := Option.some.inj hopens
      exact (h _ ha).nonneg
  | seedUser _ _ | seedMarket _ _ | seedOrder _ _ _ _ _ | seedVerification _ _ _ _ | injectFault _ _ | setIds _
  | setClock _ | setCourier _ | perform _ _ => cases hopens

namespace World

variable {w : World MemoryStore κ} {actions more : List (Action κ)}

theorem Moderate.left (h : w.Moderate (actions ++ more)) : w.Moderate actions := by
  have hdistinct := h.distinct
  have hsole := h.sole
  have hbound := h.bound
  have hmore := openedWith_nonneg (fun a ha => h.each a (List.mem_append_right _ ha)) fun _ => true
  rw [seededIds_append] at hdistinct
  rw [openings_append, List.map_append] at hsole
  rw [openings_append, openedWith, sumWhere_append] at hbound
  refine ⟨h.empty, hdistinct.of_append_left, hsole.of_append_left,
    fun a ha => h.each a (List.mem_append_left _ ha), ?_⟩
  rw [openedWith] at hmore ⊢
  linarith

theorem Moderate.take (h : w.Moderate actions) (n : Nat) : w.Moderate (actions.take n) := by
  rw [← List.take_append_drop n actions] at h
  exact h.left

theorem Moderate.balanced (h : w.Moderate actions) :
    (w.after actions).store.committed.Balanced (openings actions) := by
  induction actions using List.reverseRecOn with
  | nil =>
      rw [after, List.foldl_nil, h.empty]
      exact .empty
  | append_singleton actions a ih =>
      -- What the action seeds and opens is new beside everything before it.
      have hdistinct := h.distinct
      have hsole := h.sole
      rw [seededIds_concat, List.nodup_append] at hdistinct
      have hopenings : openings (actions ++ [a]) = openings actions ++ a.opening?.toList := by
        rw [openings_append]
        cases hopens : a.opening? <;> simp [openings, hopens]
      rw [hopenings, List.map_append, List.nodup_append] at hsole
      rw [after_concat, hopenings]
      refine Action.balanced (ih h.left) h.left.bound (within_seededIds h.empty actions) ?_
        (h.each a (List.mem_append_right _ (List.mem_singleton_self _))) ?_
      · intro id hid hmem
        exact hdistinct.2.2 id hmem id hid rfl
      · rintro x hx o ho ⟨hu, hc⟩
        have hold := List.mem_map_of_mem (f := fun o : Opening => (o.userId, o.currency)) ho
        have hnew := List.mem_map_of_mem (f := fun o : Opening => (o.userId, o.currency)) (Option.mem_toList.mpr hx)
        exact hsole.2.2 _ hold _ hnew (Prod.ext hu hc)

/-- In every state of a run each balance is what its wallet was opened with, less the cost of what its owner has
bought, plus the proceeds of what its owner has sold; and the wallets in a currency hold what they were opened
with but for two fees of each trade. -/
theorem balances_from_trades (h : w.Moderate actions) (n : Nat) :
    (∀ v ∈ (w.stateAt actions n).store.committed.wallets.rows,
      ∃ o ∈ openings (actions.take n), o.userId = v.userId ∧ o.currency = v.currency ∧
        v.balance.value = o.balance.value - (w.stateAt actions n).store.committed.spent v.userId v.currency
          + (w.stateAt actions n).store.committed.earned v.userId v.currency) ∧
    ∀ currency, (w.stateAt actions n).store.committed.held (· == currency)
      = openedWith (openings (actions.take n)) (· == currency)
        - 2 * (w.stateAt actions n).store.committed.charged (· == currency) := by
  have hbalanced := (h.take n).balanced
  exact ⟨hbalanced.wallet, fun currency => hbalanced.total _⟩

end World

/-- A run in which a buyer with 1000 pays 500 and a fee of 10 to a seller with 500. -/
def tradeRun : List (Action Mailbox) :=
  [.seedWallet (.ofNat 1) "USDT" (.ofCoeff 1000 0),
   .seedWallet (.ofNat 2) "USDT" (.ofCoeff 500 0),
   .seedMarket "BTC" "USDT",
   .seedOrder (.ofNat 1) (IdSupply.numbered 3) .buy .zero .zero,
   .seedOrder (.ofNat 2) (IdSupply.numbered 3) .sell .zero .zero,
   .perform {} (.settleTrade {
      buyOrderId := IdSupply.numbered 4
      sellOrderId := IdSupply.numbered 5
      marketId := IdSupply.numbered 3
      price := .ofCoeff 100 0
      quantity := .ofCoeff 5 0
      fee := .ofCoeff 10 0 })]

theorem tradeRun_moderate : emptyWorld.Moderate tradeRun := by
  refine ⟨rfl, by decide, by decide, ?_, ?_⟩
  · intro a ha
    simp only [tradeRun, List.mem_cons, List.not_mem_nil, or_false] at ha
    rcases ha with rfl | rfl | rfl | rfl | rfl | rfl
    · refine ⟨?_, places_of_scale_le _ (by decide), by decide⟩
      rw [value_ofCoeff (by decide) (by decide)]
      positivity
    · refine ⟨?_, places_of_scale_le _ (by decide), by decide⟩
      rw [value_ofCoeff (by decide) (by decide)]
      positivity
    · trivial
    · trivial
    · trivial
    · refine ⟨places_of_scale_le _ (by decide), places_of_scale_le _ (by decide),
        places_of_scale_le _ (by decide), by decide, ?_⟩
      simp (disch := decide) only [Execution.cost, Execution.worth, value_ofCoeff]
      norm_num
  · have hopenings : openings tradeRun =
        [⟨.ofNat 1, "USDT", .ofCoeff 1000 0⟩,
         ⟨.ofNat 2, "USDT", .ofCoeff 500 0⟩] := rfl
    rw [hopenings, openedWith, sumWhere_cons, sumWhere_cons, sumWhere_nil]
    simp (disch := decide) only [value_ofCoeff]
    norm_num

theorem World.tradeRun_balances :
    ∃ v ∈ (emptyWorld.stateAt tradeRun 6).store.committed.wallets.rows, v.balance.value = 490 ∧
      ∃ o ∈ openings tradeRun, o.userId = v.userId ∧ o.currency = v.currency ∧ v.balance.value = o.balance.value
        - (emptyWorld.stateAt tradeRun 6).store.committed.spent v.userId v.currency
        + (emptyWorld.stateAt tradeRun 6).store.committed.earned v.userId v.currency := by
  obtain ⟨hwallets, -⟩ := balances_from_trades tradeRun_moderate 6
  have hbalance : ((emptyWorld.stateAt tradeRun 6).store.committed.wallet? (IdSupply.numbered 1)).map (·.balance)
      = some (.ofCoeff 490 0) := by decide
  obtain ⟨v, hv, hvalue⟩ := Option.map_eq_some_iff.mp hbalance
  have hmem := (Tables.wallet?_eq_some.mp hv).1
  refine ⟨v, hmem, ?_, hwallets v hmem⟩
  rw [hvalue, value_ofCoeff (by decide) (by decide)]
  norm_num

end Clearing
