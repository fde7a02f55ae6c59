import Clearing.Proofs.Refusals
import Clearing.Proofs.Lemmas.Differences

/-!
# What transfers are posted with

While no failures are queued and no balance is negative, a deposit is posted as requested. A withdrawal is posted
with the largest balance of any wallet less the request if that is not negative, whoever asks for it and in whatever
currency; or as requested if the user's own wallet covers it. No wallet changes.
-/

namespace Clearing

variable {κ : Type} [Courier κ]

/-! ## The wallets that decide -/

namespace Tables

variable {t : Tables} {v x y : Wallet} {userId : Uuid} {currency : String}

/-- A wallet that no other one exceeds; among equals it has the smallest identifier. -/
structure Richest (t : Tables) (v : Wallet) : Prop where
  mem : v ∈ t.wallets.rows
  most : ∀ x ∈ t.wallets.rows, x.balance.value ≤ v.balance.value
  first : ∀ x ∈ t.wallets.rows, x.balance.value = v.balance.value → v.id ≤ x.id

/-- The largest balance of all wallets, or zero if there are none. -/
inductive LargestBalance (t : Tables) : Decimal → Prop where
  | zero (none : t.wallets.rows = []) : t.LargestBalance .zero
  | of {v : Wallet} (h : t.Richest v) : t.LargestBalance v.balance

/-- The wallet of a user in a currency; of several it is the one with the smallest identifier. -/
structure FirstWallet (t : Tables) (userId : Uuid) (currency : String) (v : Wallet) : Prop where
  mem : v ∈ t.wallets.rows
  userId_eq : v.userId = userId
  currency_eq : v.currency = currency
  first : ∀ x ∈ t.wallets.rows, x.userId = userId → x.currency = currency → v.id ≤ x.id

theorem isLarger_iff : isLarger x y = true ↔
    y.balance.value < x.balance.value ∨ x.balance.value = y.balance.value ∧ x.id ≤ y.id := by
  rw [isLarger, Bool.or_eq_true, Bool.and_eq_true, decide_eq_true_iff, decide_eq_true_iff, Decimal.lt_iff_value,
    Decimal.sameNumber_iff_value]

theorem isLarger_trans (x y z : Wallet) (h : isLarger x y = true) (h' : isLarger y z = true) :
    isLarger x z = true := by
  rw [isLarger_iff] at h h' ⊢
  rcases h with h | ⟨heq, hid⟩ <;> rcases h' with h' | ⟨heq', hid'⟩
  · exact .inl (h'.trans h)
  · exact .inl (heq'.symm.trans_lt h)
  · exact .inl (h'.trans_eq heq.symm)
  · exact .inr ⟨heq.trans heq', Nat.le_trans hid hid'⟩

theorem isLarger_total (x y : Wallet) : (isLarger x y || isLarger y x) = true := by
  rw [Bool.or_eq_true, isLarger_iff, isLarger_iff]
  rcases lt_trichotomy x.balance.value y.balance.value with h | h | h
  · exact .inr (.inl h)
  · rcases Nat.le_total x.id.value y.id.value with hid | hid
    · exact .inl (.inr ⟨h, hid⟩)
    · exact .inr (.inr ⟨h.symm, hid⟩)
  · exact .inl (.inl h)

/-- The balance that a withdrawal is sized by, whoever asks for it. -/
def largestBalance (t : Tables) : Decimal := ((t.largestWallets 1).head?.map (·.balance)).getD Decimal.zero

theorem largestBalance_spec (t : Tables) : t.LargestBalance t.largestBalance := by
  have hsorted : (t.wallets.rows.mergeSort isLarger).Pairwise fun x y => isLarger x y = true :=
    List.pairwise_mergeSort isLarger_trans isLarger_total t.wallets.rows
  have hmem : ∀ x, x ∈ t.wallets.rows.mergeSort isLarger ↔ x ∈ t.wallets.rows := fun x => List.mem_mergeSort
  rw [largestBalance, largestWallets]
  cases hrows : t.wallets.rows.mergeSort isLarger with
  | nil =>
      refine .zero (List.eq_nil_iff_forall_not_mem.mpr fun x hx => ?_)
      rw [← hmem, hrows] at hx
      exact List.not_mem_nil hx
  | cons v rest =>
      rw [hrows] at hsorted hmem
      have hlarger : ∀ x ∈ t.wallets.rows, isLarger v x = true := by
        intro x hx
        rcases List.mem_cons.mp ((hmem x).mpr hx) with rfl | hx
        · exact (Bool.or_self _).symm.trans (isLarger_total x x)
        · exact (List.pairwise_cons.mp hsorted).1 x hx
      refine .of ⟨(hmem v).mp (List.mem_cons_self ..), fun x hx => ?_, fun x hx heq => ?_⟩
      · rcases isLarger_iff.mp (hlarger x hx) with h | ⟨h, -⟩
        · exact h.le
        · exact h.ge
      · rcases isLarger_iff.mp (hlarger x hx) with h | ⟨-, h⟩
        · exact absurd heq h.ne
        · exact h

theorem LargestBalance.nonneg {m : Decimal} (h : t.LargestBalance m)
    (hbalances : ∀ v ∈ t.wallets.rows, 0 ≤ v.balance.value) : 0 ≤ m.value := by
  cases h with
  | zero => exact Decimal.value_zero.ge
  | of h => exact hbalances _ h.mem

theorem firstWallet_of_walletOf? (h : t.walletOf? userId currency = some v) : t.FirstWallet userId currency v := by
  obtain ⟨hv, before, after, hrows, hbefore⟩ := List.find?_eq_some_iff_append.mp h
  have hsorted := t.wallets.sorted
  rw [hrows, List.pairwise_append, List.pairwise_cons] at hsorted
  have hown : v.userId = userId ∧ v.currency = currency := by simpa using hv
  refine ⟨(walletOf?_eq_some h).1, hown.1, hown.2, fun x hx huser hcurrency => ?_⟩
  rw [hrows, List.mem_append, List.mem_cons] at hx
  rcases hx with hx | rfl | hx
  · have := hbefore x hx
    simp [huser, hcurrency] at this
  · exact Nat.le_refl _
  · have hlt := hsorted.2.1.1 x hx
    exact Int.ofNat_le.mp hlt.le

theorem walletOf?_iff : t.walletOf? userId currency = some v ↔ t.FirstWallet userId currency v := by
  refine ⟨firstWallet_of_walletOf?, fun h => ?_⟩
  cases hfound : t.walletOf? userId currency with
  | none =>
      have := List.find?_eq_none.mp hfound v h.mem
      simp [h.userId_eq, h.currency_eq] at this
  | some x =>
      have hx := firstWallet_of_walletOf? hfound
      have hid : x.id.value = v.id.value :=
        Nat.le_antisymm (hx.first v h.mem h.userId_eq h.currency_eq) (h.first x hx.mem hx.userId_eq hx.currency_eq)
      rw [Table.eq_of_key_eq hx.mem h.mem (congrArg Int.ofNat hid)]

end Tables

/-! ## What a withdrawal is refused for -/

namespace SizingPolicy

/-- What the amount of a withdrawal depends on, in the order in which it is looked at. -/
inductive Hurdle where
  | wallet | cover

/-- A withdrawal fails at a hurdle with an error. -/
inductive Fails (t : Transfer) (before : Tables) : SizingPolicy → Hurdle → SettlementError → Prop where
  | largest {rest : Decimal} (left : before.largestBalance.sub? t.amount = some rest)
      (short : before.largestBalance.value < t.amount.value) :
      Fails t before .globalMaxBalance .cover (.invalidAmount (.postedNegative t.kind rest t.amount))
  | missing (h : before.walletOf? t.userId t.currency = none) :
      Fails t before .accountBalance .wallet
        (.store "failed to load withdrawal wallet" (.notFound s!"wallet ({t.userId}, {t.currency})"))
  | account {v : Wallet} (found : before.walletOf? t.userId t.currency = some v)
      (short : v.balance.value < t.amount.value) :
      Fails t before .accountBalance .cover (.insufficientBalance v.id v.balance t.amount)

variable {t : Transfer} {before : Tables} {sizing : SizingPolicy} {c : Hurdle} {err err' : SettlementError}

theorem Fails.unique (h : Fails t before sizing c err) (h' : Fails t before sizing c err') : err' = err := by
  cases h with
  | largest left =>
      cases h' with
      | largest left' => cases left.symm.trans left'; rfl
  | missing =>
      cases h'
      rfl
  | account found =>
      cases h' with
      | account found' => cases found.symm.trans found'; rfl

/-- The hurdles of a policy that come before its amount is found, and those that come after it. -/
def hurdles : SizingPolicy → List Hurdle × List Hurdle
  | .globalMaxBalance => ([], [.cover])
  | .accountBalance => ([.wallet, .cover], [])

/-- Once the amount is found, its sign tells whether the later hurdles are passed. -/
def PassedBySign (sizing : SizingPolicy) (t : Transfer) (before : Tables) (amount : Decimal) : Prop :=
  (amount.value < 0 → FirstFailure (Fails t before sizing) sizing.hurdles.2
    (.invalidAmount (.postedNegative t.kind amount t.amount))) ∧
  (0 ≤ amount.value → NoFailure (Fails t before sizing) sizing.hurdles.2)

variable {w : World MemoryStore κ}

theorem postedFromLargest_screened (hfaults : w.store.faults = []) (hamount : 0 < t.amount.value)
    (hlargest : 0 ≤ w.store.draft.largestBalance.value) :
    (postedFromLargest t).Screened (Fails t w.store.draft .globalMaxBalance) []
      (fun amount _ => PassedBySign .globalMaxBalance t w.store.draft amount) w := by
  obtain ⟨rest, hrest, hsign⟩ := Decimal.sub?_sign hlargest hamount.le
  show Work.Screened _ ([] ++ []) _ _ _
  refine .bind (.query hfaults (fun _ h => h.elim) fun wallets _ h => ⟨.nil, ?_⟩)
  obtain ⟨rfl, rfl⟩ := h
  refine .ofOption (fun hnone => ?_) fun amount hamount => ⟨.nil, ?_⟩
  · cases hnone.symm.trans hrest
  obtain rfl : rest = amount := Option.some.inj (hrest.symm.trans hamount)
  refine ⟨fun hnegative => .head (.largest hrest ?_), fun hnonneg => .single fun err h => ?_⟩
  · exact not_le.mp fun hcovered => hnegative.not_ge (hsign.mpr hcovered)
  · cases h with
    | largest left short => exact short.not_ge (hsign.mp hnonneg)

theorem postedFromAccount_screened (hfaults : w.store.faults = []) (hamount : 0 < t.amount.value) :
    (postedFromAccount t).Screened (Fails t w.store.draft .accountBalance) [.wallet, .cover]
      (fun amount _ => PassedBySign .accountBalance t w.store.draft amount) w := by
  show Work.Screened _ ([Hurdle.wallet] ++ ([Hurdle.cover] ++ [])) _ _ _
  refine .bind (.read rfl hfaults ?_ ?_ fun v hv => ?_)
  · rintro _ ⟨hnone, rfl⟩
    exact .missing hnone
  · rintro v ⟨hv, -⟩ err h
    cases h with
    | missing hnone => cases hnone.symm.trans hv
  replace hv := hv.1
  have hrow := Tables.wallet?_eq_some.mpr ⟨(Tables.walletOf?_eq_some hv).1, rfl⟩
  refine .lock_bind hfaults hrow (.bind (.require (fun h => .head (.account hv ?_)) fun h => ⟨.single fun err hx => ?_,
    .pure .nil ⟨fun hnegative => absurd hamount hnegative.le.not_gt, fun _ => .nil⟩⟩))
  · rw [decide_eq_false_iff_not, Decimal.le_iff_value, not_le] at h
    exact h
  · cases hx with
    | account found short =>
        cases found.symm.trans hv
        exact short.not_ge (Decimal.le_iff_value.mp (of_decide_eq_true h))

theorem posted_screened (sizing : SizingPolicy) (hfaults : w.store.faults = []) (hamount : 0 < t.amount.value)
    (hlargest : 0 ≤ w.store.draft.largestBalance.value) :
    (sizing.posted t).Screened (Fails t w.store.draft sizing) sizing.hurdles.1
      (fun amount _ => sizing.PassedBySign t w.store.draft amount) w := by
  cases sizing with
  | globalMaxBalance => exact postedFromLargest_screened hfaults hamount hlargest
  | accountBalance => exact postedFromAccount_screened hfaults hamount

end SizingPolicy

/-! ## Posting -/

/-- What posting a transfer with an amount leaves behind. -/
def Transfer.posting (t : Transfer) (rates : FeeRates) (amount : Decimal) (ids : IdSupply) (now : Instant) :
    Posting where
  entry := t.toEntry amount ids.next now
  fee := rates.toSchedule ids.advance.next now

theorem Transfer.noFailure {t : Transfer} {rates : FeeRates} (hamount : 0 < t.amount.value)
    (hrates : 0 ≤ rates.makerFee.value ∧ 0 ≤ rates.takerFee.value) : NoFailure (t.Fails rates) Hurdle.all := by
  rintro c - err h
  cases h with
  | amount h => exact hamount.not_ge h
  | rates h => exact h.elim (fun h => hrates.1.not_gt h) fun h => hrates.2.not_gt h

/-- The posting with a user and a currency of its own. -/
def Posting.heldBy (userId : Uuid) (currency : String) (p : Posting) : Posting :=
  { p with entry := { p.entry with userId := userId, currency := currency } }

namespace Service

/-- Posting a transfer ends with an entry for this amount. -/
structure Posts (s : Service) (t : Transfer) (rates : FeeRates) (w : World MemoryStore κ) (amount : Decimal) :
    Prop where
  outcome : (s.perform (.postTransfer t rates) w).1 = .ok (t.posting rates amount w.store.ids w.store.now)
  rows : (s.perform (.postTransfer t rates) w).2.store.committed =
    (w.store.committed.addEntry (t.toEntry amount w.store.ids.next w.store.now)).addFee
      (rates.toSchedule w.store.ids.advance.next w.store.now)

/-- Posting a transfer ends with this error and without a trace. -/
structure Refuses (s : Service) (t : Transfer) (rates : FeeRates) (w : World MemoryStore κ) (err : SettlementError) :
    Prop where
  outcome : (s.perform (.postTransfer t rates) w).1 = .error err
  rows : (s.perform (.postTransfer t rates) w).2.store.committed = w.store.committed

variable {s : Service} {t : Transfer} {rates : FeeRates} {w : World MemoryStore κ}

theorem posts_of_ok {p : Posting} (h : (s.perform (.postTransfer t rates) w).1 = .ok p) :
    s.Posts t rates w p.entry.amount ∧ t.Sized w.store.committed s.sizing p.entry.amount := by
  obtain ⟨hsized, -, hentry, hfee, hrows⟩ := Command.effect_of_perform (Prod.ext h rfl)
  have hp : p = t.posting rates p.entry.amount w.store.ids w.store.now := by
    rw [Transfer.posting, ← hentry, ← hfee]
  refine ⟨⟨h.trans (congrArg _ hp), ?_⟩, hsized⟩
  rw [hrows, hfee, ← hentry]

theorem refuses_of_error {err : SettlementError} (h : (s.perform (.postTransfer t rates) w).1 = .error err) :
    s.Refuses t rates w err :=
  ⟨h, (counts_of_error (Prod.ext h rfl)).1⟩

variable (hfaults : w.store.faults = []) (hamount : 0 < t.amount.value)
  (hrates : 0 ≤ rates.makerFee.value ∧ 0 ≤ rates.takerFee.value)
include hfaults hamount hrates

theorem posts_deposit (hkind : t.kind = .deposit) : s.Posts t rates w t.amount := by
  have hexplains := s.explains_deposit rates hkind hfaults
  obtain ⟨p, hp⟩ := hexplains.ok_iff.mpr (Transfer.noFailure hamount hrates)
  obtain ⟨hposts, hsized⟩ := posts_of_ok hp
  generalize p.entry.amount = amount, s.sizing = sizing at hposts hsized
  cases hsized with
  | deposit => exact hposts
  | fromLargest kind | fromAccount kind => cases kind.symm.trans hkind

theorem explains_withdrawal (hkind : t.kind = .withdrawal)
    (hlargest : 0 ≤ w.store.committed.largestBalance.value) :
    Explains (s.sizing.Fails t w.store.committed) (s.sizing.hurdles.1 ++ s.sizing.hurdles.2)
      (s.perform (.postTransfer t rates) w).1 := by
  obtain ⟨u, hcheck⟩ := Transfer.explains_check.ok_iff.mpr (Transfer.noFailure hamount hrates)
  refine Operation.explains_work hfaults hcheck (Transfer.work_screened (w := w.opened) rates hfaults ?_)
  have hposted : t.posted s.sizing = s.sizing.posted t := by rw [Transfer.posted, hkind]
  rw [hposted]
  exact s.sizing.posted_screened (w := w.opened) hfaults hamount hlargest

section Withdrawal

variable {sizing : SizingPolicy} (hkind : t.kind = .withdrawal) (hsizing : s.sizing = sizing)
  (hlargest : 0 ≤ w.store.committed.largestBalance.value)
include hkind hsizing hlargest

theorem posts_withdrawal
    (hpasses : NoFailure (sizing.Fails t w.store.committed) (sizing.hurdles.1 ++ sizing.hurdles.2)) :
    ∃ amount, s.Posts t rates w amount ∧ t.Sized w.store.committed sizing amount := by
  subst hsizing
  obtain ⟨p, hp⟩ := (explains_withdrawal hfaults hamount hrates hkind hlargest).ok_iff.mpr hpasses
  exact ⟨p.entry.amount, posts_of_ok hp⟩

theorem refuses_withdrawal {err : SettlementError}
    (hfails : FirstFailure (sizing.Fails t w.store.committed) (sizing.hurdles.1 ++ sizing.hurdles.2) err) :
    s.Refuses t rates w err := by
  subst hsizing
  have hexplains := explains_withdrawal (s := s) hfaults hamount hrates hkind hlargest
  exact refuses_of_error ((hexplains.error_iff fun c x y hx hy => hx.unique hy).mpr hfails)

end Withdrawal

section Largest

variable (hkind : t.kind = .withdrawal) (hsizing : s.sizing = .globalMaxBalance) {rest : Decimal}
  (hrest : w.store.committed.largestBalance.sub? t.amount = some rest)
  (hlargest : 0 ≤ w.store.committed.largestBalance.value)
include hkind hsizing hrest hlargest

theorem posts_from_largest (hcovered : t.amount.value ≤ w.store.committed.largestBalance.value) :
    s.Posts t rates w rest := by
  obtain ⟨amount, hposts, hsized⟩ := posts_withdrawal hfaults hamount hrates hkind hsizing hlargest
    (.single fun err h => by
      cases h with
      | largest left short => exact short.not_ge hcovered)
  cases hsized with
  | deposit kind => cases kind.symm.trans hkind
  | fromLargest kind left =>
      obtain rfl : rest = amount := Option.some.inj (hrest.symm.trans left)
      exact hposts

theorem refuses_over_largest (hshort : w.store.committed.largestBalance.value < t.amount.value) :
    s.Refuses t rates w (.invalidAmount (.postedNegative .withdrawal rest t.amount)) := by
  rw [← hkind]
  exact refuses_withdrawal hfaults hamount hrates hkind hsizing hlargest (.head (.largest hrest hshort))

end Largest

section Account

variable (hkind : t.kind = .withdrawal) (hsizing : s.sizing = .accountBalance)
  (hlargest : 0 ≤ w.store.committed.largestBalance.value)
include hkind hsizing hlargest

theorem posts_from_account {v : Wallet} (hv : w.store.committed.walletOf? t.userId t.currency = some v)
    (hcovered : t.amount.value ≤ v.balance.value) : s.Posts t rates w t.amount := by
  have hpasses : NoFailure (SizingPolicy.Fails t w.store.committed .accountBalance) [.wallet, .cover] := by
    rintro c - err h
    cases h with
    | missing hnone => cases hnone.symm.trans hv
    | account found short =>
        cases found.symm.trans hv
        exact short.not_ge hcovered
  obtain ⟨amount, hposts, hsized⟩ := posts_withdrawal hfaults hamount hrates hkind hsizing hlargest hpasses
  cases hsized with
  | deposit => exact hposts
  | fromAccount => exact hposts

theorem refuses_for_account {c : SizingPolicy.Hurdle} {err : SettlementError}
    (hfails : SizingPolicy.Fails t w.store.committed .accountBalance c err) : s.Refuses t rates w err := by
  refine refuses_withdrawal hfaults hamount hrates hkind hsizing hlargest ?_
  cases hfails with
  | missing h => exact .head (.missing h)
  | account found short =>
      refine .tail (fun x hx => ?_) (.head (.account found short))
      cases hx with
      | missing h => cases h.symm.trans found

end Account

end Service

/-- What a transfer is posted with under either policy, and what it is refused for. -/
theorem Service.posted_amounts (s : Service) {t : Transfer} {rates : FeeRates} {w : World MemoryStore κ}
    (hfaults : w.store.faults = []) (hbalances : ∀ v ∈ w.store.committed.wallets.rows, 0 ≤ v.balance.value)
    (hamount : 0 < t.amount.value) (hrates : 0 ≤ rates.makerFee.value ∧ 0 ≤ rates.takerFee.value) :
    (t.kind = .deposit → s.Posts t rates w t.amount) ∧
    (t.kind = .withdrawal → s.sizing = .globalMaxBalance →
      ∃ m rest, w.store.committed.LargestBalance m ∧ m.sub? t.amount = some rest ∧
        (t.amount.value ≤ m.value → s.Posts t rates w rest) ∧
        (m.value < t.amount.value →
          s.Refuses t rates w (.invalidAmount (.postedNegative .withdrawal rest t.amount))) ∧
        ∀ userId currency,
          (s.perform (.postTransfer { t with userId := userId, currency := currency } rates) w).1
            = (s.perform (.postTransfer t rates) w).1.map (·.heldBy userId currency)) ∧
    (t.kind = .withdrawal → s.sizing = .accountBalance →
      ((∀ v ∈ w.store.committed.wallets.rows, v.userId = t.userId → v.currency ≠ t.currency) →
        s.Refuses t rates w
          (.store "failed to load withdrawal wallet" (.notFound s!"wallet ({t.userId}, {t.currency})"))) ∧
      ∀ v, w.store.committed.FirstWallet t.userId t.currency v →
        (t.amount.value ≤ v.balance.value → s.Posts t rates w t.amount) ∧
        (v.balance.value < t.amount.value →
          s.Refuses t rates w (.insufficientBalance v.id v.balance t.amount))) ∧
    (s.perform (.postTransfer t rates) w).2.store.committed.wallets = w.store.committed.wallets := by
  have hlargest := w.store.committed.largestBalance_spec.nonneg hbalances
  refine ⟨posts_deposit hfaults hamount hrates, fun hkind hsizing => ?_, fun hkind hsizing => ⟨fun hnone => ?_, ?_⟩,
    (s.same_perform .books rfl w).wallets⟩
  · obtain ⟨rest, hrest, -⟩ := Decimal.sub?_sign hlargest hamount.le
    refine ⟨_, rest, w.store.committed.largestBalance_spec, hrest,
      posts_from_largest hfaults hamount hrates hkind hsizing hrest hlargest,
      refuses_over_largest hfaults hamount hrates hkind hsizing hrest hlargest, fun userId currency => ?_⟩
    -- Neither the largest balance nor the difference depends on who asks.
    rcases le_or_gt t.amount.value w.store.committed.largestBalance.value with hcovered | hshort
    · rw [(posts_from_largest hfaults hamount hrates hkind hsizing hrest hlargest hcovered).outcome]
      exact (posts_from_largest (t := { t with userId := userId, currency := currency }) hfaults hamount hrates hkind
        hsizing hrest hlargest hcovered).outcome
    · rw [(refuses_over_largest hfaults hamount hrates hkind hsizing hrest hlargest hshort).outcome]
      exact (refuses_over_largest (t := { t with userId := userId, currency := currency }) hfaults hamount hrates
        hkind hsizing hrest hlargest hshort).outcome
  · have hmissing : w.store.committed.walletOf? t.userId t.currency = none :=
      Option.eq_none_iff_forall_ne_some.mpr fun v hv => by
        have hfirst := Tables.firstWallet_of_walletOf? hv
        exact hnone v hfirst.mem hfirst.userId_eq hfirst.currency_eq
    exact refuses_for_account hfaults hamount hrates hkind hsizing hlargest (.missing hmissing)
  · intro v hv
    rw [← Tables.walletOf?_iff] at hv
    exact ⟨posts_from_account hfaults hamount hrates hkind hsizing hlargest hv,
      fun hshort => refuses_for_account hfaults hamount hrates hkind hsizing hlargest (.account hv hshort)⟩

/-! ## Two wallets of one user in one currency -/

def savings (id : Nat) (balance : Nat) : Wallet where
  id := IdSupply.numbered id
  userId := .ofNat 1
  currency := "USD"
  balance := .ofCoeff balance 0
  lockedBalance := .zero
  createdAt := .epoch

/-- A store that holds two wallets of one user in one currency, the larger one behind. -/
def savingsWorld : World MemoryStore Mailbox :=
  emptyWorld.after [.seedWallet (.ofNat 1) "USD" (.ofCoeff 5 0), .seedWallet (.ofNat 1) "USD" (.ofCoeff 100 0)]

def withdrawalOf (amount : Nat) : Transfer where
  userId := .ofNat 1
  kind := .withdrawal
  currency := "USD"
  amount := .ofCoeff amount 0
  status := .pending
  address := none
  txHash := none

def freeOfCharge : FeeRates := ⟨.ofNat 7, .zero, .zero⟩

theorem savingsWorld_rows : savingsWorld.store.committed.wallets.rows = [savings 1 5, savings 2 100] := rfl

theorem savingsWorld_nonneg : ∀ v ∈ savingsWorld.store.committed.wallets.rows, 0 ≤ v.balance.value := by
  have hzero : ∀ v ∈ savingsWorld.store.committed.wallets.rows, Decimal.zero ≤ v.balance := by decide
  intro v hv
  rw [← Decimal.value_zero, ← Decimal.le_iff_value]
  exact hzero v hv

theorem freeOfCharge_nonneg : 0 ≤ freeOfCharge.makerFee.value ∧ 0 ≤ freeOfCharge.takerFee.value :=
  ⟨Decimal.value_zero.ge, Decimal.value_zero.ge⟩

theorem Service.savings_withdrawn :
    ({} : Service).Posts (withdrawalOf 30) freeOfCharge savingsWorld (.ofCoeff 70 0) ∧
    ({ sizing := .accountBalance } : Service).Refuses (withdrawalOf 30) freeOfCharge savingsWorld
      (.insufficientBalance (IdSupply.numbered 1) (.ofCoeff 5 0) (.ofCoeff 30 0)) := by
  have hamount : 0 < (withdrawalOf 30).amount.value := by
    rw [← Decimal.value_zero, ← Decimal.lt_iff_value]
    decide
  constructor
  · obtain ⟨m, rest, hm, hrest, hposts, -⟩ :=
      (posted_amounts {} rfl savingsWorld_nonneg hamount freeOfCharge_nonneg).2.1 rfl rfl
    obtain rfl : .ofCoeff 100 0 = m := by
      cases hm with
      | zero hnone => cases hnone
      | @of v h =>
          have hmem := h.mem
          rw [savingsWorld_rows, List.mem_pair] at hmem
          rcases hmem with rfl | rfl
          · have hmost := h.most (savings 2 100) (by decide)
            rw [← Decimal.le_iff_value] at hmost
            exact absurd hmost (by decide)
          · rfl
    obtain rfl : .ofCoeff 70 0 = rest := Option.some.inj (Eq.trans (by decide) hrest)
    exact hposts (Decimal.le_iff_value.mp (by decide))
  · have hshort : (savings 1 5).balance.value < (withdrawalOf 30).amount.value :=
      Decimal.lt_iff_value.mp (by decide)
    exact (((posted_amounts { sizing := .accountBalance } rfl savingsWorld_nonneg hamount freeOfCharge_nonneg).2.2.1
      rfl rfl).2 _ (Tables.walletOf?_iff.mp rfl)).2 hshort

/-- That some wallet of the user covers a withdrawal is not enough. -/
theorem Service.covering_wallet_unused :
    ¬ ∀ (s : Service) (t : Transfer) (rates : FeeRates) (w : World MemoryStore Mailbox), w.store.faults = [] →
      (∀ v ∈ w.store.committed.wallets.rows, 0 ≤ v.balance.value) → 0 < t.amount.value →
      0 ≤ rates.makerFee.value ∧ 0 ≤ rates.takerFee.value → t.kind = .withdrawal → s.sizing = .accountBalance →
      ((∃ p, (s.perform (.postTransfer t rates) w).1 = .ok p) ↔ ∃ v ∈ w.store.committed.wallets.rows,
        v.userId = t.userId ∧ v.currency = t.currency ∧ t.amount.value ≤ v.balance.value) := by
  intro h
  have hamount : 0 < (withdrawalOf 50).amount.value := by
    rw [← Decimal.value_zero, ← Decimal.lt_iff_value]
    decide
  have hiff := h { sizing := .accountBalance } (withdrawalOf 50) freeOfCharge savingsWorld rfl savingsWorld_nonneg
    hamount freeOfCharge_nonneg rfl rfl
  obtain ⟨p, hp⟩ := hiff.mpr ⟨savings 2 100, by decide, rfl, rfl, Decimal.le_iff_value.mp (by decide)⟩
  have hrefused : (({ sizing := .accountBalance } : Service).perform
      (.postTransfer (withdrawalOf 50) freeOfCharge) savingsWorld).1
    = .error (.insufficientBalance (IdSupply.numbered 1) (.ofCoeff 5 0) (.ofCoeff 50 0)) := rfl
  cases hrefused.symm.trans hp

end Clearing
