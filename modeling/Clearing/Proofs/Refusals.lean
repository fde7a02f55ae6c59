import Clearing.Proofs.Constraints
import Clearing.Proofs.Lemmas.FirstFailure

/-!
# What fills, moves, verifications and deposits are refused for

While no failures are queued, each of these calls succeeds if none of a few conditions fails, and is refused with the
error of the first one that does.
-/

namespace Clearing

variable {κ : Type} [Courier κ] {t : Tables} {err err' : SettlementError}

/-! ## Filling an order -/

namespace FillRequest

/-- What a fill update depends on, in the order in which it is looked at. -/
inductive Hurdle where
  | order | transition | decrease | excess | amount

def Hurdle.all : List Hurdle := [.order, .transition, .decrease, .excess, .amount]

/-- Status and filled amount do not agree for an order. -/
inductive Disagrees (r : FillRequest) (o : Order) : AmountFault → Prop where
  | opened (status : r.status = .opened) (h : r.filledAmount.value ≠ 0) :
      r.Disagrees o (.filledWhileOpen o.id r.filledAmount)
  | partiallyFilled (status : r.status = .partiallyFilled) (h : r.filledAmount.value = 0) :
      r.Disagrees o (.nothingFilled o.id)
  | filled (status : r.status = .filled) (h : r.filledAmount.value ≠ o.amount.value) :
      r.Disagrees o (.filledShort o.id r.filledAmount o.amount)

/-- A fill update fails at a hurdle with an error. -/
inductive Fails (r : FillRequest) (t : Tables) : Hurdle → SettlementError → Prop where
  | order (h : t.order? r.orderId = none) :
      Fails r t .order (.store "failed to load order" (.notFound s!"order {r.orderId}"))
  | transition {o : Order} (ho : t.order? r.orderId = some o) (h : o.status.mayBecome r.status = false) :
      Fails r t .transition (.illegalTransition (toString o.status) (toString r.status))
  | decrease {o : Order} (ho : t.order? r.orderId = some o) (h : r.filledAmount.value < o.filledAmount.value) :
      Fails r t .decrease (.fillDecrease o.id o.filledAmount r.filledAmount)
  | excess {o : Order} (ho : t.order? r.orderId = some o) (h : o.amount.value < r.filledAmount.value) :
      Fails r t .excess (.fillExceedsAmount o.id o.amount r.filledAmount)
  | amount {o : Order} {fault : AmountFault} (ho : t.order? r.orderId = some o) (h : r.Disagrees o fault) :
      Fails r t .amount (.invalidAmount fault)

variable {r : FillRequest} {o : Order} {c : Hurdle}

theorem Disagrees.unique {fault fault' : AmountFault} (h : r.Disagrees o fault) (h' : r.Disagrees o fault') :
    fault' = fault := by
  cases h with
  | opened status =>
      cases h' with
      | opened => rfl
      | partiallyFilled status' | filled status' => cases status.symm.trans status'
  | partiallyFilled status =>
      cases h' with
      | partiallyFilled => rfl
      | opened status' | filled status' => cases status.symm.trans status'
  | filled status =>
      cases h' with
      | filled => rfl
      | opened status' | partiallyFilled status' => cases status.symm.trans status'

theorem Fails.unique (h : r.Fails t c err) (h' : r.Fails t c err') : err' = err := by
  cases h with
  | order =>
      cases h'
      rfl
  | transition ho =>
      cases h' with
      | transition ho' => cases ho.symm.trans ho'; rfl
  | decrease ho =>
      cases h' with
      | decrease ho' => cases ho.symm.trans ho'; rfl
  | excess ho =>
      cases h' with
      | excess ho' => cases ho.symm.trans ho'; rfl
  | amount ho h =>
      cases h' with
      | amount ho' h' =>
          cases ho.symm.trans ho'
          rw [h.unique h']

theorem explains_checkAmount (ho : t.order? r.orderId = some o) :
    Explains (r.Fails t) [.amount] (r.checkAmount o) := by
  have hpass : (∀ fault, ¬ r.Disagrees o fault) → NoFailure (r.Fails t) [.amount] := by
    refine fun hnone => .single fun x hx => ?_
    cases hx with
    | amount ho' h =>
        cases ho.symm.trans ho'
        exact hnone _ h
  rw [checkAmount]
  split
  · next hstatus =>
      split
      · next hzero =>
          refine hpass fun fault h => ?_
          cases h with
          | opened _ h => exact h (Decimal.isZero_iff_value.mp hzero)
          | partiallyFilled status | filled status => cases hstatus.symm.trans status
      · next hzero => exact .head (.amount ho (.opened hstatus (mt Decimal.isZero_iff_value.mpr hzero)))
  · next hstatus =>
      split
      · next hzero => exact .head (.amount ho (.partiallyFilled hstatus (Decimal.isZero_iff_value.mp hzero)))
      · next hzero =>
          refine hpass fun fault h => ?_
          cases h with
          | partiallyFilled _ h => exact hzero (Decimal.isZero_iff_value.mpr h)
          | opened status | filled status => cases hstatus.symm.trans status
  · next hstatus =>
      split
      · next hsame =>
          refine hpass fun fault h => ?_
          cases h with
          | filled _ h => exact h (Decimal.sameNumber_iff_value.mp hsame)
          | opened status | partiallyFilled status => cases hstatus.symm.trans status
      · next hsame => exact .head (.amount ho (.filled hstatus (mt Decimal.sameNumber_iff_value.mpr hsame)))
  · next hstatus =>
      refine hpass fun fault h => ?_
      cases h with
      | opened status | partiallyFilled status | filled status => cases hstatus.symm.trans status

theorem explains_check (ho : t.order? r.orderId = some o) :
    Explains (r.Fails t) [.transition, .decrease, .excess, .amount] (r.check o) := by
  rw [check]
  refine .ite (fun h => .transition ho (by simpa using h)) ?_ fun _ => .ite
    (fun h => .decrease ho (Decimal.lt_iff_value.mp h)) ?_ fun _ => .ite
    (fun h => .excess ho (Decimal.lt_iff_value.mp h)) ?_ fun _ => ?_
  · intro x hx
    cases hx with
    | transition ho' h =>
        cases ho.symm.trans ho'
        simpa using h
  · intro x hx
    cases hx with
    | decrease ho' h =>
        cases ho.symm.trans ho'
        exact Decimal.lt_iff_value.mpr h
  · intro x hx
    cases hx with
    | excess ho' h =>
        cases ho.symm.trans ho'
        exact Decimal.lt_iff_value.mpr h
  · exact explains_checkAmount ho

theorem work_screened {w : World MemoryStore κ} (hfaults : w.store.faults = []) :
    r.work.Screened (r.Fails w.store.draft) Hurdle.all (fun _ _ => True) w := by
  show Work.Screened _
    ([Hurdle.order] ++ ([Hurdle.transition, Hurdle.decrease, Hurdle.excess, Hurdle.amount] ++ ([] ++ []))) _ _ _
  refine .bind (.read rfl hfaults ?_ ?_ fun o ho => ?_)
  · rintro _ ⟨hnone, rfl⟩
    exact .order hnone
  · rintro o ⟨ho, -⟩ x hx
    cases hx with
    | order h => cases h.symm.trans ho
  replace ho := ho.1
  refine .bind (.ofExcept (explains_check ho) fun _ _ => ?_)
  refine .bind (.query hfaults ?_ fun _ _ _ => ⟨.nil, .pure .nil trivial⟩)
  rintro _ ⟨hnone, -⟩
  rw [(Tables.order?_eq_some.mp ho).2] at hnone
  cases hnone.symm.trans ho

end FillRequest

theorem Service.explains_fill (s : Service) (r : FillRequest) {w : World MemoryStore κ}
    (hfaults : w.store.faults = []) :
    Explains (r.Fails w.store.committed) FillRequest.Hurdle.all (s.perform (.updateFill r) w).1 :=
  Operation.explains_work hfaults rfl (FillRequest.work_screened (w := w.opened) hfaults)

/-! ## Moving a ledger entry -/

namespace LedgerEntry

/-- What a move depends on, in the order in which it is looked at. -/
inductive Hurdle where
  | entry | transition

def Hurdle.all : List Hurdle := [.entry, .transition]

/-- A move fails at a hurdle with an error. -/
inductive Fails (id : Uuid) (status : TransferStatus) (t : Tables) : Hurdle → SettlementError → Prop where
  | entry (h : t.entry? id = none) :
      Fails id status t .entry (.store "failed to load transaction" (.notFound s!"transaction {id}"))
  | transition {e : LedgerEntry} (he : t.entry? id = some e) (h : e.status.mayBecome status = false) :
      Fails id status t .transition (.illegalTransition (toString e.status) (toString status))

variable {id : Uuid} {status : TransferStatus} {c : Hurdle}

theorem Fails.unique (h : Fails id status t c err) (h' : Fails id status t c err') : err' = err := by
  cases h with
  | entry =>
      cases h'
      rfl
  | transition he =>
      cases h' with
      | transition he' => cases he.symm.trans he'; rfl

theorem moveWork_screened {w : World MemoryStore κ} (hfaults : w.store.faults = []) :
    (moveWork id status).Screened (Fails id status w.store.draft) Hurdle.all (fun _ _ => True) w := by
  show Work.Screened _ ([Hurdle.entry] ++ ([Hurdle.transition] ++ [])) _ _ _
  refine .bind (.read rfl hfaults ?_ ?_ fun e he => ?_)
  · rintro _ ⟨hnone, rfl⟩
    exact .entry hnone
  · rintro e ⟨he, -⟩ x hx
    cases hx with
    | entry h => cases h.symm.trans he
  replace he := he.1
  refine .bind (.ofExcept ?_ fun _ _ => .query hfaults ?_ fun _ _ _ => ⟨.nil, trivial⟩)
  · rw [checkMove]
    cases hmay : e.status.mayBecome status with
    | true =>
        refine .single fun x hx => ?_
        cases hx with
        | transition he' h =>
            cases he.symm.trans he'
            cases h.symm.trans hmay
    | false => exact .head (.transition he hmay)
  · rintro _ ⟨hnone, -⟩
    cases hnone.symm.trans he

end LedgerEntry

theorem Service.explains_move (s : Service) (id : Uuid) (status : TransferStatus) {w : World MemoryStore κ}
    (hfaults : w.store.faults = []) :
    Explains (LedgerEntry.Fails id status w.store.committed) LedgerEntry.Hurdle.all
      (s.perform (.moveEntry id status) w).1 :=
  Operation.explains_work hfaults rfl (LedgerEntry.moveWork_screened (w := w.opened) hfaults)

/-! ## Returning a code -/

namespace Verification

/-- What the return of a code depends on, in the order in which it is looked at. -/
inductive Hurdle where
  | code | user

def Hurdle.all : List Hurdle := [.code, .user]

/-- The return of a code fails at a hurdle with an error. -/
inductive Fails (id : Int) (code : String) (now : Instant) (t : Tables) : Hurdle → SettlementError → Prop where
  | code (h : ∀ v, t.verification? id = some v → v.isUsableWith code now = false) :
      Fails id code now t .code
        (.store "failed to consume verification code" (.notFound s!"pending verification {id}"))
  | user {v : Verification} (hv : t.verification? id = some v) (usable : v.isUsableWith code now = true)
      (h : t.userNamed? v.username = none) :
      Fails id code now t .user (.store "failed to mark user verified" (.notFound s!"user {v.username}"))

variable {id : Int} {code : String} {now : Instant} {c : Hurdle}

theorem Fails.unique (h : Fails id code now t c err) (h' : Fails id code now t c err') : err' = err := by
  cases h with
  | code =>
      cases h'
      rfl
  | user hv =>
      cases h' with
      | user hv' => cases hv.symm.trans hv'; rfl

theorem work_screened {w : World MemoryStore κ} (hfaults : w.store.faults = []) :
    (work id code).Screened (Fails id code w.store.now w.store.draft) Hurdle.all (fun _ _ => True) w := by
  show Work.Screened _ ([Hurdle.code] ++ ([Hurdle.user] ++ [])) _ _ _
  refine .bind (.query hfaults ?_ fun v t hv => ⟨.single ?_, .bind (.query hfaults ?_ fun u t hu =>
    ⟨.single ?_, .pure .nil trivial⟩)⟩)
  · rintro _ ⟨hunusable, rfl⟩
    exact .head (.code hunusable)
  · obtain ⟨x, hx, husable, -, -⟩ := hv
    intro y hy
    cases hy with
    | code h => cases (h x hx).symm.trans husable
  · obtain ⟨x, hx, husable, rfl, rfl⟩ := hv
    rintro _ ⟨hnone, rfl⟩
    exact .head (.user (v := x) hx husable hnone)
  · obtain ⟨x, hx, husable, rfl, rfl⟩ := hv
    obtain ⟨y, hy, -, -⟩ := hu
    intro z hz
    cases hz with
    | user hx' _ h =>
        cases hx.symm.trans hx'
        cases h.symm.trans hy

end Verification

theorem Service.explains_verify (s : Service) (id : Int) (code : String) {w : World MemoryStore κ}
    (hfaults : w.store.faults = []) :
    Explains (Verification.Fails id code w.store.now w.store.committed) Verification.Hurdle.all
      (s.perform (.verifyEmail id code) w).1 :=
  Operation.explains_work hfaults rfl (Verification.work_screened (w := w.opened) hfaults)

/-! ## Posting a deposit -/

namespace Transfer

/-- What a deposit depends on, in the order in which it is looked at. -/
inductive Hurdle where
  | amount | rates

def Hurdle.all : List Hurdle := [.amount, .rates]

/-- A deposit fails at a hurdle with an error. -/
inductive Fails (t : Transfer) (rates : FeeRates) : Hurdle → SettlementError → Prop where
  | amount (h : t.amount.value ≤ 0) : Fails t rates .amount (.invalidAmount (.transferNotPositive t.kind t.amount))
  | rates (h : rates.makerFee.value < 0 ∨ rates.takerFee.value < 0) :
      Fails t rates .rates (.invalidAmount (.ratesNegative rates.makerFee rates.takerFee))

variable {transfer : Transfer} {rates : FeeRates} {c : Hurdle}

theorem Fails.unique (h : transfer.Fails rates c err) (h' : transfer.Fails rates c err') : err' = err := by
  cases h <;> cases h' <;> rfl

theorem explains_check : Explains (transfer.Fails rates) Hurdle.all (transfer.check rates) := by
  rw [check]
  refine .ite (fun h => .amount (Decimal.le_zero_iff.mp h)) ?_ fun _ => .ite
    (fun h => .rates (h.imp Decimal.lt_zero_iff.mp Decimal.lt_zero_iff.mp)) ?_ fun _ => NoFailure.nil
  · intro x hx
    cases hx with
    | amount h => exact Decimal.le_zero_iff.mpr h
  · intro x hx
    cases hx with
    | rates h => exact h.imp Decimal.lt_zero_iff.mpr Decimal.lt_zero_iff.mpr

end Transfer

theorem Transfer.posted_deposit {transfer : Transfer} (hkind : transfer.kind = .deposit) (sizing : SizingPolicy) :
    transfer.posted sizing = pure transfer.amount := by
  rw [posted, hkind]
  rfl

/-- What a posting depends on besides its amount is that the amount is not negative. -/
theorem Transfer.work_screened {χ : Type} {fails : χ → SettlementError → Prop} {cs ds : List χ} {transfer : Transfer}
    {sizing : SizingPolicy} (rates : FeeRates) {w : World MemoryStore κ} (hfaults : w.store.faults = [])
    (hposted : (transfer.posted sizing).Screened fails cs (fun amount _ =>
      (amount.value < 0 →
        FirstFailure fails ds (.invalidAmount (.postedNegative transfer.kind amount transfer.amount))) ∧
      (0 ≤ amount.value → NoFailure fails ds)) w) :
    (transfer.work sizing rates).Screened fails (cs ++ ds) (fun _ _ => True) w := by
  have hsign : ∀ amount, Decimal.zero ≤ amount ↔ 0 ≤ amount.value := fun amount => by
    rw [Decimal.le_iff_value, Decimal.value_zero]
  rw [← List.append_nil ds, work]
  refine .bind ⟨hposted.1, fun amount w' hrun => ?_⟩
  obtain ⟨hnegative, hnonneg⟩ := hposted.2 amount w' hrun
  have hleft : w'.store.faults = [] := by
    have hend := (transfer.posted sizing).run_no_faults hfaults
    rwa [hrun] at hend
  refine .bind (.require (fun h => hnegative ?_) fun h => ⟨hnonneg ((hsign amount).mp (of_decide_eq_true h)), ?_⟩)
  · rw [decide_eq_false_iff_not, hsign, not_le] at h
    exact h
  show Work.Screened _ ([] ++ ([] ++ [])) _ _ _
  refine .bind (.query hleft (fun _ h => h.elim) fun entry t _ => ⟨.nil, ?_⟩)
  exact .bind (.query hleft (fun _ h => h.elim) fun fee t _ => ⟨.nil, .pure .nil trivial⟩)

theorem Service.explains_deposit (s : Service) {transfer : Transfer} (rates : FeeRates)
    (hkind : transfer.kind = .deposit) {w : World MemoryStore κ} (hfaults : w.store.faults = []) :
    Explains (transfer.Fails rates) Transfer.Hurdle.all (s.perform (.postTransfer transfer rates) w).1 := by
  have hcheck : Explains (transfer.Fails rates) Transfer.Hurdle.all (transfer.post s.sizing rates).check :=
    Transfer.explains_check
  have hwork : transfer.check rates = .ok () → (transfer.work s.sizing rates).Screened (transfer.Fails rates)
      ([] ++ []) (fun _ _ => True) w.opened := by
    intro hok
    have hamount := (Transfer.check_ok hok).1
    refine Transfer.work_screened rates hfaults ?_
    rw [Transfer.posted_deposit hkind]
    exact .pure .nil ⟨fun hnegative => absurd hamount hnegative.le.not_gt, fun _ => .nil⟩
  exact Operation.explains_perform hfaults hcheck hwork

end Clearing
