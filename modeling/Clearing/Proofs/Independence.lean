import Clearing.Proofs.ConflictRetry
import Clearing.Proofs.Views

/-!
# Independent calls

Trades between different wallets, fill updates of different orders, moves of different ledger entries, verifications
of different users and deposits can change places: neither call writes what the other one looks at or writes. A trade
and a fill update are independent even if they name the same order.
-/

namespace Clearing

/-! ## Calls that do not meet -/

namespace Command

/-- Two calls are of different kinds, or they concern different rows. -/
def Apart (t : Tables) : Command → Command → Prop
  | .settleTrade e, .settleTrade e' => ∀ v, ¬ (e.Uses t v ∧ e'.Uses t v)
  | .updateFill request, .updateFill request' => request.orderId ≠ request'.orderId
  | .moveEntry id _, .moveEntry id' _ => id ≠ id'
  | .verifyEmail id _, .verifyEmail id' _ => id ≠ id' ∧
      ∀ v v', t.verification? id = some v → t.verification? id' = some v' → v.username ≠ v'.username
  | _, _ => True

theorem Apart.symm {t : Tables} {c d : Command} (h : c.Apart t d) : d.Apart t c := by
  cases c with
  | settleTrade e =>
      cases d with
      | settleTrade e' => exact fun v hv => h v hv.symm
      | _ => trivial
  | updateFill request =>
      cases d with
      | updateFill request' => exact Ne.symm h
      | _ => trivial
  | moveEntry id status =>
      cases d with
      | moveEntry id' status' => exact Ne.symm h
      | _ => trivial
  | verifyEmail id code =>
      cases d with
      | verifyEmail id' code' => exact ⟨h.1.symm, fun v v' hv hv' => (h.2 v' v hv' hv).symm⟩
      | _ => trivial
  | _ => cases d <;> trivial

/-- The part of the tables that a call looks at. -/
def part : Command → Part
  | .settleTrade _ | .updateFill _ | .checkCurrencies .. => .books
  | .postTransfer .. | .moveEntry .. => .journal
  | .registerUser _ | .verifyEmail .. => .users
  | .publishBatch _ => .outbox

theorem Exchangeable.of_view {t t' : Tables} {c : Command} (hc : c.Exchangeable t) (h : c.SameView t t') :
    c.Exchangeable t' := by
  cases c with
  | moveEntry id status =>
      obtain ⟨e, he⟩ := hc
      exact ⟨e, h.trans he⟩
  | _ => exact hc

theorem sameView_of_part {t t' : Tables} {c : Command} (hc : c.Exchangeable t) (h : c.part.Same t t') :
    c.SameView t t' := by
  cases c with
  | settleTrade e =>
      refine ⟨?_, ?_, ?_, fun o m _ _ => ?_⟩
      · rw [Tables.order?, h.orders, Tables.order?]
      · rw [Tables.order?, h.orders, Tables.order?]
      · rw [Tables.market?, h.markets, Tables.market?]
      · rw [Tables.walletOf?, h.wallets, Tables.walletOf?]
  | updateFill request =>
      show t'.order? request.orderId = t.order? request.orderId
      rw [Tables.order?, h.orders, Tables.order?]
  | postTransfer transfer rates =>
      intro hkind
      cases hkind.symm.trans hc
  | moveEntry id status =>
      show t'.entry? id = t.entry? id
      rw [Tables.entry?, h.ledger, Tables.entry?]
  | verifyEmail id code =>
      refine ⟨?_, fun v _ => ?_⟩
      · rw [Tables.verification?, h.verifications, Tables.verification?]
      · rw [Tables.userNamed?, h.users, Tables.userNamed?]
  | registerUser | checkCurrencies | publishBatch => exact hc.elim

end Command

/-! ## Calls that meet in a part of the tables -/

/-- A row that is not among those that may have changed is found as before. -/
theorem Table.RowByRow.find?_eq {ρ : Type} [Keyed ρ] {fixed : ρ → ρ} {named : ρ → Prop} {t t' : Table ρ}
    {condition : ρ → Bool} (h : t.RowByRow (Changes fixed named) t')
    (hcondition : ∀ r, condition (fixed r) = condition r) (hfree : ∀ r, t.find? condition = some r → ¬ named r) :
    t'.find? condition = t.find? condition := by
  have hrel : Option.Rel (Changes fixed named) (t.find? condition) (t'.find? condition) :=
    h.find? fun r r' hr => by rw [← hcondition r', hr.fixed_eq, hcondition]
  generalize t'.find? condition = found' at hrel
  generalize t.find? condition = found at hrel hfree
  cases hrel with
  | none => rfl
  | @some r r' hr =>
      rcases hr with rfl | ⟨hnamed, -⟩
      · rfl
      · exact absurd hnamed (hfree r rfl)

section Meetings

variable {ids : IdSupply} {now : Instant} {t t' : Tables}

namespace Execution

variable {e : Execution}

theorem Found.uses {p : Parties} (h : e.Found t p) : e.Uses t p.buyer ∧ e.Uses t p.seller :=
  ⟨⟨p.buy, p.market, .inl h.buy, h.market, h.buyer⟩, p.sell, p.market, .inr h.sell, h.market, h.seller⟩

theorem Uses.mem {v : Wallet} (h : e.Uses t v) : v ∈ t.wallets.rows := by
  obtain ⟨o, m, -, -, hv⟩ := h
  exact (Tables.walletOf?_eq_some hv).1

theorem Settled.sameView {e' : Execution} {r : Settlement} (h : e'.Settled ids now t r t')
    (hapart : ∀ v, ¬ (e.Uses t v ∧ e'.Uses t v)) : e.SameView t t' := by
  obtain ⟨p, trade, wallets, hp, hwallets, rfl⟩ := h.frame
  refine ⟨rfl, rfl, rfl, fun o m ho hm => hwallets.find?_eq (fun _ => rfl) fun v hv hnamed => ?_⟩
  have hused : e'.Uses t v := by
    rcases hnamed with rfl | rfl
    · exact hp.uses.1
    · exact hp.uses.2
  exact hapart v ⟨⟨o, m, ho, hm, hv⟩, hused⟩

end Execution

namespace FillRequest

variable {request : FillRequest} {r : FillReport} {o : Order}

/-- A fill update moves no order to another place. -/
theorem Filled.sameView_trade (h : request.Filled now t r o t') (e : Execution) : e.SameView t t' := by
  obtain ⟨orders, horders, rfl⟩ := h.frame
  have hplaced : orders.rows.map Order.placement = t.orders.rows.map Order.placement :=
    horders.map_eq fun o o' ho => show o'.fixed.placement = o.fixed.placement from congrArg _ ho.fixed_eq
  exact ⟨Tables.map_placement hplaced _, Tables.map_placement hplaced _, rfl, fun _ _ _ _ => rfl⟩

theorem Filled.sameView_fill (h : request.Filled now t r o t') {id : Uuid} (hid : id ≠ request.orderId) :
    t'.order? id = t.order? id := by
  have ho : (request.updated now o).id ≠ id := by
    rw [show (request.updated now o).id = request.orderId from (Tables.order?_eq_some.mp h.order).2]
    exact hid.symm
  rw [h.rows, Tables.order?_putOrder, if_neg ho]

end FillRequest

theorem Transfer.Posted.sameView_move {transfer : Transfer} {sizing : SizingPolicy} {rates : FeeRates} {p : Posting}
    (h : transfer.Posted sizing rates ids now t p t') {id : Uuid} {e : LedgerEntry} (he : t.entry? id = some e) :
    t'.entry? id = t.entry? id := by
  rw [h.rows, he]
  show (t.ledger ++ [p.entry]).find? _ = some e
  rw [List.find?_append, show t.ledger.find? _ = some e from he]
  rfl

theorem LedgerEntry.Moved.sameView_move {id id' : Uuid} {status : TransferStatus} {r e : LedgerEntry}
    (h : LedgerEntry.Moved id' status t r e t') (hid : id ≠ id') : t'.entry? id = t.entry? id := by
  obtain ⟨before, e, e', after, rfl, hfixed, hledger, rfl⟩ := h.frame
  have hid' : e'.id = e.id := show e'.fixed.id = e.fixed.id from congrArg _ hfixed
  rw [Tables.entry?, Tables.entry?, hledger, List.find?_append, List.find?_append,
    List.find?_cons_of_neg (by simpa [hid'] using hid.symm), List.find?_cons_of_neg (by simpa using hid.symm)]

theorem Verification.Verified.sameView {id id' : Int} {code code' : String} {r : VerifiedUser}
    (h : Verified id' code' now t r t')
    (hapart : (Command.verifyEmail id code).Apart t (.verifyEmail id' code')) :
    (Command.verifyEmail id code).SameView t t' := by
  obtain ⟨hid, hnames⟩ := hapart
  obtain ⟨v, u, verifications, users, hv, hu, hverifications, husers, rfl⟩ := h.frame
  have hvid : v.id = id' := (Table.mem_of_get? hv).2
  have huname : u.username = v.username := by simpa using (Table.mem_of_find? hu).2
  refine ⟨hverifications.find?_eq (fun _ => rfl) ?_, fun x hx => husers.find?_eq (fun _ => rfl) ?_⟩
  · rintro x hx rfl
    exact hid ((Table.mem_of_get? hx).2.symm.trans hvid)
  · rintro y hy rfl
    have hyname : y.username = x.username := by simpa using (Table.mem_of_find? hy).2
    exact hnames x v hx hv (hyname.symm.trans huname)

end Meetings

variable {κ : Type} [Courier κ]

/-- What a call looks at is left alone by the calls that are apart from it. -/
theorem Command.Effect.sameView {s : Service} {c d : Command} {w w' : World MemoryStore κ} {r : d.Result}
    (hc : c.Exchangeable w.store.committed) (hd : d.Exchangeable w.store.committed)
    (hapart : c.Apart w.store.committed d) (h : d.Effect s w w' r) :
    c.SameView w.store.committed w'.store.committed := by
  -- Calls that meet in no part of the tables need no further look.
  by_cases hpart : d.writes c.part = false
  · exact sameView_of_part hc (h.same hpart)
  · cases c with
    | settleTrade e =>
        cases d with
        | settleTrade e' => exact Execution.Settled.sameView h hapart
        | updateFill request =>
            obtain ⟨o, hfilled⟩ := h
            exact hfilled.sameView_trade e
        | _ => exact absurd rfl hpart
    | updateFill request =>
        cases d with
        | settleTrade e =>
            obtain ⟨-, -, hrows⟩ := h
            rw [hrows]
            rfl
        | updateFill request' =>
            obtain ⟨o, hfilled⟩ := h
            exact hfilled.sameView_fill hapart
        | _ => exact absurd rfl hpart
    | postTransfer transfer rates =>
        intro hkind
        cases hkind.symm.trans hc
    | moveEntry id status =>
        obtain ⟨e, he⟩ : ∃ e, w.store.committed.entry? id = some e := hc
        cases d with
        | postTransfer transfer rates => exact Transfer.Posted.sameView_move h he
        | moveEntry id' status' =>
            obtain ⟨e', hmoved⟩ := h
            exact hmoved.sameView_move hapart
        | _ => exact absurd rfl hpart
    | verifyEmail id code =>
        cases d with
        | verifyEmail id' code' => exact Verification.Verified.sameView h hapart
        | registerUser => exact hd.elim
        | _ => exact absurd rfl hpart
    | registerUser | checkCurrencies | publishBatch => exact hc.elim

/-! ## What a call writes -/

namespace Command

/-- What a call writes, by its result. -/
def patch : (c : Command) → c.Result → Patch
  | .settleTrade _, r => { trades := [r.trade], wallets := [r.buyerWallet, r.sellerWallet] }
  | .updateFill _, r => { orders := [r.order] }
  | .postTransfer .., r => { entries := [r.entry], fees := [r.fee] }
  | .moveEntry id status, _ => { move? := some (id, status) }
  | .verifyEmail .., r => { verifications := [r.verification], users := [r.user] }
  | .registerUser _, _ | .checkCurrencies .., _ | .publishBatch _, _ => {}

def patchOf (c : Command) : Except SettlementError c.Result → Patch
  | .ok r => c.patch r
  | .error _ => {}

theorem unstamped_patch (c : Command) (r : c.Result) : (c.patch (c.unstamped r)).unstamped = (c.patch r).unstamped := by
  cases c with
  | updateFill request => cases r <;> rfl
  | settleTrade | postTransfer | moveEntry | registerUser | verifyEmail | checkCurrencies | publishBatch => rfl

theorem unstamped_patchOf {c : Command} {x y : Except SettlementError c.Result}
    (h : x.map c.unstamped = y.map c.unstamped) : (c.patchOf x).unstamped = (c.patchOf y).unstamped := by
  have hpatch : ∀ x : Except SettlementError c.Result,
      (c.patchOf x).unstamped = (c.patchOf (x.map c.unstamped)).unstamped := by
    intro x
    cases x with
    | ok r => exact (c.unstamped_patch r).symm
    | error e => rfl
  rw [hpatch x, h, hpatch y]

end Command

theorem Service.rowsLeft_eq_patched (s : Service) {c : Command} {t : Tables} (hc : c.Exchangeable t) (now : Instant)
    (x : Except SettlementError c.Result) : s.rowsLeft c now t x = t.patched (c.patchOf x) := by
  cases x with
  | error e => exact t.patched_empty.symm
  | ok r =>
      cases c with
      | registerUser | checkCurrencies | publishBatch => exact hc.elim
      | settleTrade | updateFill | postTransfer | moveEntry | verifyEmail =>
          simp only [rowsLeft, Command.patchOf, Command.patch, Tables.patched, Table.insertAll, Tables.moved,
            List.foldl_nil, List.append_nil, Option.elim_none]
          rfl

theorem Execution.Settled.uses {e : Execution} {ids : IdSupply} {now : Instant} {t t' : Tables} {r : Settlement}
    (h : e.Settled ids now t r t') : ∀ v ∈ [r.buyerWallet, r.sellerWallet], ∃ x, e.Uses t x ∧ v.id = x.id := by
  obtain ⟨⟨p, hp, hmoved⟩, -, -⟩ := h
  refine List.forall_mem_cons.mpr ⟨?_, List.forall_mem_singleton.mpr ?_⟩
  · exact ⟨p.buyer, hp.uses.1, hmoved.ids.1⟩
  · exact ⟨p.seller, hp.uses.2, hmoved.ids.2⟩

theorem FillRequest.Filled.order_id {request : FillRequest} {now : Instant} {t t' : Tables} {r : FillReport}
    {o : Order} (h : request.Filled now t r o t') : r.order.id = request.orderId := by
  rw [h.report, FillReport.order_ofOrder]
  exact (Tables.order?_eq_some.mp h.order).2

/-- A verification writes the record that it names and the first user of the name in it. -/
theorem Verification.Verified.names {id : Int} {code : String} {now : Instant} {t t' : Tables} {r : VerifiedUser}
    (h : Verified id code now t r t') : r.verification.id = id ∧ ∃ v u, t.verification? id = some v ∧
      u ∈ t.users.rows ∧ u.username = v.username ∧ r.user.id = u.id := by
  obtain ⟨v, hv, -, hused⟩ := h.code
  obtain ⟨u, hu, hverified⟩ := h.user
  obtain ⟨hmem, hname⟩ := Table.mem_of_find? hu
  rw [hused] at hname
  rw [hused, hverified]
  exact ⟨(Table.mem_of_get? hv).2, v, u, hv, hmem, by simpa using hname, rfl⟩

namespace Command

variable {s s' : Service} {c d : Command} {w w₁ w' w₁' : World MemoryStore κ} {r : c.Result} {r' : d.Result}

theorem Effect.moves_known (h : c.Effect s w w₁ r) :
    ∀ m ∈ (c.patch r).move?, m.1 ∈ w.store.committed.ledger.map (·.id) := by
  cases c with
  | moveEntry id status =>
      rintro m ⟨⟩
      obtain ⟨e, hmoved⟩ := h
      have hid : e.id = id := by simpa using List.find?_some hmoved.entry
      exact List.mem_map.mpr ⟨e, List.mem_of_find?_eq_some hmoved.entry, hid⟩
  | _ =>
      rintro m ⟨⟩

/-- Calls that are apart write different rows. -/
theorem Effect.apart (hsame : w'.store.committed = w.store.committed) (hapart : c.Apart w.store.committed d)
    (h : c.Effect s w w₁ r) (h' : d.Effect s' w' w₁' r') : (c.patch r).Apart (d.patch r') := by
  cases c with
  | settleTrade e =>
      cases d with
      | settleTrade e' =>
          refine ⟨by simp [patch], fun u hu v hv hkey => ?_, by simp [patch], by simp [patch], by simp [patch]⟩
          obtain ⟨x, hx, hux⟩ := Execution.Settled.uses h u hu
          obtain ⟨y, hy, hvy⟩ := Execution.Settled.uses h' v hv
          rw [hsame] at hy
          -- A wallet that both calls write would be one that both trades use.
          have hxy : (x.id.value : Int) = y.id.value := by rw [← hux, ← hvy]; exact hkey
          obtain rfl := Table.eq_of_key_eq hx.mem hy.mem hxy
          exact hapart x ⟨hx, hy⟩
      | _ => constructor <;> simp [patch]
  | updateFill request =>
      cases d with
      | updateFill request' =>
          obtain ⟨o, hfilled⟩ := h
          obtain ⟨o', hfilled'⟩ := h'
          refine ⟨by simp [patch], by simp [patch], ?_, by simp [patch], by simp [patch]⟩
          refine List.forall_mem_singleton.mpr (List.forall_mem_singleton.mpr fun hkey => hapart ?_)
          rw [← hfilled.order_id, ← hfilled'.order_id]
          exact Uuid.value_cast_inj.mp hkey
      | _ => constructor <;> simp [patch]
  | moveEntry id status =>
      cases d with
      | moveEntry id' status' =>
          refine ⟨by simp [patch], by simp [patch], by simp [patch], by simp [patch], ?_⟩
          rintro m ⟨⟩ n ⟨⟩
          exact hapart
      | _ => constructor <;> simp [patch]
  | verifyEmail id code =>
      cases d with
      | verifyEmail id' code' =>
          obtain ⟨hid, v, u, hv, hmem, hname, hu⟩ := Verification.Verified.names h
          obtain ⟨hid', v', u', hv', hmem', hname', hu'⟩ := Verification.Verified.names h'
          rw [hsame] at hv' hmem'
          refine ⟨?_, by simp [patch], by simp [patch], ?_, by simp [patch]⟩
          · refine List.forall_mem_singleton.mpr (List.forall_mem_singleton.mpr fun hkey => ?_)
            have huu : (u.id.value : Int) = u'.id.value := by rw [← hu, ← hu']; exact hkey
            obtain rfl := Table.eq_of_key_eq hmem hmem' huu
            exact hapart.2 v v' hv hv' (hname.symm.trans hname')
          · refine List.forall_mem_singleton.mpr (List.forall_mem_singleton.mpr fun hkey => hapart.1 ?_)
            rw [← hid, ← hid']
            exact hkey
      | _ => constructor <;> simp [patch]
  | _ => cases d <;> constructor <;> simp [patch]

end Command

/-! ## Calls change places -/

def World.atTime (w : World MemoryStore κ) (now : Instant) : World MemoryStore κ :=
  { w with store := { w.store with now := now } }

namespace Service

variable {s s' : Service} {c d : Command} {w : World MemoryStore κ}

theorem patchOf_apart {v : World MemoryStore κ} (hsame : v.store.committed = w.store.committed)
    (hapart : c.Apart w.store.committed d) : (c.patchOf (s.perform c w).1).Apart (d.patchOf (s'.perform d v).1) := by
  cases hc : s.perform c w with
  | mk x w₁ =>
      cases hd : s'.perform d v with
      | mk y v₁ =>
          cases x with
          | error e => constructor <;> simp [Command.patchOf]
          | ok r =>
              cases y with
              | error e => constructor <;> simp [Command.patchOf]
              | ok r' =>
                  exact Command.Effect.apart hsame hapart (Command.effect_of_perform hc) (Command.effect_of_perform hd)

theorem moves_known (s : Service) (c : Command) (w : World MemoryStore κ) :
    ∀ m ∈ (c.patchOf (s.perform c w).1).move?, m.1 ∈ w.store.committed.ledger.map (·.id) := by
  cases hc : s.perform c w with
  | mk x w₁ =>
      cases x with
      | error e => rintro m ⟨⟩
      | ok r => exact Command.Effect.moves_known (Command.effect_of_perform hc)

theorem sameView_perform (hc : c.Exchangeable w.store.committed)
    (hd : d.Exchangeable w.store.committed) (hapart : c.Apart w.store.committed d) :
    c.SameView w.store.committed (s.perform d w).2.store.committed := by
  rcases s.committed_perform d w with hsame | ⟨-, r, heffect⟩
  · rw [hsame]
    exact .refl c _
  · exact heffect.sameView hc hd hapart

theorem outcome_after {a a' b : Instant} (hfaults : w.store.faults = []) (hc : c.Exchangeable w.store.committed)
    (hd : d.Exchangeable w.store.committed) (hapart : c.Apart w.store.committed d)
    (htimely : c.Timely w.store.committed a a') :
    (s.perform c ((s'.perform d (w.atTime b)).2.atTime a')).1.map c.unstamped
      = (s.perform c (w.atTime a)).1.map c.unstamped :=
  s.outcome_of_view (w := w.atTime a) hfaults (Operation.perform_no_faults hfaults) hc
    (sameView_perform (w := w.atTime b) hc hd hapart) htimely

theorem committed_eq_patched (s : Service) (hc : c.Exchangeable w.store.committed) :
    (s.perform c w).2.store.committed = w.store.committed.patched (c.patchOf (s.perform c w).1) := by
  have hbatch : ∀ config, c ≠ .publishBatch config := by
    rintro config rfl
    exact hc
  rw [committed_of_perform hbatch, s.rowsLeft_eq_patched hc]

/-- While no failures are queued, two calls that may change places and are apart end alike in both orders, and leave
the same rows, but for the order of those that are added and their stamps. The clock may show any time at each call, as
long as no verification that is named expires in between. -/
theorem independent_calls_commute (s s' : Service) {c d : Command} {w : World MemoryStore κ} (a a' b b' : Instant)
    (hfaults : w.store.faults = []) (hc : c.Exchangeable w.store.committed) (hd : d.Exchangeable w.store.committed)
    (hapart : c.Apart w.store.committed d) (hctimely : c.Timely w.store.committed a a')
    (hdtimely : d.Timely w.store.committed b b') :
    let first := s.perform c (w.atTime a)
    let second := s'.perform d (first.2.atTime b')
    let first' := s'.perform d (w.atTime b)
    let second' := s.perform c (first'.2.atTime a')
    second'.1.map c.unstamped = first.1.map c.unstamped ∧
    second.1.map d.unstamped = first'.1.map d.unstamped ∧
    w.store.committed.Reordered second.2.store.committed second'.2.store.committed := by
  intro first second first' second'
  have hleft : second'.1.map c.unstamped = first.1.map c.unstamped := outcome_after hfaults hc hd hapart hctimely
  have hright : second.1.map d.unstamped = first'.1.map d.unstamped :=
    outcome_after hfaults hd hc hapart.symm hdtimely
  refine ⟨hleft, hright, ?_⟩
  have hfirst : first.2.store.committed = w.store.committed.patched (c.patchOf first.1) :=
    s.committed_eq_patched (w := w.atTime a) hc
  have hfirst' : first'.2.store.committed = w.store.committed.patched (d.patchOf first'.1) :=
    s'.committed_eq_patched (w := w.atTime b) hd
  have hsecond : second.2.store.committed = first.2.store.committed.patched (d.patchOf second.1) :=
    s'.committed_eq_patched (w := first.2.atTime b')
      (hd.of_view (sameView_perform (w := w.atTime a) hd hc hapart.symm))
  have hsecond' : second'.2.store.committed = first'.2.store.committed.patched (c.patchOf second'.1) :=
    s.committed_eq_patched (w := first'.2.atTime a')
      (hc.of_view (sameView_perform (w := w.atTime b) hc hd hapart))
  rw [hsecond, hsecond', hfirst, hfirst']
  have hpatches : (c.patchOf first.1).Apart (d.patchOf first'.1) :=
    patchOf_apart (w := w.atTime a) (v := w.atTime b) rfl hapart
  exact Tables.patched_comm hpatches (Command.unstamped_patchOf hleft) (Command.unstamped_patchOf hright)
    (s.moves_known c (w.atTime a)) (s'.moves_known d (w.atTime b))

end Service

def cancellation (order : Nat) : Command :=
  .updateFill { orderId := IdSupply.numbered order, status := .cancelled, filledAmount := .zero }

theorem Service.trade_and_cancellation_commute :
    let trade := Command.settleTrade (offeredTrade 5 (.ofCoeff 50 0))
    let noon := Instant.epoch.addSeconds 43200
    let first := perform {} trade (crossedWorld.atTime .epoch)
    let second := perform {} (cancellation 4) (first.2.atTime noon)
    let first' := perform {} (cancellation 4) (crossedWorld.atTime .epoch)
    let second' := perform {} trade (first'.2.atTime noon)
    first.1.isOk = true ∧ first'.1.isOk = true ∧
    second'.1.map trade.unstamped = first.1.map trade.unstamped ∧
    second.1.map (cancellation 4).unstamped = first'.1.map (cancellation 4).unstamped ∧
    crossedWorld.store.committed.Reordered second.2.store.committed second'.2.store.committed := by
  refine ⟨by decide +kernel, by decide +kernel, ?_⟩
  exact independent_calls_commute {} {} .epoch (Instant.epoch.addSeconds 43200) .epoch
    (Instant.epoch.addSeconds 43200) rfl trivial trivial trivial trivial trivial

end Clearing
