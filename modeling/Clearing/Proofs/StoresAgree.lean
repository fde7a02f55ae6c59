import Clearing.Memory.Store
import Clearing.Proofs.Lemmas.JsonText
import Clearing.Proofs.Lemmas.ReadBack
import Clearing.Proofs.Lemmas.Server
import Clearing.Proofs.TransactionBracket

/-!
# Both stores write the same records

A query that writes a record and lists it gives the same over a connection as in memory, if the server does what the
statement says: the same record but for the identifiers and times that each store makes up, with zeros in their
plainest form, and with a payload as its text is read, which is not read at all if it is nested too deeply. A row that
lacks a column or has an unknown name in one is read as no record at all.
-/

namespace Clearing

open Sql

/-! ## Records that are written -/

namespace Query

/-- Whether a query writes a record and lists it. -/
def listsWritten : Query → Bool
  | .insertTrade _ | .insertLedgerEntry .. | .insertFee _ | .insertUser _ | .insertOutbox _ | .updateOrder ..
  | .updateWallet .. | .updateLedgerStatus .. | .consumeVerification .. | .markUserVerified _ => true
  | .getOrder _ | .lockOrder _ | .getMarket _ | .findWallet .. | .lockWallet _ | .listUserWallets _
  | .listLargestWallets _ | .lockLedgerEntry _ | .claimOutbox _ | .markPublished _ | .recordFailure .. => false

/-- A record that a query has written, as it is read from a database that makes up this identifier, number and time;
`none` if its payload is not read. -/
def relisted? (fresh : Uuid) (serial : Int) (now : Instant) : (q : Query) → q.Reply → Option q.Reply
  | .insertTrade _, t => some { t.kept with id := fresh, createdAt := now }
  | .insertLedgerEntry .., e => some { e.kept with id := fresh, createdAt := now }
  | .insertFee _, f => some { f.kept with id := fresh, createdAt := now }
  | .insertUser _, u => some { u with id := fresh, createdAt := now }
  | .insertOutbox _, m =>
    (Json.ofText? m.payload.compact).map fun payload =>
      { m with id := serial, createdAt := now, payload := payload }
  | .updateOrder .., o => some { o.kept with updatedAt := now }
  | .updateWallet .., w => some w.kept
  | .updateLedgerStatus .., e => some e.kept
  | _, r => some r

/-- Where one store gives a record, the other one gives it as it is read there, or fails if it is not read; where one
misses a row, so does the other. -/
structure Agrees (q : Query) (fresh : Uuid) (serial : Int) (now : Instant)
    (memory database : Except StoreError q.Reply) : Prop where
  written : ∀ r r', memory = .ok r → q.relisted? fresh serial now r = some r' → database = .ok r'
  unread : ∀ r, memory = .ok r → q.relisted? fresh serial now r = none → ∃ text, database = .error (.internal text)
  missing : ∀ what, memory = .error (.notFound what) → database = .error (.notFound what)

end Query

theorem MemoryStore.result_ask {s : MemoryStore} (h : s.faults = []) (q : Query) :
    (MemoryStore.ask q s).result = (s.draft.reply s.ids.next s.now q).map Prod.fst := by
  have hanswer : (MemoryStore.answer q s).result = (s.draft.reply s.ids.next s.now q).map Prod.fst := by
    rw [answer]
    cases s.draft.reply s.ids.next s.now q <;> rfl
  have hfault : ∀ point, s.fault? point = none := by
    intro point
    rw [fault?, h]
    rfl
  rw [ask]
  cases q.faultPoint? with
  | none => exact hanswer
  | some point =>
      simp only [hfault]
      exact hanswer

namespace Query.Agrees

variable {q : Query} {fresh : Uuid} {serial : Int} {now : Instant} {a : Answer} {ρ : Type} {x : Option ρ}

/-- One store gives what comes of a row, if there is one, and the other lists a row that is read as the same. -/
theorem of_row {memory : Except StoreError q.Reply} {read : Row → Except RowFault q.Reply} {f f' : ρ → q.Reply}
    {g : ρ → Row} (hread : readReply q a = readOne read a)
    (hmemory : memory = x.elim (.error (.notFound q.missing)) fun r => .ok (f r))
    (hrows : a.rows.head? = x.map g) (hrelisted : ∀ r, q.relisted? fresh serial now (f r) = some (f' r))
    (hback : ∀ r, read (g r) = .ok (f' r)) :
    q.Agrees fresh serial now memory (Session.reading q (.ok a)).1 := by
  subst hmemory
  cases x with
  | some r =>
      obtain ⟨rest, hrest⟩ := List.head?_eq_some_iff.mp hrows
      have hok : readReply q a = .ok (f' r) := by
        rw [hread, readOne, hrest]
        exact hback r
      refine ⟨fun r' r'' h hr => ?_, fun r' h hr => ?_, fun what h => (by cases h)⟩
      · cases h
        rw [hrelisted] at hr
        cases hr
        exact Session.reading_of_ok hok
      · cases h
        cases (hrelisted r).symm.trans hr
  | none =>
      have hnone : readReply q a = .error .noRow := by
        rw [hread, readOne, List.head?_eq_none_iff.mp hrows]
      refine ⟨fun r' r'' h => (by cases h), fun r' h => (by cases h), fun what h => ?_⟩
      cases h
      exact Session.reading_of_error hnone

theorem of_inserted {memory : Except StoreError q.Reply} {read : Row → Except RowFault q.Reply} {r r' : q.Reply}
    {row : Row} (hread : readReply q a = readOne read a) (hmemory : memory = .ok r) (hrows : a.rows = [row])
    (hrelisted : q.relisted? fresh serial now r = some r') (hback : read row = .ok r') :
    q.Agrees fresh serial now memory (Session.reading q (.ok a)).1 :=
  have hkept (_ : Unit) : q.relisted? fresh serial now r = some r' := hrelisted
  of_row (x := some ()) (f := fun _ => r) (g := fun _ => row) hread hmemory (by rw [hrows]; rfl) hkept fun _ => hback

/-- A row whose payload is not read fails the query that has written it. -/
theorem of_unread {memory : Except StoreError q.Reply} {read : Row → Except RowFault q.Reply} {r : q.Reply} {row : Row}
    {column : String} {fault : CellFault} (hread : readReply q a = readOne read a) (hmemory : memory = .ok r)
    (hrows : a.rows = [row]) (hrelisted : q.relisted? fresh serial now r = none)
    (hback : read row = .error (.cell column fault)) :
    q.Agrees fresh serial now memory (Session.reading q (.ok a)).1 := by
  subst hmemory
  have herror : readReply q a = .error (.cell column fault) := by
    rw [hread, readOne, hrows]
    exact hback
  refine ⟨fun r' r'' h hr => ?_, fun r' h _ => ?_, fun what h => (by cases h)⟩
  · cases h
    cases hrelisted.symm.trans hr
  · exact ⟨_, Session.reading_of_error herror⟩

end Query.Agrees

theorem Query.agrees_insertOutbox (task : OutboxTask) (t : Tables) (fresh fresh' : Uuid) (serial : Int)
    (now now' : Instant) :
    (Query.insertOutbox task).Agrees fresh serial now ((t.reply fresh' now' (.insertOutbox task)).map Prod.fst)
      (Session.reading (.insertOutbox task)
        (.ok ((statement fresh (.insertOutbox task)).answerOn t.rowsOf serial now))).1 := by
  cases hpayload : Json.ofText? task.payload.compact with
  | some payload =>
      refine .of_inserted rfl rfl (rows_insertOutbox task) ?_ (readOutboxMessage_row hpayload)
      exact congrArg (Option.map _) hpayload
  | none =>
      refine .of_unread rfl rfl (rows_insertOutbox task) ?_ (readOutboxMessage_row_of_none hpayload)
      exact congrArg (Option.map _) hpayload

/-- A query that writes a record and lists it gives the same in memory and over a connection to a server that does what
the statement says. -/
theorem Query.agrees {q : Query} (hq : q.listsWritten = true) (t : Tables) (fresh fresh' : Uuid) (serial : Int)
    (now now' : Instant) (hclock : ∀ v ∈ t.verifications.rows, now'.before v.expiredAt = now.before v.expiredAt) :
    q.Agrees fresh serial now ((t.reply fresh' now' q).map Prod.fst)
      (Session.reading q (.ok ((statement fresh q).answerOn t.rowsOf serial now))).1 := by
  cases q with
  | insertTrade e => exact .of_inserted rfl rfl (rows_insertTrade e) rfl (readTrade_row _)
  | insertLedgerEntry transfer amount =>
      exact .of_inserted rfl rfl (rows_insertLedgerEntry transfer amount) rfl (readEntry_row _)
  | insertFee rates => exact .of_inserted rfl rfl (rows_insertFee rates) rfl (readFee_row _)
  | insertOutbox task => exact Query.agrees_insertOutbox ..
  | insertUser r =>
      cases hduplicate : t.duplicateOf? r with
      | some key =>
          have hmemory : (t.reply fresh' now' (.insertUser r)).map Prod.fst = .error (.alreadyExists key) := by
            simp only [Tables.reply, hduplicate]
            rfl
          rw [hmemory]
          exact ⟨fun r r' h => (by cases h), fun r h => (by cases h), fun what h => (by cases h)⟩
      | none =>
          have hmemory : (t.reply fresh' now' (.insertUser r)).map Prod.fst = .ok (r.toUser fresh' now') := by
            simp only [Tables.reply, hduplicate]
            rfl
          exact .of_inserted rfl hmemory (rows_insertUser r) rfl (readUser_row _)
  | updateOrder id status filled =>
      refine .of_row (f := fun o => { o with status := status, filledAmount := filled, updatedAt := now' }) rfl ?_
        (head?_updateOrder id status filled) (fun _ => rfl) fun _ => readOrder_row _
      rw [Tables.reply]
      cases t.order? id <;> rfl
  | updateWallet id balance lockedBalance =>
      refine .of_row (f := fun w => { w with balance := balance, lockedBalance := lockedBalance }) rfl ?_
        (head?_updateWallet id balance lockedBalance) (fun _ => rfl) fun _ => readWallet_row _
      rw [Tables.reply]
      cases t.wallet? id <;> rfl
  | updateLedgerStatus id status =>
      refine .of_row (f := fun e => { e with status := status }) rfl ?_
        (head?_updateLedgerStatus id status) (fun _ => rfl) fun _ => readEntry_row _
      rw [Tables.reply]
      cases t.entry? id <;> rfl
  | consumeVerification id secretCode =>
      have husable : (t.verification? id).filter (·.isUsableWith secretCode now') =
          (t.verification? id).filter (·.isUsableWith secretCode now) := by
        cases hfound : t.verification? id with
        | none => rfl
        | some v =>
            have hexpired := hclock v (Table.mem_of_get? hfound).1
            simp only [Option.filter_some, Verification.isUsableWith, hexpired]
      have hrelisted (v : Verification) : (Query.consumeVerification id secretCode).relisted? fresh serial now
          { v with isUsed := true } = some { v with isUsed := true } := rfl
      refine .of_row (f := fun v => { v with isUsed := true }) rfl ?_ (head?_consumeVerification id secretCode)
        hrelisted fun _ => readVerification_row _
      rw [Tables.reply, husable]
      cases (t.verification? id).filter (·.isUsableWith secretCode now) <;> rfl
  | markUserVerified username =>
      have hrelisted (u : User) : (Query.markUserVerified username).relisted? fresh serial now
          { u with isVerified := true } = some { u with isVerified := true } := rfl
      refine .of_row (f := fun u => { u with isVerified := true }) rfl ?_ (head?_markUserVerified username)
        hrelisted fun _ => readUser_row _
      rw [Tables.reply]
      cases t.userNamed? username <;> rfl
  | getOrder | lockOrder | getMarket | findWallet | lockWallet | listUserWallets | listLargestWallets
  | lockLedgerEntry | claimOutbox | markPublished | recordFailure => cases hq

/-! ## Rows that are no records -/

namespace Sql.Relation

/-- The records of a table. -/
def Record : Relation → Type
  | .users => User
  | .verifications => Verification
  | .markets => Market
  | .fees => FeeSchedule
  | .wallets => Wallet
  | .orders => Order
  | .trades => Trade
  | .ledger => LedgerEntry
  | .outbox => OutboxMessage

/-- Reads a record of a table. -/
def readRecord : (r : Relation) → Row → Except RowFault r.Record
  | .users => readUser
  | .verifications => readVerification
  | .markets => readMarket
  | .fees => readFee
  | .wallets => readWallet
  | .orders => readOrder
  | .trades => readTrade
  | .ledger => readEntry
  | .outbox => readOutboxMessage

/-- The names of all values of a type. -/
def namesOf (α : Type) [Named α] : List String := (Named.all : List α).map Named.name

/-- The columns of a table that hold names, and which. -/
def enums : Relation → List (String × List String)
  | .users => [("role", namesOf UserRole)]
  | .orders => [("side", namesOf OrderSide), ("status", namesOf OrderStatus)]
  | .ledger => [("type", namesOf TransferKind), ("status", namesOf TransferStatus)]
  | .outbox => [("status", namesOf OutboxStatus)]
  | .verifications | .markets | .fees | .wallets | .trades => []

/-- A row with an unknown name in a column that holds names, or without one of the columns of a table. -/
inductive Malformed (r : Relation) (row : Row) : Prop where
  | unknownName {column text : String} {names : List String} (enum : (column, names) ∈ r.enums)
      (holds : Row.cell? row column = some (.text text)) (unknown : text ∉ names)
  | missing {column : String} (needed : column ∈ r.columnNames) (missing : Row.cell? row column = none)

/-- Whether the first column that a row does not have with a value of it holds a numeric whose calculation overflows. -/
def overflowsFirst (r : Relation) (row : Row) : Bool :=
  (r.columns.find? fun c => !c.isRead row).any (·.overflows row)

theorem enums_eq (r : Relation) :
    r.enums = r.columns.flatMap fun c => c.names.map fun names => (c.name, names) := by
  cases r <;> rfl

theorem readRecord_reads (r : Relation) (row : Row) : Reads row r.columns (r.readRecord row) := by
  cases r with
  | users => exact reads_user
  | verifications => exact reads_verification
  | markets => exact reads_market
  | fees => exact reads_fee
  | wallets => exact reads_wallet
  | orders => exact reads_order
  | trades => exact reads_trade
  | ledger => exact reads_entry
  | outbox => exact reads_outboxMessage

variable {r : Relation} {row : Row}

theorem Malformed.unread (h : r.Malformed row) : ∃ c ∈ r.columns, c.isRead row = false := by
  cases h with
  | @unknownName column text names enum holds unknown =>
      rw [enums_eq] at enum
      obtain ⟨c, hc, hnames⟩ := List.mem_flatMap.mp enum
      obtain ⟨known, hknown, heq⟩ := List.mem_map.mp hnames
      obtain ⟨rfl, rfl⟩ := Prod.mk.inj heq
      refine ⟨c, hc, ?_⟩
      rw [Column.isRead, holds, Option.any_some]
      refine Bool.and_eq_false_iff.mpr (.inr (List.all_eq_false.mpr ⟨known, hknown, ?_⟩))
      rw [Column.holdsName, List.contains_iff_mem]
      exact unknown
  | @missing column needed missing =>
      obtain ⟨c, hc, rfl⟩ := List.mem_map.mp needed
      refine ⟨c, hc, ?_⟩
      rw [Column.isRead, missing]
      rfl

/-- A row that is read as no record is refused for the first column that it does not have with a value of it. -/
theorem Malformed.refused (h : r.Malformed row) :
    ∃ fault, r.readRecord row = .error fault ∧ fault ≠ .noRow ∧ fault.overflows = r.overflowsFirst row := by
  obtain ⟨c, hc, hunread⟩ := h.unread
  have hreads := r.readRecord_reads row
  cases hrecord : r.readRecord row with
  | ok record =>
      have hall := hreads.isOk
      rw [hrecord] at hall
      have hread := List.all_eq_true.mp hall c hc
      rw [hunread] at hread
      cases hread
  | error fault =>
      obtain ⟨first, hfirst, hblamed, hoverflows⟩ := hreads.blames fault hrecord
      refine ⟨fault, rfl, hblamed, ?_⟩
      rw [overflowsFirst, hfirst]
      exact hoverflows

end Sql.Relation

namespace Sql.RowFault

theorem classify_internal {f : RowFault} (h : f ≠ .noRow) (what : String) :
    ∃ text, f.classify what = .internal text := by
  cases f with
  | noRow => exact absurd rfl h
  | cell column fault => exact ⟨_, rfl⟩
  | unknownName column text => exact ⟨_, rfl⟩

theorem events_eq (f : RowFault) : f.events = if f.overflows then [.multiplicationOverflowed] else [] := by
  cases f with
  | noRow => rfl
  | unknownName column text => rfl
  | cell column fault =>
      cases fault with
      | numeric fault => cases fault <;> rfl
      | _ => rfl

end Sql.RowFault

/-! ## Both stores -/

/-- Every query that writes a record and lists it gives the same in memory and over a connection to a server that does
what the statement says, zeros in their plainest form, payloads as their texts are read, and for the identifiers and
times that are made up. A payload of texts, truth values and integers is read as it was, unless it is nested more than
127 deep: then it is not read, and the query fails. A row with an unknown name or without a needed column is never read
as a record: it is an internal error, unless the first column at fault is a numeric whose calculation overflows, which
ends the call. -/
theorem stores_write_same_records :
    (∀ (q : Query) (s : MemoryStore) (p : Session) (serial : Int) (now : Instant) (rest : List (Except Refusal Answer)),
      q.listsWritten = true → s.faults = [] →
      (∀ v ∈ s.draft.verifications.rows, s.now.before v.expiredAt = now.before v.expiredAt) →
      p.script = .ok ((statement p.ids.next q).answerOn s.draft.rowsOf serial now) :: rest →
      q.Agrees p.ids.next serial now (MemoryStore.ask q s).result (Session.ask q p).result) ∧
    (∀ a : Decimal, a.kept.sameNumber a = true ∧ (a.isZero = false → a.kept = a)) ∧
    (∀ v : Json, v.Exact → Json.ofText? v.compact = if v.depth ≤ 127 then some v else none) ∧
    ∀ (r : Relation) (row : Row), r.Malformed row → ∃ fault, r.readRecord row = .error fault ∧
      if r.overflowsFirst row then fault.events = [.multiplicationOverflowed]
      else fault.events = [] ∧ ∀ what, ∃ text, fault.classify what = .internal text := by
  refine ⟨?_, ?_, fun v hv => Json.ofText?_compact hv, ?_⟩
  · intro q s p serial now rest hq hfaults hclock hscript
    have hask : (Session.ask q p).result = (Session.reading q (Session.scriptAnswer p.script)).1 :=
      congrArg Step.result (Session.ask_eq_reading q p)
    rw [hask, hscript, MemoryStore.result_ask hfaults]
    exact Query.agrees hq s.draft p.ids.next s.ids.next serial now s.now hclock
  · exact fun a => ⟨a.sameNumber_kept, Decimal.kept_of_not_isZero⟩
  · intro r row hmalformed
    obtain ⟨fault, hread, hblamed, hoverflows⟩ := hmalformed.refused
    refine ⟨fault, hread, ?_⟩
    rw [fault.events_eq, hoverflows]
    cases r.overflowsFirst row with
    | true => rfl
    | false => exact ⟨rfl, fault.classify_internal hblamed⟩

/-- A row of an order with this price and a status that no order has. -/
def paidRow (price : Numeric) : Row :=
  (Tabled.row overdrawnOrder).map fun c =>
    if c.1 = "price" then ("price", .numeric price) else if c.1 = "status" then ("status", .text "paid") else c

theorem paidRow_malformed (price : Numeric) : Relation.orders.Malformed (paidRow price) :=
  have enum : ("status", Relation.namesOf OrderStatus) ∈ Relation.orders.enums := by decide +kernel
  have holds : Row.cell? (paidRow price) "status" = some (.text "paid") := rfl
  .unknownName enum holds (by decide +kernel)

/-- As many arrays inside one another. -/
def Json.nested : Nat → Json
  | 0 => .null
  | n + 1 => .array [nested n]

theorem Json.exact_nested (n : Nat) : (nested n).Exact := by
  induction n with
  | zero => trivial
  | succ n ih => exact ⟨ih, trivial⟩

theorem Json.depth_nested (n : Nat) : (nested n).depth = n := by
  induction n with
  | zero => rfl
  | succ n ih => simp only [nested, depth, depthOfItems, ih, Nat.max_zero]

/-- A task with such a payload. -/
def nestedTask (n : Nat) : OutboxTask := ({} : TaskOptions).message verifyEmailTaskType (.nested n)

/-- A connection to a server that does what the statement of a query says. -/
def servingSession (q : Query) (t : Tables) (now : Instant) : Session where
  script := [.ok ((statement ({} : Session).ids.next q).answerOn t.rowsOf 1 now)]

theorem negative_zero_listed :
    let q : Query := .updateOrder overdrawnOrder.id .cancelled (-.ofCoeff 0 2)
    let later : Instant := Instant.epoch.addSeconds 60
    (MemoryStore.ask q overdrawnWorld.store).result =
        .ok { overdrawnOrder with status := .cancelled, filledAmount := -.ofCoeff 0 2 } ∧
      (Session.ask q (servingSession q overdrawnWorld.store.draft later)).result =
        .ok { overdrawnOrder with status := .cancelled, filledAmount := .zero, updatedAt := later } ∧
      (∀ n, n ≤ 127 → (Session.ask (.insertOutbox (nestedTask n))
        (servingSession (.insertOutbox (nestedTask n)) overdrawnWorld.store.draft later)).result =
          .ok ((nestedTask n).toMessage 1 later)) ∧
      ∃ fault, readOrder (paidRow (.ofAmount .zero)) = .error fault ∧ fault.events = [] := by
  intro q later
  obtain ⟨hagrees, -, hpayloads, hmalformed⟩ := stores_write_same_records
  refine ⟨rfl, (hagrees q overdrawnWorld.store _ 1 later [] rfl rfl nofun rfl).written _ _ rfl rfl, ?_, ?_⟩
  · intro n hn
    have hread : Json.ofText? (Json.nested n).compact = some (.nested n) := by
      rw [hpayloads _ (Json.exact_nested n), Json.depth_nested, if_pos hn]
    exact (hagrees (.insertOutbox (nestedTask n)) overdrawnWorld.store _ 1 later [] rfl rfl nofun rfl).written _ _ rfl
      (congrArg (Option.map _) hread)
  · obtain ⟨fault, hread, hends⟩ := hmalformed .orders _ (paidRow_malformed (.ofAmount .zero))
    exact ⟨fault, hread, hends.1⟩

/-- A task whose payload is not read is written, and its query fails. -/
theorem insertOutbox_unread {task : OutboxTask} (h : Json.ofText? task.payload.compact = none) (t : Tables)
    (now : Instant) :
    ∃ text, (Session.ask (.insertOutbox task) (servingSession (.insertOutbox task) t now)).result =
      .error (.internal text) := by
  have hagrees := Query.agrees_insertOutbox task t ({} : Session).ids.next ({} : Session).ids.next 1 now now
  obtain ⟨text, herror⟩ := hagrees.unread _ rfl (congrArg (Option.map _) h)
  have hask := congrArg Step.result
    (Session.ask_eq_reading (.insertOutbox task) (servingSession (.insertOutbox task) t now))
  exact ⟨text, hask.trans herror⟩

/-- A numeric of an order with an unknown status ends the call before the status is read, and a task whose payload is
nested too deeply is listed in memory but not over a connection. -/
theorem written_rows_unread :
    (¬ ∀ (r : Relation) (row : Row), r.Malformed row → ∃ fault, r.readRecord row = .error fault ∧
      fault.events = [] ∧ ∀ what, ∃ text, fault.classify what = .internal text) ∧
    ¬ ∀ (task : OutboxTask) (s : MemoryStore) (now : Instant) (m : OutboxMessage),
      (MemoryStore.ask (.insertOutbox task) s).result = .ok m →
      ∃ m', (Session.ask (.insertOutbox task) (servingSession (.insertOutbox task) s.draft now)).result = .ok m' := by
  constructor
  · intro h
    let price : Numeric := { negative := false, digits := 999999999999999999999999999999999, scale := 2 }
    obtain ⟨fault, hread, hevents, -⟩ := h .orders (paidRow price) (paidRow_malformed price)
    obtain ⟨fault', hread', -, hoverflows⟩ := (paidRow_malformed price).refused
    obtain rfl : fault = fault' := Except.error.inj (hread.symm.trans hread')
    have hoverflow : Relation.orders.overflowsFirst (paidRow price) = true := by decide +kernel
    rw [fault.events_eq, hoverflows, hoverflow] at hevents
    cases hevents
  · intro h
    have hunread : Json.ofText? (nestedTask 128).payload.compact = none := by
      rw [nestedTask, TaskOptions.message, Json.ofText?_compact (Json.exact_nested 128), Json.depth_nested]
      rfl
    obtain ⟨m, hm⟩ := h (nestedTask 128) overdrawnWorld.store .epoch _ (MemoryStore.result_ask rfl _)
    obtain ⟨text, herror⟩ := insertOutbox_unread hunread overdrawnWorld.store.draft .epoch
    cases herror.symm.trans hm

end Clearing
