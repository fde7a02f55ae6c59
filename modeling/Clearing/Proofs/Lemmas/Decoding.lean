import Clearing.Sql.Store

/-!
# Which answers are read

A row is read as a record of a table if and only if it has every column of the table with a value of the column: null
only where it may be null, one of the names where there are names to choose from, a numeric that stands for an amount,
an integer that is as wide as the column, and JSON whose text is read; else the first column that is not so decides
what is said. An answer is read as the reply to a query if and only if it has what the query needs.
-/

namespace Clearing.Sql

variable {α β : Type}

/-! ## Columns -/

/-- Whether a cell holds a value of a type. -/
def ColumnType.reads : ColumnType → Cell → Bool
  | .uuid, .uuid _ | .varchar _, .text _ | .text, .text _ | .boolean, .boolean _ | .bigint, .integer _
  | .bigserial, .integer _ | .timestamp, .timestamp _ => true
  | .int, .integer n => (Int32.ofInt n).toInt = n
  | .jsonb, .json v => (Json.ofText? v.compact).isSome
  | .numeric, .numeric n => n.amount.isOk
  | _, _ => false

/-- Whether a cell holds a numeric whose calculation overflows. -/
def ColumnType.overflows : ColumnType → Cell → Bool
  | .numeric, .numeric n =>
    match n.amount with
    | .error .overflow => true
    | _ => false
  | _, _ => false

/-- The names that a check leaves to choose from. -/
def Check.names? : Check → Option (List String)
  | .oneOf _ names => some names
  | .notNegative _ | .positive _ | .upTo .. => none

namespace Column

/-- Whether a column may be null. -/
def isNullable (c : Column) : Bool := !(c.rules.contains .notNull || c.rules.contains .primaryKey)

/-- The lists of names that the checks of a column leave to choose from. -/
def names (c : Column) : List (List String) := c.checks.filterMap Check.names?

/-- Whether a cell holds one of the names in a list. -/
def holdsName (cell : Cell) (names : List String) : Bool :=
  match cell with
  | .text s => names.contains s
  | _ => false

/-- Whether a cell holds a value of a column. -/
def reads (c : Column) : Cell → Bool
  | .null => c.isNullable
  | cell => c.type.reads cell && c.names.all (holdsName cell)

/-- Whether a row has a column with a value of it. -/
def isRead (c : Column) (row : Row) : Bool := (Row.cell? row c.name).any c.reads

/-- Whether a row has a column with a numeric whose calculation overflows. -/
def overflows (c : Column) (row : Row) : Bool := (Row.cell? row c.name).any c.type.overflows

/-- Whether a column is neither nullable nor restricted to names. -/
def isPlain (c : Column) : Bool := !c.isNullable && c.names.isEmpty

end Column

/-- Whether a row has all columns of a table with values of them. -/
def Relation.reads (r : Relation) (row : Row) : Bool := r.columns.all (·.isRead row)

/-- Whether reading ends in a calculation that overflows. -/
def RowFault.overflows : RowFault → Bool
  | .cell _ (.numeric .overflow) => true
  | _ => false

/-! ## Values -/

/-- The values of a type are read from the cells of a column type, and from no others; only numerics overflow. -/
structure ReadFrom (α : Type) [OfCell α] (type : ColumnType) : Prop where
  isOk : ∀ c, (ofCell c : Except CellFault α).isOk = type.reads c
  overflows : ∀ c f name, (ofCell c : Except CellFault α) = .error f →
    (RowFault.cell name f).overflows = type.overflows c

namespace ReadFrom

theorem uuid : ReadFrom Uuid .uuid where
  isOk c := by cases c <;> rfl
  overflows c f name h := by cases c <;> cases h <;> rfl

theorem varchar {length : Nat} : ReadFrom String (.varchar length) where
  isOk c := by cases c <;> rfl
  overflows c f name h := by cases c <;> cases h <;> rfl

theorem text : ReadFrom String .text where
  isOk c := by cases c <;> rfl
  overflows c f name h := by cases c <;> cases h <;> rfl

theorem boolean : ReadFrom Bool .boolean where
  isOk c := by cases c <;> rfl
  overflows c f name h := by cases c <;> cases h <;> rfl

theorem numeric : ReadFrom Decimal .numeric where
  isOk c := by
    cases c with
    | numeric n =>
        show (n.amount.mapError CellFault.numeric).isOk = n.amount.isOk
        cases n.amount <;> rfl
    | _ => rfl
  overflows c f name h := by
    cases c with
    | numeric n =>
        have hamount : n.amount.mapError CellFault.numeric = .error f := h
        rw [ColumnType.overflows]
        cases hn : n.amount with
        | ok a =>
            rw [hn] at hamount
            cases hamount
        | error fault =>
            rw [hn] at hamount
            cases hamount
            cases fault <;> rfl
    | _ =>
        cases h
        rfl

theorem int : ReadFrom Int32 .int where
  isOk c := by
    cases c with
    | integer n => simp only [ofCell, ColumnType.reads]; split <;> simp_all [Except.isOk, Except.toBool]
    | _ => rfl
  overflows c f name h := by
    cases c with
    | integer n =>
        simp only [ofCell] at h
        split at h <;> cases h
        rfl
    | _ =>
        cases h
        rfl

theorem bigint : ReadFrom Int .bigint where
  isOk c := by cases c <;> rfl
  overflows c f name h := by cases c <;> cases h <;> rfl

theorem bigserial : ReadFrom Int .bigserial where
  isOk c := by cases c <;> rfl
  overflows c f name h := by cases c <;> cases h <;> rfl

theorem jsonb : ReadFrom Json .jsonb where
  isOk c := by
    cases c with
    | json v =>
        simp only [ofCell, ColumnType.reads]
        cases Json.ofText? v.compact <;> rfl
    | _ => rfl
  overflows c f name h := by
    cases c with
    | json v =>
        simp only [ofCell] at h
        split at h <;> cases h
        rfl
    | _ =>
        cases h
        rfl

theorem timestamp : ReadFrom Instant .timestamp where
  isOk c := by cases c <;> rfl
  overflows c f name h := by cases c <;> cases h <;> rfl

end ReadFrom

variable {row : Row} {c : Column}

/-- A fault is about a column if it is that of a row's cell in it: it is an overflow if that of the cell is one. -/
def Column.Blamed (c : Column) (row : Row) (f : RowFault) : Prop := f ≠ .noRow ∧ f.overflows = c.overflows row

theorem read_of_none [OfCell α] {name : String} (h : Row.cell? row name = none) :
    (Row.read row name : Except RowFault α) = .error (.cell name .missing) := by
  rw [Row.read, Row.value, h]
  rfl

theorem read_of_some [OfCell α] {name : String} {cell : Cell} (h : Row.cell? row name = some cell) :
    (Row.read row name : Except RowFault α) = (ofCell cell).mapError (.cell name) := by
  rw [Row.read, Row.value, h]

theorem isRead_of_reads [OfCell α] (h : ∀ cell, c.reads cell = (ofCell cell : Except CellFault α).isOk) :
    c.isRead row = (Row.read row c.name : Except RowFault α).isOk := by
  rw [Column.isRead]
  cases hcell : Row.cell? row c.name with
  | none =>
      rw [read_of_none hcell]
      rfl
  | some cell =>
      rw [read_of_some hcell, Option.any_some, h]
      cases (ofCell cell : Except CellFault α) <;> rfl

theorem blamed_of_read [OfCell α] {f : RowFault} (hread : (Row.read row c.name : Except RowFault α) = .error f)
    (h : ∀ cell fault, (ofCell cell : Except CellFault α) = .error fault →
      (RowFault.cell c.name fault).overflows = c.type.overflows cell) : c.Blamed row f := by
  cases hcell : Row.cell? row c.name with
  | none =>
      rw [read_of_none hcell] at hread
      cases hread
      refine ⟨nofun, ?_⟩
      rw [Column.overflows, hcell]
      rfl
  | some cell =>
      rw [read_of_some hcell] at hread
      cases hfault : (ofCell cell : Except CellFault α) with
      | ok a =>
          rw [hfault] at hread
          cases hread
      | error fault =>
          rw [hfault] at hread
          cases hread
          refine ⟨nofun, ?_⟩
          rw [Column.overflows, hcell]
          exact h cell fault hfault

theorem isRead_plain [OfCell α] (h : ReadFrom α c.type) (hplain : c.isPlain = true) :
    c.isRead row = (Row.read row c.name : Except RowFault α).isOk := by
  rw [Column.isPlain, Bool.and_eq_true, Bool.not_eq_true', List.isEmpty_iff] at hplain
  apply isRead_of_reads
  intro cell
  rw [h.isOk cell]
  cases cell with
  | null =>
      rw [Column.reads, hplain.1]
      cases c.type <;> rfl
  | _ => simp only [Column.reads, hplain.2, List.all_nil, Bool.and_true]

theorem ofCell_of_ne_null [OfCell α] {cell : Cell} (h : cell ≠ .null) :
    (ofCell cell : Except CellFault (Option α)) = (ofCell cell).map some := by
  cases cell with
  | null => exact absurd rfl h
  | _ => rfl

theorem isRead_nullable [OfCell α] {name : String} {type : ColumnType} (h : ReadFrom α type) :
    (Column.nullable name type).isRead row = (Row.read row name : Except RowFault (Option α)).isOk := by
  apply isRead_of_reads (c := .nullable name type)
  intro cell
  by_cases hnull : cell = .null
  · subst hnull
    rfl
  · have hreads : (Column.nullable name type).reads cell = type.reads cell := by
      cases cell with
      | null => exact absurd rfl hnull
      | _ => exact Bool.and_true _
    rw [hreads, ofCell_of_ne_null hnull, ← h.isOk]
    cases (ofCell cell : Except CellFault α) <;> rfl

theorem blamed_nullable [OfCell α] {name : String} {type : ColumnType} (h : ReadFrom α type) {f : RowFault}
    (hread : (Row.read row name : Except RowFault (Option α)) = .error f) :
    (Column.nullable name type).Blamed row f := by
  refine blamed_of_read (c := .nullable name type) hread fun cell fault hfault => ?_
  by_cases hnull : cell = .null
  · subst hnull
    cases hfault
  · rw [ofCell_of_ne_null hnull] at hfault
    cases hcell : (ofCell cell : Except CellFault α) with
    | ok a =>
        rw [hcell] at hfault
        cases hfault
    | error fault' =>
        rw [hcell] at hfault
        cases hfault
        exact h.overflows cell fault name hcell

theorem names_named [Named α] {name : String} {length : Nat} {value : Option α} :
    (Column.named α name length value).names = [(Named.all : List α).map Named.name] := by
  cases value <;> rfl

theorem contains_names [Named α] (text : String) :
    ((Named.all : List α).map Named.name).contains text = (Named.ofName? text : Option α).isSome := by
  rw [Named.ofName?, List.contains_eq_any_beq, List.any_map, Bool.eq_iff_iff, List.any_eq_true, List.find?_isSome]
  simp only [Function.comp_apply, beq_iff_eq, eq_comm (a := text)]

theorem isRead_named [Named α] {name : String} {length : Nat} {value : Option α} :
    (Column.named α name length value).isRead row = (Row.readName row name : Except RowFault α).isOk := by
  have hreads : ∀ text, (Column.named α name length value).reads (.text text) =
      (Named.ofName? text : Option α).isSome := by
    intro text
    show (true && (Column.named α name length value).names.all (Column.holdsName (.text text))) = _
    rw [names_named, ← contains_names]
    simp only [List.all_cons, List.all_nil, Bool.and_true, Bool.true_and, Column.holdsName]
  show (Row.cell? row name).any _ = _
  rw [Row.readName]
  cases hcell : Row.cell? row name with
  | none =>
      rw [read_of_none hcell]
      rfl
  | some cell =>
      rw [read_of_some hcell, Option.any_some]
      cases cell with
      | text s =>
          have htext : (ofCell (.text s) : Except CellFault String).mapError (RowFault.cell name) = .ok s := rfl
          rw [hreads, htext]
          simp only [bind, Except.bind]
          cases (Named.ofName? s : Option α) <;> rfl
      | _ => rfl

theorem blamed_named [Named α] {name : String} {length : Nat} {value : Option α} {f : RowFault}
    (hread : (Row.readName row name : Except RowFault α) = .error f) :
    (Column.named α name length value).Blamed row f := by
  have hoverflows : (Column.named α name length value).overflows row = false := by
    rw [Column.overflows]
    cases Row.cell? row (Column.named α name length value).name <;> rfl
  rw [Row.readName] at hread
  cases hstring : (Row.read row name : Except RowFault String) with
  | error fault =>
      rw [hstring] at hread
      cases hread
      exact blamed_of_read (α := String) (c := .named α name length value) hstring
        fun cell fault => (ReadFrom.varchar : ReadFrom String (.varchar length)).overflows cell fault name
  | ok text =>
      rw [hstring] at hread
      simp only [bind, Except.bind] at hread
      split at hread
      · cases hread
      · cases hread
        exact ⟨nofun, hoverflows.symm⟩

/-! ## Records -/

/-- A reader succeeds on a row if and only if the row has all these columns with values of them; else the first of them
that it does not have so is to blame. -/
structure Reads (row : Row) (columns : List Column) (x : Except RowFault α) : Prop where
  isOk : columns.all (·.isRead row) = x.isOk
  blames : ∀ f, x = .error f → ∃ c, columns.find? (fun c => !c.isRead row) = some c ∧ c.Blamed row f

namespace Reads

variable {columns : List Column} {name : String}

theorem done {a : α} : Reads row [] (.ok a) := ⟨rfl, nofun⟩

theorem bind {x : Except RowFault β} {f : β → Except RowFault α} (hx : c.isRead row = x.isOk)
    (hblamed : ∀ fault, x = .error fault → c.Blamed row fault) (hf : ∀ b, Reads row columns (f b)) :
    Reads row (c :: columns) (x >>= f) := by
  cases x with
  | error e =>
      have hunread : c.isRead row = false := hx
      constructor
      · rw [List.all_cons, hunread]
        rfl
      · intro fault h
        cases h
        refine ⟨c, List.find?_cons_of_pos ?_, hblamed e rfl⟩
        rw [hunread]
        rfl
  | ok b =>
      have hread : c.isRead row = true := hx
      constructor
      · rw [List.all_cons, hread]
        exact (hf b).isOk
      · intro fault h
        rw [List.find?_cons_of_neg (by rw [hread]; exact Bool.false_ne_true)]
        exact (hf b).blames fault h

theorem plain [OfCell β] {f : β → Except RowFault α} (h : ReadFrom β c.type) (hplain : c.isPlain = true)
    (hf : ∀ b, Reads row columns (f b)) : Reads row (c :: columns) (Row.read row c.name >>= f) :=
  bind (isRead_plain h hplain)
    (fun _ hread => blamed_of_read hread fun cell fault => h.overflows cell fault c.name) hf

theorem nullable [OfCell β] {type : ColumnType} {f : Option β → Except RowFault α} (h : ReadFrom β type)
    (hf : ∀ b, Reads row columns (f b)) :
    Reads row (.nullable name type :: columns) (Row.read row name >>= f) :=
  bind (isRead_nullable h) (fun _ hread => blamed_nullable h hread) hf

theorem named [Named β] {length : Nat} {value : Option β} {f : β → Except RowFault α}
    (hf : ∀ b, Reads row columns (f b)) :
    Reads row (.named β name length value :: columns) (Row.readName row name >>= f) :=
  bind isRead_named (fun _ hread => blamed_named hread) hf

end Reads

theorem reads_user : Reads row Relation.users.columns (readUser row) :=
  .plain .uuid rfl fun _ => .plain .varchar rfl fun _ => .plain .varchar rfl fun _ => .plain .text rfl fun _ =>
  .named fun _ => .plain .boolean rfl fun _ => .plain .timestamp rfl fun _ => .done

theorem reads_verification : Reads row Relation.verifications.columns (readVerification row) :=
  .plain .bigserial rfl fun _ => .plain .varchar rfl fun _ => .plain .varchar rfl fun _ =>
  .plain .varchar rfl fun _ => .plain .boolean rfl fun _ => .plain .timestamp rfl fun _ =>
  .plain .timestamp rfl fun _ => .done

theorem reads_market : Reads row Relation.markets.columns (readMarket row) :=
  .plain .uuid rfl fun _ => .plain .varchar rfl fun _ => .plain .varchar rfl fun _ =>
  .plain .numeric rfl fun _ => .plain .int rfl fun _ => .plain .timestamp rfl fun _ => .done

theorem reads_fee : Reads row Relation.fees.columns (readFee row) :=
  .plain .uuid rfl fun _ => .plain .uuid rfl fun _ => .plain .numeric rfl fun _ => .plain .numeric rfl fun _ =>
  .plain .timestamp rfl fun _ => .done

theorem reads_wallet : Reads row Relation.wallets.columns (readWallet row) :=
  .plain .uuid rfl fun _ => .plain .uuid rfl fun _ => .plain .varchar rfl fun _ => .plain .numeric rfl fun _ =>
  .plain .numeric rfl fun _ => .plain .timestamp rfl fun _ => .done

theorem reads_order : Reads row Relation.orders.columns (readOrder row) :=
  .plain .uuid rfl fun _ => .plain .uuid rfl fun _ => .plain .uuid rfl fun _ => .named fun _ =>
  .plain .numeric rfl fun _ => .plain .numeric rfl fun _ => .plain .numeric rfl fun _ => .named fun _ =>
  .plain .timestamp rfl fun _ => .plain .timestamp rfl fun _ => .done

theorem reads_trade : Reads row Relation.trades.columns (readTrade row) :=
  .plain .uuid rfl fun _ => .plain .uuid rfl fun _ => .plain .uuid rfl fun _ => .plain .uuid rfl fun _ =>
  .plain .numeric rfl fun _ => .plain .numeric rfl fun _ => .plain .numeric rfl fun _ =>
  .plain .timestamp rfl fun _ => .done

theorem reads_entry : Reads row Relation.ledger.columns (readEntry row) :=
  .plain .uuid rfl fun _ => .plain .uuid rfl fun _ => .named fun _ => .plain .varchar rfl fun _ =>
  .plain .numeric rfl fun _ => .plain .numeric rfl fun _ => .named fun _ => .nullable .text fun _ =>
  .nullable .text fun _ => .plain .timestamp rfl fun _ => .done

theorem reads_outboxMessage : Reads row Relation.outbox.columns (readOutboxMessage row) :=
  .plain .bigserial rfl fun _ => .plain .varchar rfl fun _ => .plain .jsonb rfl fun _ =>
  .plain .varchar rfl fun _ => .plain .int rfl fun _ => .plain .bigint rfl fun _ => .named fun _ =>
  .plain .int rfl fun _ => .nullable .text fun _ => .plain .timestamp rfl fun _ =>
  .nullable .timestamp fun _ => .done

/-! ## Answers -/

/-- What a query needs of its answer: a first row of a table, rows of a table only, or that a row was changed. -/
inductive Need where
  | first (r : Relation)
  | every (r : Relation)
  | change

/-- What a query needs. -/
def need : Query → Need
  | .getOrder _ | .lockOrder _ | .updateOrder .. => .first .orders
  | .getMarket _ => .first .markets
  | .insertFee _ => .first .fees
  | .findWallet .. | .lockWallet _ | .updateWallet .. => .first .wallets
  | .listUserWallets _ | .listLargestWallets _ => .every .wallets
  | .insertTrade _ => .first .trades
  | .insertLedgerEntry .. | .lockLedgerEntry _ | .updateLedgerStatus .. => .first .ledger
  | .insertUser _ | .markUserVerified _ => .first .users
  | .consumeVerification .. => .first .verifications
  | .insertOutbox _ => .first .outbox
  | .claimOutbox _ => .every .outbox
  | .markPublished _ | .recordFailure .. => .change

/-- Whether an answer has what is needed. -/
def Answer.meets (a : Answer) : Need → Bool
  | .first r => a.rows.head?.any r.reads
  | .every r => a.rows.all r.reads
  | .change => a.affected != 0

theorem meets_first {r : Relation} {read : Row → Except RowFault α}
    (h : ∀ row, Reads row r.columns (read row)) (a : Answer) : a.meets (.first r) = (readOne read a).isOk := by
  rw [Answer.meets, readOne]
  cases a.rows with
  | nil => rfl
  | cons row rest => exact (h row).isOk

theorem meets_every {r : Relation} {read : Row → Except RowFault α}
    (h : ∀ row, Reads row r.columns (read row)) (a : Answer) : a.meets (.every r) = (readAll read a).isOk := by
  rw [Answer.meets, readAll]
  induction a.rows with
  | nil => rfl
  | cons row rest ih =>
      have hrow : r.reads row = (read row).isOk := (h row).isOk
      rw [List.all_cons, List.mapM_cons, ih, hrow]
      cases read row with
      | error e => rfl
      | ok x => cases List.mapM read rest <;> rfl

theorem meets_change (a : Answer) : a.meets .change = (readChanged a).isOk := by
  rw [Answer.meets, readChanged]
  split
  · next h => rw [h]; rfl
  · next h => exact bne_iff_ne.mpr h

/-- An answer is read as the reply to a query if and only if it has what the query needs. -/
theorem meets_need (q : Query) (a : Answer) : a.meets (need q) = (readReply q a).isOk := by
  cases q with
  | getOrder id | lockOrder id | updateOrder id status filled => exact meets_first (fun _ => reads_order) a
  | getMarket id => exact meets_first (fun _ => reads_market) a
  | insertFee rates => exact meets_first (fun _ => reads_fee) a
  | findWallet userId currency | lockWallet id | updateWallet id balance lockedBalance =>
      exact meets_first (fun _ => reads_wallet) a
  | listUserWallets userId | listLargestWallets limit => exact meets_every (fun _ => reads_wallet) a
  | insertTrade e => exact meets_first (fun _ => reads_trade) a
  | insertLedgerEntry t amount | lockLedgerEntry id | updateLedgerStatus id status =>
      exact meets_first (fun _ => reads_entry) a
  | insertUser r | markUserVerified username => exact meets_first (fun _ => reads_user) a
  | consumeVerification id secretCode => exact meets_first (fun _ => reads_verification) a
  | insertOutbox t => exact meets_first (fun _ => reads_outboxMessage) a
  | claimOutbox limit => exact meets_every (fun _ => reads_outboxMessage) a
  | markPublished id | recordFailure id error giveUp => exact meets_change a

end Clearing.Sql
