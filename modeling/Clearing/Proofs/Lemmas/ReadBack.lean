import Clearing.Proofs.Lemmas.Rows
import Clearing.Sql.Records

/-!
# Records read back from their rows

What is read from the row of a record is the record itself, except that an amount that is zero comes back without sign
and places, and that a payload comes back as its text is read.
-/

namespace Clearing

open Sql

/-! ## Amounts -/

namespace Decimal

/-- An amount as a numeric keeps it. -/
def kept (a : Decimal) : Decimal := if a.isZero then zero else a

theorem kept_of_not_isZero {a : Decimal} (h : a.isZero = false) : a.kept = a :=
  if_neg (Bool.eq_false_iff.mp h)

theorem sameNumber_kept (a : Decimal) : a.kept.sameNumber a = true := by
  cases h : a.isZero with
  | false =>
      rw [kept_of_not_isZero h]
      exact beq_self_eq_true _
  | true =>
      have hsigned : a.signed = 0 := by
        rw [signed, beq_iff_eq.mp h]
        split <;> rfl
      rw [kept, if_pos h, sameNumber, crossed, crossed, hsigned, Int.zero_mul]
      exact beq_iff_eq.mpr (Int.zero_mul _)

end Decimal

/-- An order as its row keeps it. -/
def Order.kept (o : Order) : Order :=
  { o with price := o.price.kept, amount := o.amount.kept, filledAmount := o.filledAmount.kept }

/-- A wallet as its row keeps it. -/
def Wallet.kept (w : Wallet) : Wallet :=
  { w with balance := w.balance.kept, lockedBalance := w.lockedBalance.kept }

/-- A trade as its row keeps it. -/
def Trade.kept (t : Trade) : Trade :=
  { t with price := t.price.kept, amount := t.amount.kept, fee := t.fee.kept }

/-- Fees as their row keeps them. -/
def FeeSchedule.kept (f : FeeSchedule) : FeeSchedule :=
  { f with makerFee := f.makerFee.kept, takerFee := f.takerFee.kept }

/-- A ledger entry as its row keeps it. -/
def LedgerEntry.kept (e : LedgerEntry) : LedgerEntry :=
  { e with requestedAmount := e.requestedAmount.kept, amount := e.amount.kept }

/-! ## Names -/

/-- Types whose values are found again by their names. -/
class Named.Lawful (α : Type) [Named α] : Prop where
  ofName?_name : ∀ x : α, Named.ofName? (Named.name x) = some x

instance : Named.Lawful UserRole := ⟨fun x => by cases x <;> decide +kernel⟩
instance : Named.Lawful OrderSide := ⟨fun x => by cases x <;> decide +kernel⟩
instance : Named.Lawful OrderStatus := ⟨fun x => by cases x <;> decide +kernel⟩
instance : Named.Lawful TransferKind := ⟨fun x => by cases x <;> decide +kernel⟩
instance : Named.Lawful TransferStatus := ⟨fun x => by cases x <;> decide +kernel⟩
instance : Named.Lawful OutboxStatus := ⟨fun x => by cases x <;> decide +kernel⟩

/-! ## Cells -/

namespace Sql

theorem Numeric.amount_ofAmount (a : Decimal) : (ofAmount a).amount = .ok a.kept := by
  rw [ofAmount, Decimal.kept]
  cases h : a.isZero with
  | true => rfl
  | false =>
      have hdigits : a.coeff ≠ 0 := beq_eq_false_iff_ne.mp h
      have hparts : Decimal.ofParts? a.negative a.coeff a.scale = some a := dif_pos ⟨a.coeff_lt, a.dvd_coeff⟩
      simp only [Bool.false_eq_true, if_false, amount, if_neg hdigits, hparts]

theorem ofCell_amount (a : Decimal) : (ofCell (cell a) : Except CellFault Decimal) = .ok a.kept :=
  congrArg (Except.mapError CellFault.numeric) (Numeric.amount_ofAmount a)

theorem ofCell_int32 (n : Int32) : (ofCell (cell n) : Except CellFault Int32) = .ok n := by
  have hn : Int32.ofInt n.toInt = n := Int32.ofInt_toInt n
  show (if (Int32.ofInt n.toInt).toInt = n.toInt then Except.ok (Int32.ofInt n.toInt)
    else .error CellFault.mismatch) = _
  rw [hn, if_pos rfl]

theorem ofCell_json_of_some {v w : Json} (h : Json.ofText? v.compact = some w) :
    (ofCell (cell v) : Except CellFault Json) = .ok w := by
  simp only [ofCell, cell, h]

theorem ofCell_json_of_none {v : Json} (h : Json.ofText? v.compact = none) :
    (ofCell (cell v) : Except CellFault Json) = .error (.nesting (Json.limitPlace v.compact.toList)) := by
  simp only [ofCell, cell, h]

namespace Row

variable {α β : Type} {row : Row} {column : String} {x : Except RowFault β}

theorem read_bind [OfCell α] {c : Cell} {a : α} {f : α → Except RowFault β} (h : cell? row column = some c)
    (hc : ofCell c = .ok a) (hf : f a = x) : (read row column >>= f) = x := by
  have hread : (read row column : Except RowFault α) = .ok a := by
    rw [read, value, h]
    exact congrArg (Except.mapError (RowFault.cell column)) hc
  rw [hread]
  exact hf

theorem read_bind_error [OfCell α] {c : Cell} {fault : CellFault} {f : α → Except RowFault β}
    (h : cell? row column = some c) (hc : (ofCell c : Except CellFault α) = .error fault) :
    (read row column >>= f) = .error (.cell column fault) := by
  have hread : (read row column : Except RowFault α) = .error (.cell column fault) := by
    rw [read, value, h]
    exact congrArg (Except.mapError (RowFault.cell column)) hc
  rw [hread]
  rfl

theorem readName_bind [Named α] [Named.Lawful α] {a : α} {f : α → Except RowFault β}
    (h : cell? row column = some (.text (Named.name a))) (hf : f a = x) :
    (readName row column >>= f) = x := by
  have hread : (readName row column : Except RowFault α) = .ok a :=
    read_bind h (rfl : ofCell (Cell.text (Named.name a)) = .ok (Named.name a)) (by rw [Named.Lawful.ofName?_name])
  rw [hread]
  exact hf

end Row

theorem ofCell_text_option (x : Option String) : (ofCell (cell x) : Except CellFault (Option String)) = .ok x := by
  cases x <;> rfl

theorem ofCell_time_option (x : Option Instant) : (ofCell (cell x) : Except CellFault (Option Instant)) = .ok x := by
  cases x <;> rfl

/-! ## Records -/

open Row

theorem readOrder_row (o : Order) : readOrder (Tabled.row o) = .ok o.kept :=
  read_bind rfl rfl <| read_bind rfl rfl <| read_bind rfl rfl <| readName_bind rfl <|
  read_bind rfl (ofCell_amount _) <| read_bind rfl (ofCell_amount _) <| read_bind rfl (ofCell_amount _) <|
  readName_bind rfl <| read_bind rfl rfl <| read_bind rfl rfl rfl

theorem readWallet_row (w : Wallet) : readWallet (Tabled.row w) = .ok w.kept :=
  read_bind rfl rfl <| read_bind rfl rfl <| read_bind rfl rfl <| read_bind rfl (ofCell_amount _) <|
  read_bind rfl (ofCell_amount _) <| read_bind rfl rfl rfl

theorem readTrade_row (t : Trade) : readTrade (Tabled.row t) = .ok t.kept :=
  read_bind rfl rfl <| read_bind rfl rfl <| read_bind rfl rfl <| read_bind rfl rfl <|
  read_bind rfl (ofCell_amount _) <| read_bind rfl (ofCell_amount _) <| read_bind rfl (ofCell_amount _) <|
  read_bind rfl rfl rfl

theorem readFee_row (f : FeeSchedule) : readFee (Tabled.row f) = .ok f.kept :=
  read_bind rfl rfl <| read_bind rfl rfl <| read_bind rfl (ofCell_amount _) <| read_bind rfl (ofCell_amount _) <|
  read_bind rfl rfl rfl

theorem readEntry_row (e : LedgerEntry) : readEntry (Tabled.row e) = .ok e.kept :=
  read_bind rfl rfl <| read_bind rfl rfl <| readName_bind rfl <| read_bind rfl rfl <|
  read_bind rfl (ofCell_amount _) <| read_bind rfl (ofCell_amount _) <| readName_bind rfl <|
  read_bind rfl (ofCell_text_option _) <| read_bind rfl (ofCell_text_option _) <| read_bind rfl rfl rfl

theorem readUser_row (u : User) : readUser (Tabled.row u) = .ok u :=
  read_bind rfl rfl <| read_bind rfl rfl <| read_bind rfl rfl <| read_bind rfl rfl <|
  readName_bind rfl <| read_bind rfl rfl <| read_bind rfl rfl rfl

theorem readVerification_row (v : Verification) : readVerification (Tabled.row v) = .ok v :=
  read_bind rfl rfl <| read_bind rfl rfl <| read_bind rfl rfl <| read_bind rfl rfl <| read_bind rfl rfl <|
  read_bind rfl rfl <| read_bind rfl rfl rfl

theorem readOutboxMessage_row {m : OutboxMessage} {payload : Json} (h : Json.ofText? m.payload.compact = some payload) :
    readOutboxMessage (Tabled.row m) = .ok { m with payload := payload } :=
  read_bind rfl rfl <| read_bind rfl rfl <| read_bind rfl (ofCell_json_of_some h) <| read_bind rfl rfl <|
  read_bind rfl (ofCell_int32 _) <| read_bind rfl rfl <| readName_bind rfl <| read_bind rfl (ofCell_int32 _) <|
  read_bind rfl (ofCell_text_option _) <| read_bind rfl rfl <| read_bind rfl (ofCell_time_option _) rfl

theorem readOutboxMessage_row_of_none {m : OutboxMessage} (h : Json.ofText? m.payload.compact = none) :
    readOutboxMessage (Tabled.row m) = .error (.cell "payload" (.nesting (Json.limitPlace m.payload.compact.toList))) :=
  read_bind rfl rfl <| read_bind rfl rfl <| read_bind_error rfl (ofCell_json_of_none h)

end Sql
end Clearing
