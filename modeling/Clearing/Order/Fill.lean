import Clearing.Operation

/-!
# Filling an order

A fill update gives an order a status and a filled amount, checked against the locked row: the status may
move that way, the filled amount does not fall and does not exceed the amount, and status and filled amount
agree. What is left of the order is reported after the update has been committed.
-/

namespace Clearing

/-- What a fill update reports: what is left of the order, or that this is out of range, in which case the
update stands all the same. -/
inductive FillReport where
  | applied (order : Order) (remaining : Decimal)
  | remainderOverflow (order : Order)
deriving DecidableEq

namespace FillReport

/-- The report of an updated order. -/
def ofOrder (o : Order) : FillReport :=
  match o.remaining? with
  | some remaining => .applied o remaining
  | none => .remainderOverflow o

end FillReport

namespace FillRequest

/-- Whether status and filled amount of a request agree for an order. -/
def checkAmount (r : FillRequest) (o : Order) : Except SettlementError Unit :=
  match r.status with
  | .opened =>
    if r.filledAmount.isZero then .ok ()
    else .error (.invalidAmount (.filledWhileOpen o.id r.filledAmount))
  | .partiallyFilled =>
    if r.filledAmount.isZero then .error (.invalidAmount (.nothingFilled o.id)) else .ok ()
  | .filled =>
    if r.filledAmount.sameNumber o.amount then .ok ()
    else .error (.invalidAmount (.filledShort o.id r.filledAmount o.amount))
  | .cancelled => .ok ()

/-- Whether a request may be applied to an order. -/
def check (r : FillRequest) (o : Order) : Except SettlementError Unit :=
  if !o.status.mayBecome r.status then
    .error (.illegalTransition (toString o.status) (toString r.status))
  else if r.filledAmount < o.filledAmount then
    .error (.fillDecrease o.id o.filledAmount r.filledAmount)
  else if o.amount < r.filledAmount then
    .error (.fillExceedsAmount o.id o.amount r.filledAmount)
  else r.checkAmount o

/-- The unit of work that updates an order. -/
def work (r : FillRequest) : Work FillReport := do
  let order ← Work.query (.lockOrder r.orderId) "failed to load order"
  Work.ofExcept (r.check order)
  let updated ← Work.query (.updateOrder order.id r.status r.filledAmount) "failed to update order"
  return FillReport.ofOrder updated

/-- Updates the status and filled amount of an order. -/
def apply (r : FillRequest) : Operation FillReport where
  name := "update_order_fill"
  work := r.work
  report
    | .applied o remaining => [.orderFilled r.orderId r.status o.filledAmount remaining]
    | .remainderOverflow _ => []

end FillRequest
end Clearing
