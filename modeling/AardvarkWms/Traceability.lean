import AardvarkWms.OwnerScope

/-! Lot, serial and expiry capture: `src/traceability/traceability-policy.helpers.ts`. -/
namespace AardvarkWms

open Transactions Transactions.Txn Relational

def mergePolicy (l r : TraceabilityPolicy) : TraceabilityPolicy :=
  ⟨l.lotRequired || r.lotRequired,l.serialRequired || r.serialRequired,
   l.expiryRequired || r.expiryRequired⟩

def resolveTraceabilityPolicy (sku : Option Sku) (line : OutboundOrderLine) :
    TraceabilityPolicy :=
  (sku.map (·.traceability)).elim line.traceability fun p => mergePolicy p line.traceability

structure TraceabilityCaptureInput where
  operation : String
  quantity : ℤ
  policy : TraceabilityPolicy
  serialNumbers : List Text
  lotReference : Option Text := none
  expiry : Option ℕ := none

def traceabilityViolations (input : TraceabilityCaptureInput) : List String :=
  let operation := input.operation
  let quantity := max 0 input.quantity
  let received := input.serialNumbers.length
  let plural := if quantity=1 then "" else "s"
  (if input.policy.lotRequired && input.lotReference.isNone then
    [s!"{operation} requires a lot/batch reference for this SKU"] else [])
  ++(if input.policy.expiryRequired && input.expiry.isNone then
    [s!"{operation} requires an expiry date for this SKU"] else [])
  ++(if input.policy.serialRequired && (received : ℤ)≠quantity then
    [s!"{operation} requires exactly {quantity} serial number{plural}; received {received}"]
    else [])
  ++(if !input.policy.serialRequired && quantity<(received : ℤ) then
    [s!"{operation} received {received} serial numbers for quantity {quantity}"] else [])

def assertTraceabilityCapture (input : TraceabilityCaptureInput) : Wms Unit := do
  require (input.serialNumbers.Nodup) (.conflict "Duplicate serial numbers are not allowed")
  let violations := traceabilityViolations input
  require (violations=[]) (.conflict ("; ".intercalate violations))

theorem only_assertTraceabilityCapture {ok : Statement wms → Prop}
    (input : TraceabilityCaptureInput) : Only ok (assertTraceabilityCapture input) :=
  (only_require _ _).bind fun _ => only_require _ _

end AardvarkWms
