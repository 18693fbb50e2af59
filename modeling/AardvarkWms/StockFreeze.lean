import AardvarkWms.Schema

/-! The stock freeze guard: `src/inventory/stock-freeze.helpers.ts`. -/
namespace AardvarkWms

open Transactions Transactions.Txn Relational

structure StockFreezeCheckInput where
  warehouseId : ℕ
  stockQuantId : Option ℕ := none
  locationId : Option ℕ := none
  skuId : Option ℕ := none
  operation : String
  allowPlanId : Option ℕ := none

/-- One alternative of the guard's `OR`: the exact values of the three scope columns. -/
structure StockFreezeScope where
  stockQuantId : Option ℕ
  locationId : Option ℕ
  skuId : Option ℕ
  deriving DecidableEq

def StockFreeze.scope (f : StockFreeze) : StockFreezeScope :=
  ⟨f.stockQuantId,f.locationId,f.skuId⟩

def StockFreezeCheckInput.scopedMatches (input : StockFreezeCheckInput) : List StockFreezeScope :=
  [⟨none,none,none⟩]
  ++(if input.stockQuantId.isSome then [⟨input.stockQuantId,none,none⟩] else [])
  ++(if input.locationId.isSome && input.skuId.isSome then
      [⟨none,input.locationId,input.skuId⟩] else [])
  ++(if input.locationId.isSome then [⟨none,input.locationId,none⟩] else [])
  ++(if input.skuId.isSome then [⟨none,none,input.skuId⟩] else [])

-- NOT (plan_id = x) is not true of a row without a plan.
def buildActiveStockFreezeWhere (input : StockFreezeCheckInput) (f : StockFreeze) : Bool :=
  f.warehouseId=input.warehouseId && f.status=.ACTIVE
  && input.allowPlanId.all (fun p => f.planId.any (·≠p))
  && input.scopedMatches.contains f.scope

def findBlockingStockFreeze (input : StockFreezeCheckInput) : Wms (Option StockFreeze) :=
  findFirst (D := wms) .stockFreezes (buildActiveStockFreezeWhere input)

def describeStockFreezeScope (f : StockFreeze) : String :=
  match f.stockQuantId, f.locationId, f.skuId with
  | some q, _, _ => s!"stock quant {q}"
  | none, some l, some s => s!"location {l} and SKU {s}"
  | none, some l, none => s!"location {l}"
  | none, none, some s => s!"SKU {s}"
  | none, none, none => s!"warehouse {f.warehouseId}"

def assertNoBlockingStockFreeze (input : StockFreezeCheckInput) : Wms Unit := do
  match ← findBlockingStockFreeze input with
  | none => return ()
  | some f =>
    let scope := describeStockFreezeScope f
    let operation := input.operation
    let freeze := f.id
    let reason := if f.reason="" then "" else s!" Reason: " ++ f.reason ++ "."
    refuse (.conflict
      (s!"Cannot perform {operation}; active stock freeze {freeze} blocks {scope}." ++ reason))

theorem only_assertNoBlockingStockFreeze {ok : Statement wms → Prop}
    (input : StockFreezeCheckInput) : Only ok (assertNoBlockingStockFreeze input) := by
  refine (only_findFirst (D := wms) _ _).bind fun f => ?_
  cases f <;> trivial

end AardvarkWms
