import AardvarkWms.Outcomes
import AardvarkWms.CycleCounts

/-! What a stock freeze should refuse by its scope, and what the guard refuses. -/
namespace AardvarkWms

open Transactions Transactions.Txn Relational

/-- An active freeze of the warehouse whose filled scope columns are all the operation's. -/
structure StockFreeze.Covers (f : StockFreeze) (input : StockFreezeCheckInput) : Prop where
  warehouse : f.warehouseId=input.warehouseId
  active : f.status=.ACTIVE
  stockQuant : ∀ q∈f.stockQuantId, input.stockQuantId=some q
  location : ∀ l∈f.locationId, input.locationId=some l
  sku : ∀ s∈f.skuId, input.skuId=some s

/-- The shapes that the guard asks for: a quant alone, or a place without a quant. -/
def StockFreeze.Listed (f : StockFreeze) : Prop :=
  f.stockQuantId=none ∨ f.locationId=none ∧ f.skuId=none

/-- Freezes of the plan that the operation belongs to are let through, and with them those
of no plan at all. -/
def StockFreeze.Exempt (f : StockFreeze) (input : StockFreezeCheckInput) : Prop :=
  ∃ p∈input.allowPlanId, ∀ p'∈f.planId, p'=p

theorem scope_mem_scopedMatches {f : StockFreeze} {input : StockFreezeCheckInput} :
    f.scope∈input.scopedMatches ↔ f.Listed ∧ (∀ q∈f.stockQuantId, input.stockQuantId=some q) ∧
      (∀ l∈f.locationId, input.locationId=some l) ∧ ∀ s∈f.skuId, input.skuId=some s := by
  simp only [StockFreeze.scope,StockFreezeCheckInput.scopedMatches,StockFreeze.Listed]
  cases f.stockQuantId <;> cases f.locationId <;> cases f.skuId <;>
    cases input.stockQuantId <;> cases input.locationId <;> cases input.skuId <;>
    simp [eq_comm]

theorem not_exempt_iff {f : StockFreeze} {input : StockFreezeCheckInput} :
    input.allowPlanId.all (fun p => f.planId.any (·≠p))=true ↔ ¬f.Exempt input := by
  unfold StockFreeze.Exempt
  cases input.allowPlanId <;> cases f.planId <;> simp

theorem blocks_iff {f : StockFreeze} {input : StockFreezeCheckInput} :
    buildActiveStockFreezeWhere input f=true ↔ f.Covers input ∧ f.Listed ∧ ¬f.Exempt input := by
  simp only [buildActiveStockFreezeWhere,Bool.and_eq_true,decide_eq_true_eq,not_exempt_iff,
    List.contains_iff_mem,scope_mem_scopedMatches]
  constructor
  · rintro ⟨⟨⟨hw,ha⟩,he⟩,hl,hq,hloc,hs⟩
    exact ⟨⟨hw,ha,hq,hloc,hs⟩,hl,he⟩
  · rintro ⟨h,hl,he⟩
    exact ⟨⟨⟨h.warehouse,h.active⟩,he⟩,hl,h.stockQuant,h.location,h.sku⟩

/-- The guard at a state: it refuses or it lets the operation through. -/
def Guard (ids : ℕ → ℕ) (d : WmsDb) (input : StockFreezeCheckInput) :
    Except (Fault (interface wms)) (Ended (interface wms) WmsDb Unit) :=
  alone store ids (assertNoBlockingStockFreeze input) 0 [] (.start d)

def Guard.Refuses (ids : ℕ → ℕ) (d : WmsDb) (input : StockFreezeCheckInput) : Prop :=
  ∃ message, Guard ids d input=.error (.refused (.conflict message))

def Guard.Accepts (ids : ℕ → ℕ) (d : WmsDb) (input : StockFreezeCheckInput) : Prop :=
  ∃ e, Guard ids d input=.ok e

section
variable (ids : ℕ → ℕ) (d : WmsDb) (input : StockFreezeCheckInput)

theorem guard_cases :
    (∃ f∈(d .stockFreezes).rows, buildActiveStockFreezeWhere input f=true) ∧
      Guard.Refuses ids d input ∨
    (¬∃ f∈(d .stockFreezes).rows, buildActiveStockFreezeWhere input f=true) ∧
      Guard.Accepts ids d input := by
  unfold Guard.Refuses Guard.Accepts Guard assertNoBlockingStockFreeze findBlockingStockFreeze
  cases h : ((d .stockFreezes).rows.filter (buildActiveStockFreezeWhere input)).head? with
  | none =>
    refine .inr ⟨?_,?_⟩
    · rintro ⟨f,hf,hb⟩
      have hmem := List.mem_filter.mpr ⟨hf,hb⟩
      rw [List.head?_eq_none_iff.mp h] at hmem
      cases hmem
    · simp only [findFirst,findMany,query,bind_eq,pure_eq,Txn.bind,alone,Ctx.start]
      rw [show (store.answer (.rows .stockFreezes (buildActiveStockFreezeWhere input)) d).head?=none
        from h]
      exact ⟨_,rfl⟩
  | some f =>
    obtain ⟨hf,hb⟩ := List.mem_filter.mp (List.mem_of_mem_head? h)
    refine .inl ⟨⟨f,hf,hb⟩,?_⟩
    simp only [findFirst,findMany,query,bind_eq,pure_eq,Txn.bind,alone,Ctx.start]
    rw [show (store.answer (.rows .stockFreezes (buildActiveStockFreezeWhere input)) d).head?=some f
      from h]
    exact ⟨_,rfl⟩

theorem not_refuses_of_accepts (h : Guard.Accepts ids d input) : ¬Guard.Refuses ids d input := by
  rintro ⟨message,hm⟩
  obtain ⟨e,he⟩ := h
  rw [hm] at he
  cases he

theorem guard_refuses_iff : Guard.Refuses ids d input ↔
    ∃ f∈(d .stockFreezes).rows, buildActiveStockFreezeWhere input f=true := by
  rcases guard_cases ids d input with ⟨hb,hr⟩|⟨hb,ha⟩
  · exact ⟨fun _ => hb,fun _ => hr⟩
  · exact ⟨fun hr => (not_refuses_of_accepts ids d input ha hr).elim,fun h => (hb h).elim⟩

theorem guard_accepts_iff : Guard.Accepts ids d input ↔ ¬Guard.Refuses ids d input := by
  refine ⟨not_refuses_of_accepts ids d input,fun hr => ?_⟩
  rcases guard_cases ids d input with ⟨_,h⟩|⟨_,ha⟩
  · exact (hr h).elim
  · exact ha

/-- The guard goes by what the scopes of the active freezes mean. -/
def ScopeMeant : Prop :=
  (Guard.Refuses ids d input ↔ ∃ f∈(d .stockFreezes).rows, f.Covers input) ∧
  (Guard.Accepts ids d input ↔ ¬∃ f∈(d .stockFreezes).rows, f.Covers input)

/-- The guard keeps to the scopes exactly where one of the covering freezes, if there is any,
has a shape that it asks for and is not let through. A count's freeze never is one. -/
theorem scope_meant_iff :
    (ScopeMeant ids d input ↔ ((∃ f∈(d .stockFreezes).rows, f.Covers input) →
      ∃ f∈(d .stockFreezes).rows, f.Covers input ∧ f.Listed ∧ ¬f.Exempt input)) ∧
    ∀ id warehouseId planId q, ¬(countFreeze id warehouseId planId q).Listed := by
  refine ⟨?_,fun _ _ _ _ => by simp [StockFreeze.Listed,countFreeze]⟩
  have hrefuses := guard_refuses_iff ids d input
  simp only [blocks_iff] at hrefuses
  have hcovered : (∃ f∈(d .stockFreezes).rows, f.Covers input ∧ f.Listed ∧ ¬f.Exempt input) →
      ∃ f∈(d .stockFreezes).rows, f.Covers input := by
    rintro ⟨f,hf,hc,_⟩
    exact ⟨f,hf,hc⟩
  unfold ScopeMeant
  rw [guard_accepts_iff,hrefuses]
  constructor
  · exact fun h => h.1.mpr
  · intro h
    have hiff := Iff.intro hcovered h
    exact ⟨hiff,not_congr hiff⟩

end

/-- A quant that is being counted, alone in its warehouse. -/
def countedQuant : StockQuant := ⟨1,1,1,1,none,none,none,none,none,5,0,.AVAILABLE,1,0⟩

/-- The counted quant may be picked from. -/
theorem count_freeze_lets_pick : ¬ScopeMeant id
    (after [.insert .stockFreezes (countFreeze 1 1 1 countedQuant)] emptyDb)
    {warehouseId := 1, stockQuantId := some 1, locationId := some 1, skuId := some 1,
     operation := "confirm pick"} := by
  rintro ⟨h,_⟩
  have hrows : (after [.insert .stockFreezes (countFreeze 1 1 1 countedQuant)] emptyDb
      .stockFreezes).rows=[countFreeze 1 1 1 countedQuant] := rfl
  rw [guard_refuses_iff,hrows] at h
  obtain ⟨f,hf,hb⟩ := h.mpr ⟨_,List.mem_singleton_self _,rfl,rfl,by simp [countFreeze,countedQuant],
    by simp [countFreeze,countedQuant],by simp [countFreeze,countedQuant]⟩
  rw [List.mem_singleton.mp hf] at hb
  exact absurd hb (by decide)

end AardvarkWms
