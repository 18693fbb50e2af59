import AardvarkWms.Serials
import Mathlib.Data.List.Dedup

/-! The recall report: which stock it lists, `src/traceability`. -/
namespace AardvarkWms.Serials

open Messaging (Str)
open OrderUpdates (Uuid)
open Transactions.Txn (bind_eq_ok)

structure RecallReportQueryDto where
  lotReference : Option Str := none
  serialNumber : Option Str := none
  skuReference : Option Str := none
  ownerClientId : Option Str := none
  limit : Option ℤ := none

/-- What a query comes to: the rows and the values that the statements compare with. -/
structure RecallCriteria where
  warehouseId : Uuid
  lotId : Option Uuid
  skuId : Option Uuid
  ownerClientId : Option Uuid
  serialNumber : Option Str
  deriving DecidableEq

structure RecallReport where
  warehouseId : Uuid
  limit : ℕ
  serials : List SerialNumber
  lots : List SkuLot
  inventory : List StockQuant

def recallLimit (limit : Option ℤ) : ℕ := (max 1 (min (limit.getD 500) 5000)).toNat

namespace RecallCriteria
variable (c : RecallCriteria)

/-- A column that the query gives a value for has this value. -/
def meets (column value : Option Uuid) : Bool := value.isNone || column=value

def matchesSerial (s : SerialNumber) : Bool :=
  s.warehouseId=c.warehouseId && meets s.lotId c.lotId && meets (some s.skuId) c.skuId &&
    c.serialNumber.all s.isCalled && meets s.ownerClientId c.ownerClientId

def matchesStock (q : StockQuant) : Bool :=
  meets q.lotId c.lotId && meets (some q.skuId) c.skuId && meets q.ownerClientId c.ownerClientId

end RecallCriteria

/-- The latest change comes first. -/
def recallOrder (env : Env) (s s' : SerialNumber) : Bool :=
  s'.updatedAt < s.updatedAt || s.updatedAt=s'.updatedAt && env.collates s.serialNumber s'.serialNumber

def recallSerials (env : Env) (db : SerialDb) (c : RecallCriteria) (limit : ℕ) : List SerialNumber :=
  ((db.serials.rows.filter c.matchesSerial).mergeSort (recallOrder env)).take limit

def getRecallLots (db : SerialDb) (c : RecallCriteria) (serials : List SerialNumber) : List SkuLot :=
  match c.lotId with
  | some lotId => db.lots.filter fun l => l.id=lotId
  | none => db.lots.filter fun l =>
      l.warehouseId=c.warehouseId && l.id∈serials.filterMap (·.lotId)

/-- The stock that the serials are linked to, if any of them is, and else what the query says of it. -/
def getRecallInventory (db : SerialDb) (c : RecallCriteria) (serials : List SerialNumber) :
    List StockQuant :=
  let quantIds := (serials.filterMap (·.stockQuantId)).dedup
  db.quants.rows.filter fun q => q.warehouseId=c.warehouseId &&
    if quantIds=[] then c.matchesStock q else q.id∈quantIds

def recallCriteria (env : Env) (db : SerialDb) (warehouseReference : Str)
    (query : RecallReportQueryDto) : Except SerialError RecallCriteria := do
  let warehouse ← resolveWarehouse env db warehouseReference
  let lot ← resolveGiven (resolveLot env db warehouse.id) query.lotReference
  let sku ← resolveGiven (resolveSku env db) query.skuReference
  let ownerClientId ← castGiven env (AccessControl.present query.ownerClientId)
  pure ⟨warehouse.id,lot.map (·.id),sku.map (·.id),ownerClientId,AccessControl.present query.serialNumber⟩

def getRecallGenealogyReport (env : Env) (db : SerialDb) (warehouseReference : Str)
    (query : RecallReportQueryDto) : Except SerialError RecallReport := do
  let c ← recallCriteria env db warehouseReference query
  let limit := recallLimit query.limit
  let serials := recallSerials env db c limit
  pure ⟨c.warehouseId,limit,serials,getRecallLots db c serials,getRecallInventory db c serials⟩

section Completeness
variable {env : Env} {db : SerialDb} {c : RecallCriteria} {limit : ℕ}

namespace RecallCriteria

/-- The query names a lot, a SKU or an owner. -/
def namesStock (c : RecallCriteria) : Bool :=
  c.lotId.isSome || c.skuId.isSome || c.ownerClientId.isSome

/-- Stock of the named lot, SKU and owner. -/
def Named (c : RecallCriteria) (q : StockQuant) : Prop := c.namesStock=true ∧ c.matchesStock q=true

/-- Stock that some serial of the query is linked to. -/
def Holds (c : RecallCriteria) (db : SerialDb) (q : StockQuant) : Prop :=
  ∃ s∈db.serials.rows, c.matchesSerial s=true ∧ s.stockQuantId=some q.id

end RecallCriteria

/-- Exactly the stock of the named lot, SKU and owner and the stock that holds a serial of the query. -/
def Complete (db : SerialDb) (c : RecallCriteria) (inventory : List StockQuant) : Prop :=
  ∀ q, q∈inventory ↔ q∈db.quants.rows ∧ q.warehouseId=c.warehouseId ∧ (c.Named q ∨ c.Holds db q)

/-- Stock that one of the serials is linked to. -/
def LinkedBy (serials : List SerialNumber) (q : StockQuant) : Prop :=
  ∃ s∈serials, s.stockQuantId=some q.id

/-- If some of the listed serials is linked to stock, then all stock that the query is about holds a
listed serial; and if none is, then all stock that holds a serial of the query meets the rest of it, or
there is no rest and all stock of the warehouse holds one. -/
def LinksTell (db : SerialDb) (c : RecallCriteria) (serials : List SerialNumber) : Prop :=
  if serials.all (fun s => s.stockQuantId.isNone) then
    ∀ q∈db.quants.rows, q.warehouseId=c.warehouseId →
      if c.namesStock then c.Holds db q → c.matchesStock q=true else c.Holds db q
  else ∀ q∈db.quants.rows, q.warehouseId=c.warehouseId → c.Named q ∨ c.Holds db q →
    LinkedBy serials q

theorem matchesStock_of_unnamed (h : c.namesStock=false) (q : StockQuant) : c.matchesStock q=true := by
  unfold RecallCriteria.namesStock at h
  simp only [Bool.or_eq_false_iff,Option.isSome_eq_false_iff,Option.isNone_iff_eq_none] at h
  simp [RecallCriteria.matchesStock,RecallCriteria.meets,h]

theorem holds_of_linked {q : StockQuant} (h : LinkedBy (recallSerials env db c limit) q) :
    c.Holds db q := by
  obtain ⟨s,hs,hq⟩ := h
  have hmem : s∈db.serials.rows.filter c.matchesSerial :=
    (List.mergeSort_perm _ _).mem_iff.mp (List.mem_of_mem_take hs)
  obtain ⟨hrow,hmatch⟩ := List.mem_filter.mp hmem
  exact ⟨s,hrow,hmatch,hq⟩

theorem mem_inventory {serials : List SerialNumber} {q : StockQuant} :
    q∈getRecallInventory db c serials ↔ q∈db.quants.rows ∧ q.warehouseId=c.warehouseId ∧
      if serials.all (fun s => s.stockQuantId.isNone) then c.matchesStock q=true else LinkedBy serials q := by
  have hnone : (serials.filterMap (·.stockQuantId)).dedup=[] ↔
      serials.all (fun s => s.stockQuantId.isNone)=true := by
    simp [List.dedup_eq_nil,List.filterMap_eq_nil_iff]
  unfold getRecallInventory
  rw [List.mem_filter,Bool.and_eq_true,decide_eq_true_eq]
  by_cases hall : serials.all (fun s => s.stockQuantId.isNone)=true
  · simp only [hnone.mpr hall,hall,if_true]
  · have hsome : (serials.filterMap (·.stockQuantId)).dedup≠[] := fun h => hall (hnone.mp h)
    simp only [if_neg hsome,if_neg hall,LinkedBy,List.mem_dedup,List.mem_filterMap,decide_eq_true_eq]

theorem complete_iff :
    Complete db c (getRecallInventory db c (recallSerials env db c limit)) ↔
      LinksTell db c (recallSerials env db c limit) := by
  unfold Complete LinksTell
  simp only [mem_inventory]
  by_cases hall : (recallSerials env db c limit).all (fun s => s.stockQuantId.isNone)=true
  · simp only [hall,if_true]
    cases hnames : c.namesStock with
    | true =>
      constructor
      · intro h q hq hw hholds
        exact ((h q).mpr ⟨hq,hw,Or.inr hholds⟩).2.2
      · intro h q
        constructor
        · rintro ⟨hq,hw,hmatch⟩
          exact ⟨hq,hw,Or.inl ⟨hnames,hmatch⟩⟩
        · rintro ⟨hq,hw,hcase⟩
          refine ⟨hq,hw,?_⟩
          cases hcase with
          | inl hnamed => exact hnamed.2
          | inr hholds => exact h q hq hw hholds
    | false =>
      have hnot : ∀ q, ¬c.Named q := by
        intro q hnamed
        have hgiven := hnamed.1
        rw [hnames] at hgiven
        cases hgiven
      constructor
      · intro h q hq hw
        have hcase := ((h q).mp ⟨hq,hw,matchesStock_of_unnamed hnames q⟩).2.2
        exact hcase.resolve_left (hnot q)
      · intro h q
        constructor
        · rintro ⟨hq,hw,-⟩
          exact ⟨hq,hw,Or.inr (h q hq hw)⟩
        · rintro ⟨hq,hw,-⟩
          exact ⟨hq,hw,matchesStock_of_unnamed hnames q⟩
  · simp only [if_neg hall]
    constructor
    · intro h q hq hw hcase
      exact ((h q).mpr ⟨hq,hw,hcase⟩).2.2
    · intro h q
      constructor
      · rintro ⟨hq,hw,hlinked⟩
        exact ⟨hq,hw,Or.inr (holds_of_linked hlinked)⟩
      · rintro ⟨hq,hw,hcase⟩
        exact ⟨hq,hw,h q hq hw hcase⟩

theorem report_of_criteria {warehouseReference : Str} {query : RecallReportQueryDto}
    (hc : recallCriteria env db warehouseReference query=.ok c) :
    let serials := recallSerials env db c (recallLimit query.limit)
    getRecallGenealogyReport env db warehouseReference query=
      .ok ⟨c.warehouseId,recallLimit query.limit,serials,getRecallLots db c serials,
        getRecallInventory db c serials⟩ := by
  rw [getRecallGenealogyReport,hc]
  rfl

/-- When the report lists all affected stock and nothing else. -/
theorem recall_complete {warehouseReference : Str} {query : RecallReportQueryDto} {report : RecallReport}
    (h : getRecallGenealogyReport env db warehouseReference query=.ok report) :
    ∃ c, recallCriteria env db warehouseReference query=.ok c ∧
      (Complete db c report.inventory ↔
        LinksTell db c (recallSerials env db c (recallLimit query.limit))) := by
  obtain ⟨c,hc,h⟩ := bind_eq_ok h
  cases h
  exact ⟨c,hc,complete_iff⟩

end Completeness

section Demo
open OrderUpdates (someUuid mainWarehouse)

def demoLot : SkuLot := ⟨someUuid '9' OrderUpdates.isHex_nine,mainWarehouse.id,"LOT-A".toList⟩

def demoQuant (id : Uuid) : StockQuant :=
  ⟨id,mainWarehouse.id,none,someUuid '6' OrderUpdates.isHex_six,some demoLot.id,1⟩

/-- Stock of the lot that a serial is linked to, and stock that none is linked to. -/
def serialised : StockQuant := demoQuant (someUuid 'a' OrderUpdates.isHex_a)

def unserialised : StockQuant := demoQuant (someUuid 'b' OrderUpdates.isHex_b)

def demoSerial : SerialNumber :=
  ⟨someUuid '7' OrderUpdates.isHex_seven,mainWarehouse.id,none,serialised.skuId,some demoLot.id,some serialised.id,
   "SN-1".toList,.AVAILABLE,none,none,0⟩

def recallEnv : Env := ⟨.ascii,fun _ => none,fun a b => codeUnits a≤codeUnits b⟩

def lotDb (quants : Table StockQuant.id) : SerialDb where
  warehouses := [mainWarehouse]
  locations := []
  skus := []
  lots := [demoLot]
  quants := quants
  serials := Table.empty.insert demoSerial

def lotQuery : RecallReportQueryDto := {lotReference := some "lot-a".toList}

def lotCriteria : RecallCriteria := ⟨mainWarehouse.id,some demoLot.id,none,none,none⟩

theorem recallCriteria_lotQuery (quants : Table StockQuant.id) :
    recallCriteria recallEnv (lotDb quants) "MAIN".toList lotQuery=.ok lotCriteria := by
  have h : recallCriteria recallEnv (lotDb .empty) "MAIN".toList lotQuery=.ok lotCriteria := by
    decide +kernel
  exact h

theorem recallSerials_lotQuery (quants : Table StockQuant.id) (limit : ℕ) (hlimit : 0 < limit) :
    recallSerials recallEnv (lotDb quants) lotCriteria limit=[demoSerial] := by
  have hrows : (lotDb quants).serials.rows.filter lotCriteria.matchesSerial=[demoSerial] := by
    have h : (lotDb .empty).serials.rows.filter lotCriteria.matchesSerial=[demoSerial] := by
      decide +kernel
    exact h
  obtain ⟨n,rfl⟩ : ∃ n, limit=n+1 := ⟨limit-1,by omega⟩
  rw [recallSerials,hrows,List.mergeSort_singleton,List.take_succ_cons,List.take_nil]

theorem recall_complete_demo : ∃ report,
    getRecallGenealogyReport recallEnv (lotDb (Table.empty.insert serialised)) "MAIN".toList lotQuery=
      .ok report ∧ Complete (lotDb (Table.empty.insert serialised)) lotCriteria report.inventory := by
  have hc := recallCriteria_lotQuery (Table.empty.insert serialised)
  have hreport := report_of_criteria hc
  obtain ⟨c,hc',hiff⟩ := recall_complete hreport
  have hsame : c=lotCriteria := Except.ok.inj (hc'.symm.trans hc)
  subst hsame
  have htell : LinksTell (lotDb (Table.empty.insert serialised)) lotCriteria
      (recallSerials recallEnv (lotDb (Table.empty.insert serialised)) lotCriteria
        (recallLimit lotQuery.limit)) := by
    rw [recallSerials_lotQuery _ _ (by decide),LinksTell,if_neg (by decide +kernel)]
    intro q hq _ _
    have hrow : q=serialised := List.mem_singleton.mp hq
    exact ⟨demoSerial,List.mem_singleton_self _,by rw [hrow]; rfl⟩
  exact ⟨_,hreport,hiff.mpr htell⟩

/-- The report of a lot leaves out its unserialised stock, as soon as other stock of it has a serial. -/
theorem recall_misses_stock : ¬∀ (env : Env) (db : SerialDb) (warehouseReference : Str)
    (query : RecallReportQueryDto) (report : RecallReport) (c : RecallCriteria),
    getRecallGenealogyReport env db warehouseReference query=.ok report →
    recallCriteria env db warehouseReference query=.ok c → Complete db c report.inventory := by
  intro h
  have hc := recallCriteria_lotQuery ((Table.empty.insert serialised).insert unserialised)
  have hcomplete := h _ _ _ _ _ _ (report_of_criteria hc) hc
  have hlisted := (hcomplete unserialised).mpr
    ⟨by decide +kernel,rfl,Or.inl ⟨rfl,by decide +kernel⟩⟩
  have hinventory := (mem_inventory.mp hlisted).2.2
  rw [recallSerials_lotQuery _ _ (by decide)] at hinventory
  obtain ⟨s,hs,hlink⟩ : LinkedBy [demoSerial] unserialised := hinventory
  rw [List.mem_singleton.mp hs] at hlink
  revert hlink
  decide +kernel

end Demo
end AardvarkWms.Serials
