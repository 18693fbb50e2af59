import AardvarkWms.DocumentNumbers
import AardvarkWms.Tallies

/-! The balances of a warehouse's stock, as the database groups them and as the service does. -/
namespace AardvarkWms.StockBalances

open Messaging (Str trim)
open OrderUpdates (Uuid someUuid isHex)

/-- A quant as it is stored; the expiry is a date, in days since the first of January 1970. -/
structure StockQuantRecord where
  id : Uuid
  warehouseId : Uuid
  skuId : Uuid
  locationId : Uuid
  status : StockQuantStatus
  ownerClientId : Option Uuid
  lotId : Option Uuid
  batch : Option Str
  expiryDate : Option ℤ
  quantity : ℤ
  reservedQuantity : ℤ
  deriving DecidableEq

/-- What a balance is about. -/
structure BalanceColumns where
  warehouseId : Uuid
  skuId : Uuid
  locationId : Uuid
  status : StockQuantStatus
  ownerClientId : Option Uuid
  lotId : Option Uuid
  batch : Option Str
  expiry : Option ℤ
  deriving DecidableEq

structure StockBalanceRecord where
  columns : BalanceColumns
  quantity : ℤ
  reservedQuantity : ℤ
  availableQuantity : ℤ
  quantCount : ℕ
  deriving DecidableEq

def StockQuantRecord.columns (quant : StockQuantRecord) : BalanceColumns where
  warehouseId := quant.warehouseId
  skuId := quant.skuId
  locationId := quant.locationId
  status := quant.status
  ownerClientId := quant.ownerClientId
  lotId := quant.lotId
  batch := quant.batch
  expiry := quant.expiryDate

/-- What the references of a query stand for. -/
structure BalanceScope where
  warehouseId : Uuid
  ownedQuantIds : Option (List Uuid)
  skuId : Option Uuid
  locationId : Option Uuid

/-- The rest of a query; the date is a time already. -/
structure ListStockBalancesQueryDto where
  status : Option StockQuantStatus := none
  batch : Option Str := none
  expiringBefore : Option ℤ := none
  includeZero : Bool := false

def normalizeOptionalString (value : Option Str) : Option Str := (value.map trim).filter (·≠[])

/-- The `where` of a query. A quant without expiry is not before any time. -/
def selects (scope : BalanceScope) (query : ListStockBalancesQueryDto) (quant : StockQuantRecord) :
    Bool :=
  quant.warehouseId=scope.warehouseId
    && scope.ownedQuantIds.all (quant.id∈·)
    && scope.skuId.all (quant.skuId=·)
    && scope.locationId.all (quant.locationId=·)
    && query.status.all (quant.status=·)
    && (normalizeOptionalString query.batch).all (quant.batch=some ·)
    && query.expiringBefore.all (fun t => quant.expiryDate.any (·*Billing.MS_PER_DAY≤t))
    && (query.includeZero || 0 < quant.quantity)

/-- The database groups by the columns. -/
def groupBy (quants : List StockQuantRecord) : List (BalanceColumns × List StockQuantRecord) :=
  (quants.map (·.columns)).dedup.map fun group => (group,quants.filter (·.columns=group))

/-- The balance of a group, from its sums. -/
def groupBalance (group : BalanceColumns × List StockQuantRecord) : StockBalanceRecord :=
  let quantity := (group.2.map (·.quantity)).sum
  let reservedQuantity := (group.2.map (·.reservedQuantity)).sum
  { columns := group.1,
    quantity,
    reservedQuantity,
    availableQuantity := if group.1.status=.AVAILABLE then max (quantity-reservedQuantity) 0 else 0,
    quantCount := group.2.length }

/-- Every balance of the selection, before a page is taken from them. -/
def findBalances (quants : List StockQuantRecord) (scope : BalanceScope)
    (query : ListStockBalancesQueryDto) : List StockBalanceRecord :=
  (groupBy (quants.filter (selects scope query))).map groupBalance

def statusText : StockQuantStatus → Str
  | .AVAILABLE => "AVAILABLE".toList
  | .RESERVED => "RESERVED".toList
  | .BLOCKED => "BLOCKED".toList
  | .DAMAGED => "DAMAGED".toList
  | .IN_TRANSIT => "IN_TRANSIT".toList
  | .QUARANTINE => "QUARANTINE".toList

def idText (id : Option Uuid) : Str := (id.map (·.val)).getD []

/-- The first ten characters of the expiry's ISO text. -/
def expiryText (expiry : Option ℤ) : Str :=
  (expiry.map fun day => Billing.isoDate (day*Billing.MS_PER_DAY)).getD []

def balanceKey (columns : BalanceColumns) : Str :=
  Separators.join '|' [
    columns.warehouseId.val,
    columns.skuId.val,
    columns.locationId.val,
    statusText columns.status,
    idText columns.ownerClientId,
    idText columns.lotId,
    columns.batch.getD [],
    expiryText columns.expiry]

def getQuantAvailableQuantity (quant : StockQuantRecord) : ℤ :=
  if quant.status≠.AVAILABLE then 0 else max (quant.quantity-quant.reservedQuantity) 0

/-- What one quant makes of its balance. -/
def addQuant (quant : StockQuantRecord) : Option StockBalanceRecord → StockBalanceRecord
  | some existing => { existing with
      quantity := existing.quantity+quant.quantity,
      reservedQuantity := existing.reservedQuantity+quant.reservedQuantity,
      availableQuantity := existing.availableQuantity+getQuantAvailableQuantity quant,
      quantCount := existing.quantCount+1 }
  | none => {
      columns := quant.columns,
      quantity := quant.quantity,
      reservedQuantity := quant.reservedQuantity,
      availableQuantity := getQuantAvailableQuantity quant,
      quantCount := 1 }

def balancesOf (quants : List StockQuantRecord) : List (Str × StockBalanceRecord) :=
  Tallies.tally (fun quant => balanceKey quant.columns) addQuant quants []

def groupStockBalances (quants : List StockQuantRecord) : List StockBalanceRecord :=
  (balancesOf quants).map (·.2)

/-- Whether the service's key has the same parts for both. -/
def SameKey (columns columns' : BalanceColumns) : Prop :=
  columns.warehouseId=columns'.warehouseId ∧
    columns.skuId=columns'.skuId ∧
    columns.locationId=columns'.locationId ∧
    columns.status=columns'.status ∧
    columns.ownerClientId=columns'.ownerClientId ∧
    columns.lotId=columns'.lotId ∧
    columns.batch.getD []=columns'.batch.getD [] ∧
    expiryText columns.expiry=expiryText columns'.expiry

instance decidableSameKey (columns columns' : BalanceColumns) :
    Decidable (SameKey columns columns') := inferInstanceAs (Decidable (_ ∧ _))

theorem bar_notMem_uuid (id : Uuid) : '|'∉id.val := by
  intro hmem
  obtain ⟨hlength,hall⟩ := Bool.and_eq_true_iff.mp id.property
  obtain ⟨i,hi,hget⟩ := List.getElem_of_mem hmem
  have hchar := List.all_eq_true.mp hall (id.val[i],i) (List.mem_zipIdx_iff_getElem?.mpr
    (by simp [hi]))
  rw [hget] at hchar
  revert hchar
  simp [isHex]

theorem uuid_ne_nil (id : Uuid) : id.val≠[] := by
  intro hnil
  have hlength := (Bool.and_eq_true_iff.mp id.property).1
  simp [hnil] at hlength

theorem bar_notMem_idText (id : Option Uuid) : '|'∉idText id := by
  cases id with
  | none => simp [idText]
  | some id => exact bar_notMem_uuid id

theorem idText_inj {id id' : Option Uuid} (h : idText id=idText id') : id=id' := by
  cases id with
  | none =>
    cases id' with
    | none => rfl
    | some id' => exact absurd h.symm (uuid_ne_nil id')
  | some id =>
    cases id' with
    | none => exact absurd h (uuid_ne_nil id)
    | some id' => exact congrArg some (Subtype.ext h)

theorem bar_notMem_statusText (status : StockQuantStatus) : '|'∉statusText status := by
  cases status <;> decide

theorem statusText_inj {status status' : StockQuantStatus}
    (h : statusText status=statusText status') : status=status' := by
  cases status <;> cases status' <;> first | rfl | exact absurd h (by decide)

theorem bar_notMem_isoDate (t : ℤ) : '|'∉Billing.isoDate t :=
  Billing.notMem_isoDate (by decide) (by decide) (by decide)

theorem bar_notMem_expiryText (expiry : Option ℤ) : '|'∉expiryText expiry := by
  cases expiry with
  | none => simp [expiryText]
  | some day => exact bar_notMem_isoDate _

theorem balanceKey_inj {columns columns' : BalanceColumns} :
    balanceKey columns=balanceKey columns' ↔ SameKey columns columns' := by
  constructor
  · intro h
    unfold balanceKey at h
    simp only [Separators.join_cons,Separators.join_singleton] at h
    have hwarehouse := Separators.split_first (bar_notMem_uuid _) (bar_notMem_uuid _) h
    have hsku := Separators.split_first (bar_notMem_uuid _) (bar_notMem_uuid _) hwarehouse.2
    have hlocation := Separators.split_first (bar_notMem_uuid _) (bar_notMem_uuid _) hsku.2
    have hstatus := Separators.split_first (bar_notMem_statusText _) (bar_notMem_statusText _)
      hlocation.2
    have howner := Separators.split_first (bar_notMem_idText _) (bar_notMem_idText _) hstatus.2
    have hlot := Separators.split_first (bar_notMem_idText _) (bar_notMem_idText _) howner.2
    have hbatch := Separators.split_last (bar_notMem_expiryText _) (bar_notMem_expiryText _) hlot.2
    exact ⟨Subtype.ext hwarehouse.1,Subtype.ext hsku.1,Subtype.ext hlocation.1,
      statusText_inj hstatus.1,idText_inj howner.1,idText_inj hlot.1,hbatch.1,hbatch.2⟩
  · rintro ⟨hwarehouse,hsku,hlocation,hstatus,howner,hlot,hbatch,hexpiry⟩
    unfold balanceKey
    rw [hwarehouse,hsku,hlocation,hstatus,howner,hlot,hbatch,hexpiry]

section Groups
variable {quants : List StockQuantRecord}

/-- What the service has for a group that `quant` is the first of. -/
def serviceBalance (quant : StockQuantRecord) (group : List StockQuantRecord) :
    StockBalanceRecord where
  columns := quant.columns
  quantity := (group.map (·.quantity)).sum
  reservedQuantity := (group.map (·.reservedQuantity)).sum
  availableQuantity := (group.map getQuantAvailableQuantity).sum
  quantCount := group.length

theorem foldl_addQuant (first : StockQuantRecord) (group rest : List StockQuantRecord) :
    rest.foldl (fun balance quant => addQuant quant (some balance)) (serviceBalance first group)=
      serviceBalance first (group++rest) := by
  induction rest generalizing group with
  | nil => simp
  | cons quant rest ih =>
    have hstep : addQuant quant (some (serviceBalance first group))=
        serviceBalance first (group++[quant]) := by
      simp [addQuant,serviceBalance]
    rw [List.foldl_cons,hstep,ih,List.append_assoc,List.singleton_append]

theorem mem_balancesOf (entry : Str × StockBalanceRecord) : entry∈balancesOf quants ↔
    ∃ first rest, quants.filter (balanceKey ·.columns=entry.1)=first::rest ∧
      entry.2=serviceBalance first (first::rest) := by
  have hfold : ∀ first rest, rest.foldl (fun balance quant => addQuant quant (some balance))
      (addQuant first none)=serviceBalance first (first::rest) := by
    intro first rest
    have hone : addQuant first none=serviceBalance first [first] := by
      simp [addQuant,serviceBalance]
    rw [hone,foldl_addQuant,List.singleton_append]
  unfold balancesOf
  rw [Tallies.mem_tally]
  simp only [hfold]

theorem key_of_mem {entry : Str × StockBalanceRecord} (h : entry∈balancesOf quants) :
    balanceKey entry.2.columns=entry.1 := by
  obtain ⟨first,rest,hfilter,hbalance⟩ := mem_balancesOf entry |>.mp h
  have hmem : first∈quants.filter (balanceKey ·.columns=entry.1) := by simp [hfilter]
  rw [hbalance]
  simpa [serviceBalance] using (List.mem_filter.mp hmem).2

theorem keys_groupStockBalances :
    (groupStockBalances quants).map (balanceKey ·.columns)=(balancesOf quants).map (·.1) := by
  unfold groupStockBalances
  rw [List.map_map]
  exact List.map_congr_left fun entry hentry => key_of_mem hentry

theorem nodup_keys : ((groupStockBalances quants).map (balanceKey ·.columns)).Nodup := by
  rw [keys_groupStockBalances]
  exact Tallies.nodup_tally quants List.nodup_nil

theorem mem_groups (balance : StockBalanceRecord) :
    balance∈(groupBy quants).map groupBalance ↔ ∃ quant∈quants,
      balance=groupBalance (quant.columns,quants.filter (·.columns=quant.columns)) := by
  unfold groupBy
  rw [List.map_map,List.mem_map]
  simp only [List.mem_dedup,List.mem_map]
  constructor
  · rintro ⟨columns,⟨quant,hmem,rfl⟩,rfl⟩
    exact ⟨quant,hmem,rfl⟩
  · rintro ⟨quant,hmem,rfl⟩
    exact ⟨quant.columns,⟨quant,hmem,rfl⟩,rfl⟩

theorem nodup_groups : ((groupBy quants).map groupBalance).Nodup := by
  have hcolumns : ((groupBy quants).map groupBalance).map (·.columns)=
      (quants.map (·.columns)).dedup := by
    unfold groupBy
    rw [List.map_map,List.map_map]
    exact List.map_id _
  have hnodup := List.nodup_dedup (quants.map (·.columns))
  rw [← hcolumns] at hnodup
  exact List.Nodup.of_map _ hnodup

/-- No quant has more reserved than there is. -/
def Covered (quants : List StockQuantRecord) : Prop :=
  ∀ quant∈quants, 0≤quant.reservedQuantity ∧ quant.reservedQuantity≤quant.quantity

theorem available_sum (h : Covered quants) :
    (quants.map fun quant => max (quant.quantity-quant.reservedQuantity) 0).sum=
      max ((quants.map (·.quantity)).sum-(quants.map (·.reservedQuantity)).sum) 0 := by
  have hsum : (quants.map fun quant => max (quant.quantity-quant.reservedQuantity) 0).sum=
      (quants.map (·.quantity)).sum-(quants.map (·.reservedQuantity)).sum ∧
      (quants.map (·.reservedQuantity)).sum≤(quants.map (·.quantity)).sum := by
    induction quants with
    | nil => simp
    | cons quant quants ih =>
      have hquant := h quant List.mem_cons_self
      have hrest := ih fun x hx => h x (List.mem_cons_of_mem quant hx)
      simp only [List.map_cons,List.sum_cons]
      omega
  omega

theorem serviceBalance_eq {quant : StockQuantRecord} {group : List StockQuantRecord}
    (h : Covered group) (hcolumns : ∀ x∈group, x.columns=quant.columns) :
    serviceBalance quant group=groupBalance (quant.columns,group) := by
  have havailable : (group.map getQuantAvailableQuantity).sum=
      if quant.status=.AVAILABLE then
        max ((group.map (·.quantity)).sum-(group.map (·.reservedQuantity)).sum) 0 else 0 := by
    have hstatus : ∀ x∈group, x.status=quant.status := fun x hx =>
      congrArg BalanceColumns.status (hcolumns x hx)
    by_cases havail : quant.status=.AVAILABLE
    · rw [if_pos havail,← available_sum h]
      exact congrArg List.sum (List.map_congr_left fun x hx => by
        simp [getQuantAvailableQuantity,hstatus x hx,havail])
    · rw [if_neg havail]
      have hzero : group.map getQuantAvailableQuantity=group.map fun _ => (0 : ℤ) :=
        List.map_congr_left fun x hx => by simp [getQuantAvailableQuantity,hstatus x hx,havail]
      rw [hzero]
      simp
  unfold serviceBalance groupBalance
  simp only [havailable]
  rfl

/-- The columns of both are the same where the key is. -/
def KeysTell (quants : List StockQuantRecord) : Prop :=
  ∀ quant∈quants, ∀ quant'∈quants, balanceKey quant.columns=balanceKey quant'.columns →
    quant.columns=quant'.columns

theorem filter_key_eq (hkeys : KeysTell quants) {quant : StockQuantRecord} (hmem : quant∈quants) :
    quants.filter (balanceKey ·.columns=balanceKey quant.columns)=
      quants.filter (·.columns=quant.columns) := by
  refine List.filter_congr fun x hx => ?_
  have hiff : balanceKey x.columns=balanceKey quant.columns ↔ x.columns=quant.columns :=
    ⟨hkeys x hx quant hmem,congrArg balanceKey⟩
  simp only [hiff]

theorem perm_of_keysTell (h : Covered quants) (hkeys : KeysTell quants) :
    ((groupBy quants).map groupBalance).Perm (groupStockBalances quants) := by
  have hkeysOnce : ((groupStockBalances quants).map (balanceKey ·.columns)).Nodup := nodup_keys
  have hnodup := List.Nodup.of_map _ hkeysOnce
  refine (List.perm_ext_iff_of_nodup nodup_groups hnodup).mpr fun balance => ?_
  -- the quants that a key and its first quant's columns select are the same
  have hsame : ∀ first rest key, quants.filter (balanceKey ·.columns=key)=first::rest →
      first∈quants ∧ balanceKey first.columns=key ∧ serviceBalance first (first::rest)=
        groupBalance (first.columns,quants.filter (·.columns=first.columns)) := by
    intro first rest key hfilter
    have hfirst : first∈quants.filter (balanceKey ·.columns=key) := by simp [hfilter]
    have hkey : balanceKey first.columns=key := by simpa using (List.mem_filter.mp hfirst).2
    have hmem := List.mem_of_mem_filter hfirst
    subst hkey
    rw [filter_key_eq hkeys hmem] at hfilter
    refine ⟨hmem,rfl,?_⟩
    rw [hfilter]
    have hin : ∀ x∈first::rest, x∈quants.filter (·.columns=first.columns) := by simp [hfilter]
    exact serviceBalance_eq (fun x hx => h x (List.mem_of_mem_filter (hin x hx)))
      fun x hx => by simpa using (List.mem_filter.mp (hin x hx)).2
  rw [mem_groups]
  unfold groupStockBalances
  rw [List.mem_map]
  constructor
  · rintro ⟨quant,hmem,rfl⟩
    have hin : quant∈quants.filter (balanceKey ·.columns=balanceKey quant.columns) := by simp [hmem]
    cases hfilter : quants.filter (balanceKey ·.columns=balanceKey quant.columns) with
    | nil =>
      rw [hfilter] at hin
      cases hin
    | cons first rest =>
      obtain ⟨hfirst,hkey,hbalance⟩ := hsame first rest _ hfilter
      refine ⟨(balanceKey quant.columns,serviceBalance first (first::rest)),
        (mem_balancesOf _).mpr ⟨first,rest,hfilter,rfl⟩,?_⟩
      rw [hbalance,hkeys first hfirst quant hmem hkey]
  · rintro ⟨entry,hentry,rfl⟩
    obtain ⟨first,rest,hfilter,hbalance⟩ := (mem_balancesOf entry).mp hentry
    have hfirst := hsame first rest _ hfilter
    exact ⟨first,hfirst.1,hbalance.trans hfirst.2.2⟩

theorem keysTell_of_perm (h : ((groupBy quants).map groupBalance).Perm (groupStockBalances quants)) :
    KeysTell quants := by
  intro quant hquant quant' hquant' hkey
  have hmem := h.subset ((mem_groups _).mpr ⟨quant,hquant,rfl⟩)
  have hmem' := h.subset ((mem_groups _).mpr ⟨quant',hquant',rfl⟩)
  -- both balances stand under one key of the service
  have hbalances := List.inj_on_of_nodup_map nodup_keys hmem hmem' hkey
  exact congrArg StockBalanceRecord.columns hbalances

end Groups

section Agreement
variable (quants : List StockQuantRecord) (scope : BalanceScope) (query : ListStockBalancesQueryDto)

/-- The two groupings give the same balances exactly if no two selected quants agree in the rest of
the key and differ by a missing and an empty batch, or by expiries with the same first ten
characters. -/
theorem balance_paths_agree (h : Covered quants) :
    (findBalances quants scope query).Perm (groupStockBalances (quants.filter (selects scope query))) ↔
      ¬∃ quant∈quants, ∃ quant'∈quants, selects scope query quant=true ∧
        selects scope query quant'=true ∧ SameKey quant.columns quant'.columns ∧
        (quant.batch≠quant'.batch ∨ quant.expiryDate≠quant'.expiryDate) := by
  have hcovered : Covered (quants.filter (selects scope query)) := fun quant hquant =>
    h quant (List.mem_of_mem_filter hquant)
  have hkeys : (findBalances quants scope query).Perm
      (groupStockBalances (quants.filter (selects scope query))) ↔
        KeysTell (quants.filter (selects scope query)) :=
    ⟨keysTell_of_perm,perm_of_keysTell hcovered⟩
  rw [hkeys]
  constructor
  · rintro htell ⟨quant,hquant,quant',hquant',hselects,hselects',hsame,hdiffer⟩
    have hcolumns := htell quant (List.mem_filter.mpr ⟨hquant,hselects⟩) quant'
      (List.mem_filter.mpr ⟨hquant',hselects'⟩) (balanceKey_inj.mpr hsame)
    cases hdiffer with
    | inl hbatch => exact hbatch (congrArg BalanceColumns.batch hcolumns)
    | inr hexpiry => exact hexpiry (congrArg BalanceColumns.expiry hcolumns)
  · intro hnone quant hquant quant' hquant' hkey
    have hin := List.mem_filter.mp hquant
    have hin' := List.mem_filter.mp hquant'
    have hsame := balanceKey_inj.mp hkey
    have hrest : quant.batch=quant'.batch ∧ quant.expiryDate=quant'.expiryDate := by
      by_contra hdiffer
      exact hnone ⟨quant,hin.1,quant',hin'.1,hin.2,hin'.2,hsame,not_and_or.mp hdiffer⟩
    obtain ⟨hwarehouse,hsku,hlocation,hstatus,howner,hlot,-,-⟩ := hsame
    simp only [StockQuantRecord.columns] at hwarehouse hsku hlocation hstatus howner hlot ⊢
    rw [hwarehouse,hsku,hlocation,hstatus,howner,hlot,hrest.1,hrest.2]

def someId : Uuid := someUuid '5' OrderUpdates.isHex_five

/-- Ten pieces of a batch, or of stock that has none. -/
def someQuant (batch : Option Str) : StockQuantRecord :=
  ⟨someId,someId,someId,someId,.AVAILABLE,none,none,batch,none,10,4⟩

def someScope : BalanceScope := ⟨someId,none,none,none⟩

theorem balance_paths_agree_demo :
    (findBalances [someQuant none,someQuant none] someScope {}).Perm
      (groupStockBalances ([someQuant none,someQuant none].filter (selects someScope {}))) := by
  have hcovered : Covered [someQuant none,someQuant none] := by simp [Covered,someQuant]
  refine (balance_paths_agree _ someScope {} hcovered).mpr ?_
  simp

/-- A missing batch and an empty one are two groups in the database and one in the service. -/
theorem empty_batch_joins_missing : ¬∀ quants scope query, Covered quants →
    (findBalances quants scope query).Perm
      (groupStockBalances (quants.filter (selects scope query))) := by
  intro h
  have hcovered : Covered [someQuant none,someQuant (some [])] := by simp [Covered,someQuant]
  have hlength := (h _ someScope {} hcovered).length_eq
  revert hlength
  decide

end Agreement

end AardvarkWms.StockBalances
