import AardvarkWms.AccessControl
import AardvarkWms.ScanCodes

/-! What a scanned text is resolved to: `src/labels/labels.service.ts`. -/
namespace AardvarkWms.Scans

open Messaging (Str trim)
open OrderUpdates (Uuid)

structure WarehouseLocation where
  id : Uuid
  warehouseId : Uuid
  code : Str
  barcode : Option Str
  deriving DecidableEq

structure Sku where
  id : Uuid
  code : Str
  barcode : Option Str
  deriving DecidableEq

structure SkuBarcode where
  skuId : Uuid
  warehouseId : Option Uuid
  barcode : Str
  isActive : Bool
  deriving DecidableEq

structure Parcel where
  id : Uuid
  warehouseId : Uuid
  trackingNumber : Str
  externalReference : Option Str
  deriving DecidableEq

/-- A client of a parcel: of its outbound or inbound order, or by a link. -/
structure ParcelClient where
  parcelId : Uuid
  clientId : Uuid

structure HandlingUnit where
  id : Uuid
  warehouseId : Uuid
  ownerClientId : Option Uuid
  code : Str
  deriving DecidableEq

structure WarehouseTask where
  id : Uuid
  warehouseId : Uuid
  ownerClientId : Option Uuid
  externalReference : Option Str
  deriving DecidableEq

structure ScanDb where
  warehouses : List OrderUpdates.Warehouse
  locations : List WarehouseLocation
  skus : List Sku
  skuBarcodes : List SkuBarcode
  parcels : List Parcel
  parcelClients : List ParcelClient
  handlingUnits : List HandlingUnit
  tasks : List WarehouseTask

inductive ScanObject
  | location (l : WarehouseLocation)
  | sku (s : Sku)
  | parcel (p : Parcel)
  | handlingUnit (h : HandlingUnit)
  | task (t : WarehouseTask)
  deriving DecidableEq

structure ScanResolution where
  found : Bool
  objectType : Option String
  id : Option Uuid
  code : Option Str
  deriving DecidableEq

def emptyScanResolution : ScanResolution := ⟨false,none,none,none⟩

namespace ScanObject

def objectType : ScanObject → String
  | location _ => "LOCATION"
  | sku _ => "SKU"
  | parcel _ => "PARCEL"
  | handlingUnit _ => "HANDLING_UNIT"
  | task _ => "TASK"

def id : ScanObject → Uuid
  | location l => l.id
  | sku s => s.id
  | parcel p => p.id
  | handlingUnit h => h.id
  | task t => t.id

/-- A task without a reference has its id for a code. -/
def code : ScanObject → Str
  | location l => l.code
  | sku s => s.code
  | parcel p => p.trackingNumber
  | handlingUnit h => h.code
  | task t => t.externalReference.getD t.id.val

def resolution (o : ScanObject) : ScanResolution := ⟨true,some o.objectType,some o.id,some o.code⟩

end ScanObject

def resolveSingleRow : List ScanObject → ScanResolution
  | [] => emptyScanResolution
  | o::_ => o.resolution

inductive ScanError
  | notFound (message : String)
  | badRequest (message : String)
  deriving DecidableEq

/-- Upper case, of the language and of the database. -/
structure Env where
  lang : Language
  upper : Str → Str

section Lookups
variable (env : Env) (db : ScanDb) (warehouseId : Uuid)

def Env.isSame (a b : Str) : Bool := env.upper a=env.upper b

/-- A column without a value is compared as the empty text. -/
def Env.isSameOptional (column : Option Str) (reference : Str) : Bool :=
  env.isSame (column.getD []) reference

def WarehouseLocation.isCalled (l : WarehouseLocation) (reference : Str) : Bool :=
  env.isSame l.code reference || env.isSameOptional l.barcode reference

def Sku.isCalled (s : Sku) (reference : Str) : Bool :=
  env.isSame s.code reference || env.isSameOptional s.barcode reference

def SkuBarcode.isCalled (b : SkuBarcode) (reference : Str) : Bool :=
  (b.warehouseId.isNone || b.warehouseId=some warehouseId) && env.isSame b.barcode reference && b.isActive

def Parcel.isCalled (p : Parcel) (reference : Str) : Bool :=
  env.isSame p.trackingNumber reference || env.isSameOptional p.externalReference reference

def HandlingUnit.isCalled (h : HandlingUnit) (reference : Str) : Bool := env.isSame h.code reference

def WarehouseTask.isCalled (t : WarehouseTask) (reference : Str) : Bool :=
  t.id.val=reference || env.isSameOptional t.externalReference reference

def skusByBarcode (reference : Str) : List Sku :=
  (db.skuBarcodes.filter fun b => b.isCalled env warehouseId reference).flatMap fun b =>
    db.skus.filter fun s => s.id=b.skuId

/-- No restriction, or one of the clients. -/
def isOwnedByOne (ownerClientIds : Option (List Uuid)) (ownerClientId : Option Uuid) : Bool :=
  ownerClientIds.all fun ids => ownerClientId.any fun c => c∈ids

def rowsOf (objectType : ScanObjectType) (reference : Str) (ownerClientIds : Option (List Uuid)) :
    List ScanObject :=
  match objectType with
  | .LOC => (db.locations.filter fun l => l.warehouseId=warehouseId && l.isCalled env reference).map .location
  | .SKU =>
    let directSku := db.skus.filter fun s => s.isCalled env reference
    if directSku≠[] then directSku.map .sku else (skusByBarcode env db warehouseId reference).map .sku
  | .PARCEL =>
    (db.parcels.filter fun p => p.warehouseId=warehouseId &&
      (ownerClientIds.all fun ids => db.parcelClients.any fun c => c.parcelId=p.id && c.clientId∈ids) &&
      p.isCalled env reference).map .parcel
  | .HU =>
    (db.handlingUnits.filter fun h => h.warehouseId=warehouseId &&
      isOwnedByOne ownerClientIds h.ownerClientId && h.isCalled env reference).map .handlingUnit
  | .TASK =>
    (db.tasks.filter fun t => t.warehouseId=warehouseId &&
      isOwnedByOne ownerClientIds t.ownerClientId && t.isCalled env reference).map .task

def resolveTypedReference (objectType : ScanObjectType) (reference : Str)
    (ownerClientIds : Option (List Uuid)) : ScanResolution :=
  let normalized := trim reference
  if normalized=[] then emptyScanResolution
  else resolveSingleRow (rowsOf env db warehouseId objectType normalized ownerClientIds)

/-- The first lookup that finds something. -/
def firstFound (resolutions : List ScanResolution) : ScanResolution :=
  (resolutions.find? (·.found)).getD emptyScanResolution

def resolveRawReference (reference : Str) (ownerClientIds : Option (List Uuid)) : ScanResolution :=
  firstFound ([ScanObjectType.LOC,.SKU,.PARCEL,.HU,.TASK].map fun t =>
    resolveTypedReference env db warehouseId t reference ownerClientIds)

end Lookups

section Service
variable (env : Env) (db : ScanDb)

def getScanOwnerClientIds (actor : AccessControl.AuthenticatedUser) (warehouse : OrderUpdates.Warehouse) :
    Option (List Uuid) :=
  if actor.activeClientAccess=[] then none
  else
    let normalizeReference := AccessControl.normalizeReference env.lang.toUpperCase
    some ((actor.activeClientAccess.filter fun access =>
      access.warehouseId.isNone && (AccessControl.present access.warehouseCode).isNone ||
        normalizeReference ((access.warehouseId.map (·.val)).getD [])=normalizeReference warehouse.id.val ||
        normalizeReference (access.warehouseCode.getD [])=normalizeReference warehouse.code).map
      (·.clientId)).eraseDups

def resolveParsedScan (warehouse : OrderUpdates.Warehouse) (parsed : ParsedScanCode)
    (actor : AccessControl.AuthenticatedUser) : ScanResolution :=
  let ownerClientIds := getScanOwnerClientIds env actor warehouse
  let resolveTyped := fun objectType reference =>
    resolveTypedReference env db warehouse.id objectType reference ownerClientIds
  match parsed with
  | .AARD1 code =>
    if matchesAardvarkWarehouse env.lang code warehouse.code then resolveTyped code.objectType code.reference
    else emptyScanResolution
  | .GS1 code =>
    firstFound
      ((AccessControl.present code.sscc).toList.flatMap (fun sscc =>
          [resolveTyped .HU sscc,resolveTyped .PARCEL sscc])++
        (AccessControl.present code.gtin).toList.map (resolveTyped .SKU))
  | .RAW value => resolveRawReference env db warehouse.id value ownerClientIds

def resolveWarehouse (reference : Str) : Except ScanError OrderUpdates.Warehouse :=
  (db.warehouses.find? fun w => OrderUpdates.Runtime.referenceWhere
    (env.lang.toUpperCase (trim reference)) reference w.id w.code).elim
    (.error (.notFound "Warehouse was not found")) .ok

def isOfOtherWarehouse (warehouse : OrderUpdates.Warehouse) : ParsedScanCode → Bool
  | .AARD1 code => !matchesAardvarkWarehouse env.lang code warehouse.code
  | _ => false

def resolveScan (warehouseReference scannedValue : Str) (actor : AccessControl.AuthenticatedUser) :
    Except ScanError (ParsedScanCode × ScanResolution) := do
  let warehouse ← resolveWarehouse env db warehouseReference
  let parsed := parseScanCode env.lang scannedValue
  if isOfOtherWarehouse env warehouse parsed then
    throw (.badRequest "Scanned code belongs to a different warehouse.")
  else pure (parsed,resolveParsedScan env db warehouse parsed actor)

end Service

/-! ### Stored codes -/

section Stored
variable {env : Env} {db : ScanDb} {warehouseId : Uuid}

/-- What a scan in the warehouse can find. -/
def ScanDb.objects (db : ScanDb) (warehouseId : Uuid) : List ScanObject :=
  (db.locations.filter fun l => l.warehouseId=warehouseId).map .location++
    db.skus.map .sku++(db.parcels.filter fun p => p.warehouseId=warehouseId).map .parcel++
    (db.handlingUnits.filter fun h => h.warehouseId=warehouseId).map .handlingUnit++
    (db.tasks.filter fun t => t.warehouseId=warehouseId).map .task

/-- The text is in one of the columns that a scan looks in, in some letter case. -/
def ScanObject.isCalled (env : Env) (db : ScanDb) (warehouseId : Uuid) (reference : Str) :
    ScanObject → Bool
  | location l => l.isCalled env reference
  | sku s => s.isCalled env reference ||
      db.skuBarcodes.any fun b => b.isCalled env warehouseId reference && s.id=b.skuId
  | parcel p => p.isCalled env reference
  | handlingUnit h => h.isCalled env reference
  | task t => t.isCalled env reference

def IsOnly (env : Env) (db : ScanDb) (warehouseId : Uuid) (o : ScanObject) : Prop :=
  ∀ x∈db.objects warehouseId, x.isCalled env db warehouseId o.code=true → x=o

/-- Scanning the object's code finds an object, and the object itself if only it has the code. -/
def FindsStored (env : Env) (db : ScanDb) (warehouseReference : Str)
    (actor : AccessControl.AuthenticatedUser) (warehouseId : Uuid) (o : ScanObject) : Prop :=
  ∃ parsed resolved, resolveScan env db warehouseReference o.code actor=.ok (parsed,resolved) ∧
    resolved.found=true ∧ (IsOnly env db warehouseId o → resolved=o.resolution)

/-- The scanner's reader takes the text as it is, and it is not empty. -/
def ReadsAsItIs (lang : Language) (code : Str) : Prop := parseScanCode lang code=.RAW code ∧ code≠[]

/-- The types and the references that a code asks for, in the order of the lookups. -/
def asked (lang : Language) (warehouse : OrderUpdates.Warehouse) :
    ParsedScanCode → List (ScanObjectType × Str)
  | .AARD1 code =>
    if matchesAardvarkWarehouse lang code warehouse.code then [(code.objectType,code.reference)] else []
  | .GS1 code =>
    (AccessControl.present code.sscc).toList.flatMap (fun sscc => [(.HU,sscc),(.PARCEL,sscc)])++
      (AccessControl.present code.gtin).toList.map fun gtin => (.SKU,gtin)
  | .RAW value => [.LOC,.SKU,.PARCEL,.HU,.TASK].map fun t => (t,value)

def rowsFor (env : Env) (db : ScanDb) (warehouseId : Uuid) (ask : ScanObjectType × Str) : List ScanObject :=
  if trim ask.2=[] then [] else rowsOf env db warehouseId ask.1 (trim ask.2) none

/-- The objects that are called what a text is read as. -/
def readAs (env : Env) (db : ScanDb) (warehouse : OrderUpdates.Warehouse) (code : Str) : List ScanObject :=
  (asked env.lang warehouse (parseScanCode env.lang code)).flatMap (rowsFor env db warehouse.id)

theorem resolveTypedReference_eq (ask : ScanObjectType × Str) :
    resolveTypedReference env db warehouseId ask.1 ask.2 none=
      resolveSingleRow (rowsFor env db warehouseId ask) := by
  unfold resolveTypedReference rowsFor
  by_cases hempty : trim ask.2=[]
  · simp only [if_pos hempty,resolveSingleRow]
  · simp only [if_neg hempty]

theorem resolveSingleRow_append (rows rows' : List ScanObject) :
    resolveSingleRow (rows++rows')=
      if (resolveSingleRow rows).found then resolveSingleRow rows else resolveSingleRow rows' := by
  cases rows with
  | nil => rfl
  | cons o rows => rfl

theorem firstFound_lookups (asks : List (ScanObjectType × Str)) :
    firstFound (asks.map fun ask => resolveTypedReference env db warehouseId ask.1 ask.2 none)=
      resolveSingleRow (asks.flatMap (rowsFor env db warehouseId)) := by
  induction asks with
  | nil => rfl
  | cons ask asks ih =>
    rw [List.flatMap_cons,resolveSingleRow_append,← ih,← resolveTypedReference_eq,List.map_cons]
    unfold firstFound
    cases hfound : (resolveTypedReference env db warehouseId ask.1 ask.2 none).found with
    | true => rw [List.find?_cons_of_pos hfound]; rfl
    | false =>
      rw [List.find?_cons_of_neg (by rw [hfound]; decide)]
      rfl

theorem firstFound_one (ask : ScanObjectType × Str) :
    firstFound [resolveTypedReference env db warehouseId ask.1 ask.2 none]=
      resolveTypedReference env db warehouseId ask.1 ask.2 none := by
  rw [resolveTypedReference_eq]
  generalize rowsFor env db warehouseId ask=rows
  cases rows with
  | nil => rfl
  | cons o rows => rfl

theorem resolveParsedScan_eq {actor : AccessControl.AuthenticatedUser}
    (hactor : actor.activeClientAccess=[]) (warehouse : OrderUpdates.Warehouse) (parsed : ParsedScanCode) :
    resolveParsedScan env db warehouse parsed actor=
      resolveSingleRow ((asked env.lang warehouse parsed).flatMap (rowsFor env db warehouse.id)) := by
  have hnone : getScanOwnerClientIds env actor warehouse=none := if_pos hactor
  rw [← firstFound_lookups]
  unfold resolveParsedScan
  rw [hnone]
  cases parsed with
  | AARD1 code =>
    simp only [asked]
    split
    · exact (firstFound_one (code.objectType,code.reference)).symm
    · rfl
  | GS1 code =>
    simp only [asked,List.map_append,List.map_flatMap,List.map_map]
    rfl
  | RAW value => rfl

theorem resolveScan_eq {actor : AccessControl.AuthenticatedUser} (hactor : actor.activeClientAccess=[])
    {warehouseReference : Str} {warehouse : OrderUpdates.Warehouse}
    (hw : resolveWarehouse env db warehouseReference=.ok warehouse) (code : Str) :
    resolveScan env db warehouseReference code actor=
      if isOfOtherWarehouse env warehouse (parseScanCode env.lang code) then
        .error (.badRequest "Scanned code belongs to a different warehouse.")
      else .ok (parseScanCode env.lang code,resolveSingleRow (readAs env db warehouse code)) := by
  rw [readAs,← resolveParsedScan_eq hactor,resolveScan,hw]
  simp only [bind,Except.bind]
  split
  · rfl
  · rfl

theorem readAs_otherWarehouse {warehouse : OrderUpdates.Warehouse} {code : Str}
    (h : isOfOtherWarehouse env warehouse (parseScanCode env.lang code)=true) :
    readAs env db warehouse code=[] := by
  unfold readAs
  cases hparsed : parseScanCode env.lang code with
  | AARD1 c =>
    rw [hparsed] at h
    have hother : matchesAardvarkWarehouse env.lang c warehouse.code=false := by
      simpa [isOfOtherWarehouse] using h
    simp [asked,hother]
  | GS1 c => rw [hparsed] at h; cases h
  | RAW v => rw [hparsed] at h; cases h

/-! What the lookups find is stored, and is called what they ask for. -/

theorem mem_skusByBarcode {reference : Str} {s : Sku} :
    s∈skusByBarcode env db warehouseId reference ↔
      s∈db.skus ∧ db.skuBarcodes.any (fun b => b.isCalled env warehouseId reference && s.id=b.skuId)=true := by
  simp only [skusByBarcode,List.mem_flatMap,List.mem_filter,decide_eq_true_eq,List.any_eq_true,
    Bool.and_eq_true]
  constructor
  · rintro ⟨b,⟨hb,hcalled⟩,hs,hid⟩
    exact ⟨hs,b,hb,hcalled,hid⟩
  · rintro ⟨hs,b,hb,hcalled,hid⟩
    exact ⟨b,⟨hb,hcalled⟩,hs,hid⟩

theorem mem_rowsOf {t : ScanObjectType} {reference : Str} {x : ScanObject}
    (h : x∈rowsOf env db warehouseId t reference none) :
    x∈db.objects warehouseId ∧ x.isCalled env db warehouseId reference=true := by
  cases t with
  | LOC =>
    obtain ⟨l,hl,rfl⟩ := List.mem_map.mp h
    obtain ⟨hrow,hcalled⟩ := List.mem_filter.mp hl
    rw [Bool.and_eq_true,decide_eq_true_eq] at hcalled
    exact ⟨by simp [ScanDb.objects,hrow,hcalled.1],hcalled.2⟩
  | SKU =>
    simp only [rowsOf] at h
    split at h
    · obtain ⟨s,hs,rfl⟩ := List.mem_map.mp h
      obtain ⟨hrow,hcalled⟩ := List.mem_filter.mp hs
      exact ⟨by simp [ScanDb.objects,hrow],by simp [ScanObject.isCalled,hcalled]⟩
    · obtain ⟨s,hs,rfl⟩ := List.mem_map.mp h
      obtain ⟨hrow,hbarcode⟩ := mem_skusByBarcode.mp hs
      exact ⟨by simp [ScanDb.objects,hrow],by rw [ScanObject.isCalled,hbarcode,Bool.or_true]⟩
  | HU =>
    obtain ⟨u,hu,rfl⟩ := List.mem_map.mp h
    obtain ⟨hrow,hcalled⟩ := List.mem_filter.mp hu
    simp only [isOwnedByOne,Option.all_none,Bool.and_true,Bool.and_eq_true,decide_eq_true_eq] at hcalled
    exact ⟨by simp [ScanDb.objects,hrow,hcalled.1],hcalled.2⟩
  | PARCEL =>
    obtain ⟨p,hp,rfl⟩ := List.mem_map.mp h
    obtain ⟨hrow,hcalled⟩ := List.mem_filter.mp hp
    simp only [Option.all_none,Bool.and_true,Bool.and_eq_true,decide_eq_true_eq] at hcalled
    exact ⟨by simp [ScanDb.objects,hrow,hcalled.1],hcalled.2⟩
  | TASK =>
    obtain ⟨k,hk,rfl⟩ := List.mem_map.mp h
    obtain ⟨hrow,hcalled⟩ := List.mem_filter.mp hk
    simp only [isOwnedByOne,Option.all_none,Bool.and_true,Bool.and_eq_true,decide_eq_true_eq] at hcalled
    exact ⟨by simp [ScanDb.objects,hrow,hcalled.1],hcalled.2⟩

theorem exists_rowsOf {x : ScanObject} {reference : Str} (hx : x∈db.objects warehouseId)
    (hcalled : x.isCalled env db warehouseId reference=true) :
    ∃ t∈[ScanObjectType.LOC,.SKU,.PARCEL,.HU,.TASK], rowsOf env db warehouseId t reference none≠[] := by
  cases x with
  | location l =>
    have hl : l∈db.locations ∧ l.warehouseId=warehouseId := by simpa [ScanDb.objects] using hx
    have hrow : ScanObject.location l∈rowsOf env db warehouseId .LOC reference none :=
      List.mem_map_of_mem (List.mem_filter.mpr ⟨hl.1,by simpa [hl.2,ScanObject.isCalled] using hcalled⟩)
    exact ⟨.LOC,by decide,List.ne_nil_of_mem hrow⟩
  | sku s =>
    have hs : s∈db.skus := by simpa [ScanDb.objects] using hx
    refine ⟨.SKU,by decide,?_⟩
    simp only [rowsOf]
    split
    next hdirect => exact fun h => absurd (List.map_eq_nil_iff.mp h) (by simpa using hdirect)
    next hdirect =>
      -- no SKU has the text for its own code or barcode, so it is an additional barcode
      have hnot : s.isCalled env reference=false := by
        have hnone : db.skus.filter (fun s => s.isCalled env reference)=[] := by simpa using hdirect
        simpa using List.filter_eq_nil_iff.mp hnone s hs
      rw [ScanObject.isCalled,hnot,Bool.false_or] at hcalled
      have hmem := List.mem_map_of_mem (f := ScanObject.sku) (mem_skusByBarcode.mpr ⟨hs,hcalled⟩)
      exact List.ne_nil_of_mem hmem
  | parcel p =>
    have hp : p∈db.parcels ∧ p.warehouseId=warehouseId := by simpa [ScanDb.objects] using hx
    have hrow : ScanObject.parcel p∈rowsOf env db warehouseId .PARCEL reference none :=
      List.mem_map_of_mem (List.mem_filter.mpr ⟨hp.1,by simpa [hp.2,ScanObject.isCalled] using hcalled⟩)
    exact ⟨.PARCEL,by decide,List.ne_nil_of_mem hrow⟩
  | handlingUnit u =>
    have hu : u∈db.handlingUnits ∧ u.warehouseId=warehouseId := by simpa [ScanDb.objects] using hx
    have hrow : ScanObject.handlingUnit u∈rowsOf env db warehouseId .HU reference none :=
      List.mem_map_of_mem (List.mem_filter.mpr ⟨hu.1,by simpa [hu.2,isOwnedByOne,ScanObject.isCalled] using hcalled⟩)
    exact ⟨.HU,by decide,List.ne_nil_of_mem hrow⟩
  | task k =>
    have hk : k∈db.tasks ∧ k.warehouseId=warehouseId := by simpa [ScanDb.objects] using hx
    have hrow : ScanObject.task k∈rowsOf env db warehouseId .TASK reference none :=
      List.mem_map_of_mem (List.mem_filter.mpr ⟨hk.1,by simpa [hk.2,isOwnedByOne,ScanObject.isCalled] using hcalled⟩)
    exact ⟨.TASK,by decide,List.ne_nil_of_mem hrow⟩

theorem isCalled_code (o : ScanObject) : o.isCalled env db warehouseId o.code=true := by
  cases o with
  | location l => simp [ScanObject.isCalled,ScanObject.code,WarehouseLocation.isCalled,Env.isSame]
  | sku s => simp [ScanObject.isCalled,ScanObject.code,Sku.isCalled,Env.isSame]
  | parcel p => simp [ScanObject.isCalled,ScanObject.code,Parcel.isCalled,Env.isSame]
  | handlingUnit h => simp [ScanObject.isCalled,ScanObject.code,HandlingUnit.isCalled,Env.isSame]
  | task t =>
    cases href : t.externalReference with
    | none => simp [ScanObject.isCalled,ScanObject.code,WarehouseTask.isCalled,href]
    | some r =>
      simp [ScanObject.isCalled,ScanObject.code,WarehouseTask.isCalled,Env.isSameOptional,Env.isSame,href]

theorem trim_normalizeScannerInput (input : Str) :
    trim (normalizeScannerInput input)=normalizeScannerInput input := trim_trim _

theorem normalizeScannerInput_of_raw {lang : Language} {input value : Str}
    (h : parseScanCode lang input=.RAW value) : normalizeScannerInput input=value := by
  simp only [parseScanCode] at h
  split at h
  · cases h
  · split at h
    · cases h
    · exact ParsedScanCode.RAW.inj h

theorem rowsFor_raw {code : Str} (h : ReadsAsItIs env.lang code) (t : ScanObjectType) :
    rowsFor env db warehouseId (t,code)=rowsOf env db warehouseId t code none := by
  have hself := normalizeScannerInput_of_raw h.1
  have htrim : trim code=code := by
    have hnormal := trim_normalizeScannerInput code
    rwa [hself] at hnormal
  rw [rowsFor,htrim,if_neg h.2]

theorem readAs_asItIs {warehouse : OrderUpdates.Warehouse} {o : ScanObject}
    (ho : o∈db.objects warehouse.id) (h : ReadsAsItIs env.lang o.code) :
    ∃ x, (readAs env db warehouse o.code).head?=some x ∧ (IsOnly env db warehouse.id o → x=o) := by
  have hrows : readAs env db warehouse o.code=
      [ScanObjectType.LOC,.SKU,.PARCEL,.HU,.TASK].flatMap fun t =>
        rowsOf env db warehouse.id t o.code none := by
    rw [readAs,h.1]
    simp only [asked,List.flatMap_map,rowsFor_raw h]
  have hcode : o.isCalled env db warehouse.id o.code=true := isCalled_code o
  obtain ⟨t,ht,hsome⟩ := exists_rowsOf ho hcode
  have hne : readAs env db warehouse o.code≠[] := by
    rw [hrows]
    intro hnil
    exact hsome (List.flatMap_eq_nil_iff.mp hnil t ht)
  obtain ⟨x,rest,hx⟩ := List.exists_cons_of_ne_nil hne
  refine ⟨x,by rw [hx]; rfl,fun honly => ?_⟩
  have hmem : x∈readAs env db warehouse o.code := by rw [hx]; exact List.mem_cons_self
  rw [hrows] at hmem
  obtain ⟨t',-,hrow⟩ := List.mem_flatMap.mp hmem
  obtain ⟨hstored,hcalled⟩ := mem_rowsOf hrow
  exact honly x hstored hcalled

theorem findsStored_iff {actor : AccessControl.AuthenticatedUser} (hactor : actor.activeClientAccess=[])
    {warehouseReference : Str} {warehouse : OrderUpdates.Warehouse}
    (hw : resolveWarehouse env db warehouseReference=.ok warehouse) {o : ScanObject} :
    FindsStored env db warehouseReference actor warehouse.id o ↔
      ∃ x, (readAs env db warehouse o.code).head?=some x ∧
        (IsOnly env db warehouse.id o → x.resolution=o.resolution) := by
  unfold FindsStored
  rw [resolveScan_eq hactor hw]
  cases hother : isOfOtherWarehouse env warehouse (parseScanCode env.lang o.code) with
  | true =>
    rw [readAs_otherWarehouse hother,if_pos rfl]
    constructor
    · rintro ⟨_,_,h,-⟩
      cases h
    · rintro ⟨_,h,-⟩
      cases h
  | false =>
    rw [if_neg Bool.false_ne_true]
    generalize parseScanCode env.lang o.code=code
    cases readAs env db warehouse o.code with
    | nil =>
      constructor
      · rintro ⟨parsed,resolved,h,hfound,-⟩
        rw [← (Prod.mk.inj (Except.ok.inj h)).2] at hfound
        cases hfound
      · rintro ⟨_,h,-⟩
        cases h
    | cons x rest =>
      constructor
      · rintro ⟨parsed,resolved,h,-,honly⟩
        rw [← (Prod.mk.inj (Except.ok.inj h)).2] at honly
        exact ⟨x,rfl,honly⟩
      · rintro ⟨y,h,honly⟩
        have hsame : x=y := Option.some.inj h
        rw [← hsame] at honly
        exact ⟨_,_,rfl,rfl,honly⟩

/-- The code is read as something else, an object is called what it is read as, and if only `o` has the
code then `o` is the first one called so. -/
def FoundByChance (env : Env) (db : ScanDb) (warehouse : OrderUpdates.Warehouse) (o : ScanObject) : Prop :=
  ¬ReadsAsItIs env.lang o.code ∧ ∃ x, (readAs env db warehouse o.code).head?=some x ∧
    (IsOnly env db warehouse.id o → x.resolution=o.resolution)

/-- A stored code is found when the reader takes it as it is, and else only by chance. -/
theorem stored_code_scans {actor : AccessControl.AuthenticatedUser} (hactor : actor.activeClientAccess=[])
    {warehouseReference : Str} {warehouse : OrderUpdates.Warehouse}
    (hw : resolveWarehouse env db warehouseReference=.ok warehouse) {o : ScanObject}
    (ho : o∈db.objects warehouse.id) :
    FindsStored env db warehouseReference actor warehouse.id o ↔
      ReadsAsItIs env.lang o.code ∨ FoundByChance env db warehouse o := by
  rw [findsStored_iff hactor hw]
  constructor
  · intro h
    by_cases hreads : ReadsAsItIs env.lang o.code
    · exact Or.inl hreads
    · exact Or.inr ⟨hreads,h⟩
  · intro h
    cases h with
    | inl hreads =>
      obtain ⟨x,hx,honly⟩ := readAs_asItIs ho hreads
      exact ⟨x,hx,fun h => congrArg ScanObject.resolution (honly h)⟩
    | inr hchance => exact hchance.2

/-- A batch, a date, a serial or a quantity alone finds nothing, whatever is stored. -/
theorem not_findsStored_of_gs1 {actor : AccessControl.AuthenticatedUser}
    (hactor : actor.activeClientAccess=[]) {warehouseReference : Str} {warehouse : OrderUpdates.Warehouse}
    (hw : resolveWarehouse env db warehouseReference=.ok warehouse) {o : ScanObject} {code : Gs1ScanCode}
    (hgs1 : parseScanCode env.lang o.code=.GS1 code) (hsscc : code.sscc=none) (hgtin : code.gtin=none) :
    ¬FindsStored env db warehouseReference actor warehouse.id o := by
  have hnothing : readAs env db warehouse o.code=[] := by
    rw [readAs,hgs1]
    simp only [asked,hsscc,hgtin]
    rfl
  rw [findsStored_iff hactor hw,hnothing]
  rintro ⟨_,h,-⟩
  cases h

end Stored

section Demo
open OrderUpdates (someUuid mainWarehouse)

def demoEnv : Env := ⟨.ascii,fun s => s.map Char.toUpper⟩

/-- A user without client access. -/
def unrestricted : AccessControl.AuthenticatedUser := ⟨someUuid '5' OrderUpdates.isHex_five,[],[],[]⟩

def binOf (code : String) : WarehouseLocation :=
  ⟨someUuid '6' OrderUpdates.isHex_six,mainWarehouse.id,code.toList,none⟩

def binDb (code : String) : ScanDb := ⟨[mainWarehouse],[binOf code],[],[],[],[],[],[]⟩

theorem bin_stored (code : String) : ScanObject.location (binOf code)∈(binDb code).objects mainWarehouse.id := by
  simp [ScanDb.objects,binDb,binOf]

theorem stored_code_scans_demo : FindsStored demoEnv (binDb "A-01-01") "main".toList unrestricted
    mainWarehouse.id (.location (binOf "A-01-01")) := by
  have hw : resolveWarehouse demoEnv (binDb "A-01-01") "main".toList=.ok mainWarehouse := by
    decide +kernel
  have hreads : parseScanCode demoEnv.lang (ScanObject.location (binOf "A-01-01")).code=
      .RAW (ScanObject.location (binOf "A-01-01")).code := by decide +kernel
  rw [stored_code_scans rfl hw (bin_stored _)]
  exact Or.inl ⟨hreads,by decide +kernel⟩

/-- A location whose code begins like a batch number. -/
theorem location_lost : ¬∀ (env : Env) (db : ScanDb) (warehouseReference : Str)
    (actor : AccessControl.AuthenticatedUser) (warehouse : OrderUpdates.Warehouse),
    actor.activeClientAccess=[] → resolveWarehouse env db warehouseReference=.ok warehouse →
    ∀ o∈db.objects warehouse.id, FindsStored env db warehouseReference actor warehouse.id o := by
  intro h
  have hw : resolveWarehouse demoEnv (binDb "10-A-01") "main".toList=.ok mainWarehouse := by
    decide +kernel
  have hfound := h demoEnv (binDb "10-A-01") "main".toList unrestricted mainWarehouse rfl hw
    (.location (binOf "10-A-01")) (bin_stored _)
  have hgs1 : parseScanCode demoEnv.lang (ScanObject.location (binOf "10-A-01")).code=
      .GS1 ⟨"10-A-01".toList,none,[("10".toList,"-A-01".toList)]⟩ := by decide +kernel
  exact not_findsStored_of_gs1 rfl hw hgs1 (by decide +kernel) (by decide +kernel) hfound

end Demo
end AardvarkWms.Scans
