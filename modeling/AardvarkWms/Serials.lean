import AardvarkWms.AccessControl
import AardvarkWms.Texts
import Mathlib.Data.Char
import Mathlib.Data.List.Lex

/-! Serial numbers: `src/traceability`, and what `src/inbound` captures of them. -/
namespace AardvarkWms.Serials

open Messaging (Str trim)
open OrderUpdates (Uuid Warehouse WarehouseLocation)

inductive SerialNumberStatus
  | EXPECTED | AVAILABLE | RESERVED | PICKED | PACKED | SHIPPED | BLOCKED | DAMAGED | RETURNED | SCRAPPED
  deriving DecidableEq

def SerialNumberStatus.value : SerialNumberStatus → String
  | EXPECTED => "EXPECTED"
  | AVAILABLE => "AVAILABLE"
  | RESERVED => "RESERVED"
  | PICKED => "PICKED"
  | PACKED => "PACKED"
  | SHIPPED => "SHIPPED"
  | BLOCKED => "BLOCKED"
  | DAMAGED => "DAMAGED"
  | RETURNED => "RETURNED"
  | SCRAPPED => "SCRAPPED"

structure SerialNumber where
  id : Uuid
  warehouseId : Uuid
  ownerClientId : Option Uuid
  skuId : Uuid
  lotId : Option Uuid
  stockQuantId : Option Uuid
  serialNumber : Str
  status : SerialNumberStatus
  lastSeenLocationId : Option Uuid
  inboundShipmentLineId : Option Uuid
  updatedAt : ℤ
  deriving DecidableEq

structure Sku where
  id : Uuid
  code : Str
  barcode : Option Str
  deriving DecidableEq

structure SkuLot where
  id : Uuid
  warehouseId : Uuid
  lotCode : Str
  deriving DecidableEq

structure StockQuant where
  id : Uuid
  warehouseId : Uuid
  ownerClientId : Option Uuid
  skuId : Uuid
  lotId : Option Uuid
  quantity : ℤ
  deriving DecidableEq

structure SerialDb where
  warehouses : List OrderUpdates.Warehouse
  locations : List OrderUpdates.WarehouseLocation
  skus : List Sku
  lots : List SkuLot
  quants : Table StockQuant.id
  serials : Table SerialNumber.id

/-- What the language and the database do with texts: case, the cast to a UUID and the order. -/
structure Env where
  lang : Language
  castUuid : Str → Option Uuid
  collates : Str → Str → Bool

inductive SerialError
  | notFound (message : String)
  | conflict (message : Str)
  | invalidUuid
  | foreignKey
  deriving DecidableEq

def normalizeSerial (value : Str) : Str := trim value

section Resolving
variable (env : Env) (db : SerialDb)

def normalizeCode (value : Str) : Str := env.lang.toUpperCase (trim value)

def orElseThrow {α : Type} (o : Option α) (message : String) : Except SerialError α :=
  o.elim (.error (.notFound message)) .ok

def resolveWarehouse (reference : Str) : Except SerialError OrderUpdates.Warehouse :=
  orElseThrow (db.warehouses.find? fun w =>
    OrderUpdates.Runtime.referenceWhere (normalizeCode env reference) reference w.id w.code)
    "Warehouse was not found"

def resolveSku (reference : Str) : Except SerialError Sku :=
  orElseThrow (db.skus.find? fun s =>
    OrderUpdates.Runtime.referenceWhere (normalizeCode env reference) reference s.id s.code ||
      s.barcode=some (trim reference))
    "SKU was not found"

def resolveLocation (warehouseId : Uuid) (reference : Str) :
    Except SerialError OrderUpdates.WarehouseLocation :=
  orElseThrow (db.locations.find? fun l => l.warehouseId=warehouseId &&
    OrderUpdates.Runtime.referenceWhere (normalizeCode env reference) reference l.id l.code)
    "Warehouse location was not found"

def resolveLot (warehouseId : Uuid) (reference : Str) : Except SerialError SkuLot :=
  orElseThrow (db.lots.find? fun l => l.warehouseId=warehouseId &&
    (l.id.val=reference || l.lotCode=normalizeCode env reference))
    "Lot was not found"

/-- The id or the text of a serial, in a warehouse. -/
def SerialNumber.isCalled (s : SerialNumber) (reference : Str) : Bool :=
  s.id.val=reference || s.serialNumber=normalizeSerial reference

def resolveSerialNumber (warehouseId : Uuid) (reference : Str) : Except SerialError SerialNumber :=
  orElseThrow (db.serials.rows.find? fun s => s.warehouseId=warehouseId && s.isCalled reference)
    "Serial number was not found"

def getSerialNumber (warehouseReference serialReference : Str) : Except SerialError SerialNumber := do
  let warehouse ← resolveWarehouse env db warehouseReference
  resolveSerialNumber db warehouse.id serialReference

/-- A reference that is not given, or given as the empty text, is not resolved. -/
def resolveGiven {α : Type} (resolve : Str → Except SerialError α) (reference : Option Str) :
    Except SerialError (Option α) :=
  match AccessControl.present reference with
  | none => pure none
  | some r => do
    let a ← resolve r
    pure (some a)

/-- A text that a statement casts to a UUID. -/
def castGiven (value : Option Str) : Except SerialError (Option Uuid) :=
  match value with
  | none => pure none
  | some v => ((env.castUuid v).map some).elim (.error .invalidUuid) .ok

end Resolving

/-! ### Registration -/

/-- The row keeps the primary key, and the unique index on warehouse and text. -/
def SerialDb.admits (db : SerialDb) (row : SerialNumber) : Bool :=
  (db.serials.get? row.id).isNone &&
    db.serials.rows.all fun s => !(s.warehouseId=row.warehouseId && s.serialNumber=row.serialNumber)

def SerialDb.insert (db : SerialDb) (row : SerialNumber) : SerialDb :=
  {db with serials := db.serials.insert row}

def SerialDb.insertSerial (db : SerialDb) (row : SerialNumber) (violated : SerialError) :
    Except SerialError SerialDb :=
  if db.admits row then .ok (db.insert row) else .error violated

structure CreateSerialNumberDto where
  skuReference : Str
  serialNumber : Str
  lotReference : Option Str := none
  stockQuantId : Option Str := none
  lastSeenLocationReference : Option Str := none
  ownerClientId : Option Str := none
  status : Option SerialNumberStatus := none

def CreateSerialNumberDto.row (dto : CreateSerialNumberDto) (id warehouseId skuId : Uuid)
    (lotId ownerClientId stockQuantId locationId : Option Uuid) (now : ℤ) : SerialNumber :=
  {id := id
   warehouseId := warehouseId
   ownerClientId := ownerClientId
   skuId := skuId
   lotId := lotId
   stockQuantId := stockQuantId
   serialNumber := normalizeSerial dto.serialNumber
   status := dto.status.getD .AVAILABLE
   lastSeenLocationId := locationId
   inboundShipmentLineId := none
   updatedAt := now}

/-- One INSERT, with the id that the database draws. -/
def createSerialNumber (env : Env) (warehouseReference : Str) (dto : CreateSerialNumberDto) (id : Uuid)
    (now : ℤ) (db : SerialDb) : Except SerialError SerialDb := do
  let warehouse ← resolveWarehouse env db warehouseReference
  let sku ← resolveSku env db dto.skuReference
  let lot ← resolveGiven (resolveLot env db warehouse.id) dto.lotReference
  let location ← resolveGiven (resolveLocation env db warehouse.id) dto.lastSeenLocationReference
  let ownerClientId ← castGiven env dto.ownerClientId
  let stockQuantId ← castGiven env dto.stockQuantId
  if stockQuantId.any fun q => (db.quants.get? q).isNone then throw .foreignKey
  else db.insertSerial (dto.row id warehouse.id sku.id (lot.map (·.id)) ownerClientId stockQuantId
    (location.map (·.id)) now) (.conflict "Serial number already exists in this warehouse".toList)

def joined (values : List Str) : Str := ", ".toList.intercalate values

/-- The values that stand there a second time, each once. -/
def findDuplicates : List Str → List Str → List Str → List Str
  | _, duplicates, [] => duplicates.mergeSort fun a b => codeUnits a≤codeUnits b
  | seen, duplicates, v::vs =>
    if v∈seen then findDuplicates seen (if v∈duplicates then duplicates else duplicates++[v]) vs
    else findDuplicates (seen++[v]) duplicates vs

/-- The texts of a request without outer blanks, without empty ones. -/
def captured (serialNumbers : List Str) : List Str := (serialNumbers.map trim).filter fun v => v≠[]

def normalizeSerialNumbers (lang : Language) (serialNumbers : List Str) : Except SerialError (List Str) :=
  let normalized := captured serialNumbers
  let duplicates := findDuplicates [] [] (normalized.map lang.toUpperCase)
  if duplicates=[] then .ok normalized
  else .error (.conflict ("Duplicate serial numbers are not allowed: ".toList++joined duplicates))

/-- What a receive knows of the serials it captures. -/
structure ReceiveSerialCaptureInput where
  warehouseId : Uuid
  ownerClientId : Option Uuid
  skuId : Uuid
  lotId : Option Uuid
  receivingLocationId : Uuid
  inboundShipmentLineId : Uuid
  goodQuant : Option (Uuid × StockQuantStatus)
  damagedQuant : Option (Uuid × StockQuantStatus)
  serialNumbers : List Str
  damagedSerialNumbers : List Str

def ReceiveSerialCaptureInput.row (input : ReceiveSerialCaptureInput)
    (quant : Option (Uuid × StockQuantStatus)) (status : SerialNumberStatus) (id : Uuid) (now : ℤ)
    (serialNumber : Str) : SerialNumber :=
  {id := id
   warehouseId := input.warehouseId
   ownerClientId := input.ownerClientId
   skuId := input.skuId
   lotId := input.lotId
   stockQuantId := quant.map (·.1)
   serialNumber := serialNumber
   status := status
   lastSeenLocationId := some input.receivingLocationId
   inboundShipmentLineId := some input.inboundShipmentLineId
   updatedAt := now}

/-- A serial that was expected keeps its warehouse, its SKU and its text. -/
def ReceiveSerialCaptureInput.update (input : ReceiveSerialCaptureInput)
    (quant : Option (Uuid × StockQuantStatus)) (status : SerialNumberStatus) (now : ℤ)
    (s : SerialNumber) : SerialNumber :=
  {s with
   ownerClientId := input.ownerClientId
   lotId := input.lotId
   stockQuantId := quant.map (·.1)
   status := status
   lastSeenLocationId := some input.receivingLocationId
   inboundShipmentLineId := some input.inboundShipmentLineId
   updatedAt := now}

section Capture
variable (input : ReceiveSerialCaptureInput) (newId : Str → Uuid) (now : ℤ)
  (quant : Option (Uuid × StockQuantStatus)) (status : SerialNumberStatus)

/-- A serial that is expected is updated, one that is not there is created. -/
def recordReceiveSerial (db : SerialDb) (serialNumber : Str) : Except SerialError SerialDb :=
  match db.serials.rows.find? fun s =>
    s.warehouseId=input.warehouseId && s.serialNumber=serialNumber with
  | some existing =>
    if existing.skuId≠input.skuId then
      .error (.conflict ("Serial ".toList++serialNumber++" already belongs to another SKU".toList))
    else if existing.status≠.EXPECTED then
      .error (.conflict ("Serial ".toList++serialNumber++" already exists with status ".toList++
        existing.status.value.toList))
    else .ok {db with serials :=
      db.serials.modify existing.id (input.update quant status now) fun _ => rfl}
  | none => db.insertSerial (input.row quant status (newId serialNumber) now serialNumber)
      (.conflict "Unique constraint failed".toList)

def recordReceiveSerialGroup (serialNumbers : List Str) (db : SerialDb) : Except SerialError SerialDb :=
  serialNumbers.foldlM (recordReceiveSerial input newId now quant status) db

end Capture

/-- The serials of a receive, which is one transaction. What else the receive asks for is left open. -/
def receiveSerials (lang : Language) (input : ReceiveSerialCaptureInput) (newId : Str → Uuid) (now : ℤ)
    (db : SerialDb) : Except SerialError SerialDb := do
  let good ← normalizeSerialNumbers lang input.serialNumbers
  let damaged ← normalizeSerialNumbers lang input.damagedSerialNumbers
  let _ ← normalizeSerialNumbers lang (good++damaged)
  let goodStatus : SerialNumberStatus := if input.goodQuant.any fun q => q.2=.QUARANTINE then .BLOCKED else .AVAILABLE
  let damagedStatus : SerialNumberStatus := if input.damagedQuant.any fun q => q.2=.DAMAGED then .DAMAGED else .BLOCKED
  let db ← recordReceiveSerialGroup input newId now input.goodQuant goodStatus good db
  recordReceiveSerialGroup input newId now input.damagedQuant damagedStatus damaged db

end AardvarkWms.Serials
