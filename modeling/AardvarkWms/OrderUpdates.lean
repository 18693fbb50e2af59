import AardvarkWms.Messaging
import AardvarkWms.Schema
import AardvarkWms.Stepwise

/-! Updates of an outbound order and of an inbound shipment: the header, then line by line,
each write on its own. The two services differ in their columns and texts. -/
namespace AardvarkWms.OrderUpdates

open Messaging

def isHex (c : Char) : Bool := c.isDigit || c.toLower∈['a','b','c','d','e','f']

/-- A UUID's text, of versions 1 to 5. -/
def isUuid (value : Str) : Bool :=
  value.length=36 && value.zipIdx.all fun x =>
    if x.2∈[8,13,18,23] then x.1 = '-'
    else if x.2=14 then x.1∈['1','2','3','4','5']
    else if x.2=19 then x.1.toLower∈['8','9','a','b']
    else isHex x.1

abbrev Uuid : Type := {s : Str // isUuid s=true}

instance lawfulBEqUuid : LawfulBEq Uuid := inferInstance

/-- The database reads a UUID in either case. -/
def Uuid.isCalled (id : Uuid) (reference : Str) : Bool :=
  id.val.map Char.toLower=reference.map Char.toLower

/-- A field of a request: absent, null or a value. -/
abbrev Field (α : Type) : Type := Option (Option α)

/-- The instant a text is read as, if it is one. -/
abbrev Date : Type := Option ℤ

/-- What the language itself does with texts. -/
structure Runtime where
  toUpperCase : Str → Str
  newDate : Str → Date

inductive ServiceError
  | notFound (message : String)
  | conflict (message : String)
  | typeError
  | invalidValue
  | uniqueViolation
  deriving DecidableEq

structure Warehouse where
  id : Uuid
  code : Str
  deriving DecidableEq

structure Parcel where
  id : Uuid
  warehouseId : Uuid
  trackingNumber : Str
  deriving DecidableEq

inductive WarehouseLocationType
  | RECEIVING | STORAGE | PICKING | PACKING | SHIPPING | BUFFER | QUARANTINE
  deriving DecidableEq

structure WarehouseLocation where
  id : Uuid
  warehouseId : Uuid
  code : Str
  type : WarehouseLocationType
  deriving DecidableEq

/-- What an update reads and never writes. -/
structure Places where
  warehouses : List Warehouse
  parcels : List Parcel
  locations : List WarehouseLocation

/-- The headers and lines of one service. -/
structure Rows (Head Line : Type) where
  heads : List Head
  lines : List Line
  deriving DecidableEq

def normalizeNullableString (value : Option Str) : Option Str :=
  value.bind fun v => if trim v=[] then none else some (trim v)

def toOptionalDate (env : Runtime) (value : Field Str) : Field Date :=
  value.map fun v => v.bind fun v => if trim v=[] then none else some (env.newDate v)

/-- No field holds a date that is none. -/
def isDate (value : Field Date) : Bool := value≠some (some none)

def orElseThrow {α : Type} (o : Option α) (e : ServiceError) : Except ServiceError α :=
  o.elim (.error e) .ok

namespace Runtime
variable (env : Runtime) (places : Places)

def normalizeReference (value : Str) : Str := env.toUpperCase (trim value)

/-- `id` is asked for only where the reference has the form of one. -/
def referenceWhere (normalized reference : Str) (id : Uuid) (code : Str) : Bool :=
  (isUuid reference && id.isCalled reference) || code=normalized

def resolveWarehouse (reference : Str) : Except ServiceError Warehouse :=
  orElseThrow (places.warehouses.find? fun w =>
      referenceWhere (env.normalizeReference reference) reference w.id w.code)
    (.notFound "Warehouse was not found")

def resolveParcel (warehouseId : Uuid) (reference : Str) : Except ServiceError Parcel :=
  orElseThrow (places.parcels.find? fun p => p.warehouseId=warehouseId &&
      referenceWhere (env.normalizeReference reference) reference p.id p.trackingNumber)
    (.notFound "Parcel was not found")

def resolveLocation (warehouseId : Uuid) (reference : Str) :
    Except ServiceError WarehouseLocation :=
  orElseThrow (places.locations.find? fun l => l.warehouseId=warehouseId &&
      referenceWhere (env.normalizeReference reference) reference l.id l.code)
    (.notFound "Warehouse location was not found")

def resolveDockLocation (warehouseId : Uuid) (reference : Str) :
    Except ServiceError WarehouseLocation := do
  let location ← env.resolveLocation places warehouseId reference
  if location.type∈[.RECEIVING,.SHIPPING,.BUFFER] then pure location
  else throw (.conflict "Dock location must be a receiving, shipping, or buffer location")

def resolveUpdateParcelId (warehouseId : Uuid) : Field Str → Except ServiceError (Field Uuid)
  | none => pure none
  | some none => pure (some none)
  | some (some reference) =>
    if reference=[] then pure (some none)
    else do
      let parcel ← env.resolveParcel places warehouseId reference
      pure (some (some parcel.id))

def resolveUpdateDockLocationId (warehouseId : Uuid) :
    Field Str → Except ServiceError (Field Uuid)
  | none => pure none
  | some none => pure (some none)
  | some (some reference) =>
    if trim reference=[] then pure (some none)
    else do
      let location ← env.resolveDockLocation places warehouseId reference
      pure (some (some location.id))

end Runtime

/-- The columns, patches and texts of one service. No patch moves a row or renames a line. -/
structure OrderService where
  Head : Type
  Line : Type
  Dto : Type
  LineDto : Type
  Data : Type
  LineData : Type
  dataEq : DecidableEq Data
  lineDataEq : DecidableEq LineData
  id : Head → Uuid
  warehouseId : Head → Uuid
  number : Head → Str
  lineId : Line → Uuid
  parentId : Line → Uuid
  lineNumber : Line → Str
  lines : Dto → List LineDto
  lineReference : LineDto → Str
  parcelReference : LineDto → Field Str
  toUpdateInput : Runtime → Places → Uuid → Head → Dto → Except ServiceError Data
  toLineData : LineDto → Field Uuid → Except ServiceError LineData
  empty : Data
  emptyLine : LineData
  fits : Data → Bool
  fitsLine : LineData → Bool
  patch : Data → Head → Head
  patchLine : LineData → Line → Line
  notFound : String
  lineNotFound : String
  lineReferenceRequired : String
  alreadyExists : String
  fitsLine_empty : fitsLine emptyLine=true
  patch_empty : ∀ h, patch empty h=h
  patchLine_empty : ∀ r, patchLine emptyLine r=r
  id_patch : ∀ d h, id (patch d h)=id h
  warehouseId_patch : ∀ d h, warehouseId (patch d h)=warehouseId h
  lineId_patch : ∀ d r, lineId (patchLine d r)=lineId r
  parentId_patch : ∀ d r, parentId (patchLine d r)=parentId r
  lineNumber_patch : ∀ d r, lineNumber (patchLine d r)=lineNumber r

namespace OrderService
variable (K : OrderService) (env : Runtime) (places : Places)

instance : DecidableEq K.Data := K.dataEq
instance : DecidableEq K.LineData := K.lineDataEq

abbrev Orders : Type := Rows K.Head K.Line

/-- Statements of one service, each a transaction of its own. -/
abbrev Call (α : Type) : Type := EStateM ServiceError K.Orders α

def resolveOrder (rows : K.Orders) (warehouseId : Uuid) (reference : Str) :
    Except ServiceError K.Head :=
  orElseThrow (rows.heads.find? fun h => K.warehouseId h=warehouseId &&
      Runtime.referenceWhere (env.normalizeReference reference) reference (K.id h) (K.number h))
    (.notFound K.notFound)

/-- A line number is trimmed, but not put in upper case. -/
def resolveLine (rows : K.Orders) (orderId : Uuid) (reference : Str) :
    Except ServiceError K.Line :=
  orElseThrow (rows.lines.find? fun r => K.parentId r=orderId &&
      Runtime.referenceWhere (trim reference) reference (K.lineId r) (K.lineNumber r))
    (.notFound K.lineNotFound)

def writeHead (id : Uuid) (data : K.Data) (rows : K.Orders) : K.Orders :=
  {rows with heads := rows.heads.map fun h => if K.id h=id then K.patch data h else h}

def writeLine (id : Uuid) (data : K.LineData) (rows : K.Orders) : K.Orders :=
  {rows with lines := rows.lines.map fun r => if K.lineId r=id then K.patchLine data r else r}

/-- Another order of the warehouse already has the number this one is given. -/
def isTaken (rows : K.Orders) (order : K.Head) (data : K.Data) : Bool :=
  rows.heads.any fun h => K.id h≠K.id order && K.warehouseId h=K.warehouseId order &&
    K.number h=K.number (K.patch data order)

/-- The line that a change names and what it writes there. -/
def lineChange (rows : K.Orders) (warehouseId orderId : Uuid) (dto : K.LineDto) :
    Except ServiceError (Uuid × K.LineData) := do
  if K.lineReference dto=[] then throw (.conflict K.lineReferenceRequired) else
    let line ← K.resolveLine rows orderId (K.lineReference dto)
    let parcelId ← env.resolveUpdateParcelId places warehouseId (K.parcelReference dto)
    let data ← K.toLineData dto parcelId
    pure (K.lineId line,data)

def updateHead (order : K.Head) (data : K.Data) : K.Call Unit := do
  let rows ← get
  if data=K.empty then pure ()
  else if K.fits data=false then throw .invalidValue
  else if K.isTaken rows order data then throw .uniqueViolation
  else set (K.writeHead (K.id order) data rows)

def updateLine (warehouseId orderId : Uuid) (dto : K.LineDto) : K.Call Unit := do
  let rows ← get
  let (id,data) ← MonadExcept.ofExcept (K.lineChange env places rows warehouseId orderId dto)
  if data=K.emptyLine then pure ()
  else if K.fitsLine data=false then throw .invalidValue
  else set (K.writeLine id data rows)

/-- The header, then each line, then the order as it is now: no transaction is around them. -/
def writeUpdate (warehouseId : Uuid) (existingOrder : K.Head) (data : K.Data) (dto : K.Dto) :
    K.Call (K.Head × List K.Line) := do
  K.updateHead existingOrder data
  (K.lines dto).forM (K.updateLine env places warehouseId (K.id existingOrder))
  let rows ← get
  let refreshedOrder ←
    MonadExcept.ofExcept (K.resolveOrder env rows warehouseId (K.id existingOrder).val)
  pure (refreshedOrder,rows.lines.filter fun r => K.parentId r=K.id refreshedOrder)

/-- What an update reads before it writes: the warehouse, the order and the header's changes. -/
def resolveUpdate (rows : K.Orders) (warehouseReference orderReference : Str) (dto : K.Dto) :
    Except ServiceError (Uuid × K.Head × K.Data) := do
  let warehouse ← env.resolveWarehouse places warehouseReference
  let existingOrder ← K.resolveOrder env rows warehouse.id orderReference
  let data ← K.toUpdateInput env places warehouse.id existingOrder dto
  pure (warehouse.id,existingOrder,data)

def update (warehouseReference orderReference : Str) (dto : K.Dto) :
    K.Call (K.Head × List K.Line) := do
  let rows ← get
  let (warehouseId,existingOrder,data) ← MonadExcept.ofExcept
    (K.resolveUpdate env places rows warehouseReference orderReference dto)
  tryCatch (K.writeUpdate env places warehouseId existingOrder data dto)
    fun e => throw (if e=.uniqueViolation then .conflict K.alreadyExists else e)

/-- What a line change makes of a stored line; one that cannot be read writes nothing. -/
def lineWritten (rows : K.Orders) (warehouseId orderId : Uuid) (dto : K.LineDto) (r : K.Line) :
    K.Line :=
  match K.lineChange env places rows warehouseId orderId dto with
  | .ok (id,data) => if K.lineId r=id then K.patchLine data r else r
  | .error _ => r

def lineWrite (warehouseId orderId : Uuid) (rows : K.Orders) (dto : K.LineDto) : K.Orders :=
  {rows with lines := rows.lines.map (K.lineWritten env places rows warehouseId orderId dto)}

def lineRefusal (warehouseId orderId : Uuid) (rows : K.Orders) (dto : K.LineDto) :
    Option ServiceError :=
  match K.lineChange env places rows warehouseId orderId dto with
  | .ok (_,data) => if K.fitsLine data then none else some .invalidValue
  | .error e => some e

def headRefusal (rows : K.Orders) (order : K.Head) (data : K.Data) : Option ServiceError :=
  if data=K.empty then none
  else if K.fits data=false then some .invalidValue
  else if K.isTaken rows order data then some .uniqueViolation else none

theorem writeHead_empty (id : Uuid) (rows : K.Orders) : K.writeHead id K.empty rows=rows := by
  simp [writeHead,K.patch_empty]

theorem writeLine_empty (id : Uuid) (rows : K.Orders) : K.writeLine id K.emptyLine rows=rows := by
  simp [writeLine,K.patchLine_empty]

theorem updateHead_run (rows : K.Orders) (order : K.Head) (data : K.Data) :
    K.updateHead order data rows=
      (K.headRefusal rows order data).elim (.ok () (K.writeHead (K.id order) data rows))
        fun e => .error e rows := by
  unfold headRefusal
  by_cases hempty : data=K.empty
  · subst hempty
    rw [if_pos rfl,writeHead_empty]
    show (if K.empty=K.empty then (pure () : K.Call Unit) else _) rows=_
    rw [if_pos rfl]
    rfl
  rw [if_neg hempty]
  show (if data=K.empty then (pure () : K.Call Unit) else _) rows=_
  rw [if_neg hempty]
  by_cases hfits : K.fits data=false
  · rw [if_pos hfits,if_pos hfits]
    rfl
  rw [if_neg hfits,if_neg hfits]
  by_cases htaken : K.isTaken rows order data=true
  · rw [if_pos htaken,if_pos htaken]
    rfl
  · rw [if_neg htaken,if_neg htaken]
    rfl

theorem lineId_ite (id : Uuid) (data : K.LineData) (r : K.Line) :
    K.lineId (if K.lineId r=id then K.patchLine data r else r)=K.lineId r := by
  by_cases h : K.lineId r=id
  · rw [if_pos h,K.lineId_patch]
  · rw [if_neg h]

theorem resolveLine_writeLine (rows : K.Orders) (id : Uuid) (data : K.LineData) (orderId : Uuid)
    (reference : Str) :
    K.resolveLine (K.writeLine id data rows) orderId reference=
      (K.resolveLine rows orderId reference).map
        fun r => if K.lineId r=id then K.patchLine data r else r := by
  have hsame : ((fun r => (K.parentId r=orderId : Bool) &&
        Runtime.referenceWhere (trim reference) reference (K.lineId r) (K.lineNumber r)) ∘
        fun r => if K.lineId r=id then K.patchLine data r else r)=
      fun r => (K.parentId r=orderId : Bool) &&
        Runtime.referenceWhere (trim reference) reference (K.lineId r) (K.lineNumber r) := by
    funext r
    by_cases h : K.lineId r=id
    · simp [h,K.lineId_patch,K.parentId_patch,K.lineNumber_patch]
    · simp [h]
  unfold resolveLine writeLine
  rw [List.find?_map,hsame]
  cases rows.lines.find? _ with
  | none => rfl
  | some r => rfl

/-- A written line is still found where it was, so every change names the line it named. -/
theorem lineChange_writeLine (rows : K.Orders) (id : Uuid) (data : K.LineData)
    (warehouseId orderId : Uuid) (dto : K.LineDto) :
    K.lineChange env places (K.writeLine id data rows) warehouseId orderId dto=
      K.lineChange env places rows warehouseId orderId dto := by
  unfold lineChange
  rw [resolveLine_writeLine]
  by_cases href : K.lineReference dto=[]
  · rw [if_pos href,if_pos href]
  rw [if_neg href,if_neg href]
  cases K.resolveLine rows orderId (K.lineReference dto) with
  | error e => rfl
  | ok r =>
    have hid := K.lineId_ite id data r
    show (env.resolveUpdateParcelId places warehouseId (K.parcelReference dto) >>= _)=
      (env.resolveUpdateParcelId places warehouseId (K.parcelReference dto) >>= _)
    rw [hid]

variable {env places} {rows : K.Orders} {warehouseId orderId : Uuid} {dto : K.LineDto}

theorem lineWrite_ok {x : Uuid × K.LineData}
    (h : K.lineChange env places rows warehouseId orderId dto=.ok x) :
    K.lineWrite env places warehouseId orderId rows dto=K.writeLine x.1 x.2 rows := by
  have hsame : K.lineWritten env places rows warehouseId orderId dto=
      fun r => if K.lineId r=x.1 then K.patchLine x.2 r else r := by
    funext r
    simp only [lineWritten,h]
  rw [lineWrite,hsame]
  rfl

theorem lineWrite_error {e : ServiceError}
    (h : K.lineChange env places rows warehouseId orderId dto=.error e) :
    K.lineWrite env places warehouseId orderId rows dto=rows := by
  have hsame : K.lineWritten env places rows warehouseId orderId dto=fun r => r := by
    funext r
    simp only [lineWritten,h]
  rw [lineWrite,hsame,List.map_id']

theorem lineChange_lineWrite (dto' : K.LineDto) :
    K.lineChange env places (K.lineWrite env places warehouseId orderId rows dto) warehouseId
        orderId dto'=
      K.lineChange env places rows warehouseId orderId dto' := by
  cases h : K.lineChange env places rows warehouseId orderId dto with
  | error e => rw [K.lineWrite_error h]
  | ok x => rw [K.lineWrite_ok h,lineChange_writeLine]

theorem updateLine_run :
    K.updateLine env places warehouseId orderId dto rows=
      (K.lineRefusal env places warehouseId orderId rows dto).elim
        (.ok () (K.lineWrite env places warehouseId orderId rows dto)) fun e => .error e rows := by
  have hrun : K.updateLine env places warehouseId orderId dto rows=
      (MonadExcept.ofExcept (K.lineChange env places rows warehouseId orderId dto) >>= fun x =>
        if x.2=K.emptyLine then (pure () : K.Call Unit)
        else if K.fitsLine x.2=false then throw .invalidValue
        else set (K.writeLine x.1 x.2 rows)) rows := rfl
  rw [hrun,lineRefusal]
  cases h : K.lineChange env places rows warehouseId orderId dto with
  | error e => rfl
  | ok x =>
    rw [K.lineWrite_ok h]
    show (if x.2=K.emptyLine then (pure () : K.Call Unit)
      else if K.fitsLine x.2=false then throw .invalidValue
      else set (K.writeLine x.1 x.2 rows)) rows=
        (if K.fitsLine x.2=true then none else some ServiceError.invalidValue).elim _ _
    by_cases hempty : x.2=K.emptyLine
    · rw [if_pos hempty,hempty,if_pos K.fitsLine_empty,writeLine_empty]
      rfl
    rw [if_neg hempty]
    cases hfits : K.fitsLine x.2 with
    | false => rfl
    | true => rfl

variable (env places) in
/-- The line changes of an update, one statement each. -/
def lineSteps (warehouseId orderId : Uuid) :
    Stepwise.Steps (K.updateLine env places warehouseId orderId) where
  refusal := K.lineRefusal env places warehouseId orderId
  write := K.lineWrite env places warehouseId orderId
  run := fun _ _ => K.updateLine_run
  keeps := by
    intro rows dto _ dto'
    unfold lineRefusal
    rw [lineChange_lineWrite]

variable (env places) in
/-- What a row becomes under the changes of the list, in their order. -/
def lineAfter (rows : K.Orders) (warehouseId orderId : Uuid) (dtos : List K.LineDto)
    (r : K.Line) : K.Line :=
  dtos.foldl (fun r dto => K.lineWritten env places rows warehouseId orderId dto r) r

theorem foldl_lineWrite (dtos : List K.LineDto) :
    dtos.foldl (K.lineWrite env places warehouseId orderId) rows=
      {rows with lines := rows.lines.map (K.lineAfter env places rows warehouseId orderId dtos)} := by
  induction dtos generalizing rows with
  | nil =>
    have hsame : K.lineAfter env places rows warehouseId orderId []=fun r => r := rfl
    rw [hsame,List.map_id']
    rfl
  | cons dto dtos ih =>
    have hsame : ∀ dtos, K.lineAfter env places (K.lineWrite env places warehouseId orderId rows dto)
        warehouseId orderId dtos=K.lineAfter env places rows warehouseId orderId dtos := by
      intro dtos
      funext r
      simp only [lineAfter,lineWritten,lineChange_lineWrite]
    rw [List.foldl_cons,ih,hsame]
    simp only [lineWrite,List.map_map]
    rfl

theorem id_ite (id : Uuid) (data : K.Data) (h : K.Head) :
    K.id (if K.id h=id then K.patch data h else h)=K.id h ∧
      K.warehouseId (if K.id h=id then K.patch data h else h)=K.warehouseId h := by
  by_cases hid : K.id h=id
  · rw [if_pos hid]
    exact ⟨K.id_patch data h,K.warehouseId_patch data h⟩
  · rw [if_neg hid]
    exact ⟨rfl,rfl⟩

theorem mem_of_resolveOrder {reference : Str} {order : K.Head}
    (h : K.resolveOrder env rows warehouseId reference=.ok order) :
    order∈rows.heads ∧ K.warehouseId order=warehouseId := by
  unfold resolveOrder at h
  cases hfind : rows.heads.find? fun h => K.warehouseId h=warehouseId &&
      Runtime.referenceWhere (env.normalizeReference reference) reference (K.id h) (K.number h) with
  | none =>
    rw [hfind] at h
    cases h
  | some found =>
    rw [hfind] at h
    cases h
    have hprop := List.find?_some hfind
    rw [Bool.and_eq_true] at hprop
    exact ⟨List.mem_of_find?_eq_some hfind,of_decide_eq_true hprop.1⟩

theorem mem_of_resolveUpdate {warehouseReference orderReference : Str} {dto : K.Dto}
    {order : K.Head} {data : K.Data}
    (h : K.resolveUpdate env places rows warehouseReference orderReference dto=
      .ok (warehouseId,order,data)) :
    order∈rows.heads ∧ K.warehouseId order=warehouseId := by
  unfold resolveUpdate at h
  obtain ⟨warehouse,_,h⟩ := Transactions.Txn.bind_eq_ok h
  obtain ⟨order',horder,h⟩ := Transactions.Txn.bind_eq_ok h
  obtain ⟨data',_,h⟩ := Transactions.Txn.bind_eq_ok h
  cases h
  exact K.mem_of_resolveOrder horder

variable (env) in
theorem refreshed_found {order : K.Head} (hmem : order∈rows.heads)
    (hwarehouse : K.warehouseId order=warehouseId) (data : K.Data) (lines : List K.Line) :
    ∃ h, K.resolveOrder env ⟨(K.writeHead (K.id order) data rows).heads,lines⟩ warehouseId
      (K.id order).val=.ok h := by
  have hsome : ((rows.heads.map fun h => if K.id h=K.id order then K.patch data h else h).find?
      fun h => K.warehouseId h=warehouseId &&
        Runtime.referenceWhere (env.normalizeReference (K.id order).val) (K.id order).val
          (K.id h) (K.number h)).isSome := by
    rw [List.find?_isSome]
    refine ⟨_,List.mem_map_of_mem hmem,?_⟩
    have hkept := K.id_ite (K.id order) data order
    rw [hkept.1,hkept.2]
    simp [hwarehouse,Runtime.referenceWhere,(K.id order).property,Uuid.isCalled]
  obtain ⟨h,hh⟩ := Option.isSome_iff_exists.mp hsome
  refine ⟨h,?_⟩
  unfold resolveOrder writeHead
  rw [hh]
  rfl

theorem writeUpdate_done {order : K.Head} (hmem : order∈rows.heads)
    (hwarehouse : K.warehouseId order=warehouseId) {data : K.Data} {dto : K.Dto}
    (hhead : K.headRefusal rows order data=none)
    (hall : ∀ line∈K.lines dto,
      K.lineRefusal env places warehouseId (K.id order) rows line=none) :
    ∃ a rows', K.writeUpdate env places warehouseId order data dto rows=.ok a rows' := by
  have hwrite := K.updateHead_run rows order data
  rw [hhead] at hwrite
  have hlines := (K.lineSteps env places warehouseId (K.id order)).forM_ok
    (s := K.writeHead (K.id order) data rows) hall
  have hafter : (K.lineSteps env places warehouseId (K.id order)).after
      (K.writeHead (K.id order) data rows) (K.lines dto)=_ := K.foldl_lineWrite _
  rw [hafter] at hlines
  obtain ⟨found,hfound⟩ := K.refreshed_found env hmem hwarehouse data
    ((K.lineSteps env places warehouseId (K.id order)).after
      (K.writeHead (K.id order) data rows) (K.lines dto)).lines
  rw [hafter] at hfound
  have hrun : K.writeUpdate env places warehouseId order data dto rows=_ :=
    (Stepwise.bind_ok hwrite _).trans (Stepwise.bind_ok hlines _)
  rw [hrun]
  show ∃ a rows', (MonadExcept.ofExcept (K.resolveOrder env _ warehouseId (K.id order).val) >>= _ :
    K.Call _) _=.ok a rows'
  rw [hfound]
  exact ⟨_,_,rfl⟩

/-- A call that fails leaves every header and every line. -/
def AllOrNothing {α : Type} (call : K.Call α) (rows : K.Orders) : Prop :=
  ∀ e rows', call rows=.error e rows' → rows'=rows

variable {K} in
theorem AllOrNothing.of_error {α : Type} {call : K.Call α} {e : ServiceError}
    (h : call rows=.error e rows) : K.AllOrNothing call rows := by
  intro e' rows' h'
  rw [h] at h'
  cases h'
  rfl

variable {K} in
theorem AllOrNothing.of_ok {α : Type} {call : K.Call α} {a : α} {rows' : K.Orders}
    (h : call rows=.ok a rows') : K.AllOrNothing call rows := by
  intro e rows'' h'
  rw [h] at h'
  cases h'

/-- The changes of an update put back what is stored. -/
def Idle (order : K.Head) (data : K.Data) (rows : K.Orders) (after : K.Line → K.Line) : Prop :=
  (∀ h∈rows.heads, K.id h=K.id order → K.patch data h=h) ∧ ∀ r∈rows.lines, after r=r

theorem idle_iff (order : K.Head) (data : K.Data) (after : K.Line → K.Line) :
    K.Idle order data rows after ↔
      (⟨(K.writeHead (K.id order) data rows).heads,rows.lines.map after⟩ : K.Orders)=rows := by
  have map_iff : ∀ {α : Type} {f : α → α} {l : List α}, l.map f=l ↔ ∀ a∈l, f a=a := by
    intro α f l
    conv_lhs => rhs; rw [← List.map_id' l]
    exact List.map_inj_left
  have heads_iff : (K.writeHead (K.id order) data rows).heads=rows.heads ↔
      ∀ h∈rows.heads, K.id h=K.id order → K.patch data h=h := by
    show rows.heads.map _=rows.heads ↔ _
    rw [map_iff]
    refine forall₂_congr fun h _ => ?_
    by_cases hid : K.id h=K.id order
    · simp [hid]
    · simp [hid]
  unfold Idle
  rw [← heads_iff,← map_iff]
  constructor
  · intro h
    rw [h.1,h.2]
  · intro h
    have hheads := congrArg Rows.heads h
    have hlines := congrArg Rows.lines h
    exact ⟨hheads,hlines⟩

variable (env places) in
/-- The changes before the first refused line put back what is stored, if a line is refused. -/
def Harmless (warehouseReference orderReference : Str) (dto : K.Dto) (rows : K.Orders) : Prop :=
  ∀ warehouseId order data,
    K.resolveUpdate env places rows warehouseReference orderReference dto=
      .ok (warehouseId,order,data) →
    K.headRefusal rows order data=none →
    (∃ line∈K.lines dto, K.lineRefusal env places warehouseId (K.id order) rows line≠none) →
    K.Idle order data rows (K.lineAfter env places rows warehouseId (K.id order)
      ((K.lineSteps env places warehouseId (K.id order)).accepted rows (K.lines dto)))

theorem writeUpdate_failed {order : K.Head} {data : K.Data} {dto : K.Dto}
    (hhead : K.headRefusal rows order data=none)
    (hline : ∃ line∈K.lines dto,
      K.lineRefusal env places warehouseId (K.id order) rows line≠none) :
    ∃ e, K.writeUpdate env places warehouseId order data dto rows=
      .error e ⟨(K.writeHead (K.id order) data rows).heads,
        rows.lines.map (K.lineAfter env places rows warehouseId (K.id order)
          ((K.lineSteps env places warehouseId (K.id order)).accepted rows (K.lines dto)))⟩ := by
  have hwrite := K.updateHead_run rows order data
  rw [hhead] at hwrite
  obtain ⟨e,he⟩ := (K.lineSteps env places warehouseId (K.id order)).forM_error
    (s := K.writeHead (K.id order) data rows) hline
  have hafter : (K.lineSteps env places warehouseId (K.id order)).after
      (K.writeHead (K.id order) data rows) (K.lines dto)=_ := K.foldl_lineWrite _
  rw [hafter] at he
  exact ⟨e,(Stepwise.bind_ok hwrite _).trans (Stepwise.bind_error he _)⟩

theorem update_iff (warehouseReference orderReference : Str) (dto : K.Dto) :
    K.AllOrNothing (K.update env places warehouseReference orderReference dto) rows ↔
      K.Harmless env places warehouseReference orderReference dto rows := by
  unfold Harmless
  have hupdate : K.update env places warehouseReference orderReference dto rows=
      (MonadExcept.ofExcept
          (K.resolveUpdate env places rows warehouseReference orderReference dto) >>= fun x =>
        tryCatch (K.writeUpdate env places x.1 x.2.1 x.2.2 dto) fun e =>
          throw (if e=.uniqueViolation then .conflict K.alreadyExists else e)) rows := rfl
  cases hreads : K.resolveUpdate env places rows warehouseReference orderReference dto with
  | error e =>
    rw [hreads] at hupdate
    exact iff_of_true (.of_error hupdate) (by intros; contradiction)
  | ok x =>
  obtain ⟨warehouseId,order,data⟩ := x
  have hrun : K.update env places warehouseReference orderReference dto rows=
      (tryCatch (K.writeUpdate env places warehouseId order data dto) fun e =>
        throw (if e=.uniqueViolation then .conflict K.alreadyExists else e) : K.Call _) rows := by
    rw [hupdate,hreads]
    rfl
  have hmem := K.mem_of_resolveUpdate hreads
  cases hhead : K.headRefusal rows order data with
  | some e =>
    have hwrite := K.updateHead_run rows order data
    rw [hhead] at hwrite
    have hfail : K.writeUpdate env places warehouseId order data dto rows=.error e rows :=
      Stepwise.bind_error hwrite _
    refine iff_of_true (.of_error (hrun.trans (Stepwise.tryCatch_error hfail _))) ?_
    intro warehouseId' order' data' h h'
    cases h
    rw [hhead] at h'
    cases h'
  | none =>
  by_cases hline : ∃ line∈K.lines dto,
      K.lineRefusal env places warehouseId (K.id order) rows line≠none
  · obtain ⟨e,he⟩ := K.writeUpdate_failed hhead hline
    have hfail := hrun.trans (Stepwise.tryCatch_error he _)
    constructor
    · intro h warehouseId' order' data' hx _ _
      cases hx
      exact (K.idle_iff order data _).mpr (h _ _ hfail)
    · intro h e' rows' h'
      rw [hfail] at h'
      cases h'
      exact (K.idle_iff order data _).mp (h _ _ _ rfl hhead hline)
  · have hall : ∀ line∈K.lines dto,
        K.lineRefusal env places warehouseId (K.id order) rows line=none := by
      simpa using hline
    obtain ⟨a,rows',hdone⟩ := K.writeUpdate_done hmem.1 hmem.2 hhead hall
    refine iff_of_true (.of_ok (hrun.trans (Stepwise.tryCatch_ok hdone _))) ?_
    intro warehouseId' order' data' h _ h'
    cases h
    exact (hline h').elim

end OrderService

/-- A text that is written as `f` of it; the source calls a method on it, also where it is null. -/
def writtenText (f : Str → Str) : Field Str → Except ServiceError (Option Str)
  | none => pure none
  | some none => throw .typeError
  | some (some v) => pure (some (f v))

/-- A column of the database's four byte integers that takes no null. -/
def isInt4 (value : Field ℕ) : Bool := value.elim true fun v => v.elim false (·≤2147483647)

structure OutboundOrder where
  id : Uuid
  warehouseId : Uuid
  orderNumber : Str
  status : OutboundStatus
  customerReference : Option Str
  recipientName : Option Str
  carrier : Option Str
  serviceLevel : Option Str
  shipBy : Option ℤ
  shippedAt : Option ℤ
  metadata : Option Json
  deriving DecidableEq

structure OutboundOrderLine where
  id : Uuid
  orderId : Uuid
  parcelId : Option Uuid
  lineNumber : Str
  sku : Str
  description : Option Str
  orderedQuantity : ℕ
  pickedQuantity : ℕ
  metadata : Option Json
  deriving DecidableEq

structure UpdateOutboundOrderLineDto where
  lineReference : Str
  sku : Field Str := none
  description : Field Str := none
  orderedQuantity : Field ℕ := none
  pickedQuantity : Field ℕ := none
  parcelReference : Field Str := none
  metadata : Field Json := none

structure UpdateOutboundOrderDto where
  orderNumber : Field Str := none
  status : Field OutboundStatus := none
  customerReference : Field Str := none
  recipientName : Field Str := none
  carrier : Field Str := none
  serviceLevel : Field Str := none
  shipBy : Field Str := none
  shippedAt : Field Str := none
  metadata : Field Json := none
  lines : Option (List UpdateOutboundOrderLineDto) := none

/-- What an update writes of an order's header. -/
structure OutboundOrderData where
  orderNumber : Option Str := none
  status : Field OutboundStatus := none
  customerReference : Field Str := none
  recipientName : Field Str := none
  carrier : Field Str := none
  serviceLevel : Field Str := none
  shipBy : Field Date := none
  shippedAt : Field Date := none
  metadata : Field Json := none
  deriving DecidableEq

structure OutboundOrderLineData where
  sku : Option Str := none
  description : Field Str := none
  orderedQuantity : Field ℕ := none
  pickedQuantity : Field ℕ := none
  metadata : Field Json := none
  parcelId : Field Uuid := none
  deriving DecidableEq

def OutboundOrderData.patch (data : OutboundOrderData) (r : OutboundOrder) : OutboundOrder :=
  {r with
    orderNumber := data.orderNumber.getD r.orderNumber
    status := data.status.join.getD r.status
    customerReference := data.customerReference.getD r.customerReference
    recipientName := data.recipientName.getD r.recipientName
    carrier := data.carrier.getD r.carrier
    serviceLevel := data.serviceLevel.getD r.serviceLevel
    shipBy := (data.shipBy.map Option.join).getD r.shipBy
    shippedAt := (data.shippedAt.map Option.join).getD r.shippedAt
    metadata := data.metadata.getD r.metadata}

def OutboundOrderLineData.patch (data : OutboundOrderLineData) (r : OutboundOrderLine) :
    OutboundOrderLine :=
  {r with
    sku := data.sku.getD r.sku
    description := data.description.getD r.description
    orderedQuantity := data.orderedQuantity.join.getD r.orderedQuantity
    pickedQuantity := data.pickedQuantity.join.getD r.pickedQuantity
    metadata := data.metadata.getD r.metadata
    parcelId := data.parcelId.getD r.parcelId}

namespace OutboundService

def toOrderUpdateInput (env : Runtime) (dto : UpdateOutboundOrderDto) :
    Except ServiceError OutboundOrderData := do
  let orderNumber ← writtenText env.normalizeReference dto.orderNumber
  pure {
    orderNumber
    status := dto.status
    customerReference := dto.customerReference.map normalizeNullableString
    recipientName := dto.recipientName.map normalizeNullableString
    carrier := dto.carrier.map normalizeNullableString
    serviceLevel := dto.serviceLevel.map normalizeNullableString
    shipBy := toOptionalDate env dto.shipBy
    shippedAt := toOptionalDate env dto.shippedAt
    metadata := dto.metadata}

def toLineData (dto : UpdateOutboundOrderLineDto) (parcelId : Field Uuid) :
    Except ServiceError OutboundOrderLineData := do
  let sku ← writtenText trim dto.sku
  pure {
    sku
    description := dto.description.map normalizeNullableString
    orderedQuantity := dto.orderedQuantity
    pickedQuantity := dto.pickedQuantity
    metadata := dto.metadata
    parcelId}

def service : OrderService where
  Head := OutboundOrder
  Line := OutboundOrderLine
  Dto := UpdateOutboundOrderDto
  LineDto := UpdateOutboundOrderLineDto
  Data := OutboundOrderData
  LineData := OutboundOrderLineData
  dataEq := inferInstance
  lineDataEq := inferInstance
  id := OutboundOrder.id
  warehouseId := OutboundOrder.warehouseId
  number := OutboundOrder.orderNumber
  lineId := OutboundOrderLine.id
  parentId := OutboundOrderLine.orderId
  lineNumber := OutboundOrderLine.lineNumber
  lines := fun dto => dto.lines.getD []
  lineReference := UpdateOutboundOrderLineDto.lineReference
  parcelReference := UpdateOutboundOrderLineDto.parcelReference
  toUpdateInput := fun env _ _ _ dto => toOrderUpdateInput env dto
  toLineData := toLineData
  empty := {}
  emptyLine := {}
  fits := fun data => data.status≠some none && isDate data.shipBy && isDate data.shippedAt
  fitsLine := fun data => isInt4 data.orderedQuantity && isInt4 data.pickedQuantity
  patch := OutboundOrderData.patch
  patchLine := OutboundOrderLineData.patch
  notFound := "Outbound order was not found"
  lineNotFound := "Outbound order line was not found"
  lineReferenceRequired := "lineReference is required when updating outbound lines"
  alreadyExists := "Outbound order number or line number already exists"
  fitsLine_empty := rfl
  patch_empty := fun _ => rfl
  patchLine_empty := fun _ => rfl
  id_patch := fun _ _ => rfl
  warehouseId_patch := fun _ _ => rfl
  lineId_patch := fun _ _ => rfl
  parentId_patch := fun _ _ => rfl
  lineNumber_patch := fun _ _ => rfl

def update : Runtime → Places → Str → Str → UpdateOutboundOrderDto →
    service.Call (OutboundOrder × List OutboundOrderLine) := service.update

end OutboundService

structure InboundShipment where
  id : Uuid
  warehouseId : Uuid
  dockLocationId : Option Uuid
  shipmentNumber : Str
  status : InboundStatus
  supplierName : Option Str
  supplierReference : Option Str
  purchaseOrderReference : Option Str
  externalReference : Option Str
  expectedAt : Option ℤ
  appointmentStartAt : Option ℤ
  appointmentEndAt : Option ℤ
  receivedAt : Option ℤ
  metadata : Option Json
  deriving DecidableEq

structure InboundShipmentLine where
  id : Uuid
  shipmentId : Uuid
  parcelId : Option Uuid
  lineNumber : Str
  sku : Str
  description : Option Str
  expectedQuantity : ℕ
  receivedQuantity : ℕ
  metadata : Option Json
  deriving DecidableEq

structure UpdateInboundShipmentLineDto where
  lineReference : Str
  sku : Field Str := none
  description : Field Str := none
  expectedQuantity : Field ℕ := none
  receivedQuantity : Field ℕ := none
  parcelReference : Field Str := none
  metadata : Field Json := none

structure UpdateInboundShipmentDto where
  shipmentNumber : Field Str := none
  status : Field InboundStatus := none
  supplierName : Field Str := none
  supplierReference : Field Str := none
  purchaseOrderReference : Field Str := none
  externalReference : Field Str := none
  dockLocationReference : Field Str := none
  expectedAt : Field Str := none
  appointmentStartAt : Field Str := none
  appointmentEndAt : Field Str := none
  receivedAt : Field Str := none
  metadata : Field Json := none
  lines : Option (List UpdateInboundShipmentLineDto) := none

/-- What an update writes of a shipment's header. -/
structure InboundShipmentData where
  shipmentNumber : Option Str := none
  status : Field InboundStatus := none
  supplierName : Field Str := none
  supplierReference : Field Str := none
  purchaseOrderReference : Field Str := none
  externalReference : Field Str := none
  dockLocationId : Field Uuid := none
  expectedAt : Field Date := none
  appointmentStartAt : Field Date := none
  appointmentEndAt : Field Date := none
  receivedAt : Field Date := none
  metadata : Field Json := none
  deriving DecidableEq

structure InboundShipmentLineData where
  sku : Option Str := none
  description : Field Str := none
  expectedQuantity : Field ℕ := none
  receivedQuantity : Field ℕ := none
  metadata : Field Json := none
  parcelId : Field Uuid := none
  deriving DecidableEq

def InboundShipmentData.patch (data : InboundShipmentData) (r : InboundShipment) :
    InboundShipment :=
  {r with
    shipmentNumber := data.shipmentNumber.getD r.shipmentNumber
    status := data.status.join.getD r.status
    supplierName := data.supplierName.getD r.supplierName
    supplierReference := data.supplierReference.getD r.supplierReference
    purchaseOrderReference := data.purchaseOrderReference.getD r.purchaseOrderReference
    externalReference := data.externalReference.getD r.externalReference
    dockLocationId := data.dockLocationId.getD r.dockLocationId
    expectedAt := (data.expectedAt.map Option.join).getD r.expectedAt
    appointmentStartAt := (data.appointmentStartAt.map Option.join).getD r.appointmentStartAt
    appointmentEndAt := (data.appointmentEndAt.map Option.join).getD r.appointmentEndAt
    receivedAt := (data.receivedAt.map Option.join).getD r.receivedAt
    metadata := data.metadata.getD r.metadata}

def InboundShipmentLineData.patch (data : InboundShipmentLineData) (r : InboundShipmentLine) :
    InboundShipmentLine :=
  {r with
    sku := data.sku.getD r.sku
    description := data.description.getD r.description
    expectedQuantity := data.expectedQuantity.join.getD r.expectedQuantity
    receivedQuantity := data.receivedQuantity.join.getD r.receivedQuantity
    metadata := data.metadata.getD r.metadata
    parcelId := data.parcelId.getD r.parcelId}

namespace InboundService

/-- Only two dates that are read can be in the wrong order. -/
def assertAppointmentWindow (startAt endAt : Option Date) : Except ServiceError Unit :=
  match startAt.join, endAt.join with
  | some startAt, some endAt =>
    if endAt < startAt then
      throw (.conflict "Appointment end must be greater than or equal to appointment start")
    else pure ()
  | _, _ => pure ()

def toShipmentUpdateInput (env : Runtime) (places : Places) (warehouseId : Uuid)
    (existingShipment : InboundShipment) (dto : UpdateInboundShipmentDto) :
    Except ServiceError InboundShipmentData := do
  let appointmentStartAt := toOptionalDate env dto.appointmentStartAt
  let appointmentEndAt := toOptionalDate env dto.appointmentEndAt
  let nextAppointmentStartAt :=
    appointmentStartAt.getD (existingShipment.appointmentStartAt.map some)
  let nextAppointmentEndAt := appointmentEndAt.getD (existingShipment.appointmentEndAt.map some)
  let dockLocationId ←
    env.resolveUpdateDockLocationId places warehouseId dto.dockLocationReference
  assertAppointmentWindow nextAppointmentStartAt nextAppointmentEndAt
  let shipmentNumber ← writtenText env.normalizeReference dto.shipmentNumber
  pure {
    shipmentNumber
    status := dto.status
    supplierName := dto.supplierName.map normalizeNullableString
    supplierReference := dto.supplierReference.map normalizeNullableString
    purchaseOrderReference := dto.purchaseOrderReference.map normalizeNullableString
    externalReference := dto.externalReference.map normalizeNullableString
    dockLocationId
    expectedAt := toOptionalDate env dto.expectedAt
    appointmentStartAt
    appointmentEndAt
    receivedAt := toOptionalDate env dto.receivedAt
    metadata := dto.metadata}

def toLineData (dto : UpdateInboundShipmentLineDto) (parcelId : Field Uuid) :
    Except ServiceError InboundShipmentLineData := do
  let sku ← writtenText trim dto.sku
  pure {
    sku
    description := dto.description.map normalizeNullableString
    expectedQuantity := dto.expectedQuantity
    receivedQuantity := dto.receivedQuantity
    metadata := dto.metadata
    parcelId}

def service : OrderService where
  Head := InboundShipment
  Line := InboundShipmentLine
  Dto := UpdateInboundShipmentDto
  LineDto := UpdateInboundShipmentLineDto
  Data := InboundShipmentData
  LineData := InboundShipmentLineData
  dataEq := inferInstance
  lineDataEq := inferInstance
  id := InboundShipment.id
  warehouseId := InboundShipment.warehouseId
  number := InboundShipment.shipmentNumber
  lineId := InboundShipmentLine.id
  parentId := InboundShipmentLine.shipmentId
  lineNumber := InboundShipmentLine.lineNumber
  lines := fun dto => dto.lines.getD []
  lineReference := UpdateInboundShipmentLineDto.lineReference
  parcelReference := UpdateInboundShipmentLineDto.parcelReference
  toUpdateInput := toShipmentUpdateInput
  toLineData := toLineData
  empty := {}
  emptyLine := {}
  fits := fun data => data.status≠some none && isDate data.expectedAt &&
    isDate data.appointmentStartAt && isDate data.appointmentEndAt && isDate data.receivedAt
  fitsLine := fun data => isInt4 data.expectedQuantity && isInt4 data.receivedQuantity
  patch := InboundShipmentData.patch
  patchLine := InboundShipmentLineData.patch
  notFound := "Inbound shipment was not found"
  lineNotFound := "Inbound shipment line was not found"
  lineReferenceRequired := "lineReference is required when updating inbound lines"
  alreadyExists := "Inbound shipment number or line number already exists"
  fitsLine_empty := rfl
  patch_empty := fun _ => rfl
  patchLine_empty := fun _ => rfl
  id_patch := fun _ _ => rfl
  warehouseId_patch := fun _ _ => rfl
  lineId_patch := fun _ _ => rfl
  parentId_patch := fun _ _ => rfl
  lineNumber_patch := fun _ _ => rfl

def update : Runtime → Places → Str → Str → UpdateInboundShipmentDto →
    service.Call (InboundShipment × List InboundShipmentLine) := service.update

end InboundService

/-- A failing update of either service changes nothing exactly where what it wrote before the
refused line was stored already. -/
theorem updates_all_or_nothing (env : Runtime) (places : Places)
    (warehouseReference orderReference : Str) :
    (∀ dto rows, OutboundService.service.AllOrNothing
        (OutboundService.update env places warehouseReference orderReference dto) rows ↔
      OutboundService.service.Harmless env places warehouseReference orderReference dto rows) ∧
    ∀ dto rows, InboundService.service.AllOrNothing
        (InboundService.update env places warehouseReference orderReference dto) rows ↔
      InboundService.service.Harmless env places warehouseReference orderReference dto rows :=
  ⟨fun dto _ => OutboundService.service.update_iff _ _ dto,
    fun dto _ => InboundService.service.update_iff _ _ dto⟩

def plainRuntime : Runtime := ⟨fun v => v.map Char.toUpper,fun _ => none⟩

theorem isHex_one : isHex '1'=true := by decide
theorem isHex_two : isHex '2'=true := by decide
theorem isHex_three : isHex '3'=true := by decide
theorem isHex_four : isHex '4'=true := by decide
theorem isHex_five : isHex '5'=true := by decide
theorem isHex_six : isHex '6'=true := by decide
theorem isHex_seven : isHex '7'=true := by decide
theorem isHex_eight : isHex '8'=true := by decide
theorem isHex_nine : isHex '9'=true := by decide
theorem isHex_a : isHex 'a'=true := by decide
theorem isHex_b : isHex 'b'=true := by decide

def someUuid (c : Char) (hc : isHex c=true) : Uuid :=
  ⟨c::"0000000-0000-4000-8000-000000000000".toList,by
    have hrest : ("0000000-0000-4000-8000-000000000000".toList.zipIdx 1).all (fun x =>
        if x.2∈[8,13,18,23] then x.1 = '-'
        else if x.2=14 then x.1∈['1','2','3','4','5']
        else if x.2=19 then x.1.toLower∈['8','9','a','b']
        else isHex x.1)=true := by decide
    unfold isUuid
    rw [List.zipIdx_cons,List.all_cons,hrest]
    simp [hc]⟩

def mainWarehouse : Warehouse := ⟨someUuid '1' isHex_one,"MAIN".toList⟩

def openOrder : OutboundOrder :=
  ⟨someUuid '2' isHex_two,mainWarehouse.id,"SO-1".toList,.CREATED,none,none,none,none,none,none,none⟩

def openLine : OutboundOrderLine :=
  ⟨someUuid '3' isHex_three,openOrder.id,none,"1".toList,"SKU".toList,none,5,0,none⟩

/-- The order is cancelled, and a second line that it does not have is to be changed. -/
def cancelling : UpdateOutboundOrderDto :=
  {status := some (some .CANCELLED), lines := some [{lineReference := "2".toList}]}

/-- The line is not found, the order stays cancelled. -/
theorem header_kept : ¬OutboundService.service.AllOrNothing
    (OutboundService.update plainRuntime ⟨[mainWarehouse],[],[]⟩ "MAIN".toList "SO-1".toList
      cancelling) ⟨[openOrder],[openLine]⟩ := by
  intro h
  have hfail := h (.notFound "Outbound order line was not found")
    ⟨[{openOrder with status := .CANCELLED}],[openLine]⟩ rfl
  cases hfail

end AardvarkWms.OrderUpdates
