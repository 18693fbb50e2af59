import AardvarkWms.AutoCommit
import AardvarkWms.Effects
import AardvarkWms.Json

/-! The tables of the idempotency store and of the integration inbox. Each statement of these
services is a transaction of its own. -/
namespace AardvarkWms.Messaging

open Transactions Transactions.Txn Relational

/-- A text as its characters. -/
abbrev Str : Type := List Char

instance lawfulBEqStr : LawfulBEq Str := inferInstance

def isWhiteSpace (c : Char) : Bool :=
  c.toNat∈[9,10,11,12,13,32,160,5760,8232,8233,8239,8287,12288,65279] ||
    (8192≤c.toNat && c.toNat≤8202)

def trim (s : Str) : Str := ((s.dropWhile isWhiteSpace).reverse.dropWhile isWhiteSpace).reverse

inductive MessagingError
  | invalid (message : String)
  | notFound (message : String)
  | conflict (message : String)
  | uniqueViolation
  | answeredOtherwise
  deriving DecidableEq

def normalizeRequired (value : Str) (fieldName : String) : Except MessagingError Str :=
  let normalized := trim value
  if normalized=[] then .error (.invalid (fieldName++" is required")) else .ok normalized

def normalizeOptional (value : Option Str) : Option Str :=
  match value with
  | none => none
  | some v => if trim v=[] then none else some (trim v)

inductive IdempotencyRecordStatus
  | IN_PROGRESS | COMPLETED | FAILED
  deriving DecidableEq

structure IdempotencyRecord where
  id : ℕ
  sourceSystem : Str
  externalId : Option Str
  idempotencyKey : Str
  requestHash : Str
  responseBody : Json
  resourceType : Option Str
  resourceId : Option Str
  status : IdempotencyRecordStatus
  deriving DecidableEq

inductive InboxEventStatus
  | RECEIVED | PROCESSING | PROCESSED | FAILED | DUPLICATE | IGNORED
  deriving DecidableEq

structure InboxEventRecord where
  id : ℕ
  sourceSystem : Str
  externalEventId : Str
  type : Str
  status : InboxEventStatus
  payload : Json
  headers : Json
  resourceType : Option Str
  resourceId : Option Str
  attempts : ℕ
  lastError : Option Str
  deriving DecidableEq

/-- What the inbox's updates write; each also counts an attempt. The resource columns are left
as they are where nothing is given for them. -/
structure InboxEventUpdate where
  status : InboxEventStatus
  resource : Option (Option Str × Option Str)
  lastError : Option Str
  headers : Json
  deriving DecidableEq

def InboxEventUpdate.patch (u : InboxEventUpdate) (r : InboxEventRecord) : InboxEventRecord :=
  {r with
    status := u.status
    resourceType := (u.resource.map Prod.fst).getD r.resourceType
    resourceId := (u.resource.map Prod.snd).getD r.resourceId
    attempts := r.attempts+1
    lastError := u.lastError
    headers := u.headers}

inductive MessagingTable
  | idempotencyRecords | inboxEvents
  deriving DecidableEq

/-- An entry of a unique index. -/
inductive MessagingKey
  | idempotency (sourceSystem idempotencyKey : Str)
  | inbox (sourceSystem externalEventId : Str)
  deriving DecidableEq

namespace MessagingTable

abbrev Row : MessagingTable → Type
  | idempotencyRecords => IdempotencyRecord
  | inboxEvents => InboxEventRecord

/-- Idempotency records are never updated. -/
abbrev Patch : MessagingTable → Type
  | idempotencyRecords => Empty
  | inboxEvents => InboxEventUpdate

def key : {t : MessagingTable} → t.Row → ℕ
  | idempotencyRecords, r => r.id
  | inboxEvents, r => r.id

def fixed : {t : MessagingTable} → t.Row → t.Row
  | idempotencyRecords, r => r
  | inboxEvents, r =>
    {r with status := .RECEIVED, headers := .null, resourceType := none, resourceId := none,
            attempts := 0, lastError := none}

def patch : {t : MessagingTable} → t.Patch → t.Row → t.Row
  | inboxEvents, u, r => u.patch r

def unique : {t : MessagingTable} → t.Row → Option MessagingKey
  | idempotencyRecords, r => some (.idempotency r.sourceSystem r.idempotencyKey)
  | inboxEvents, r => some (.inbox r.sourceSystem r.externalEventId)

end MessagingTable

abbrev messaging : Schema where
  Name := MessagingTable
  Row := MessagingTable.Row
  Id := fun _ => ℕ
  Patch := MessagingTable.Patch
  Advisory := MessagingKey
  Err := MessagingError
  duplicate := .uniqueViolation
  key := MessagingTable.key
  fixed := MessagingTable.fixed
  patch := MessagingTable.patch
  check := fun _ => true
  parents := fun _ => []
  unique := MessagingTable.unique
  nameEq := inferInstance
  idEq := fun _ => inferInstance
  advisoryEq := inferInstance
  key_patch := by
    intro t p r
    cases t <;> first | rfl | cases p
  fixed_patch := by
    intro t p r
    cases t <;> first | rfl | cases p
  parents_patch := fun _ _ => rfl
  unique_patch := by
    intro t p r
    cases t <;> first | rfl | cases p

instance : (t : MessagingTable) → DecidableEq t.Row
  | .idempotencyRecords => inferInstanceAs (DecidableEq IdempotencyRecord)
  | .inboxEvents => inferInstanceAs (DecidableEq InboxEventRecord)

abbrev MessagingDb : Type := Db messaging

abbrev Msg (α : Type) : Type := Tx messaging α

abbrev MsgCtx : Type := Ctx (interface messaging) MessagingDb

abbrev messagingStore : Store (interface messaging) MessagingDb := database messaging

def noMessages : MessagingDb := fun _ => .empty

end AardvarkWms.Messaging
