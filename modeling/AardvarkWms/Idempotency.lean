import AardvarkWms.Messaging

/-! The idempotency service: a response is stored once for a source system and a key, and then
replayed. -/
namespace AardvarkWms.Messaging

open Transactions Transactions.Txn Relational

structure IdempotencyRequestInput where
  sourceSystem : Str
  externalId : Option Str
  idempotencyKey : Str
  requestHash : Str
  deriving DecidableEq

/-- `responseBody` is `none` where the request leaves it undefined. -/
structure StoreIdempotencyRecordInput extends IdempotencyRequestInput where
  responseBody : Option Json
  resourceType : Option Str
  resourceId : Option Str
  status : Option IdempotencyRecordStatus
  deriving DecidableEq

structure NormalizedIdempotencyKey where
  sourceSystem : Str
  externalId : Option Str
  idempotencyKey : Str
  requestHash : Str
  deriving DecidableEq

inductive IdempotencyCheckStatus
  | AVAILABLE | REPLAY | CONFLICT
  deriving DecidableEq

structure IdempotencyEvaluation where
  status : IdempotencyCheckStatus
  responseBody : Option Json
  deriving DecidableEq

structure IdempotencyCheckResponse where
  status : IdempotencyCheckStatus
  record : Option IdempotencyRecord
  responseBody : Option Json
  deriving DecidableEq

/-- What `toUpperCase` makes of a text is left open. -/
def normalizeIdempotencyKey (toUpperCase : Str → Str) (input : IdempotencyRequestInput) :
    Except MessagingError NormalizedIdempotencyKey := do
  let sourceSystem ← normalizeRequired input.sourceSystem "sourceSystem"
  let idempotencyKey ← normalizeRequired input.idempotencyKey "idempotencyKey"
  let requestHash ← normalizeRequired input.requestHash "requestHash"
  return ⟨toUpperCase sourceSystem,normalizeOptional input.externalId,idempotencyKey,requestHash⟩

def evaluateIdempotencyRecord (record : Option IdempotencyRecord) (requestHash : Str) :
    IdempotencyEvaluation :=
  match record with
  | none => ⟨.AVAILABLE,none⟩
  | some r =>
    if r.requestHash≠requestHash then ⟨.CONFLICT,none⟩
    else if r.status≠.COMPLETED then ⟨.CONFLICT,none⟩
    else ⟨.REPLAY,some r.responseBody⟩

/-- The record is that of the key in its source system. -/
def NormalizedIdempotencyKey.isOf (key : NormalizedIdempotencyKey) (r : IdempotencyRecord) : Bool :=
  r.sourceSystem=key.sourceSystem && r.idempotencyKey=key.idempotencyKey

def findExisting (key : NormalizedIdempotencyKey) : Msg (Option IdempotencyRecord) :=
  findFirst (D := messaging) .idempotencyRecords key.isOf

def resolveExistingRecord (record : IdempotencyRecord) (requestHash : Str) :
    Except MessagingError IdempotencyRecord :=
  if (evaluateIdempotencyRecord (some record) requestHash).status=.CONFLICT then
    .error (.conflict "Idempotency key was reused with a different request hash")
  else .ok record

/-- The row that a store inserts. -/
def newRecord (key : NormalizedIdempotencyKey) (input : StoreIdempotencyRecordInput) (id : ℕ) :
    IdempotencyRecord where
  id := id
  sourceSystem := key.sourceSystem
  externalId := key.externalId
  idempotencyKey := key.idempotencyKey
  requestHash := key.requestHash
  responseBody := input.responseBody.getD .null
  resourceType := input.resourceType
  resourceId := input.resourceId
  status := input.status.getD (if input.responseBody.isNone then .IN_PROGRESS else .COMPLETED)

def createIdempotencyRecord (key : NormalizedIdempotencyKey) (input : StoreIdempotencyRecordInput) :
    Msg IdempotencyRecord := do
  let id ← fresh
  insert (D := messaging) .idempotencyRecords (newRecord key input id)
  return newRecord key input id

namespace IdempotencyService
variable (toUpperCase : Str → Str)

def check (input : IdempotencyRequestInput) : Msg IdempotencyCheckResponse := do
  let key ← compute (I := interface messaging) (normalizeIdempotencyKey toUpperCase input)
  let existing ← findExisting key
  let evaluation := evaluateIdempotencyRecord existing key.requestHash
  return ⟨evaluation.status,existing,evaluation.responseBody⟩

/-- What the service does where its INSERT failed. -/
def recover (key : NormalizedIdempotencyKey) (error : MessagingError) : Msg IdempotencyRecord :=
  if error≠.uniqueViolation then .refuse error
  else do
    let duplicate ← findExisting key
    match duplicate with
    | none => .refuse error
    | some duplicate => compute (I := interface messaging) (resolveExistingRecord duplicate key.requestHash)

def store (input : StoreIdempotencyRecordInput) : Msg IdempotencyRecord := do
  let key ← compute (I := interface messaging) (normalizeIdempotencyKey toUpperCase input.toIdempotencyRequestInput)
  let existing ← findExisting key
  match existing with
  | some existing => compute (I := interface messaging) (resolveExistingRecord existing key.requestHash)
  | none => do
    let created ← attempt (createIdempotencyRecord key input)
    match created with
    | .ok record => return record
    | .error error => recover key error

end IdempotencyService

inductive IdempotencyRequest
  | check (input : IdempotencyRequestInput)
  | store (input : StoreIdempotencyRecordInput)

inductive IdempotencyAnswer
  | checked (response : IdempotencyCheckResponse)
  | stored (record : IdempotencyRecord)
  deriving DecidableEq

/-- A call with the record of its key when it begins, and what it answers. -/
structure IdempotencyCall where
  request : IdempotencyRequest
  began : Option IdempotencyRecord
  answer : Except MessagingError IdempotencyAnswer

namespace IdempotencyRequest

def input : IdempotencyRequest → IdempotencyRequestInput
  | check i => i
  | store i => i.toIdempotencyRequestInput

def prog (toUpperCase : Str → Str) : IdempotencyRequest → Msg IdempotencyAnswer
  | check i => do
    let response ← IdempotencyService.check toUpperCase i
    return .checked response
  | store i => do
    let record ← IdempotencyService.store toUpperCase i
    return .stored record

end IdempotencyRequest

def IdempotencyCall.prog (toUpperCase : Str → Str) (k : IdempotencyCall) : Msg Unit := do
  let key ← compute (I := interface messaging) (normalizeIdempotencyKey toUpperCase k.request.input)
  let began ← findExisting key
  require (began=k.began) MessagingError.answeredOtherwise
  let answer ← attempt (k.request.prog toUpperCase)
  require (answer=k.answer) MessagingError.answeredOtherwise

/-- One lookup of a key. -/
def lookup (key : NormalizedIdempotencyKey) (rs : List IdempotencyRecord) :
    Seen (interface messaging) :=
  ⟨.rows .idempotencyRecords key.isOf,rs⟩

/-- A check reads once and answers from what it read. -/
structure Checked (key : NormalizedIdempotencyKey) (bs : List IdempotencyRecord) (c : MsgCtx)
    (answer : Except MessagingError IdempotencyAnswer) : Prop where
  view : c.view=c.base
  reads : ∃ rs, c.log=[lookup key rs,lookup key bs] ∧
    answer=.ok (.checked ⟨(evaluateIdempotencyRecord rs.head? key.requestHash).status,rs.head?,
      (evaluateIdempotencyRecord rs.head? key.requestHash).responseBody⟩)

/-- A store finds a record, or inserts one, or is refused and looks once more. -/
inductive Stored (key : NormalizedIdempotencyKey) (bs : List IdempotencyRecord) (c : MsgCtx) :
    Except MessagingError IdempotencyRecord → Prop
  | found (r rs) (hlog : c.log=[lookup key (r::rs),lookup key bs]) (hview : c.view=c.base) :
      Stored key bs c (resolveExistingRecord r key.requestHash)
  | created (r) (hpair : key.isOf r=true) (hhash : r.requestHash=key.requestHash)
      (hlog : c.log=passed (D := messaging) (t := .idempotencyRecords) r [lookup key [],lookup key bs])
      (hnew : (c.base .idempotencyRecords).get? r.id=none)
      (hfree : ∀ s∈(c.base .idempotencyRecords).rows, key.isOf s=false)
      (hview : c.view=apply (D := messaging) (.insert .idempotencyRecords r) c.base) :
      Stored key bs c (.ok r)
  | refused (r log rs) (hpair : key.isOf r=true)
      (hrefused : Refused (D := messaging) (t := .idempotencyRecords) r
        [lookup key [],lookup key bs] log)
      (hlog : c.log=lookup key rs::log) (hview : c.view=c.base) :
      Stored key bs c (rs.head?.elim (.error .uniqueViolation) fun d =>
        resolveExistingRecord d key.requestHash)

/-- What a call does. -/
def CallEffect (toUpperCase : Str → Str) (k : IdempotencyCall) (c : MsgCtx) : Prop :=
  ∃ key bs, normalizeIdempotencyKey toUpperCase k.request.input=.ok key ∧ k.began=bs.head? ∧
    match k.request with
    | .check _ => Checked key bs c k.answer
    | .store _ => ∃ a, Stored key bs c a ∧ k.answer=a.map .stored

section Specs
variable {toUpperCase : Str → Str} {key : NormalizedIdempotencyKey} {c : MsgCtx}
  {Mid : MsgCtx → Prop}

theorem wp_findExisting {Q : Option IdempotencyRecord → MsgCtx → Prop}
    (h : ∀ rs, Q rs.head? (c.saw (.rows .idempotencyRecords key.isOf) rs)) :
    wp messagingStore Mid (findExisting key) c Q :=
  wp_findFirst (D := messaging) fun rs _ => h rs

@[simp] theorem attempt_findExisting (key : NormalizedIdempotencyKey) :
    attempt (findExisting key)=(findExisting key).bind fun o => .done (.ok o) := rfl

theorem wp_check {input : IdempotencyRequestInput} {bs : List IdempotencyRecord}
    (hkey : normalizeIdempotencyKey toUpperCase input=.ok key)
    (hlog : c.log=[lookup key bs]) (hview : c.view=c.base) :
    wp messagingStore Mid (attempt ((IdempotencyRequest.check input).prog toUpperCase)) c
      (fun a c => Checked key bs c a) := by
  simp only [IdempotencyRequest.prog,IdempotencyService.check,hkey,compute,bind_eq,pure_eq,
    attempt_bind,attempt_done,Txn.bind,attempt_findExisting,wp_bind]
  refine wp_findExisting fun rs => ?_
  exact ⟨hview,rs,by rw [Ctx.saw_log,hlog]; rfl,rfl⟩

theorem wp_attempt_create {input : StoreIdempotencyRecordInput}
    {Q : Except MessagingError IdempotencyRecord → MsgCtx → Prop}
    (hok : ∀ id c', (c.view .idempotencyRecords).get? id=none → c.Moves Eq c' →
      (∀ s∈(c.view .idempotencyRecords).rows, key.isOf s=false) →
      c'.log=passed (D := messaging) (t := .idempotencyRecords) (newRecord key input id) c.log →
      Q (.ok (newRecord key input id)) (c'.wrote messagingStore
        (.insert .idempotencyRecords (newRecord key input id))))
    (hrefused : ∀ id c', c.Moves Eq c' → Refused (D := messaging) (t := .idempotencyRecords)
      (newRecord key input id) c.log c'.log → Q (.error .uniqueViolation) c') :
    wp messagingStore Mid (attempt (createIdempotencyRecord key input)) c Q := by
  simp only [createIdempotencyRecord,bind_eq,pure_eq,attempt_bind,attempt_fresh,attempt_done,
    wp_bind]
  intro id
  show wp messagingStore Mid ((attempt (insert (D := messaging) .idempotencyRecords
    (newRecord key input id))).bind _) c Q
  rw [wp_bind]
  refine wp_attempt_insert (D := messaging) (fun c' hn hc hfree hlog => ?_) fun c' hc href => ?_
  · refine hok id c' hn hc (fun s hs => ?_) hlog
    have hne := (hfree _ rfl).2 s hs
    cases hs : key.isOf s with
    | false => rfl
    | true =>
      simp only [NormalizedIdempotencyKey.isOf,Bool.and_eq_true,decide_eq_true_eq] at hs
      exact (hne (by simp [MessagingTable.unique,hs,newRecord])).elim
  · exact hrefused id c' hc href

theorem wp_recover {Q : Except MessagingError IdempotencyRecord → MsgCtx → Prop}
    (h : ∀ rs, Q (rs.head?.elim (.error .uniqueViolation) fun d =>
      resolveExistingRecord d key.requestHash) (c.saw (.rows .idempotencyRecords key.isOf) rs)) :
    wp messagingStore Mid (attempt (IdempotencyService.recover key .uniqueViolation)) c Q := by
  have hprog : IdempotencyService.recover key .uniqueViolation=(findExisting key).bind fun o =>
      o.elim (.refuse .uniqueViolation) fun d =>
        compute (I := interface messaging) (resolveExistingRecord d key.requestHash) := by
    simp only [IdempotencyService.recover,bind_eq]
    rw [if_neg (by simp)]
    congr 1
    funext o
    cases o <;> rfl
  rw [hprog]
  simp only [attempt_bind,attempt_findExisting,wp_bind]
  refine wp_findExisting fun rs => ?_
  have hrs := h rs
  cases rs with
  | nil => exact hrs
  | cons d rs =>
    show wp messagingStore Mid (attempt (compute (I := interface messaging) _)) _ _
    rw [attempt_compute]
    exact hrs

theorem newRecord_isOf (input : StoreIdempotencyRecordInput) (id : ℕ) :
    key.isOf (newRecord key input id)=true := by
  simp [NormalizedIdempotencyKey.isOf,newRecord]

theorem wp_store {input : StoreIdempotencyRecordInput} {bs : List IdempotencyRecord}
    (hkey : normalizeIdempotencyKey toUpperCase input.toIdempotencyRequestInput=.ok key)
    (hlog : c.log=[lookup key bs]) (hview : c.view=c.base) :
    wp messagingStore Mid (attempt (IdempotencyService.store toUpperCase input)) c
      (fun a c => Stored key bs c a) := by
  simp only [IdempotencyService.store,hkey,compute,bind_eq,pure_eq,attempt_bind,Txn.bind,
    attempt_findExisting,wp_bind]
  refine wp_findExisting fun rs => ?_
  cases rs with
  | cons r rs =>
    show wp messagingStore Mid (attempt (compute (I := interface messaging) _)) _ _
    rw [attempt_compute]
    exact .found r rs (by rw [Ctx.saw_log,hlog]; rfl) hview
  | nil =>
    show wp messagingStore Mid (attempt ((attempt (createIdempotencyRecord key input)).bind _)) _ _
    rw [attempt_bind,attempt_attempt]
    simp only [wp_bind]
    refine wp_attempt_create (fun id c' hn hc hfree hlog' => ?_) fun id c' hc href => ?_
    · have hbase : c'.base=c.base := hc.base
      have hview' : c'.view=c'.base := (hc.view.symm.trans hview).trans hbase.symm
      rw [Ctx.saw_log,hlog] at hlog'
      rw [Ctx.saw_view,hview,← hbase] at hn hfree
      refine .created _ (newRecord_isOf input id) rfl hlog' hn hfree ?_
      rw [Ctx.wrote_view,hview']
      rfl
    · refine wp_recover fun rs => ?_
      have hbase : c'.base=c.base := hc.base
      have hview' : c'.view=c'.base := (hc.view.symm.trans hview).trans hbase.symm
      rw [Ctx.saw_log,hlog] at href
      exact .refused _ _ rs (newRecord_isOf input id) href rfl hview'
theorem IdempotencyCall.spec (toUpperCase : Str → Str) (k : IdempotencyCall) :
    Spec messagingStore (CallEffect toUpperCase k) (k.prog toUpperCase) := by
  intro d
  simp only [IdempotencyCall.prog,bind_eq,wp_bind,wp_compute]
  intro key hkey
  refine wp_findExisting fun bs => ?_
  simp only [wp_require]
  intro hbegan
  cases hrequest : k.request with
  | check input =>
    rw [hrequest] at hkey
    refine wp_mono (fun a c hchecked => ?_) (wp_check hkey rfl rfl)
    intro hanswer
    refine ⟨key,bs,by rw [hrequest]; exact hkey,hbegan.symm,?_⟩
    rw [hrequest,← hanswer]
    exact hchecked
  | store input =>
    rw [hrequest] at hkey
    simp only [IdempotencyRequest.prog,bind_eq,pure_eq,attempt_bind,wp_bind]
    refine wp_mono (fun a c hstored => ?_) (wp_store hkey rfl rfl)
    have hdone : k.answer=a.map .stored → CallEffect toUpperCase k c := by
      intro hanswer
      refine ⟨key,bs,by rw [hrequest]; exact hkey,hbegan.symm,?_⟩
      rw [hrequest]
      exact ⟨a,hstored,hanswer⟩
    cases a with
    | ok r =>
      intro hanswer
      exact hdone (Eq.symm hanswer)
    | error e =>
      intro hanswer
      exact hdone (Eq.symm hanswer)

end Specs

/-- The records of the database, and what its index says of them. -/
abbrev records (d : MessagingDb) : List IdempotencyRecord := (d .idempotencyRecords).rows

abbrev OneRecord (d : MessagingDb) : Prop :=
  Indexed (D := messaging) .idempotencyRecords (d .idempotencyRecords)

section Records
variable {d d' : MessagingDb} {key : NormalizedIdempotencyKey} {r s : IdempotencyRecord}

theorem isOf_iff : key.isOf r=true ↔
    messaging.unique (t := .idempotencyRecords) r=
      some (.idempotency key.sourceSystem key.idempotencyKey) := by
  simp [NormalizedIdempotencyKey.isOf,MessagingTable.unique]

theorem mem_later (h : messagingStore.Later d d') (hr : r∈records d) : r∈records d' := by
  obtain ⟨r',hr',hfixed⟩ := h .idempotencyRecords r.id r (Table.get?_key hr)
  have hsame : r'=r := hfixed
  rw [hsame] at hr'
  exact (Table.mem_of_get? hr').1

theorem OneRecord.eq (h : OneRecord d) (hr : r∈records d) (hs : s∈records d)
    (hrkey : key.isOf r=true) (hskey : key.isOf s=true) : s=r :=
  h s hs r hr _ (isOf_iff.mp hskey) (isOf_iff.mp hrkey)

/-- A lookup that could find the record finds it. -/
theorem head_lookup (h : OneRecord d') (hlater : messagingStore.Later d d') (hr : r∈records d)
    (hkey : key.isOf r=true) : ((records d).filter key.isOf).head?=some r := by
  have hmem : r∈(records d).filter key.isOf := List.mem_filter.mpr ⟨hr,hkey⟩
  cases hrs : (records d).filter key.isOf with
  | nil => rw [hrs] at hmem; cases hmem
  | cons s rs =>
    have hs : s∈(records d).filter key.isOf := by rw [hrs]; exact List.mem_cons_self
    obtain ⟨hs,hskey⟩ := List.mem_filter.mp hs
    rw [List.head?_cons,h.eq (mem_later hlater hr) (mem_later hlater hs) hkey hskey]

end Records

/-- What a call whose key has this completed record answers. -/
def replay (request : IdempotencyRequest) (key : NormalizedIdempotencyKey) (r : IdempotencyRecord) :
    Except MessagingError IdempotencyAnswer :=
  match request with
  | .check _ =>
    if r.requestHash=key.requestHash then .ok (.checked ⟨.REPLAY,some r,some r.responseBody⟩)
    else .ok (.checked ⟨.CONFLICT,some r,none⟩)
  | .store _ =>
    if r.requestHash=key.requestHash then .ok (.stored r)
    else .error (.conflict "Idempotency key was reused with a different request hash")

theorem resolveExistingRecord_completed {r : IdempotencyRecord} {key : NormalizedIdempotencyKey}
    {input : StoreIdempotencyRecordInput} (h : r.status=.COMPLETED) :
    (resolveExistingRecord r key.requestHash).map .stored=replay (.store input) key r := by
  by_cases hhash : r.requestHash=key.requestHash
  · simp [resolveExistingRecord,evaluateIdempotencyRecord,replay,h,hhash,Except.map]
  · simp [resolveExistingRecord,evaluateIdempotencyRecord,replay,hhash,Except.map]

theorem resolveExistingRecord_ok {r r' : IdempotencyRecord} {hash : Str} :
    resolveExistingRecord r hash=.ok r' ↔ r'=r ∧ r.requestHash=hash ∧ r.status=.COMPLETED := by
  unfold resolveExistingRecord evaluateIdempotencyRecord
  by_cases hh : r.requestHash=hash
  · by_cases hs : r.status=.COMPLETED
    · simp [hh,hs,eq_comm]
    · simp [hh,hs]
  · simp [hh]

section Reads
variable {key : NormalizedIdempotencyKey} {bs rs : List IdempotencyRecord} {r : IdempotencyRecord}
  {d : MessagingDb} {log : List (Seen (interface messaging))} {c : MsgCtx}

abbrev Reads (log : List (Seen (interface messaging))) (d : MessagingDb) : Prop :=
  Sighted messagingStore messagingStore.Later log d

theorem Reads.found (h : Reads (lookup key rs::log) d) :
    ∃ d', rs=(records d').filter key.isOf ∧ messagingStore.Later d' d ∧ Reads log d' := h.head

theorem Reads.again (h : Reads [lookup key rs,lookup key bs] d) (hlater : messagingStore.Later d c.base)
    (hone : OneRecord c.base) (hbegan : bs.head?=some r) : rs.head?=some r := by
  obtain ⟨d₁,hrs,hd₁,h⟩ := h.found
  obtain ⟨d₀,hbs,hd₀,_⟩ := h.found
  have hr : r∈(records d₀).filter key.isOf := hbs ▸ List.mem_of_mem_head? hbegan
  obtain ⟨hr,hkey⟩ := List.mem_filter.mp hr
  rw [hrs]
  exact head_lookup hone (messagingStore.later_trans hd₁ hlater) (mem_later hd₀ hr) hkey

theorem Reads.refused {s : IdempotencyRecord} {rest : List (Seen (interface messaging))}
    (h : Reads log d) (hrefused : Refused (D := messaging) (t := .idempotencyRecords) s rest log) :
    ∃ d', messagingStore.Later d' d ∧ Reads rest d' := by
  cases hrefused with
  | key s log =>
    obtain ⟨d₁,_,hd₁,h⟩ := h.head
    exact ⟨d₁,hd₁,h⟩
  | entry a s rs log ha =>
    obtain ⟨d₂,_,hd₂,h⟩ := h.head
    obtain ⟨d₁,_,hd₁,h⟩ := h.head
    exact ⟨d₁,messagingStore.later_trans hd₁ hd₂,h⟩

theorem Reads.inserted {s : IdempotencyRecord} {rest : List (Seen (interface messaging))}
    (h : Reads (passed (D := messaging) (t := .idempotencyRecords) s rest) d) :
    ∃ d', messagingStore.Later d' d ∧ Reads rest d' := by
  obtain ⟨d₂,_,hd₂,h⟩ := h.head
  obtain ⟨d₁,_,hd₁,h⟩ := h.head
  exact ⟨d₁,messagingStore.later_trans hd₁ hd₂,h⟩

theorem Stored.reads {a : Except MessagingError IdempotencyRecord} (h : Stored key bs c a)
    (hreads : Reads c.log c.base) :
    ∃ rs d, Reads [Messaging.lookup key rs,Messaging.lookup key bs] d ∧
      messagingStore.Later d c.base := by
  cases h with
  | found s ss hlog hview =>
    rw [hlog] at hreads
    exact ⟨_,_,hreads,messagingStore.later_refl _⟩
  | created s hpair hhash hlog hnew hfree hview =>
    rw [hlog] at hreads
    obtain ⟨d,hd,hreads⟩ := hreads.inserted
    exact ⟨_,d,hreads,hd⟩
  | refused s log ss hpair hrefused hlog hview =>
    rw [hlog] at hreads
    obtain ⟨d₁,_,hd₁,hreads⟩ := hreads.found
    obtain ⟨d,hd,hreads⟩ := hreads.refused hrefused
    exact ⟨_,d,hreads,messagingStore.later_trans hd hd₁⟩

theorem Reads.began (h : Reads [Messaging.lookup key rs,Messaging.lookup key bs] d)
    (hlater : messagingStore.Later d c.base) (hbegan : bs.head?=some r) :
    key.isOf r=true ∧ r∈records c.base := by
  obtain ⟨d₁,_,hd₁,h⟩ := h.found
  obtain ⟨d₀,hbs,hd₀,_⟩ := h.found
  have hr : r∈(records d₀).filter key.isOf := hbs ▸ List.mem_of_mem_head? hbegan
  obtain ⟨hr,hkey⟩ := List.mem_filter.mp hr
  exact ⟨hkey,mem_later (messagingStore.later_trans hd₀ (messagingStore.later_trans hd₁ hlater)) hr⟩

theorem Stored.replays {a : Except MessagingError IdempotencyRecord} (h : Stored key bs c a)
    (hone : OneRecord c.base) (hreads : Reads c.log c.base) (hbegan : bs.head?=some r) :
    a=resolveExistingRecord r key.requestHash := by
  cases h with
  | found s ss hlog hview =>
    rw [hlog] at hreads
    have hs := hreads.again (messagingStore.later_refl _) hone hbegan
    rw [List.head?_cons,Option.some.injEq] at hs
    rw [hs]
  | created s hpair hhash hlog hnew hfree hview =>
    rw [hlog] at hreads
    obtain ⟨d,hd,hreads⟩ := hreads.inserted
    have hnone := hreads.again hd hone hbegan
    cases hnone
  | refused s log ss hpair hrefused hlog hview =>
    rw [hlog] at hreads
    obtain ⟨d₁,_,hd₁,hreads⟩ := hreads.found
    obtain ⟨d,hd,hreads⟩ := hreads.refused hrefused
    have hnone := hreads.again (messagingStore.later_trans hd hd₁) hone hbegan
    cases hnone

theorem Stored.answers {a : Except MessagingError IdempotencyRecord} (h : Stored key bs c a)
    (ha : a=.ok r) (hone : OneRecord c.base) (hreads : Reads c.log c.base) :
    r∈records c.view ∧ key.isOf r=true ∧ r.requestHash=key.requestHash ∧
      ∀ s∈records c.base, key.isOf s=true → r=s ∧ s.status=.COMPLETED := by
  have hfound : ∀ {s ss d}, s::ss=(records d).filter key.isOf → messagingStore.Later d c.base →
      c.view=c.base → resolveExistingRecord s key.requestHash=.ok r →
      r∈records c.view ∧ key.isOf r=true ∧ r.requestHash=key.requestHash ∧
        ∀ s∈records c.base, key.isOf s=true → r=s ∧ s.status=.COMPLETED := by
    intro s ss d hss hd hview hresolve
    obtain ⟨rfl,hhash,hstatus⟩ := resolveExistingRecord_ok.mp hresolve
    have hmem : r∈(records d).filter key.isOf := by rw [← hss]; exact List.mem_cons_self
    obtain ⟨hmem,hkey⟩ := List.mem_filter.mp hmem
    have hbase := mem_later hd hmem
    refine ⟨by rw [hview]; exact hbase,hkey,hhash,fun s hs hskey => ?_⟩
    have hsame := hone.eq hs hbase hskey hkey
    exact ⟨hsame,hsame ▸ hstatus⟩
  cases h with
  | found s ss hlog hview =>
    rw [hlog] at hreads
    obtain ⟨d,hss,hd,_⟩ := hreads.found
    exact hfound hss hd hview ha
  | created s hpair hhash hlog hnew hfree hview =>
    obtain rfl := Except.ok.inj ha
    refine ⟨?_,hpair,hhash,fun u hu hkey => ?_⟩
    · rw [hview]
      show s∈((apply (D := messaging) (.insert .idempotencyRecords s) c.base) .idempotencyRecords).rows
      rw [apply_insert_self,Table.rows_insert hnew]
      simp
    · rw [hfree u hu] at hkey
      cases hkey
  | refused s log ss hpair hrefused hlog hview =>
    rw [hlog] at hreads
    obtain ⟨d,hss,hd,_⟩ := hreads.found
    cases ss with
    | nil => cases ha
    | cons u us => exact hfound hss hd hview ha

theorem Checked.replays {a : Except MessagingError IdempotencyAnswer}
    {input : IdempotencyRequestInput} (h : Checked key bs c a)
    (hone : OneRecord c.base) (hreads : Reads c.log c.base) (hbegan : bs.head?=some r)
    (hstatus : r.status=.COMPLETED) : a=replay (.check input) key r := by
  obtain ⟨rs,hlog,ha⟩ := h.reads
  rw [hlog] at hreads
  have hrs := hreads.again (messagingStore.later_refl _) hone hbegan
  rw [ha,hrs]
  by_cases hhash : r.requestHash=key.requestHash
  · simp [replay,evaluateIdempotencyRecord,hhash,hstatus]
  · simp [replay,evaluateIdempotencyRecord,hhash]

end Reads

theorem CallEffect.view {toUpperCase : Str → Str} {k : IdempotencyCall} {c : MsgCtx}
    (h : CallEffect toUpperCase k c) : c.view=c.base ∨ ∃ (key : NormalizedIdempotencyKey)
      (r : IdempotencyRecord), key.isOf r=true ∧ (c.base .idempotencyRecords).get? r.id=none ∧
      (∀ s∈records c.base, key.isOf s=false) ∧
      c.view=apply (D := messaging) (.insert .idempotencyRecords r) c.base := by
  obtain ⟨key,bs,_,_,heffect⟩ := h
  cases hrequest : k.request with
  | check input =>
    rw [hrequest] at heffect
    exact .inl heffect.view
  | store input =>
    rw [hrequest] at heffect
    obtain ⟨a,hstored,_⟩ := heffect
    cases hstored with
    | found r rs hlog hview => exact .inl hview
    | created r hpair hhash hlog hnew hfree hview => exact .inr ⟨key,r,hpair,hnew,hfree,hview⟩
    | refused r log rs hpair hrefused hlog hview => exact .inl hview

theorem CallEffect.later {toUpperCase : Str → Str} {k : IdempotencyCall} {c : MsgCtx}
    (h : CallEffect toUpperCase k c) : messagingStore.Later c.base c.view := by
  rcases h.view with hview|⟨_,r,_,_,_,hview⟩
  · rw [hview]
    exact messagingStore.later_refl _
  · rw [hview]
    exact later_apply _ _

theorem CallEffect.oneRecord {toUpperCase : Str → Str} {k : IdempotencyCall} {c : MsgCtx}
    (h : CallEffect toUpperCase k c) (hone : OneRecord c.base) : OneRecord c.view := by
  rcases h.view with hview|⟨key,r,hpair,hnew,hfree,hview⟩
  · rw [hview]
    exact hone
  · rw [hview]
    show Indexed (D := messaging) .idempotencyRecords
      ((apply (D := messaging) (.insert .idempotencyRecords r) c.base) .idempotencyRecords)
    rw [apply_insert_self]
    refine hone.insert hnew fun a ha s hs hsa => ?_
    have hskey : key.isOf s=true := by
      rw [isOf_iff,hsa,← ha]
      exact isOf_iff.mp hpair
    rw [hfree s hs] at hskey
    cases hskey

section ReadsFirst
variable (toUpperCase : Str → Str) {key : NormalizedIdempotencyKey}

theorem only_findExisting {ok : Statement messaging → Prop} : Only ok (findExisting key) :=
  only_findFirst (D := messaging) _ _

theorem readsFirst_recover (error : MessagingError) :
    ReadsFirst false (IdempotencyService.recover key error) := by
  unfold IdempotencyService.recover
  split
  · trivial
  · refine ReadsFirst.bind only_findExisting fun o => ?_
    cases o with
    | none => trivial
    | some d => exact .of_reads (only_compute _)

theorem readsFirst_store (input : StoreIdempotencyRecordInput) :
    ReadsFirst false (IdempotencyService.store toUpperCase input) := by
  simp only [IdempotencyService.store,bind_eq,pure_eq]
  refine ReadsFirst.bind (only_compute _) fun key => ?_
  refine ReadsFirst.bind only_findExisting fun existing => ?_
  cases existing with
  | some r => exact .of_reads (only_compute _)
  | none =>
    simp only [createIdempotencyRecord,bind_eq,pure_eq,attempt_bind,attempt_fresh]
    intro id
    show ReadsFirst false (((attempt (insert (D := messaging) .idempotencyRecords
      (newRecord key input id))).bind _).bind _)
    rw [bind_assoc]
    refine readsFirst_attempt_insert (D := messaging) (fun _ => trivial) fun e => ?_
    exact readsFirst_recover e

theorem IdempotencyCall.readsFirst (k : IdempotencyCall) :
    ReadsFirst false (k.prog toUpperCase) := by
  simp only [IdempotencyCall.prog,bind_eq]
  refine ReadsFirst.bind (only_compute _) fun key => ?_
  refine ReadsFirst.bind only_findExisting fun began => ?_
  refine ReadsFirst.bind (only_require _ _) fun _ => ?_
  have hend : ∀ (a : Except MessagingError IdempotencyAnswer) wrote,
      ReadsFirst wrote (require (a=k.answer) MessagingError.answeredOtherwise :
        Msg Unit) := by
    intro a wrote
    unfold require
    split <;> trivial
  refine ReadsFirst.append (ReadsFirst.attempt ?_) hend
  cases k.request with
  | check input =>
    refine .of_reads ?_
    refine Only.bind ?_ fun _ => trivial
    exact (only_compute _).bind fun _ => only_findExisting.bind fun _ => trivial
  | store input => exact (readsFirst_store toUpperCase input).append fun _ _ => trivial

end ReadsFirst

/-- However checks and stores overlap: a key of a source system never has two records, and no
record is changed. A call whose key had a completed record when it began answers with that
record's response, or with a conflict where the request's hash is another one. And what a store
answers is the committed record of its key: the loser of a race answers with the winner's. -/
theorem responses_replayed (toUpperCase : Str → Str) {d : MessagingDb}
    {tr : List (IdempotencyCall × MsgCtx)}
    {c : Config (interface messaging) MessagingDb IdempotencyCall} (hstart : OneRecord d)
    (hrun : Run messagingStore (IdempotencyCall.prog toUpperCase) (fun _ _ => True) d tr c) :
    OneRecord c.committed ∧
    ∀ e∈tr, (∀ r∈records e.2.view, r∈records c.committed) ∧
      ∃ key, normalizeIdempotencyKey toUpperCase e.1.request.input=.ok key ∧
        (∀ r, e.1.began=some r → key.isOf r=true ∧ r∈records e.2.base ∧
          (r.status=.COMPLETED → e.1.answer=replay e.1.request key r)) ∧
        ∀ r, e.1.answer=.ok (.stored r) → r∈records c.committed ∧ key.isOf r=true ∧
          r.requestHash=key.requestHash ∧
          ∀ s∈records e.2.base, key.isOf s=true → r=s ∧ s.status=.COMPLETED := by
  have hspec := IdempotencyCall.spec toUpperCase
  have hcommits := hrun.commits hspec
  have hone : OneRecord c.committed ∧ ∀ e∈tr, OneRecord e.2.base :=
    hrun.invariant hspec hstart fun k c heffect _ hone => heffect.oneRecord hone
  obtain ⟨hcommitted,hbases⟩ := hone
  have hsighted := hrun.sighted hspec (IdempotencyCall.readsFirst toUpperCase)
    (R := messagingStore.Later) messagingStore.later_refl messagingStore.later_trans
    fun k c heffect _ => heffect.later
  refine ⟨hcommitted,fun e he => ?_⟩
  have hlater := (hrun.later e he).2
  have hone := hbases e he
  have hreads := hsighted e he
  obtain ⟨⟨key,bs,hkey,hbegan,heffect⟩,_⟩ := hcommits e he
  refine ⟨fun r hr => mem_later hlater hr,key,hkey,?_⟩
  cases hrequest : e.1.request with
  | check input =>
    rw [hrequest] at heffect
    obtain ⟨rs,hlog,hanswer⟩ := heffect.reads
    refine ⟨fun r hr => ?_,fun r hr => ?_⟩
    · rw [hbegan] at hr
      have hr' := (hlog ▸ hreads : Reads [lookup key rs,lookup key bs] e.2.base).began
        (messagingStore.later_refl _) hr
      exact ⟨hr'.1,hr'.2,fun hstatus => heffect.replays hone hreads hr hstatus⟩
    · rw [hanswer] at hr
      cases hr
  | store input =>
    rw [hrequest] at heffect
    obtain ⟨a,hstored,hanswer⟩ := heffect
    refine ⟨fun r hr => ?_,fun r hr => ?_⟩
    · rw [hbegan] at hr
      obtain ⟨rs,d',hreads',hd'⟩ := hstored.reads hreads
      have hr' := hreads'.began hd' hr
      refine ⟨hr'.1,hr'.2,fun hstatus => ?_⟩
      rw [hanswer,hstored.replays hone hreads hr]
      exact resolveExistingRecord_completed hstatus
    · cases a with
      | error err =>
        rw [hanswer] at hr
        cases hr
      | ok s =>
        rw [hanswer] at hr
        obtain rfl : s=r := by cases hr; rfl
        obtain ⟨hview,hpair,hhash,hothers⟩ := hstored.answers rfl hone hreads
        exact ⟨mem_later hlater hview,hpair,hhash,hothers⟩

def demoKey (hash : Str) : IdempotencyRequestInput :=
  ⟨['E','R','P',' '],none,['k','1'],hash⟩

def demoStore (hash : Str) : StoreIdempotencyRecordInput :=
  ⟨demoKey hash,some (.object [("id",.string "ORDER-1")]),none,none,none⟩

def demoRecord : IdempotencyRecord :=
  ⟨10,['E','R','P'],none,['k','1'],['h'],.object [("id",.string "ORDER-1")],none,none,.COMPLETED⟩

/-- A response is stored; it is asked for, asked for with another hash, and stored again. -/
def demoCalls : List IdempotencyCall :=
  [⟨.store (demoStore ['h']),none,.ok (.stored demoRecord)⟩,
   ⟨.check (demoKey ['h']),some demoRecord,
    .ok (.checked ⟨.REPLAY,some demoRecord,some demoRecord.responseBody⟩)⟩,
   ⟨.check (demoKey ['g']),some demoRecord,.ok (.checked ⟨.CONFLICT,some demoRecord,none⟩)⟩,
   ⟨.store (demoStore ['h']),some demoRecord,.ok (.stored demoRecord)⟩]

theorem responses_replayed_demo : ∃ tr d,
    serially messagingStore (IdempotencyCall.prog id) id demoCalls 10 [] noMessages=.ok (tr,d) ∧
    tr.length=4 ∧ OneRecord d ∧
    ∀ e∈tr, e.1.began=some demoRecord →
      ∃ key, normalizeIdempotencyKey id e.1.request.input=.ok key ∧
        e.1.answer=replay e.1.request key demoRecord := by
  have hhistory : ∃ tr d,
      serially messagingStore (IdempotencyCall.prog id) id demoCalls 10 [] noMessages=.ok (tr,d) ∧
      tr.length=4 := ⟨_,_,rfl,rfl⟩
  obtain ⟨tr,d,he,hlength⟩ := hhistory
  have hrun : Run messagingStore (IdempotencyCall.prog id) (fun _ _ => True) noMessages tr (.idle d) :=
    Run.serial he fun _ _ _ => trivial
  have hnone : OneRecord noMessages := by intro r hr; cases hr
  obtain ⟨hone,hcalls⟩ := responses_replayed id hnone hrun
  refine ⟨tr,d,he,hlength,hone,fun e hmem hbegan => ?_⟩
  obtain ⟨_,key,hkey,hreplayed,_⟩ := hcalls e hmem
  exact ⟨key,hkey,(hreplayed demoRecord hbegan).2.2 rfl⟩

end AardvarkWms.Messaging
