import AardvarkWms.Histories
import AardvarkWms.OfflineStores

/-! The calls of the offline queue in one tab, with IndexedDB failing and recovering:
`src/core/scanning/rfOfflineQueue.ts`. -/
namespace AardvarkWms.OfflineQueue

open Messaging (Str)

section Calls

/-- How a request to IndexedDB ends, and a write to localStorage. -/
structure Outcome where
  indexedDB : Bool
  localStorage : Bool

inductive LoadPhase
  | reading
  | writing (merged : List StoredRfOfflineScan)
  | removing (merged : List StoredRfOfflineScan)

/-- A load that has read the fallback's entry. -/
structure Load where
  warehouseId : Str
  fallback : Option (List StoredRfOfflineScan)
  phase : LoadPhase

/-- What a load has come to: it goes on, it answers, or it throws. -/
inductive LoadResult
  | waits (load : Load)
  | answered (scans : List StoredRfOfflineScan)
  | thrown

variable (b : Browser)

/-- Without IndexedDB the fallback's entry answers, if there is one. -/
def Load.withoutDatabase (l : Load) : LoadResult :=
  match l.fallback with
  | some fallback => .answered fallback
  | none => .thrown

/-- The next step of `loadRfOfflineQueue`; opening the database belongs to the request. -/
def Load.step (stores : Stores) (o : Outcome) (l : Load) : Stores × LoadResult :=
  match l.phase with
  | .reading =>
    match if o.indexedDB then readAll b stores else none with
    | none => (stores,l.withoutDatabase)
    | some all =>
      let scans := all.filter (·.warehouseId=l.warehouseId)
      let merged := mergeScans b [scans,l.fallback.getD []]
      if l.fallback.isSome then (stores,.waits {l with phase := .writing merged})
      else (stores,.answered merged)
  | .writing merged =>
    if o.indexedDB then
      (replaceWarehouseQueue stores l.warehouseId merged,.waits {l with phase := .removing merged})
    else (stores,l.withoutDatabase)
  | .removing merged => (removeFallbackQueue stores l.warehouseId,.answered merged)

inductive Request
  | append (scan : StoredRfOfflineScan)
  | remove (confirmedIdempotencyKeys : List Str)

def Request.appended : Request → List StoredRfOfflineScan
  | .append scan => [scan]
  | .remove _ => []

def Request.removes : Request → List Str
  | .append _ => []
  | .remove keys => keys

/-- The queue after a request. -/
def Request.next (stored : List StoredRfOfflineScan) : Request → List StoredRfOfflineScan
  | .append scan => mergeScans b [stored,[scan]]
  | .remove keys => stored.filter (·.idempotencyKey∉keys)

inductive Phase
  | waiting
  | loading (load : Load)
  | persisting (next : List StoredRfOfflineScan)
  | clearing (next : List StoredRfOfflineScan)

/-- An append or a removal, one after the other for each warehouse. -/
structure Operation where
  request : Request
  phase : Phase

/-- What an operation has come to. -/
inductive OperationResult
  | waits (phase : Phase)
  | acknowledged
  | rejected

def Operation.step (stores : Stores) (o : Outcome) (warehouseId : Str) (op : Operation) :
    Stores × OperationResult :=
  match op.phase with
  | .waiting =>
    match loadFallbackQueue b stores warehouseId with
    | none => (stores,.rejected)
    | some fallback => (stores,.waits (.loading ⟨warehouseId,fallback,.reading⟩))
  | .loading load =>
    match load.step b stores o with
    | (stores',.waits load') => (stores',.waits (.loading load'))
    | (stores',.answered stored) => (stores',.waits (.persisting (op.request.next b stored)))
    | (stores',.thrown) => (stores',.rejected)
  | .persisting next =>
    if o.indexedDB then (replaceWarehouseQueue stores warehouseId next,.waits (.clearing next))
    else if o.localStorage then (saveFallbackQueue stores warehouseId next,.acknowledged)
    else (stores,.rejected)
  | .clearing _ => (removeFallbackQueue stores warehouseId,.acknowledged)

end Calls

section Tabs

/-- A scan or a removal's key, with the warehouse it was called for. -/
abbrev Removal : Type := Str × Str

/-- A load that was called by itself, with what was acknowledged before it. -/
structure Call where
  load : Load
  acknowledged : List StoredRfOfflineScan
  removed : List Removal

/-- What a load answered; which scans and removals were acknowledged when it was called, and which
calls were made when it answered. -/
structure Answer where
  warehouseId : Str
  scans : List StoredRfOfflineScan
  acknowledged : List StoredRfOfflineScan
  removed : List Removal
  appending : List StoredRfOfflineScan
  removing : List Removal

/-- The stores, the calls that are under way in one tab, and what was called and acknowledged. -/
structure Tab where
  stores : Stores
  operations : Str → List Operation
  loads : List Call
  appending : List StoredRfOfflineScan
  acknowledged : List StoredRfOfflineScan
  removing : List Removal
  removed : List Removal
  answers : List Answer

def Tab.empty : Tab := ⟨⟨[],fun _ => none⟩,fun _ => [],[],[],[],[],[],[]⟩

inductive Action
  | append (warehouseId : Str) (scan : StoredRfOfflineScan)
  | remove (warehouseId : Str) (confirmedIdempotencyKeys : List Str)
  | load (warehouseId : Str)
  | operate (warehouseId : Str) (outcome : Outcome)
  | proceed (i : ℕ) (outcome : Outcome)

variable (b : Browser)

/-- A request takes its place behind the warehouse's others. -/
def Tab.enqueue (s : Tab) (w : Str) (request : Request) : Str → List Operation :=
  Function.update s.operations w (s.operations w++[⟨request,.waiting⟩])

def storedScan (w : Str) (scan : StoredRfOfflineScan) : StoredRfOfflineScan :=
  {scan with warehouseId := w}

def Tab.acknowledge (s : Tab) (w : Str) (request : Request) : Tab :=
  {s with
    acknowledged := s.acknowledged++request.appended
    removed := s.removed++request.removes.map (w,·)}

/-- The first operation of a warehouse takes its next step. -/
def Tab.operate (s : Tab) (w : Str) (o : Outcome) : Tab :=
  match s.operations w with
  | [] => s
  | op::rest =>
    match op.step b s.stores o w with
    | (stores,.waits phase) =>
      {s with stores, operations := Function.update s.operations w ({op with phase}::rest)}
    | (stores,.acknowledged) =>
      ({s with stores, operations := Function.update s.operations w rest}).acknowledge w op.request
    | (stores,.rejected) => {s with stores, operations := Function.update s.operations w rest}

/-- A load of its own takes its next step. -/
def Tab.proceed (s : Tab) (i : ℕ) (o : Outcome) : Tab :=
  match s.loads[i]? with
  | none => s
  | some call =>
    match call.load.step b s.stores o with
    | (stores,.waits load) => {s with stores, loads := s.loads.set i {call with load}}
    | (stores,.answered scans) =>
      {s with
        stores
        loads := s.loads.eraseIdx i
        answers := s.answers++[⟨call.load.warehouseId,scans,call.acknowledged,call.removed,
          s.appending,s.removing⟩]}
    | (stores,.thrown) => {s with stores, loads := s.loads.eraseIdx i}

def act (s : Tab) : Action → Tab
  | .append warehouseId scan =>
    let w := normalizeWarehouse b warehouseId
    {s with
      operations := s.enqueue w (.append (storedScan w scan))
      appending := s.appending++[storedScan w scan]}
  | .remove warehouseId keys =>
    let w := normalizeWarehouse b warehouseId
    {s with operations := s.enqueue w (.remove keys), removing := s.removing++keys.map (w,·)}
  | .load warehouseId =>
    let w := normalizeWarehouse b warehouseId
    match loadFallbackQueue b s.stores w with
    | none => s
    | some fallback =>
      {s with loads := s.loads++[⟨⟨w,fallback,.reading⟩,s.acknowledged,s.removed⟩]}
  | .operate w outcome => s.operate b w outcome
  | .proceed i outcome => s.proceed b i outcome

/-- What a load of its own should answer: what was acknowledged and is not being removed, nothing
that was removed, and only what was appended for its warehouse. -/
structure Answer.Right (a : Answer) : Prop where
  kept : ∀ x∈a.acknowledged, x.warehouseId=a.warehouseId →
    (a.warehouseId,x.idempotencyKey)∉a.removing → x∈a.scans
  gone : ∀ x∈a.scans, (a.warehouseId,x.idempotencyKey)∉a.removed
  own : ∀ x∈a.scans, x.warehouseId=a.warehouseId ∧ x∈a.appending

/-- Every answer so far is right. -/
def Durable (s : Tab) : Prop := ∀ a∈s.answers, a.Right

/-- What the two stores hold for a warehouse, unless the entry is about to be removed. -/
def Tab.held (s : Tab) (w : Str) : List StoredRfOfflineScan :=
  s.stores.rows.filter (·.warehouseId=w)++
    match s.operations w with
    | ⟨_,.clearing _⟩::_ => []
    | _ => (s.stores.fallback w).getD []

/-- A load writes back what the stores hold, and removes an entry of which IndexedDB has all. -/
def Load.Fits (s : Tab) (o : Outcome) (l : Load) : Prop :=
  match l.phase with
  | .reading => True
  | .writing merged => o.indexedDB=true →
    (∀ x∈merged, x.idempotencyKey∈(s.held l.warehouseId).map (·.idempotencyKey)) ∧
      ∀ x∈s.held l.warehouseId, x.idempotencyKey∈merged.map (·.idempotencyKey)
  | .removing _ => ∀ entry∈s.stores.fallback l.warehouseId, ∀ x∈entry, x∈s.stores.rows

/-- A removal is saved to localStorage only where IndexedDB has none of its scans. -/
def Operation.Fits (s : Tab) (o : Outcome) (w : Str) (op : Operation) : Prop :=
  match op.phase with
  | .loading load => load.Fits s o
  | .persisting _ => o.indexedDB=false → o.localStorage=true →
    ∀ x∈s.stores.rows, x.warehouseId=w → x.idempotencyKey∉op.request.removes
  | _ => True

/-- A scan that is read as it is stored, under a key of its own. -/
def Fresh (s : Tab) (x : StoredRfOfflineScan) : Prop :=
  normalizeScan b x=some x ∧ (∀ y∈s.appending, y.idempotencyKey≠x.idempotencyKey) ∧
    ∀ r∈s.removing, r.2≠x.idempotencyKey

/-- Where the two stores keep the queue together. -/
def Fits (s : Tab) : Action → Prop
  | .append warehouseId scan =>
    Fresh b s (storedScan (normalizeWarehouse b warehouseId) scan)
  | .operate w o => ∀ op∈(s.operations w).head?, op.Fits s o w
  | .proceed i o => ∀ call∈s.loads[i]?, call.load.Fits s o
  | _ => True

instance decidableLoadFits (s : Tab) (o : Outcome) : (l : Load) → Decidable (l.Fits s o)
  | ⟨_,_,.reading⟩ => .isTrue trivial
  | ⟨w,_,.writing merged⟩ => inferInstanceAs (Decidable (o.indexedDB=true →
    (∀ x∈merged, x.idempotencyKey∈(s.held w).map (·.idempotencyKey)) ∧
      ∀ x∈s.held w, x.idempotencyKey∈merged.map (·.idempotencyKey)))
  | ⟨w,_,.removing _⟩ =>
    inferInstanceAs (Decidable (∀ entry∈s.stores.fallback w, ∀ x∈entry, x∈s.stores.rows))

instance decidableOperationFits (s : Tab) (o : Outcome) (w : Str) :
    (op : Operation) → Decidable (op.Fits s o w)
  | ⟨_,.waiting⟩ => .isTrue trivial
  | ⟨_,.loading load⟩ => decidableLoadFits s o load
  | ⟨request,.persisting _⟩ => inferInstanceAs (Decidable (o.indexedDB=false →
    o.localStorage=true → ∀ x∈s.stores.rows, x.warehouseId=w →
      x.idempotencyKey∉request.removes))
  | ⟨_,.clearing _⟩ => .isTrue trivial

instance decidableFresh (s : Tab) (x : StoredRfOfflineScan) : Decidable (Fresh b s x) :=
  inferInstanceAs (Decidable (normalizeScan b x=some x ∧
    (∀ y∈s.appending, y.idempotencyKey≠x.idempotencyKey) ∧
      ∀ r∈s.removing, r.2≠x.idempotencyKey))

instance decidableFits (s : Tab) : (a : Action) → Decidable (Fits b s a)
  | .append warehouseId scan =>
    decidableFresh b s (storedScan (normalizeWarehouse b warehouseId) scan)
  | .remove _ _ => .isTrue trivial
  | .load _ => .isTrue trivial
  | .operate w o => inferInstanceAs (Decidable (∀ op∈(s.operations w).head?, op.Fits s o w))
  | .proceed i o => inferInstanceAs (Decidable (∀ call∈s.loads[i]?, call.load.Fits s o))

end Tabs

section Invariant

/-- A queue of a warehouse: each scan was appended for it and is not removed, and what was
acknowledged is in it, but for what is being removed. -/
structure QueueOk (s : Tab) (acknowledged : List StoredRfOfflineScan) (removed : List Removal)
    (w : Str) (queue : List StoredRfOfflineScan) : Prop where
  known : ∀ x∈queue, x∈s.appending ∧ x.warehouseId=w
  gone : ∀ x∈queue, (w,x.idempotencyKey)∉removed
  kept : ∀ x∈acknowledged, x.warehouseId=w → (w,x.idempotencyKey)∉s.removing → x∈queue

def LoadPhase.Ok (s : Tab) (acknowledged : List StoredRfOfflineScan) (removed : List Removal)
    (l : Load) : LoadPhase → Prop
  | .reading => l.fallback=none → ∀ x∈acknowledged, x.warehouseId=l.warehouseId →
    (l.warehouseId,x.idempotencyKey)∉s.removing → x∈s.stores.rows
  | .writing merged | .removing merged => QueueOk s acknowledged removed l.warehouseId merged

/-- A load has, or will have, the queue as it was when it was called. -/
structure Load.Ok (s : Tab) (acknowledged : List StoredRfOfflineScan) (removed : List Removal)
    (l : Load) : Prop where
  entry : ∀ entry∈l.fallback, QueueOk s acknowledged removed l.warehouseId entry
  phase : l.phase.Ok s acknowledged removed l

/-- The queue is as the request asks for. -/
def Request.Done (queue : List StoredRfOfflineScan) (r : Request) : Prop :=
  (∀ x∈r.appended, x∈queue) ∧ ∀ x∈queue, x.idempotencyKey∉r.removes

structure Request.Ok (s : Tab) (w : Str) (r : Request) : Prop where
  appended : ∀ x∈r.appended, x∈s.appending ∧ x.warehouseId=w
  fresh : ∀ x∈r.appended, (w,x.idempotencyKey)∉s.removed
  removes : ∀ k∈r.removes, (w,k)∈s.removing

/-- No scan is appended after its removal. -/
def Request.Apart (p q : Request) : Prop := ∀ x∈q.appended, x.idempotencyKey∉p.removes

def Phase.Ok (s : Tab) (w : Str) (request : Request) : Phase → Prop
  | .waiting => True
  | .loading load => load.Ok s s.acknowledged s.removed ∧ load.warehouseId=w
  | .persisting next => QueueOk s s.acknowledged s.removed w next ∧ request.Done next
  | .clearing next => (QueueOk s s.acknowledged s.removed w next ∧ request.Done next) ∧
    ∀ x, x∈next ↔ x∈s.stores.rows ∧ x.warehouseId=w

structure Call.Ok (s : Tab) (c : Call) : Prop where
  load : c.load.Ok s c.acknowledged c.removed
  acknowledged : ∀ x∈c.acknowledged, x∈s.acknowledged
  removed : ∀ r∈c.removed, r∈s.removed

structure Tab.Inv (b : Browser) (s : Tab) : Prop where
  told : Told s.appending
  clean : ∀ x∈s.appending, normalizeScan b x=some x
  rows : ∀ x∈s.stores.rows, x∈s.appending
  gone : ∀ x∈s.stores.rows, (x.warehouseId,x.idempotencyKey)∉s.removed
  entry : ∀ w, ∀ entry∈s.stores.fallback w, QueueOk s s.acknowledged s.removed w entry
  kept : ∀ w, s.stores.fallback w=none → ∀ x∈s.acknowledged, x.warehouseId=w →
    (w,x.idempotencyKey)∉s.removing → x∈s.stores.rows
  removed : ∀ r∈s.removed, r∈s.removing
  apart : ∀ w, (s.operations w).Pairwise fun p q => p.request.Apart q.request
  requests : ∀ w, ∀ op∈s.operations w, op.request.Ok s w
  first : ∀ w, ∀ op∈(s.operations w).head?, op.phase.Ok s w op.request
  waiting : ∀ w, ∀ op∈(s.operations w).tail, op.phase=.waiting
  loads : ∀ c∈s.loads, c.Ok s
  answers : Durable s

variable {b : Browser} {s s' : Tab} {A A' : List StoredRfOfflineScan} {G G' : List Removal}
  {w : Str} {queue : List StoredRfOfflineScan} {l : Load}

theorem QueueOk.mono (h : QueueOk s A G w queue) (happending : ∀ x∈s.appending, x∈s'.appending)
    (hremoving : ∀ r∈s.removing, r∈s'.removing) : QueueOk s' A G w queue where
  known x hx := ⟨happending x (h.known x hx).1,(h.known x hx).2⟩
  gone := h.gone
  kept x hx hw hr := h.kept x hx hw (mt (hremoving _) hr)

theorem QueueOk.others (h : QueueOk s A G w queue) (hA : ∀ x∈A', x∈A ∨ x.warehouseId≠w)
    (hG : ∀ r∈G', r∈G ∨ r.1≠w) : QueueOk s A' G' w queue where
  known := h.known
  gone x hx hr := by
    cases hG _ hr with
    | inl hold => exact h.gone x hx hold
    | inr hother => exact hother rfl
  kept x hx hw hr := by
    cases hA x hx with
    | inl hold => exact h.kept x hold hw hr
    | inr hother => exact absurd hw hother

theorem Load.Ok.mono (h : l.Ok s A G) (happending : ∀ x∈s.appending, x∈s'.appending)
    (hremoving : ∀ r∈s.removing, r∈s'.removing)
    (hrows : ∀ x∈A, (x.warehouseId,x.idempotencyKey)∉s'.removing → x∈s.stores.rows →
      x∈s'.stores.rows) : l.Ok s' A G where
  entry entry hentry := (h.entry entry hentry).mono happending hremoving
  phase := by
    have hphase := h.phase
    cases hp : l.phase with
    | reading =>
      rw [hp] at hphase
      intro hnone x hx hw hr
      exact hrows x hx (hw ▸ hr) (hphase hnone x hx hw (mt (hremoving _) hr))
    | writing merged =>
      rw [hp] at hphase
      exact QueueOk.mono hphase happending hremoving
    | removing merged =>
      rw [hp] at hphase
      exact QueueOk.mono hphase happending hremoving

theorem Load.Ok.others (h : l.Ok s A G) (hA : ∀ x∈A', x∈A ∨ x.warehouseId≠l.warehouseId)
    (hG : ∀ r∈G', r∈G ∨ r.1≠l.warehouseId) : l.Ok s A' G' where
  entry entry hentry := (h.entry entry hentry).others hA hG
  phase := by
    have hphase := h.phase
    cases hp : l.phase with
    | reading =>
      rw [hp] at hphase
      intro hnone x hx hw hr
      cases hA x hx with
      | inl hold => exact hphase hnone x hold hw hr
      | inr hother => exact absurd hw hother
    | writing merged =>
      rw [hp] at hphase
      exact QueueOk.others hphase hA hG
    | removing merged =>
      rw [hp] at hphase
      exact QueueOk.others hphase hA hG

theorem Request.Ok.mono {request : Request} (h : request.Ok s w)
    (happending : ∀ x∈s.appending, x∈s'.appending) (hremoving : ∀ r∈s.removing, r∈s'.removing)
    (hremoved : s'.removed=s.removed) : request.Ok s' w where
  appended x hx := ⟨happending x (h.appended x hx).1,(h.appended x hx).2⟩
  fresh x hx := hremoved ▸ h.fresh x hx
  removes k hk := hremoving _ (h.removes k hk)

def LoadResult.Ok (s : Tab) (A : List StoredRfOfflineScan) (G : List Removal) (w : Str) :
    LoadResult → Prop
  | .waits load => load.Ok s A G ∧ load.warehouseId=w
  | .answered scans => QueueOk s A G w scans
  | .thrown => True

theorem Load.Ok.withoutDatabase (h : l.Ok s A G) :
    l.withoutDatabase.Ok s A G l.warehouseId := by
  unfold Load.withoutDatabase
  cases hentry : l.fallback with
  | none => trivial
  | some entry => exact h.entry entry hentry

/-- What is read together is the queue. -/
theorem Load.Ok.merged (hs : s.Inv b) (h : l.Ok s A G) (hreading : l.phase=.reading)
    (hG : ∀ r∈G, r∈s.removed) : QueueOk s A G l.warehouseId (mergeScans b
      [s.stores.rows.filter (·.warehouseId=l.warehouseId),l.fallback.getD []]) := by
  have hentry : ∀ x∈l.fallback.getD [], (x∈s.appending ∧ x.warehouseId=l.warehouseId) ∧
      (l.warehouseId,x.idempotencyKey)∉G := by
    intro x hx
    cases he : l.fallback with
    | none =>
      rw [he] at hx
      cases hx
    | some entry =>
      rw [he] at hx
      exact ⟨(h.entry entry he).known x hx,(h.entry entry he).gone x hx⟩
  have hrow : ∀ x∈s.stores.rows.filter (·.warehouseId=l.warehouseId),
      x∈s.stores.rows ∧ x.warehouseId=l.warehouseId := by
    intro x hx
    rw [List.mem_filter,decide_eq_true_iff] at hx
    exact hx
  have hmem : ∀ x, x∈mergeScans b [s.stores.rows.filter (·.warehouseId=l.warehouseId),
      l.fallback.getD []] ↔ x∈s.stores.rows.filter (·.warehouseId=l.warehouseId) ∨
        x∈l.fallback.getD [] := by
    intro x
    rw [mem_mergeScans hs.told]
    · simp
    · intro g hg y hy
      simp only [List.mem_cons,List.not_mem_nil,or_false] at hg
      cases hg with
      | inl hrows =>
        rw [hrows] at hy
        exact hs.rows y (hrow y hy).1
      | inr hfallback =>
        rw [hfallback] at hy
        exact (hentry y hy).1.1
  constructor
  · intro x hx
    cases (hmem x).mp hx with
    | inl hrows => exact ⟨hs.rows x (hrow x hrows).1,(hrow x hrows).2⟩
    | inr hfallback => exact (hentry x hfallback).1
  · intro x hx hr
    cases (hmem x).mp hx with
    | inl hrows =>
      have hgone := hs.gone x (hrow x hrows).1
      rw [(hrow x hrows).2] at hgone
      exact hgone (hG _ hr)
    | inr hfallback => exact (hentry x hfallback).2 hr
  · intro x hx hw hr
    refine (hmem x).mpr ?_
    cases he : l.fallback with
    | none =>
      have hphase := h.phase
      rw [hreading] at hphase
      have hrows := hphase he x hx hw hr
      exact Or.inl (List.mem_filter.mpr ⟨hrows,decide_eq_true hw⟩)
    | some entry => exact Or.inr ((h.entry entry he).kept x hx hw hr)

theorem Load.Ok.step (hs : s.Inv b) (h : l.Ok s A G) (hG : ∀ r∈G, r∈s.removed) (o : Outcome) :
    (l.step b s.stores o).2.Ok s A G l.warehouseId := by
  have hread : readAll b s.stores=some s.stores.rows :=
    readAll_clean fun x hx => hs.clean x (hs.rows x hx)
  have hphase := h.phase
  unfold Load.step
  cases hp : l.phase with
  | reading =>
    cases hdatabase : o.indexedDB with
    | false => exact h.withoutDatabase
    | true =>
      have hmerged := h.merged hs hp hG
      cases he : l.fallback with
      | none =>
        rw [he] at hmerged
        simpa [hread,he,LoadResult.Ok] using hmerged
      | some entry =>
        rw [he] at hmerged
        simp only [hread,if_true,Option.isSome_some]
        refine ⟨⟨?_,hmerged⟩,rfl⟩
        intro entry' hentry'
        exact h.entry entry' (he.trans hentry')
  | writing merged =>
    rw [hp] at hphase
    cases hdatabase : o.indexedDB with
    | false => simpa using h.withoutDatabase
    | true => exact ⟨⟨h.entry,hphase⟩,rfl⟩
  | removing merged =>
    rw [hp] at hphase
    exact hphase

/-- The warehouse's first operation has its queue written, and its entry not yet removed. -/
def Tab.Clearing (s : Tab) (w : Str) : Prop :=
  ∃ op∈(s.operations w).head?, ∃ next, op.phase=.clearing next

theorem mem_held {x : StoredRfOfflineScan} : x∈s.held w ↔
    x∈s.stores.rows ∧ x.warehouseId=w ∨
      (∃ entry∈s.stores.fallback w, x∈entry) ∧ ¬s.Clearing w := by
  have hrow : x∈s.stores.rows.filter (·.warehouseId=w) ↔ x∈s.stores.rows ∧ x.warehouseId=w := by
    rw [List.mem_filter,decide_eq_true_iff]
  have hentry : x∈(s.stores.fallback w).getD [] ↔ ∃ entry∈s.stores.fallback w, x∈entry := by
    cases s.stores.fallback w with
    | none => simp
    | some entry => simp
  unfold Tab.held Tab.Clearing
  rw [List.mem_append,hrow]
  cases hops : s.operations w with
  | nil => simp [hentry]
  | cons op rest =>
    cases op with
    | mk request phase =>
      cases phase with
      | clearing next => simp
      | _ => simp [hentry]

/-- The stores hold what they held, and an entry goes only where IndexedDB has all of it. -/
structure Settles (s : Tab) (stores : Stores) : Prop where
  rows : ∀ x∈s.stores.rows, x∈stores.rows
  added : ∀ x∈stores.rows, x∈s.stores.rows ∨
    (∃ entry∈s.stores.fallback x.warehouseId, x∈entry) ∧ ¬s.Clearing x.warehouseId
  fallback : ∀ w, stores.fallback w=s.stores.fallback w ∨ stores.fallback w=none ∧
    ∀ entry∈s.stores.fallback w, ∀ x∈entry, x∈stores.rows

theorem Settles.refl (s : Tab) : Settles s s.stores :=
  ⟨fun _ hx => hx,fun _ hx => Or.inl hx,fun _ => Or.inl rfl⟩

theorem Load.Ok.settles (hs : s.Inv b) (h : l.Ok s A G) (o : Outcome) (hfits : l.Fits s o) :
    Settles s (l.step b s.stores o).1 := by
  have hread : readAll b s.stores=some s.stores.rows :=
    readAll_clean fun x hx => hs.clean x (hs.rows x hx)
  have hphase := h.phase
  unfold Load.Fits at hfits
  unfold Load.step
  cases hp : l.phase with
  | reading =>
    cases hdatabase : o.indexedDB with
    | false => exact Settles.refl s
    | true =>
      cases he : l.fallback with
      | none => simpa [hread,he] using Settles.refl s
      | some entry => simpa [hread,he] using Settles.refl s
  | writing merged =>
    rw [hp] at hphase hfits
    cases hdatabase : o.indexedDB with
    | false => simpa using Settles.refl s
    | true =>
      have hmerged : QueueOk s A G l.warehouseId merged := hphase
      have hheld : ∀ x∈s.held l.warehouseId, x∈s.appending ∧ x.warehouseId=l.warehouseId := by
        intro x hx
        cases mem_held.mp hx with
        | inl hrow => exact ⟨hs.rows x hrow.1,hrow.2⟩
        | inr hentry =>
          obtain ⟨⟨entry,hentry,hx⟩,-⟩ := hentry
          exact (hs.entry _ entry hentry).known x hx
      have hsame : ∀ x, x∈merged ↔ x∈s.held l.warehouseId := by
        intro x
        have hkeys := hfits hdatabase
        constructor
        · intro hx
          obtain ⟨y,hy,hkey⟩ := List.mem_map.mp (hkeys.1 x hx)
          have hxy := hs.told y (hheld y hy).1 x (hmerged.known x hx).1 hkey
          exact hxy ▸ hy
        · intro hx
          obtain ⟨y,hy,hkey⟩ := List.mem_map.mp (hkeys.2 x hx)
          have hxy := hs.told y (hmerged.known y hy).1 x (hheld x hx).1 hkey
          exact hxy ▸ hy
      have hrows : ∀ x, x∈(replaceWarehouseQueue s.stores l.warehouseId merged).rows ↔
          x∈s.stores.rows ∧ x.warehouseId≠l.warehouseId ∨ x∈merged := fun x =>
        mem_replaceWarehouseQueue hs.told hs.rows fun y hy => (hmerged.known y hy).1
      constructor
      · intro x hx
        refine (hrows x).mpr ?_
        by_cases hw : x.warehouseId=l.warehouseId
        · exact Or.inr ((hsame x).mpr (mem_held.mpr (Or.inl ⟨hx,hw⟩)))
        · exact Or.inl ⟨hx,hw⟩
      · intro x hx
        cases (hrows x).mp hx with
        | inl hother => exact Or.inl hother.1
        | inr hnew =>
          cases mem_held.mp ((hsame x).mp hnew) with
          | inl hrow => exact Or.inl hrow.1
          | inr hentry => exact Or.inr ((hmerged.known x hnew).2 ▸ hentry)
      · exact fun w => Or.inl rfl
  | removing merged =>
    rw [hp] at hfits
    refine ⟨fun _ hx => hx,fun _ hx => Or.inl hx,fun w => ?_⟩
    by_cases hw : w=l.warehouseId
    · rw [hw]
      exact Or.inr ⟨by simp [removeFallbackQueue],hfits⟩
    · exact Or.inl (by simp [removeFallbackQueue,Function.update_of_ne hw])

theorem Tab.Inv.settle (hs : s.Inv b) {stores : Stores} (h : Settles s stores) :
    ({s with stores} : Tab).Inv b where
  told := hs.told
  clean := hs.clean
  rows x hx := by
    cases h.added x hx with
    | inl hold => exact hs.rows x hold
    | inr hentry =>
      obtain ⟨⟨entry,hentry,hx⟩,-⟩ := hentry
      exact ((hs.entry _ entry hentry).known x hx).1
  gone x hx := by
    cases h.added x hx with
    | inl hold => exact hs.gone x hold
    | inr hentry =>
      obtain ⟨⟨entry,hentry,hx⟩,-⟩ := hentry
      exact (hs.entry _ entry hentry).gone x hx
  entry w entry hentry := by
    cases h.fallback w with
    | inl hsame => exact (hs.entry w entry (hsame ▸ hentry)).mono (fun _ h => h) fun _ h => h
    | inr hnone =>
      have hsome : stores.fallback w=some entry := hentry
      rw [hnone.1] at hsome
      cases hsome
  kept w hnone x hx hw hr := by
    cases h.fallback w with
    | inl hsame => exact h.rows x (hs.kept w (hsame ▸ hnone) x hx hw hr)
    | inr hremoved =>
      cases hentry : s.stores.fallback w with
      | none => exact h.rows x (hs.kept w hentry x hx hw hr)
      | some entry =>
        exact hremoved.2 entry hentry x ((hs.entry w entry hentry).kept x hx hw hr)
  removed := hs.removed
  apart := hs.apart
  requests w op hop := (hs.requests w op hop).mono (fun _ h => h) (fun _ h => h) rfl
  first w op hop := by
    have hfirst := hs.first w op hop
    cases hp : op.phase with
    | waiting => trivial
    | loading load =>
      rw [hp] at hfirst
      exact ⟨hfirst.1.mono (fun _ h => h) (fun _ h => h) fun x _ _ hx => h.rows x hx,hfirst.2⟩
    | persisting next =>
      rw [hp] at hfirst
      exact ⟨hfirst.1.mono (fun _ h => h) fun _ h => h,hfirst.2⟩
    | clearing next =>
      rw [hp] at hfirst
      refine ⟨⟨hfirst.1.1.mono (fun _ h => h) fun _ h => h,hfirst.1.2⟩,fun x => ?_⟩
      rw [hfirst.2 x]
      constructor
      · exact fun hx => ⟨h.rows x hx.1,hx.2⟩
      · intro hx
        cases h.added x hx.1 with
        | inl hold => exact ⟨hold,hx.2⟩
        | inr hnew => exact absurd ⟨op,hx.2 ▸ hop,next,hp⟩ hnew.2
  waiting := hs.waiting
  loads c hc :=
    { load := (hs.loads c hc).load.mono (fun _ h => h) (fun _ h => h) fun x _ _ hx => h.rows x hx
      acknowledged := (hs.loads c hc).acknowledged
      removed := (hs.loads c hc).removed }
  answers := hs.answers

theorem Phase.Ok.mono {phase : Phase} {request : Request} (h : phase.Ok s w request)
    (happending : ∀ x∈s.appending, x∈s'.appending) (hremoving : ∀ r∈s.removing, r∈s'.removing)
    (hacknowledged : s'.acknowledged=s.acknowledged) (hremoved : s'.removed=s.removed)
    (hstores : s'.stores=s.stores) : phase.Ok s' w request := by
  cases phase with
  | waiting => trivial
  | loading load =>
    refine ⟨?_,h.2⟩
    rw [hacknowledged,hremoved]
    exact h.1.mono happending hremoving fun x _ _ hx => hstores ▸ hx
  | persisting next =>
    refine ⟨?_,h.2⟩
    rw [hacknowledged,hremoved]
    exact h.1.mono happending hremoving
  | clearing next =>
    refine ⟨⟨?_,h.1.2⟩,?_⟩
    · rw [hacknowledged,hremoved]
      exact h.1.1.mono happending hremoving
    · rw [hstores]
      exact h.2

theorem Tab.Inv.withOperations (hs : s.Inv b) {ops : List Operation}
    (hapart : ops.Pairwise fun p q => p.request.Apart q.request)
    (hrequests : ∀ op∈ops, op.request.Ok s w)
    (hfirst : ∀ op∈ops.head?, op.phase.Ok s w op.request)
    (hwaiting : ∀ op∈ops.tail, op.phase=.waiting) :
    ({s with operations := Function.update s.operations w ops} : Tab).Inv b where
  told := hs.told
  clean := hs.clean
  rows := hs.rows
  gone := hs.gone
  entry v entry hentry := (hs.entry v entry hentry).mono (fun _ h => h) fun _ h => h
  kept := hs.kept
  removed := hs.removed
  apart v := by
    by_cases hv : v=w
    · rw [hv]
      simpa using hapart
    · simpa [Function.update_of_ne hv] using hs.apart v
  requests v op hop := by
    have hok : op.request.Ok s v := by
      by_cases hv : v=w
      · subst hv
        exact hrequests op (by simpa using hop)
      · exact hs.requests v op (by simpa [Function.update_of_ne hv] using hop)
    exact hok.mono (fun _ h => h) (fun _ h => h) rfl
  first v op hop := by
    have hok : op.phase.Ok s v op.request := by
      by_cases hv : v=w
      · subst hv
        exact hfirst op (by simpa using hop)
      · exact hs.first v op (by simpa [Function.update_of_ne hv] using hop)
    exact hok.mono (fun _ h => h) (fun _ h => h) rfl rfl rfl
  waiting v op hop := by
    by_cases hv : v=w
    · subst hv
      exact hwaiting op (by simpa using hop)
    · exact hs.waiting v op (by simpa [Function.update_of_ne hv] using hop)
  loads c hc :=
    { load := (hs.loads c hc).load.mono (fun _ h => h) (fun _ h => h) fun _ _ _ hx => hx
      acknowledged := (hs.loads c hc).acknowledged
      removed := (hs.loads c hc).removed }
  answers := hs.answers

variable {op : Operation} {rest : List Operation}

theorem Tab.Inv.pop (hs : s.Inv b) (hops : s.operations w=op::rest) :
    ({s with operations := Function.update s.operations w rest} : Tab).Inv b := by
  have hrest : ∀ p∈rest, p.phase=.waiting := by
    intro p hp
    exact hs.waiting w p (by rw [hops]; exact hp)
  refine hs.withOperations ?_ ?_ ?_ ?_
  · have hapart := hs.apart w
    rw [hops] at hapart
    exact (List.pairwise_cons.mp hapart).2
  · intro p hp
    exact hs.requests w p (by rw [hops]; exact List.mem_cons_of_mem _ hp)
  · intro p hp
    rw [hrest p (List.mem_of_mem_head? hp)]
    trivial
  · exact fun p hp => hrest p (List.mem_of_mem_tail hp)

theorem Tab.Inv.setPhase (hs : s.Inv b) (hops : s.operations w=op::rest) {phase : Phase}
    (hphase : phase.Ok s w op.request) :
    ({s with
      operations := Function.update s.operations w ({op with phase}::rest)} : Tab).Inv b := by
  have hapart := hs.apart w
  have hrequests := hs.requests w
  have hwaiting := hs.waiting w
  rw [hops] at hapart hrequests hwaiting
  refine hs.withOperations ?_ ?_ ?_ hwaiting
  · have hcons := List.pairwise_cons.mp hapart
    exact List.pairwise_cons.mpr ⟨hcons.1,hcons.2⟩
  · intro p hp
    cases List.mem_cons.mp hp with
    | inl hself =>
      rw [hself]
      exact hrequests op List.mem_cons_self
    | inr hlater => exact hrequests p (List.mem_cons_of_mem _ hlater)
  · intro p hp
    cases hp
    exact hphase

/-- The rows of a warehouse become its queue, while none of its operations is under way. -/
theorem Tab.Inv.writeRows (hs : s.Inv b) (hwaiting : ∀ op∈s.operations w, op.phase=.waiting)
    (hqueue : QueueOk s s.acknowledged s.removed w queue) :
    ({s with stores := replaceWarehouseQueue s.stores w queue} : Tab).Inv b := by
  have hrows : ∀ x, x∈(replaceWarehouseQueue s.stores w queue).rows ↔
      x∈s.stores.rows ∧ x.warehouseId≠w ∨ x∈queue := fun x =>
    mem_replaceWarehouseQueue hs.told hs.rows fun y hy => (hqueue.known y hy).1
  have hstays : ∀ x∈s.acknowledged, (x.warehouseId,x.idempotencyKey)∉s.removing →
      x∈s.stores.rows → x∈(replaceWarehouseQueue s.stores w queue).rows := by
    intro x hx hr hrow
    refine (hrows x).mpr ?_
    by_cases hw : x.warehouseId=w
    · exact Or.inr (hqueue.kept x hx hw (hw ▸ hr))
    · exact Or.inl ⟨hrow,hw⟩
  refine
    { told := hs.told
      clean := hs.clean
      rows := fun x hx => ?_
      gone := fun x hx => ?_
      entry := fun v entry hentry => (hs.entry v entry hentry).mono (fun _ h => h) fun _ h => h
      kept := fun v hnone x hx hv hr => ?_
      removed := hs.removed
      apart := hs.apart
      requests := fun v op hop =>
        (hs.requests v op hop).mono (fun _ h => h) (fun _ h => h) rfl
      first := fun v op hop => ?_
      waiting := hs.waiting
      loads := fun c hc =>
        { load := (hs.loads c hc).load.mono (fun _ h => h) (fun _ h => h) fun x hx hr hrow =>
            hstays x ((hs.loads c hc).acknowledged x hx) hr hrow
          acknowledged := (hs.loads c hc).acknowledged
          removed := (hs.loads c hc).removed }
      answers := hs.answers }
  · cases (hrows x).mp hx with
    | inl hother => exact hs.rows x hother.1
    | inr hnew => exact (hqueue.known x hnew).1
  · cases (hrows x).mp hx with
    | inl hother => exact hs.gone x hother.1
    | inr hnew =>
      rw [(hqueue.known x hnew).2]
      exact hqueue.gone x hnew
  · by_cases hvw : v=w
    · subst hvw
      exact (hrows x).mpr (Or.inr (hqueue.kept x hx hv hr))
    · exact (hrows x).mpr (Or.inl ⟨hs.kept v hnone x hx hv hr,hv ▸ hvw⟩)
  · have hfirst := hs.first v op hop
    cases hp : op.phase with
    | waiting => trivial
    | loading load =>
      rw [hp] at hfirst
      exact ⟨hfirst.1.mono (fun _ h => h) (fun _ h => h) hstays,hfirst.2⟩
    | persisting next =>
      rw [hp] at hfirst
      exact ⟨hfirst.1.mono (fun _ h => h) fun _ h => h,hfirst.2⟩
    | clearing next =>
      have hvw : v≠w := by
        intro hvw
        subst hvw
        rw [hwaiting op (List.mem_of_mem_head? hop)] at hp
        cases hp
      rw [hp] at hfirst
      refine ⟨⟨hfirst.1.1.mono (fun _ h => h) fun _ h => h,hfirst.1.2⟩,fun x => ?_⟩
      rw [hfirst.2 x,hrows x]
      constructor
      · exact fun hx => ⟨Or.inl ⟨hx.1,hx.2 ▸ hvw⟩,hx.2⟩
      · intro hx
        cases hx.1 with
        | inl hother => exact ⟨hother.1,hx.2⟩
        | inr hnew => exact absurd ((hqueue.known x hnew).2.symm.trans hx.2).symm hvw

theorem Request.Ok.acknowledged {v : Str} {r : Request} (hr : r.Ok s w) (hv : v≠w) :
    ∀ x∈s.acknowledged++r.appended, x∈s.acknowledged ∨ x.warehouseId≠v := by
  intro x hx
  cases List.mem_append.mp hx with
  | inl hold => exact Or.inl hold
  | inr hnew => exact Or.inr ((hr.appended x hnew).2 ▸ hv.symm)

theorem removed_others {v : Str} {r : Request} (hv : v≠w) :
    ∀ p∈s.removed++r.removes.map (w,·), p∈s.removed ∨ p.1≠v := by
  intro p hp
  cases List.mem_append.mp hp with
  | inl hold => exact Or.inl hold
  | inr hnew =>
    obtain ⟨k,-,rfl⟩ := List.mem_map.mp hnew
    exact Or.inr hv.symm

theorem Phase.Ok.others {v : Str} {phase : Phase} {r request : Request}
    (h : phase.Ok s v request) (hr : r.Ok s w) (hv : v≠w) {stores : Stores}
    (hrows : stores.rows=s.stores.rows) :
    phase.Ok (({s with stores} : Tab).acknowledge w r) v request := by
  have hadded := hr.acknowledged hv
  have hremoved := @removed_others s w v r hv
  cases phase with
  | waiting => trivial
  | loading load =>
    have hload : load.Ok (({s with stores} : Tab).acknowledge w r) s.acknowledged s.removed :=
      h.1.mono (fun _ h => h) (fun _ h => h) fun x _ _ hx => hrows ▸ hx
    exact ⟨hload.others (h.2.symm ▸ hadded) (h.2.symm ▸ hremoved),h.2⟩
  | persisting next =>
    exact ⟨(h.1.others hadded hremoved).mono (fun _ h => h) fun _ h => h,h.2⟩
  | clearing next =>
    refine ⟨⟨(h.1.1.others hadded hremoved).mono (fun _ h => h) fun _ h => h,h.1.2⟩,fun x => ?_⟩
    rw [h.2 x]
    exact hrows ▸ Iff.rfl

/-- A request is acknowledged: its queue is the warehouse's entry, or it is in IndexedDB and the
entry is removed. -/
theorem Tab.Inv.acknowledge (hs : s.Inv b) {r : Request}
    (hwaiting : ∀ op∈s.operations w, op.phase=.waiting) (hr : r.Ok s w)
    (hapart : ∀ op∈s.operations w, r.Apart op.request)
    (hqueue : QueueOk s s.acknowledged s.removed w queue) (hdone : r.Done queue)
    (hspares : ∀ x∈s.stores.rows, x.warehouseId=w → x.idempotencyKey∉r.removes)
    {entry : Option (List StoredRfOfflineScan)}
    (hentry : entry=some queue ∨ entry=none ∧ ∀ x∈queue, x∈s.stores.rows) :
    (({s with stores :=
      {s.stores with fallback := Function.update s.stores.fallback w entry}} : Tab).acknowledge w
        r).Inv b := by
  have hqueue' :
      QueueOk s (s.acknowledged++r.appended) (s.removed++r.removes.map (w,·)) w queue := by
    refine ⟨hqueue.known,?_,?_⟩
    · intro x hx hgone
      cases List.mem_append.mp hgone with
      | inl hold => exact hqueue.gone x hx hold
      | inr hnew =>
        obtain ⟨k,hk,heq⟩ := List.mem_map.mp hnew
        have hkey : k=x.idempotencyKey := congrArg Prod.snd heq
        exact hdone.2 x hx (hkey ▸ hk)
    · intro x hx hw hnot
      cases List.mem_append.mp hx with
      | inl hold => exact hqueue.kept x hold hw hnot
      | inr hnew => exact hdone.1 x hnew
  refine
    { told := hs.told
      clean := hs.clean
      rows := hs.rows
      gone := fun x hx hgone => ?_
      entry := fun v e he => ?_
      kept := fun v hnone x hx hv hnot => ?_
      removed := fun p hp => ?_
      apart := hs.apart
      requests := fun v op hop => ?_
      first := fun v op hop => ?_
      waiting := hs.waiting
      loads := fun c hc =>
        { load := (hs.loads c hc).load.mono (fun _ h => h) (fun _ h => h) fun _ _ _ hx => hx
          acknowledged := fun x hx => List.mem_append_left _ ((hs.loads c hc).acknowledged x hx)
          removed := fun p hp => List.mem_append_left _ ((hs.loads c hc).removed p hp) }
      answers := hs.answers }
  · cases List.mem_append.mp hgone with
    | inl hold => exact hs.gone x hx hold
    | inr hnew =>
      obtain ⟨k,hk,heq⟩ := List.mem_map.mp hnew
      have hkey : k=x.idempotencyKey := congrArg Prod.snd heq
      have hw : w=x.warehouseId := congrArg Prod.fst heq
      exact hspares x hx hw.symm (hkey ▸ hk)
  · have hfallback : Function.update s.stores.fallback w entry v=some e := he
    by_cases hv : v=w
    · subst hv
      rw [Function.update_self] at hfallback
      cases hentry with
      | inl hsome =>
        have hsame : queue=e := Option.some.inj (hsome.symm.trans hfallback)
        exact hsame ▸ hqueue'.mono (fun _ h => h) fun _ h => h
      | inr hcleared =>
        rw [hcleared.1] at hfallback
        cases hfallback
    · rw [Function.update_of_ne hv] at hfallback
      exact ((hs.entry v e hfallback).others (hr.acknowledged hv) (removed_others hv)).mono
        (fun _ h => h) fun _ h => h
  · have hfallback : Function.update s.stores.fallback w entry v=none := hnone
    by_cases hvw : v=w
    · subst hvw
      rw [Function.update_self] at hfallback
      cases hentry with
      | inl hsome =>
        rw [hsome] at hfallback
        cases hfallback
      | inr hcleared => exact hcleared.2 x (hqueue'.kept x hx hv hnot)
    · rw [Function.update_of_ne hvw] at hfallback
      cases hr.acknowledged hvw x hx with
      | inl hbefore => exact hs.kept v hfallback x hbefore hv hnot
      | inr hother => exact absurd hv hother
  · cases List.mem_append.mp hp with
    | inl hold => exact hs.removed p hold
    | inr hnew =>
      obtain ⟨k,hk,rfl⟩ := List.mem_map.mp hnew
      exact hr.removes k hk
  · have hok := hs.requests v op hop
    refine ⟨hok.appended,fun x hx hgone => ?_,hok.removes⟩
    cases List.mem_append.mp hgone with
    | inl hold => exact hok.fresh x hx hold
    | inr hnew =>
      obtain ⟨k,hk,heq⟩ := List.mem_map.mp hnew
      have hkey : k=x.idempotencyKey := congrArg Prod.snd heq
      have hw : w=v := congrArg Prod.fst heq
      subst hw
      exact hapart op hop x hx (hkey ▸ hk)
  · by_cases hv : v=w
    · subst hv
      rw [hwaiting op (List.mem_of_mem_head? hop)]
      trivial
    · exact (hs.first v op hop).others hr hv rfl

theorem Request.next_ok (hs : s.Inv b) {r : Request} (hr : r.Ok s w)
    (h : QueueOk s s.acknowledged s.removed w queue) :
    QueueOk s s.acknowledged s.removed w (r.next b queue) ∧ r.Done (r.next b queue) := by
  cases r with
  | append scan =>
    have hscan := hr.appended scan List.mem_cons_self
    have hmem : ∀ x, x∈mergeScans b [queue,[scan]] ↔ x∈queue ∨ x=scan := by
      intro x
      rw [mem_mergeScans hs.told]
      · simp
      · intro g hg y hy
        simp only [List.mem_cons,List.not_mem_nil,or_false] at hg
        cases hg with
        | inl hstored =>
          rw [hstored] at hy
          exact (h.known y hy).1
        | inr hnew =>
          rw [hnew,List.mem_singleton] at hy
          exact hy ▸ hscan.1
    refine ⟨⟨fun x hx => ?_,fun x hx => ?_,fun x hx hw hnot => ?_⟩,?_,
      fun x _ => by simp [removes]⟩
    · cases (hmem x).mp hx with
      | inl hold => exact h.known x hold
      | inr hnew => exact hnew ▸ hscan
    · cases (hmem x).mp hx with
      | inl hold => exact h.gone x hold
      | inr hnew => exact hnew ▸ hr.fresh scan List.mem_cons_self
    · exact (hmem x).mpr (Or.inl (h.kept x hx hw hnot))
    · intro x hx
      rw [appended,List.mem_singleton] at hx
      exact (hmem x).mpr (Or.inr hx)
  | remove keys =>
    have hmem : ∀ x, x∈queue.filter (·.idempotencyKey∉keys) ↔
        x∈queue ∧ x.idempotencyKey∉keys := by
      intro x
      rw [List.mem_filter,decide_eq_true_iff]
    refine ⟨⟨fun x hx => ?_,fun x hx => ?_,fun x hx hw hnot => ?_⟩,by simp [appended],
      fun x hx => ?_⟩
    · exact h.known x ((hmem x).mp hx).1
    · exact h.gone x ((hmem x).mp hx).1
    · refine (hmem x).mpr ⟨h.kept x hx hw hnot,fun hkey => ?_⟩
      exact hnot (hr.removes _ hkey)
    · exact ((hmem x).mp hx).2

theorem Tab.Inv.load_ok (hs : s.Inv b) (w : Str) : ∃ fallback,
    loadFallbackQueue b s.stores w=some fallback ∧
      Load.Ok s s.acknowledged s.removed ⟨w,fallback,.reading⟩ := by
  have hclean : ∀ entry∈s.stores.fallback w, ∀ x∈entry,
      normalizeScan b x=some x ∧ x.warehouseId=w := by
    intro entry hentry x hx
    have hknown := (hs.entry w entry hentry).known x hx
    exact ⟨hs.clean x hknown.1,hknown.2⟩
  refine ⟨_,loadFallbackQueue_clean hclean,?_,?_⟩
  · intro entry hentry
    obtain ⟨saved,hsaved,rfl⟩ := Option.map_eq_some_iff.mp hentry
    have hqueue := hs.entry w saved hsaved
    constructor
    · exact fun x hx => hqueue.known x (mem_sortAndLimit.mp hx)
    · exact fun x hx => hqueue.gone x (mem_sortAndLimit.mp hx)
    · exact fun x hx hw hr => mem_sortAndLimit.mpr (hqueue.kept x hx hw hr)
  · intro hnone x hx hw hr
    exact hs.kept w (Option.map_eq_none_iff.mp hnone) x hx hw hr

theorem Tab.Inv.operate (hs : s.Inv b) (o : Outcome)
    (hfits : ∀ op∈(s.operations w).head?, op.Fits s o w) : (s.operate b w o).Inv b := by
  unfold Tab.operate
  cases hops : s.operations w with
  | nil => exact hs
  | cons op rest =>
    have hhead : op∈(s.operations w).head? := by rw [hops]; rfl
    have hmem : op∈s.operations w := List.mem_of_mem_head? hhead
    have hrequest := hs.requests w op hmem
    have hphase := hs.first w op hhead
    have hfit := hfits op hhead
    have hpop := hs.pop hops
    have hrest : ∀ p∈rest, p.phase=.waiting := by
      intro p hp
      exact hs.waiting w p (by rw [hops]; exact hp)
    have hapart : ∀ p∈rest, op.request.Apart p.request := by
      have hpairs := hs.apart w
      rw [hops] at hpairs
      exact (List.pairwise_cons.mp hpairs).1
    unfold Operation.Fits at hfit
    simp only [Operation.step]
    cases hp : op.phase with
    | waiting =>
      obtain ⟨fallback,hfallback,hload⟩ := hs.load_ok w
      simp only [hfallback]
      exact hs.setPhase hops ⟨hload,rfl⟩
    | loading load =>
      rw [hp] at hphase hfit
      have hresult := hphase.1.step hs (fun _ h => h) o
      have hsettles := hphase.1.settles hs o hfit
      have hsettled := hs.settle hsettles
      rw [hphase.2] at hresult
      simp only []
      generalize load.step b s.stores o=result at hresult hsettles hsettled ⊢
      obtain ⟨stores,result⟩ := result
      cases result with
      | waits load' =>
        have hload : load'.Ok {s with stores} s.acknowledged s.removed :=
          hresult.1.mono (fun _ h => h) (fun _ h => h) fun x _ _ hx => hsettles.rows x hx
        have hok : (Phase.loading load').Ok {s with stores} w op.request := ⟨hload,hresult.2⟩
        exact hsettled.setPhase hops hok
      | answered stored =>
        have hnext := Request.next_ok hs hrequest hresult
        have hqueue :
            QueueOk {s with stores} s.acknowledged s.removed w (op.request.next b stored) :=
          hnext.1.mono (fun _ h => h) fun _ h => h
        have hok : (Phase.persisting (op.request.next b stored)).Ok {s with stores} w op.request :=
          ⟨hqueue,hnext.2⟩
        exact hsettled.setPhase hops hok
      | thrown => exact hsettled.pop hops
    | persisting next =>
      rw [hp] at hphase hfit
      have hqueue : QueueOk {s with operations := Function.update s.operations w rest}
          s.acknowledged s.removed w next := hphase.1.mono (fun _ h => h) fun _ h => h
      have hdone : op.request.Done next := hphase.2
      have hwaiting : ∀ p∈Function.update s.operations w rest w, p.phase=.waiting := by
        simpa using hrest
      cases hdatabase : o.indexedDB with
      | true =>
        have hwritten := hpop.writeRows hwaiting hqueue
        have hrows : ∀ x, x∈next ↔ x∈(replaceWarehouseQueue s.stores w next).rows ∧
            x.warehouseId=w := by
          intro x
          rw [mem_replaceWarehouseQueue hs.told hs.rows fun y hy => (hqueue.known y hy).1]
          constructor
          · exact fun hx => ⟨Or.inr hx,(hqueue.known x hx).2⟩
          · intro hx
            cases hx.1 with
            | inl hother => exact absurd hx.2 hother.2
            | inr hnew => exact hnew
        have happly := @Tab.Inv.withOperations b _ w hwritten (⟨op.request,.clearing next⟩::rest)
        have hpairs := hs.apart w
        have hrequests := hs.requests w
        rw [hops] at hpairs hrequests
        rw [List.pairwise_cons] at hpairs
        have hclearing := happly (List.pairwise_cons.mpr ⟨hpairs.1,hpairs.2⟩)
          (fun p hp => by
            cases List.mem_cons.mp hp with
            | inl hself => exact hself ▸ hrequest.mono (fun _ h => h) (fun _ h => h) rfl
            | inr hlater =>
              exact (hrequests p (List.mem_cons_of_mem _ hlater)).mono (fun _ h => h)
                (fun _ h => h) rfl)
          (fun p hp => by
            cases hp
            exact ⟨⟨hqueue.mono (fun _ h => h) fun _ h => h,hdone⟩,hrows⟩)
          hrest
        simpa using hclearing
      | false =>
        cases hstorage : o.localStorage with
        | true =>
          have hspares := hfit hdatabase hstorage
          have hsaved := hpop.acknowledge hwaiting (hrequest.mono (fun _ h => h) (fun _ h => h) rfl)
            (by simpa using hapart) hqueue hdone hspares (Or.inl rfl)
          simpa [saveFallbackQueue] using hsaved
        | false => simpa using hpop
    | clearing next =>
      rw [hp] at hphase
      have hqueue : QueueOk {s with operations := Function.update s.operations w rest}
          s.acknowledged s.removed w next := hphase.1.1.mono (fun _ h => h) fun _ h => h
      have hwaiting : ∀ p∈Function.update s.operations w rest w, p.phase=.waiting := by
        simpa using hrest
      have hspares : ∀ x∈s.stores.rows, x.warehouseId=w → x.idempotencyKey∉op.request.removes :=
        fun x hx hw => hphase.1.2.2 x ((hphase.2 x).mpr ⟨hx,hw⟩)
      have hcleared := hpop.acknowledge hwaiting (hrequest.mono (fun _ h => h) (fun _ h => h) rfl)
        (by simpa using hapart) hqueue hphase.1.2 hspares
        (Or.inr ⟨rfl,fun x hx => ((hphase.2 x).mp hx).1⟩)
      simpa [removeFallbackQueue] using hcleared

theorem Tab.Inv.withLoads (hs : s.Inv b) {loads : List Call} {answers : List Answer}
    (hloads : ∀ c∈loads, c.Ok s) (hanswers : ∀ a∈answers, a.Right) :
    ({s with loads, answers} : Tab).Inv b where
  told := hs.told
  clean := hs.clean
  rows := hs.rows
  gone := hs.gone
  entry v entry hentry := (hs.entry v entry hentry).mono (fun _ h => h) fun _ h => h
  kept := hs.kept
  removed := hs.removed
  apart := hs.apart
  requests v op hop := (hs.requests v op hop).mono (fun _ h => h) (fun _ h => h) rfl
  first v op hop := (hs.first v op hop).mono (fun _ h => h) (fun _ h => h) rfl rfl rfl
  waiting := hs.waiting
  loads c hc :=
    { load := (hloads c hc).load.mono (fun _ h => h) (fun _ h => h) fun _ _ _ hx => hx
      acknowledged := (hloads c hc).acknowledged
      removed := (hloads c hc).removed }
  answers := hanswers

theorem Call.Ok.settled {c : Call} (h : c.Ok s) {stores : Stores} (hstores : Settles s stores) :
    c.Ok {s with stores} where
  load := h.load.mono (fun _ h => h) (fun _ h => h) fun x _ _ hx => hstores.rows x hx
  acknowledged := h.acknowledged
  removed := h.removed

theorem Tab.Inv.proceed (hs : s.Inv b) (i : ℕ) (o : Outcome)
    (hfits : ∀ call∈s.loads[i]?, call.load.Fits s o) : (s.proceed b i o).Inv b := by
  unfold Tab.proceed
  cases hcall : s.loads[i]? with
  | none => exact hs
  | some call =>
    have hok := hs.loads call (List.mem_of_getElem? hcall)
    have hresult := hok.load.step hs hok.removed o
    have hsettles := hok.load.settles hs o (hfits call hcall)
    have hsettled := hs.settle hsettles
    simp only []
    generalize call.load.step b s.stores o=result at hresult hsettles hsettled ⊢
    obtain ⟨stores,result⟩ := result
    cases result with
    | waits load =>
      refine hsettled.withLoads (fun c hc => ?_) hs.answers
      cases List.mem_or_eq_of_mem_set hc with
      | inl hold => exact (hs.loads c hold).settled hsettles
      | inr hself =>
        have hload : Call.Ok s {call with load} := ⟨hresult.1,hok.acknowledged,hok.removed⟩
        exact hself ▸ hload.settled hsettles
    | answered scans =>
      have hqueue : QueueOk s call.acknowledged call.removed call.load.warehouseId scans := hresult
      refine hsettled.withLoads (fun c hc => ?_) fun a ha => ?_
      · exact (hs.loads c (List.mem_of_mem_eraseIdx hc)).settled hsettles
      · cases List.mem_append.mp ha with
        | inl hold => exact hs.answers a hold
        | inr hnew =>
          rw [List.mem_singleton] at hnew
          rw [hnew]
          exact ⟨hqueue.kept,hqueue.gone,fun x hx => (hqueue.known x hx).symm⟩
    | thrown =>
      refine hsettled.withLoads (fun c hc => ?_) hs.answers
      exact (hs.loads c (List.mem_of_mem_eraseIdx hc)).settled hsettles

theorem Tab.Inv.grow (hs : s.Inv b) {appending : List StoredRfOfflineScan} {removing : List Removal}
    (happending : ∀ x∈s.appending, x∈appending) (hremoving : ∀ r∈s.removing, r∈removing)
    (htold : Told appending) (hclean : ∀ x∈appending, normalizeScan b x=some x) :
    ({s with appending, removing} : Tab).Inv b where
  told := htold
  clean := hclean
  rows x hx := happending x (hs.rows x hx)
  gone := hs.gone
  entry v entry hentry := (hs.entry v entry hentry).mono happending hremoving
  kept v hnone x hx hv hr := hs.kept v hnone x hx hv (mt (hremoving _) hr)
  removed r hr := hremoving r (hs.removed r hr)
  apart := hs.apart
  requests v op hop := (hs.requests v op hop).mono happending hremoving rfl
  first v op hop := (hs.first v op hop).mono happending hremoving rfl rfl rfl
  waiting := hs.waiting
  loads c hc :=
    { load := (hs.loads c hc).load.mono happending hremoving fun _ _ _ hx => hx
      acknowledged := (hs.loads c hc).acknowledged
      removed := (hs.loads c hc).removed }
  answers := hs.answers

theorem Tab.Inv.enqueue (hs : s.Inv b) {r : Request} (hr : r.Ok s w)
    (hapart : ∀ p∈s.operations w, p.request.Apart r) :
    ({s with operations := s.enqueue w r} : Tab).Inv b := by
  refine hs.withOperations ?_ ?_ ?_ ?_
  · refine List.pairwise_append.mpr
      ⟨hs.apart w,List.pairwise_singleton _ _,fun p hp q hq => ?_⟩
    rw [List.mem_singleton] at hq
    exact hq ▸ hapart p hp
  · intro p hp
    cases List.mem_append.mp hp with
    | inl hold => exact hs.requests w p hold
    | inr hnew =>
      rw [List.mem_singleton] at hnew
      exact hnew ▸ hr
  · intro p hp
    cases hops : s.operations w with
    | nil =>
      rw [hops] at hp
      cases hp
      trivial
    | cons op rest =>
      have hhead : p∈(s.operations w).head? := by
        rw [hops] at hp ⊢
        exact hp
      exact hs.first w p hhead
  · intro p hp
    cases hops : s.operations w with
    | nil =>
      rw [hops] at hp
      cases hp
    | cons op rest =>
      rw [hops] at hp
      cases List.mem_append.mp hp with
      | inl hold => exact hs.waiting w p (by rw [hops]; exact hold)
      | inr hnew =>
        rw [List.mem_singleton] at hnew
        rw [hnew]

theorem Tab.Inv.append (hs : s.Inv b) {x : StoredRfOfflineScan} (hfresh : Fresh b s x)
    (hwarehouse : x.warehouseId=w) : ({s with
      operations := s.enqueue w (.append x), appending := s.appending++[x]} : Tab).Inv b := by
  have htold : Told (s.appending++[x]) := by
    intro y hy z hz hkey
    simp only [List.mem_append,List.mem_singleton] at hy hz
    cases hy with
    | inl hy =>
      cases hz with
      | inl hz => exact hs.told y hy z hz hkey
      | inr hz =>
        rw [hz] at hkey
        exact absurd hkey (hfresh.2.1 y hy)
    | inr hy =>
      cases hz with
      | inl hz =>
        rw [hy] at hkey
        exact absurd hkey.symm (hfresh.2.1 z hz)
      | inr hz => rw [hy,hz]
  have hclean : ∀ y∈s.appending++[x], normalizeScan b y=some y := by
    intro y hy
    cases List.mem_append.mp hy with
    | inl hold => exact hs.clean y hold
    | inr hnew =>
      rw [List.mem_singleton] at hnew
      exact hnew ▸ hfresh.1
  have hgrown := hs.grow (fun y hy => List.mem_append_left _ hy) (fun _ h => h) htold hclean
  have hself : ∀ y∈(Request.append x).appended, y=x := fun y hy => List.mem_singleton.mp hy
  refine hgrown.enqueue ⟨fun y hy => ?_,fun y hy hgone => ?_,fun k hk => ?_⟩
    fun p hp y hy hkey => ?_
  · rw [hself y hy]
    exact ⟨List.mem_append_right _ List.mem_cons_self,hwarehouse⟩
  · rw [hself y hy] at hgone
    exact hfresh.2.2 _ (hs.removed _ hgone) rfl
  · cases hk
  · rw [hself y hy] at hkey
    exact hfresh.2.2 _ ((hs.requests w p hp).removes _ hkey) rfl

theorem Tab.Inv.remove (hs : s.Inv b) (w : Str) (keys : List Str) : ({s with
    operations := s.enqueue w (.remove keys), removing := s.removing++keys.map (w,·)} : Tab).Inv
      b := by
  have hgrown := hs.grow (fun _ h => h) (fun r hr => List.mem_append_left (keys.map (w,·)) hr)
    hs.told hs.clean
  have hnone : ∀ y, y∉(Request.remove keys).appended := fun y => List.not_mem_nil
  refine hgrown.enqueue ⟨fun y hy => absurd hy (hnone y),fun y hy => absurd hy (hnone y),?_⟩ ?_
  · exact fun k hk => List.mem_append_right _ (List.mem_map_of_mem hk)
  · exact fun p hp y hy => absurd hy (hnone y)

theorem Tab.Inv.act (hs : s.Inv b) {a : Action} (hfits : Fits b s a) : (act b s a).Inv b := by
  cases a with
  | append warehouseId scan => exact hs.append hfits rfl
  | remove warehouseId keys => exact hs.remove _ keys
  | load warehouseId =>
    obtain ⟨fallback,hfallback,hload⟩ := hs.load_ok (normalizeWarehouse b warehouseId)
    unfold OfflineQueue.act
    simp only [hfallback]
    refine hs.withLoads (fun c hc => ?_) hs.answers
    cases List.mem_append.mp hc with
    | inl hold => exact hs.loads c hold
    | inr hnew =>
      rw [List.mem_singleton] at hnew
      rw [hnew]
      exact ⟨hload,fun _ h => h,fun _ h => h⟩
  | operate w o => exact hs.operate o hfits
  | proceed i o => exact hs.proceed i o hfits

theorem inv_empty : Tab.empty.Inv b where
  told x hx := by cases hx
  clean x hx := by cases hx
  rows x hx := by cases hx
  gone x hx := by cases hx
  entry w entry hentry := by cases hentry
  kept w _ x hx := by cases hx
  removed r hr := by cases hr
  apart w := List.Pairwise.nil
  requests w op hop := by cases hop
  first w op hop := by cases hop
  waiting w op hop := by cases hop
  loads c hc := by cases hc
  answers a ha := by cases ha

end Invariant

/-- Where the two stores keep the queue together, every load answers what it should. -/
theorem queue_durable (b : Browser) (as : List Action)
    (h : Histories.Throughout (act b) (Fits b) Tab.empty as) :
    ∀ bs, bs<+:as → Durable (Histories.run (act b) Tab.empty bs) := by
  intro bs hbs
  have hinv : (Histories.run (act b) Tab.empty bs).Inv b :=
    (h.before hbs).inv inv_empty fun s a hs ha => hs.act ha
  exact hinv.answers

/-- The language and the time of the scan below. -/
def demoBrowser : Browser :=
  ⟨Language.ascii,fun s =>
    if s="2026-05-04T08:00:00.000Z".toList then some 1777881600000 else none⟩

def demoScan : StoredRfOfflineScan where
  idempotencyKey := "rf-7-1".toList
  warehouseId := "MAIN".toList
  sessionReference := none
  taskReference := some "7".toList
  stepKey := some "SCAN_SOURCE_LOCATION".toList
  scannedValue := "A-01".toList
  quantity := none
  recordedAt := "2026-05-04T08:00:00.000Z".toList
  metadata := .object []

/-- The scan is appended and removed, and the queue is loaded; `saved` is whether IndexedDB takes
what the removal leaves. -/
def removal (saved : Bool) : List Action :=
  let main := "MAIN".toList
  let works : Outcome := ⟨true,true⟩
  [.append main demoScan,.operate main works,.operate main works,.operate main works,
    .operate main works,.remove main [demoScan.idempotencyKey],.operate main works,
    .operate main works,.operate main ⟨saved,true⟩,.operate main works,.load main,
    .proceed 0 works,.proceed 0 works,.proceed 0 works]

theorem queue_durable_demo : Durable (Histories.run (act demoBrowser) Tab.empty (removal true)) :=
  queue_durable demoBrowser (removal true) (by decide +kernel) _ (List.prefix_refl _)

/-- A removal that is saved to localStorage leaves the scan in IndexedDB, and the next load brings
it back. -/
theorem removed_scan_returns :
    ¬Durable (Histories.run (act demoBrowser) Tab.empty (removal false)) := by
  intro h
  have hanswer : (Histories.run (act demoBrowser) Tab.empty (removal false)).answers.all
      (fun a => a.scans.all fun x => (a.warehouseId,x.idempotencyKey)∉a.removed)=false := by
    decide +kernel
  have hright : (Histories.run (act demoBrowser) Tab.empty (removal false)).answers.all
      (fun a => a.scans.all fun x => (a.warehouseId,x.idempotencyKey)∉a.removed)=true := by
    refine List.all_eq_true.mpr fun a ha => List.all_eq_true.mpr fun x hx => ?_
    exact decide_eq_true ((h a ha).gone x hx)
  rw [hanswer] at hright
  cases hright

end AardvarkWms.OfflineQueue
