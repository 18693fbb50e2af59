import AardvarkWms.Texts
import Mathlib.Data.List.Sort

/-! The scans that a scanner keeps offline in the browser's two stores:
`src/core/scanning/rfOfflineQueue.ts`. -/
namespace AardvarkWms.OfflineQueue

open Messaging (Str trim)

section Scans

structure StoredRfOfflineScan where
  idempotencyKey : Str
  warehouseId : Str
  sessionReference : Option Str
  taskReference : Option Str
  stepKey : Option Str
  scannedValue : Str
  quantity : Option ℚ
  recordedAt : Str
  metadata : Json
  deriving DecidableEq

/-- What the code calls: the language, and `Date.parse`, where none is NaN. -/
structure Browser where
  lang : Language
  dateParse : Str → Option ℤ

variable (b : Browser)

def normalizeWarehouse (value : Str) : Str :=
  if b.lang.toUpperCase (trim value)=[] then "MAIN".toList else b.lang.toUpperCase (trim value)

def optionalString (value : Option Str) : Option Str := (value.map trim).filter (·≠[])

def objectValue : Json → Json
  | .object fields => .object fields
  | _ => .object []

/-- An entry of a store as it is read; one without its texts is not. -/
def normalizeScan (scan : StoredRfOfflineScan) : Option StoredRfOfflineScan :=
  if trim scan.idempotencyKey=[] ∨ trim scan.scannedValue=[] ∨ trim scan.recordedAt=[] then none
  else some
    { idempotencyKey := trim scan.idempotencyKey
      warehouseId := normalizeWarehouse b
        (if trim scan.warehouseId=[] then "MAIN".toList else trim scan.warehouseId)
      sessionReference := optionalString scan.sessionReference
      taskReference := optionalString scan.taskReference
      stepKey := optionalString scan.stepKey
      scannedValue := trim scan.scannedValue
      quantity := scan.quantity
      recordedAt := trim scan.recordedAt
      metadata := objectValue scan.metadata }

def normalizeScans (scans : List StoredRfOfflineScan) : List StoredRfOfflineScan :=
  scans.filterMap (normalizeScan b)

/-- The newest first; with a time that is not one nothing is before or after. -/
def notAfter (left right : StoredRfOfflineScan) : Bool :=
  match b.dateParse right.recordedAt, b.dateParse left.recordedAt with
  | some r, some l => r-l≤0
  | _, _ => true

def sortAndLimit (scans : List StoredRfOfflineScan) : List StoredRfOfflineScan :=
  scans.insertionSort fun left right => notAfter b left right

/-- `Map.set` of a scan under its key. -/
def setScan (merged : List StoredRfOfflineScan) (scan : StoredRfOfflineScan) :
    List StoredRfOfflineScan :=
  if merged.any (·.idempotencyKey=scan.idempotencyKey) then
    merged.map fun s => if s.idempotencyKey=scan.idempotencyKey then scan else s
  else merged++[scan]

def mergeScans (groups : List (List StoredRfOfflineScan)) : List StoredRfOfflineScan :=
  sortAndLimit b (groups.flatten.foldl setScan [])

end Scans

section Stores

/-- The rows of the object store in the order of their keys, and the entries of localStorage. -/
structure Stores where
  rows : List StoredRfOfflineScan
  fallback : Str → Option (List StoredRfOfflineScan)

variable (b : Browser)

/-- All rows, if none is corrupt. -/
def readAll (stores : Stores) : Option (List StoredRfOfflineScan) :=
  if (normalizeScans b stores.rows).length≠stores.rows.length then none
  else some (normalizeScans b stores.rows)

/-- The order of two keys, unit by unit. -/
def unitsLe : List ℕ → List ℕ → Bool
  | [], _ => true
  | _::_, [] => false
  | m::ms, n::ns => m < n || (m=n && unitsLe ms ns)

def keyLe (left right : StoredRfOfflineScan) : Bool :=
  unitsLe (codeUnits left.idempotencyKey) (codeUnits right.idempotencyKey)

/-- `IDBObjectStore.put` -/
def put (rows : List StoredRfOfflineScan) (scan : StoredRfOfflineScan) :
    List StoredRfOfflineScan :=
  (rows.filter (·.idempotencyKey≠scan.idempotencyKey)).orderedInsert (fun x y => keyLe x y) scan

/-- The one transaction: the warehouse's rows go, and the scans are put. -/
def replaceWarehouseQueue (stores : Stores) (warehouseId : Str)
    (scans : List StoredRfOfflineScan) : Stores :=
  {stores with rows := scans.foldl put (stores.rows.filter (·.warehouseId≠warehouseId))}

/-- The warehouse's entry, or none where it is unreadable. -/
def loadFallbackQueue (stores : Stores) (warehouseId : Str) :
    Option (Option (List StoredRfOfflineScan)) :=
  match stores.fallback warehouseId with
  | none => some none
  | some parsed =>
    let normalized := (normalizeScans b parsed).map fun scan => {scan with warehouseId}
    if normalized.length≠parsed.length then none else some (some (sortAndLimit b normalized))

def saveFallbackQueue (stores : Stores) (warehouseId : Str) (scans : List StoredRfOfflineScan) :
    Stores :=
  {stores with fallback := Function.update stores.fallback warehouseId (some scans)}

def removeFallbackQueue (stores : Stores) (warehouseId : Str) : Stores :=
  {stores with fallback := Function.update stores.fallback warehouseId none}

end Stores

section Members
variable {b : Browser} {A : List StoredRfOfflineScan} {x scan : StoredRfOfflineScan}

/-- The keys tell the scans apart. -/
def Told (A : List StoredRfOfflineScan) : Prop :=
  ∀ x∈A, ∀ y∈A, x.idempotencyKey=y.idempotencyKey → x=y

theorem mem_setScan (hA : Told A) {merged : List StoredRfOfflineScan}
    (hmerged : ∀ y∈merged, y∈A) (hscan : scan∈A) : x∈setScan merged scan ↔ x∈merged ∨ x=scan := by
  unfold setScan
  by_cases hany : merged.any (·.idempotencyKey=scan.idempotencyKey)=true
  · rw [if_pos hany]
    obtain ⟨y,hy,hkey⟩ := List.any_eq_true.mp hany
    have hsame : y=scan := hA y (hmerged y hy) scan hscan (of_decide_eq_true hkey)
    have hself : ∀ s∈merged, (if s.idempotencyKey=scan.idempotencyKey then scan else s)=s := by
      intro s hs
      by_cases hs' : s.idempotencyKey=scan.idempotencyKey
      · rw [if_pos hs',hA s (hmerged s hs) scan hscan hs']
      · rw [if_neg hs']
    rw [List.map_congr_left hself,List.map_id']
    constructor
    · exact fun h => Or.inl h
    · intro h
      cases h with
      | inl hx => exact hx
      | inr hx => exact hx ▸ hsame ▸ hy
  · rw [if_neg hany,List.mem_append,List.mem_singleton]

theorem mem_foldl_setScan (hA : Told A) (scans : List StoredRfOfflineScan) :
    ∀ merged : List StoredRfOfflineScan, (∀ y∈merged, y∈A) → (∀ y∈scans, y∈A) →
      (x∈scans.foldl setScan merged ↔ x∈merged ∨ x∈scans) := by
  induction scans with
  | nil => simp
  | cons scan scans ih =>
    intro merged hmerged hscans
    have hfirst := hscans scan List.mem_cons_self
    have hset : ∀ y∈setScan merged scan, y∈A := by
      intro y hy
      cases (mem_setScan hA hmerged hfirst).mp hy with
      | inl h => exact hmerged y h
      | inr h => exact h ▸ hfirst
    rw [List.foldl_cons,ih _ hset fun y hy => hscans y (List.mem_cons_of_mem _ hy),
      mem_setScan hA hmerged hfirst,List.mem_cons,or_assoc]

theorem mem_mergeScans (hA : Told A) {groups : List (List StoredRfOfflineScan)}
    (hgroups : ∀ g∈groups, ∀ y∈g, y∈A) :
    x∈mergeScans b groups ↔ ∃ g∈groups, x∈g := by
  have hflat : ∀ y∈groups.flatten, y∈A := by
    intro y hy
    obtain ⟨g,hg,hyg⟩ := List.mem_flatten.mp hy
    exact hgroups g hg y hyg
  have hperm := List.perm_insertionSort (fun left right => notAfter b left right=true)
    (groups.flatten.foldl setScan [])
  unfold mergeScans sortAndLimit
  rw [hperm.mem_iff,mem_foldl_setScan hA _ [] (fun y hy => by cases hy) hflat,List.mem_flatten]
  simp

theorem mem_put (hA : Told A) {rows : List StoredRfOfflineScan} (hrows : ∀ y∈rows, y∈A)
    (hscan : scan∈A) : x∈put rows scan ↔ x∈rows ∨ x=scan := by
  unfold put
  rw [List.mem_orderedInsert,List.mem_filter,decide_eq_true_iff]
  constructor
  · intro h
    cases h with
    | inl hx => exact Or.inr hx
    | inr hx => exact Or.inl hx.1
  · intro h
    by_cases hkey : x.idempotencyKey=scan.idempotencyKey
    · cases h with
      | inl hx => exact Or.inl (hA x (hrows x hx) scan hscan hkey)
      | inr hx => exact Or.inl hx
    · cases h with
      | inl hx => exact Or.inr ⟨hx,hkey⟩
      | inr hx => exact Or.inl hx

theorem mem_foldl_put (hA : Told A) (scans : List StoredRfOfflineScan) :
    ∀ rows : List StoredRfOfflineScan, (∀ y∈rows, y∈A) → (∀ y∈scans, y∈A) →
      (x∈scans.foldl put rows ↔ x∈rows ∨ x∈scans) := by
  induction scans with
  | nil => simp
  | cons scan scans ih =>
    intro rows hrows hscans
    have hfirst := hscans scan List.mem_cons_self
    have hput : ∀ y∈put rows scan, y∈A := by
      intro y hy
      cases (mem_put hA hrows hfirst).mp hy with
      | inl h => exact hrows y h
      | inr h => exact h ▸ hfirst
    rw [List.foldl_cons,ih _ hput fun y hy => hscans y (List.mem_cons_of_mem _ hy),
      mem_put hA hrows hfirst,List.mem_cons,or_assoc]

theorem mem_replaceWarehouseQueue (hA : Told A) {stores : Stores}
    (hrows : ∀ y∈stores.rows, y∈A) {w : Str} {scans : List StoredRfOfflineScan}
    (hscans : ∀ y∈scans, y∈A) : x∈(replaceWarehouseQueue stores w scans).rows ↔
      x∈stores.rows ∧ x.warehouseId≠w ∨ x∈scans := by
  have hothers : ∀ y∈stores.rows.filter (·.warehouseId≠w), y∈A := fun y hy =>
    hrows y (List.mem_of_mem_filter hy)
  have hfold := @mem_foldl_put A x hA scans _ hothers hscans
  unfold replaceWarehouseQueue
  rw [hfold,List.mem_filter,decide_eq_true_iff]

theorem normalizeScans_clean {xs : List StoredRfOfflineScan}
    (h : ∀ x∈xs, normalizeScan b x=some x) : normalizeScans b xs=xs := by
  induction xs with
  | nil => rfl
  | cons x xs ih =>
    have hrest := ih fun y hy => h y (List.mem_cons_of_mem _ hy)
    unfold normalizeScans at hrest ⊢
    rw [List.filterMap_cons,h x List.mem_cons_self,hrest]

theorem readAll_clean {stores : Stores} (h : ∀ x∈stores.rows, normalizeScan b x=some x) :
    readAll b stores=some stores.rows := by
  unfold readAll
  rw [normalizeScans_clean h]
  simp

theorem loadFallbackQueue_clean {stores : Stores} {w : Str} (h : ∀ entry∈stores.fallback w,
      ∀ x∈entry, normalizeScan b x=some x ∧ x.warehouseId=w) :
    loadFallbackQueue b stores w=some ((stores.fallback w).map (sortAndLimit b)) := by
  unfold loadFallbackQueue
  cases hentry : stores.fallback w with
  | none => rfl
  | some entry =>
    have hscans := h entry hentry
    have hself : ∀ x∈entry, {x with warehouseId := w}=x := by
      intro x hx
      rw [← (hscans x hx).2]
    simp only [normalizeScans_clean fun x hx => (hscans x hx).1,List.map_congr_left hself,
      List.map_id']
    simp

theorem mem_sortAndLimit {xs : List StoredRfOfflineScan} : x∈sortAndLimit b xs ↔ x∈xs :=
  (List.perm_insertionSort _ _).mem_iff

end Members

end AardvarkWms.OfflineQueue
