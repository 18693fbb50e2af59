import AardvarkWms.ArraySorting
import AardvarkWms.JsonText
import AardvarkWms.Messaging
import Mathlib.Data.Rat.Floor

/-! The plan of a picking wave: `src/wave-picking/wave-picking.helpers.ts`. -/
namespace AardvarkWms.WavePlanning

open ArraySorting Messaging
open JsonText (JsValue)

/-- A number of the language. -/
inductive Number
  | nan
  | infinite (negative : Bool)
  | finite (q : ℚ)
  deriving DecidableEq

namespace Number

variable (rounded : ℚ → ℚ)

def neg : Number → Number
  | .nan => .nan
  | .infinite negative => .infinite (!negative)
  | .finite q => .finite (-q)

/-- The sums of a plan are never too large to be finite. -/
def add : Number → Number → Number
  | .nan, _ => .nan
  | _, .nan => .nan
  | .finite p, .finite q => .finite (rounded (p+q))
  | .infinite negative, .finite _ => .infinite negative
  | .finite _, .infinite negative => .infinite negative
  | .infinite negative, .infinite negative' =>
    if negative=negative' then .infinite negative else .nan

def sub (a b : Number) : Number := add rounded a b.neg

def map (f : ℚ → ℚ) : Number → Number
  | .finite q => .finite (f q)
  | n => n

/-- `Math.max(0, n)` -/
def atLeastZero : Number → Number
  | .nan => .nan
  | .infinite negative => if negative then .finite 0 else .infinite false
  | .finite q => .finite (max 0 q)

/-- `a === b` -/
def same (a b : Number) : Bool := a≠.nan && a=b

/-- How a comparison that returns `a - b` is read; of no number it is read as equal. -/
def sign : Number → Number → Ordering
  | .finite p, .finite q => compare p q
  | .infinite negative, .finite _ => if negative then .lt else .gt
  | .finite _, .infinite negative => if negative then .gt else .lt
  | .infinite negative, .infinite negative' => compare negative' negative
  | _, _ => .eq

/-- `a < b` -/
def Less (a b : Number) : Prop := sign a b=.lt

end Number

section Plans

/-- A time in milliseconds, if it is one. -/
abbrev Time : Type := Option ℤ

def timeNumber (time : Time) : Number := (time.map fun t => Number.finite t).getD .nan

structure WaveCandidateOrder where
  id : Str
  orderNumber : Str
  status : Str
  carrier : Option Str
  serviceLevel : Option Str
  shipBy : Option Time
  priority : Option Number
  zone : Option Str
  deriving DecidableEq

/-- The priority of a candidate, of its order's metadata. -/
def candidatePriority (toNumber : JsValue → Number) (metadata : JsValue) : Option Number :=
  match metadata with
  | .object fields =>
    (fields.find? (·.1=Numerals.units "priority")).map fun field => toNumber field.2
  | _ => none

structure WavePlanningOptions where
  maxOrders : Option ℤ
  carrier : Option Str
  serviceLevel : Option Str
  zone : Option Str
  cutoffAt : Option Time

structure WavePlanOrder where
  orderId : Str
  orderNumber : Str
  sequence : ℕ
  priorityScore : Number
  deriving DecidableEq

inductive PickWaveStatus
  | DRAFT | PLANNED | RELEASED | PICKING | COMPLETED | CANCELLED | EXCEPTION
  deriving DecidableEq

@[ext] structure WavePlan where
  status : PickWaveStatus
  orders : List WavePlanOrder
  rejectedOrderIds : List Str
  deriving DecidableEq

/-- What the language does: its upper case, order of texts, sorting and arithmetic. -/
structure Runtime where
  toUpperCase : Str → Str
  localeCompare : Str → Str → Ordering
  localeCompare_trans : Std.TransCmp localeCompare
  sorting : SortMethod
  rounded : ℚ → ℚ

variable (r : Runtime) (options : WavePlanningOptions) (now : ℤ)

def allowedOutboundStatuses : List Str := ["ALLOCATED".toList,"PICKING".toList]

def normalizeNullable (value : Option Str) : Option Str :=
  (value.map fun s => r.toUpperCase (trim s)).filter (·≠[])

/-- A wish that is not empty is to be met. -/
def meets (wanted actual : Option Str) : Bool :=
  match wanted.filter (·≠[]) with
  | none => true
  | some wanted => normalizeNullable r actual=normalizeNullable r (some wanted)

/-- Whether an order is to ship after the cutoff. -/
def isLate (order : WaveCandidateOrder) : Bool :=
  match options.cutoffAt, order.shipBy with
  | some cutoffAt, some shipBy => (timeNumber cutoffAt).sign (timeNumber shipBy)=.lt
  | _, _ => false

def isAccepted (order : WaveCandidateOrder) : Bool :=
  order.status∈allowedOutboundStatuses && meets r options.carrier order.carrier &&
    meets r options.serviceLevel order.serviceLevel && meets r options.zone order.zone &&
    !isLate options order

def basePriority (order : WaveCandidateOrder) : Number :=
  match order.priority with
  | some priority => (Number.sub r.rounded (.finite 1000) priority).atLeastZero
  | none => .finite 100

def shipByBoost (order : WaveCandidateOrder) : Number :=
  match order.shipBy with
  | some shipBy =>
    let minutes := (Number.sub r.rounded (timeNumber shipBy) (.finite now)).map fun q =>
      ⌊r.rounded (q/60000)⌋
    (Number.sub r.rounded (.finite 720) minutes).atLeastZero
  | none => .finite 0

def calculateWavePriorityScore (order : WaveCandidateOrder) : Number :=
  (basePriority r order).add r.rounded (shipByBoost r now order)

/-- An order and its score. -/
abbrev Entry : Type := WaveCandidateOrder × Number

/-- `Number.MAX_SAFE_INTEGER` stands for no date. -/
def shipTime (order : WaveCandidateOrder) : Number :=
  match order.shipBy with
  | some shipBy => timeNumber shipBy
  | none => .finite 9007199254740991

def compareEntries (a b : Entry) : Ordering :=
  if !a.2.same b.2 then b.2.sign a.2
  else if !(shipTime a.1).same (shipTime b.1) then (shipTime a.1).sign (shipTime b.1)
  else r.localeCompare a.1.orderNumber b.1.orderNumber

def accepted (candidates : List WaveCandidateOrder) : List WaveCandidateOrder :=
  candidates.filter (isAccepted r options)

/-- Those whose id no accepted order has. -/
def rejectedIds (candidates : List WaveCandidateOrder) : List Str :=
  (candidates.filter fun order =>
    !(accepted r options candidates).any fun a => a.id=order.id).map (·.id)

def limit (candidates : List WaveCandidateOrder) : ℕ :=
  (max 1 (min (options.maxOrders.getD (accepted r options candidates).length) 500)).toNat

def ranked (candidates : List WaveCandidateOrder) : List Entry :=
  r.sorting.sort (compareEntries r)
    ((accepted r options candidates).map fun order => (order,calculateWavePriorityScore r now order))

def buildWavePlan (candidates : List WaveCandidateOrder) : WavePlan :=
  let entries := (ranked r options now candidates).take (limit r options candidates)
  let orders := entries.zipIdx.map fun entry =>
    { orderId := entry.1.1.id
      orderNumber := entry.1.1.orderNumber
      sequence := entry.2+1
      priorityScore := entry.1.2 }
  { status := if 0 < orders.length then .PLANNED else .DRAFT
    orders := orders
    rejectedOrderIds := rejectedIds r options candidates }

end Plans

section Comparing

/-- Where a number stands among the others. -/
def Number.rank : Number → ℕ × ℚ
  | .nan => (0,0)
  | .infinite negative => (if negative then 1 else 3,0)
  | .finite q => (2,q)

def Number.order (a b : Number) : Ordering :=
  (compare a.rank.1 b.rank.1).then (compare a.rank.2 b.rank.2)

instance transOrder : Std.TransCmp Number.order :=
  inferInstanceAs (Std.TransCmp (compareLex (compareOn fun n : Number => n.rank.1)
    (compareOn fun n : Number => n.rank.2)))

theorem Number.sign_eq_order {a b : Number} (ha : a≠.nan) (hb : b≠.nan) : a.sign b=a.order b := by
  cases a with
  | nan => exact absurd rfl ha
  | finite p =>
    cases b with
    | nan => exact absurd rfl hb
    | finite q => rfl
    | infinite negative => cases negative <;> rfl
  | infinite negative =>
    cases b with
    | nan => exact absurd rfl hb
    | finite q => cases negative <;> rfl
    | infinite negative' => cases negative <;> cases negative' <;> rfl

theorem Number.sign_eq {a b : Number} (ha : a≠.nan) (hb : b≠.nan) : a.sign b=.eq ↔ a=b := by
  cases a with
  | nan => exact absurd rfl ha
  | finite p =>
    cases b with
    | nan => exact absurd rfl hb
    | finite q => simp [Number.sign]
    | infinite negative => cases negative <;> simp [Number.sign]
  | infinite negative =>
    cases b with
    | nan => exact absurd rfl hb
    | finite q => cases negative <;> simp [Number.sign]
    | infinite negative' => cases negative <;> cases negative' <;> decide

theorem Number.same_iff {a b : Number} (ha : a≠.nan) (hb : b≠.nan) :
    a.same b=true ↔ a.sign b=.eq := by
  rw [Number.sign_eq ha hb]
  simp [Number.same,ha]

@[simp] theorem Number.sign_nan (a : Number) : a.sign .nan=.eq := by
  cases a <;> rfl

variable (r : Runtime) (now : ℤ)

/-- The order has a score. -/
def IsRated (a : WaveCandidateOrder) : Prop := calculateWavePriorityScore r now a≠.nan

instance decidableIsRated (a : WaveCandidateOrder) : Decidable (IsRated r now a) :=
  inferInstanceAs (Decidable (calculateWavePriorityScore r now a≠.nan))

/-- One order goes before another, by score, ship date and order number. -/
def Precedes (a b : WaveCandidateOrder) : Prop :=
  (calculateWavePriorityScore r now b).Less (calculateWavePriorityScore r now a) ∨
    (calculateWavePriorityScore r now a).same (calculateWavePriorityScore r now b)=true ∧
    ((shipTime a).Less (shipTime b) ∨ (shipTime a).same (shipTime b)=true ∧
      (r.localeCompare a.orderNumber b.orderNumber).isLE=true)

/-- Neither order's place is left open. -/
def Separated (a b : WaveCandidateOrder) : Prop :=
  IsRated r now a ∧ IsRated r now b ∧
    ¬(calculateWavePriorityScore r now a=calculateWavePriorityScore r now b ∧
      shipTime a=shipTime b ∧ r.localeCompare a.orderNumber b.orderNumber=.eq)

instance decidableSeparated : DecidableRel (Separated r now) := fun a b =>
  inferInstanceAs (Decidable (IsRated r now a ∧ IsRated r now b ∧
    ¬(calculateWavePriorityScore r now a=calculateWavePriorityScore r now b ∧
      shipTime a=shipTime b ∧ r.localeCompare a.orderNumber b.orderNumber=.eq)))

def entry (order : WaveCandidateOrder) : Entry := (order,calculateWavePriorityScore r now order)

variable {r now} {a b : WaveCandidateOrder}

theorem IsRated.shipTime (h : IsRated r now a) : shipTime a≠.nan := by
  intro hnan
  apply h
  have hinvalid : a.shipBy=some none := by
    unfold WavePlanning.shipTime at hnan
    cases hship : a.shipBy with
    | none =>
      rw [hship] at hnan
      cases hnan
    | some time =>
      cases time with
      | none => rfl
      | some t =>
        rw [hship] at hnan
        cases hnan
  have hboost : shipByBoost r now a=.nan := by
    unfold shipByBoost
    rw [hinvalid]
    rfl
  unfold calculateWavePriorityScore
  rw [hboost]
  cases basePriority r a <;> rfl

/-- The comparison of what is rated. -/
def rankEntries (r : Runtime) : Entry → Entry → Ordering :=
  compareLex (fun a b => b.2.order a.2) (compareLex
    (fun a b => (shipTime a.1).order (shipTime b.1))
    (fun a b => r.localeCompare a.1.orderNumber b.1.orderNumber))

instance transRankEntries : Std.TransCmp (rankEntries r) := by
  have hscore : Std.TransCmp fun a b : Entry => b.2.order a.2 :=
    { eq_swap := Std.OrientedCmp.eq_swap
      isLE_trans := fun hab hbc => Std.TransCmp.isLE_trans hbc hab }
  have hship : Std.TransCmp fun a b : Entry => (shipTime a.1).order (shipTime b.1) :=
    { eq_swap := Std.OrientedCmp.eq_swap
      isLE_trans := fun hab hbc => Std.TransCmp.isLE_trans hab hbc }
  have hlocale := r.localeCompare_trans
  have hnumber : Std.TransCmp fun a b : Entry => r.localeCompare a.1.orderNumber b.1.orderNumber :=
    { eq_swap := Std.OrientedCmp.eq_swap
      isLE_trans := fun hab hbc => Std.TransCmp.isLE_trans hab hbc }
  unfold rankEntries
  infer_instance

theorem compareEntries_rated (ha : IsRated r now a) (hb : IsRated r now b) :
    compareEntries r (entry r now a) (entry r now b)=
      ((calculateWavePriorityScore r now b).sign (calculateWavePriorityScore r now a)).then
        (((shipTime a).sign (shipTime b)).then (r.localeCompare a.orderNumber b.orderNumber)) := by
  have hscore := Number.same_iff ha hb
  have hship := Number.same_iff ha.shipTime hb.shipTime
  have hback : (calculateWavePriorityScore r now a).sign (calculateWavePriorityScore r now b)=.eq ↔
      (calculateWavePriorityScore r now b).sign (calculateWavePriorityScore r now a)=.eq := by
    rw [Number.sign_eq ha hb,Number.sign_eq hb ha,eq_comm]
  unfold compareEntries entry
  by_cases hs : (calculateWavePriorityScore r now a).same (calculateWavePriorityScore r now b)=true
  · rw [hback.mp (hscore.mp hs)]
    by_cases ht : (shipTime a).same (shipTime b)=true
    · rw [hship.mp ht]
      simp [hs,ht]
    · cases hsign : (shipTime a).sign (shipTime b) with
      | eq => exact absurd (hship.mpr hsign) ht
      | lt => simp [hs,ht]
      | gt => simp [hs,ht]
  · cases hsign : (calculateWavePriorityScore r now b).sign (calculateWavePriorityScore r now a) with
    | eq => exact absurd (hscore.mpr (hback.mpr hsign)) hs
    | lt => simp [hs]
    | gt => simp [hs]

theorem compareEntries_rank (ha : IsRated r now a) (hb : IsRated r now b) :
    compareEntries r (entry r now a) (entry r now b)=rankEntries r (entry r now a) (entry r now b) := by
  rw [compareEntries_rated ha hb,Number.sign_eq_order hb ha,
    Number.sign_eq_order ha.shipTime hb.shipTime]
  rfl

theorem compareEntries_self (a : WaveCandidateOrder) :
    compareEntries r (entry r now a) (entry r now a)=.eq := by
  have hlocale := r.localeCompare_trans
  unfold compareEntries entry
  split
  · rename_i hscore
    cases h : calculateWavePriorityScore r now a with
    | nan => rfl
    | finite q => simp [h,Number.same] at hscore
    | infinite negative => simp [h,Number.same] at hscore
  · split
    · rename_i hship
      cases h : shipTime a with
      | nan => rfl
      | finite q => simp [h,Number.same] at hship
      | infinite negative => simp [h,Number.same] at hship
    · exact Std.ReflCmp.compare_self

theorem precedes_iff (ha : IsRated r now a) (hb : IsRated r now b) : Precedes r now a b ↔
    (compareEntries r (entry r now a) (entry r now b)).isLE=true := by
  have hback : (calculateWavePriorityScore r now a).same (calculateWavePriorityScore r now b)=true ↔
      (calculateWavePriorityScore r now b).sign (calculateWavePriorityScore r now a)=.eq := by
    rw [Number.same_iff ha hb,Number.sign_eq ha hb,Number.sign_eq hb ha,eq_comm]
  rw [compareEntries_rated ha hb]
  unfold Precedes Number.Less
  rw [hback,Number.same_iff ha.shipTime hb.shipTime,Ordering.isLE_then_iff_or,
    Ordering.isLE_then_iff_or]

theorem Precedes.rated (h : Precedes r now a b) : IsRated r now a ∧ IsRated r now b := by
  have hless : ∀ m n : Number, m.Less n → m≠.nan ∧ n≠.nan := by
    intro m n hmn
    constructor
    · rintro rfl
      cases hmn
    · rintro rfl
      rw [Number.Less,Number.sign_nan] at hmn
      cases hmn
  cases h with
  | inl hscore => exact (hless _ _ hscore).symm
  | inr hsame =>
    have hboth := hsame.1
    rw [Number.same,Bool.and_eq_true,decide_eq_true_eq,decide_eq_true_eq] at hboth
    exact ⟨hboth.1,fun hb => hboth.1 (hboth.2.trans hb)⟩

theorem separated_iff (ha : IsRated r now a) (hb : IsRated r now b) :
    Separated r now a b ↔ compareEntries r (entry r now a) (entry r now b)≠.eq := by
  rw [compareEntries_rated ha hb,ne_eq,Ordering.then_eq_eq,Ordering.then_eq_eq,
    Number.sign_eq hb ha,Number.sign_eq ha.shipTime hb.shipTime]
  unfold Separated
  rw [and_iff_right ha,and_iff_right hb,eq_comm]

end Comparing

section Listings
variable (r : Runtime) (options : WavePlanningOptions) (now : ℤ)

/-- The plan of candidates is as it should be, in whatever order they are listed. -/
structure Orderly (candidates : List WaveCandidateOrder) : Prop where
  independent : ∀ listing, listing.Perm candidates →
    (buildWavePlan r options now listing).status=(buildWavePlan r options now candidates).status ∧
    (buildWavePlan r options now listing).orders=(buildWavePlan r options now candidates).orders ∧
    (buildWavePlan r options now listing).rejectedOrderIds.Perm
      (buildWavePlan r options now candidates).rejectedOrderIds
  sorted : (buildWavePlan r options now candidates).orders.Pairwise fun x y =>
    ∀ a∈candidates, ∀ b∈candidates, a.id=x.orderId → b.id=y.orderId → Precedes r now a b
  numbered : (buildWavePlan r options now candidates).orders.map (·.sequence)=
    List.range' 1 (buildWavePlan r options now candidates).orders.length
  placed : ∀ a∈candidates,
    isAccepted r options a=true ∧
      ((buildWavePlan r options now candidates).orders.map (·.orderId)).count a.id=1 ∧
      a.id∉(buildWavePlan r options now candidates).rejectedOrderIds ∨
    isAccepted r options a=false ∧
      a.id∉(buildWavePlan r options now candidates).orders.map (·.orderId) ∧
      (buildWavePlan r options now candidates).rejectedOrderIds.count a.id=1

/-- All the accepted orders fit in, and each has a place of its own among them. -/
def Settled (candidates : List WaveCandidateOrder) : Prop :=
  (accepted r options candidates).length≤limit r options candidates ∧
    (accepted r options candidates).Pairwise (Separated r now)

instance decidableSettled (candidates : List WaveCandidateOrder) :
    Decidable (Settled r options now candidates) :=
  inferInstanceAs (Decidable ((accepted r options candidates).length≤limit r options candidates ∧
    (accepted r options candidates).Pairwise (Separated r now)))

variable {r options now} {candidates listing : List WaveCandidateOrder} {a b : WaveCandidateOrder}

theorem ranked_eq (candidates : List WaveCandidateOrder) : ranked r options now candidates=
    r.sorting.sort (compareEntries r) ((accepted r options candidates).map (entry r now)) := rfl

theorem ranked_perm (candidates : List WaveCandidateOrder) : (ranked r options now candidates).Perm
    ((accepted r options candidates).map (entry r now)) := r.sorting.perm _ _

theorem orders_ids (candidates : List WaveCandidateOrder) :
    (buildWavePlan r options now candidates).orders.map (·.orderId)=
      ((ranked r options now candidates).take (limit r options candidates)).map (·.1.id) := by
  unfold buildWavePlan
  rw [List.map_map]
  have hzip := List.zipIdx_map_fst 0 ((ranked r options now candidates).take (limit r options candidates))
  nth_rewrite 2 [← hzip]
  rw [List.map_map]
  rfl

theorem orders_numbered (candidates : List WaveCandidateOrder) :
    (buildWavePlan r options now candidates).orders.map (·.sequence)=
      List.range' 1 (buildWavePlan r options now candidates).orders.length := by
  unfold buildWavePlan
  rw [List.map_map,List.length_map,List.length_zipIdx]
  have hzip := List.zipIdx_map_snd 0 ((ranked r options now candidates).take (limit r options candidates))
  have hsucc := congrArg (List.map (1+·)) hzip
  rw [List.map_map,List.map_add_range'] at hsucc
  rw [← hsucc]
  exact List.map_congr_left fun e _ => Nat.add_comm _ _

theorem accepted_perm (h : listing.Perm candidates) :
    (accepted r options listing).Perm (accepted r options candidates) := h.filter _

theorem limit_perm (h : listing.Perm candidates) :
    limit r options listing=limit r options candidates := by
  unfold limit
  rw [(accepted_perm h).length_eq]

theorem rejectedIds_eq (hset : (candidates.map (·.id)).Nodup) : rejectedIds r options candidates=
    (candidates.filter fun a => !isAccepted r options a).map (·.id) := by
  refine congrArg (List.map _) (List.filter_congr fun a ha => ?_)
  cases h : isAccepted r options a with
  | true =>
    have hany : ((accepted r options candidates).any fun b => b.id=a.id)=true :=
      List.any_eq_true.mpr ⟨a,List.mem_filter.mpr ⟨ha,h⟩,decide_eq_true rfl⟩
    rw [hany]
  | false =>
    have hnone : ((accepted r options candidates).any fun b => b.id=a.id)=false := by
      rw [List.any_eq_false]
      intro b hb hid
      have hmem := List.mem_filter.mp hb
      have hsame := List.inj_on_of_nodup_map hset hmem.1 ha (of_decide_eq_true hid)
      rw [hsame,h] at hmem
      cases hmem.2
    rw [hnone]

theorem rejectedIds_perm (hset : (candidates.map (·.id)).Nodup) (h : listing.Perm candidates) :
    (rejectedIds r options listing).Perm (rejectedIds r options candidates) := by
  have hset' : (listing.map (·.id)).Nodup := (h.map _).nodup_iff.mpr hset
  rw [rejectedIds_eq hset,rejectedIds_eq hset']
  exact (h.filter _).map _

theorem rejectedIds_nodup (hset : (candidates.map (·.id)).Nodup) :
    (rejectedIds r options candidates).Nodup := by
  unfold rejectedIds
  exact hset.sublist (List.filter_sublist.map _)

theorem mem_rejectedIds (hset : (candidates.map (·.id)).Nodup) (ha : a∈candidates) :
    a.id∈rejectedIds r options candidates ↔ isAccepted r options a=false := by
  rw [rejectedIds_eq hset,List.mem_map]
  constructor
  · intro ⟨b,hb,hid⟩
    have hmem := List.mem_filter.mp hb
    have hsame := List.inj_on_of_nodup_map hset hmem.1 ha hid
    rw [hsame] at hmem
    simpa using hmem.2
  · intro h
    exact ⟨a,List.mem_filter.mpr ⟨ha,by simp [h]⟩,rfl⟩

theorem ranked_nodup (hset : (candidates.map (·.id)).Nodup) :
    ((ranked r options now candidates).map (·.1.id)).Nodup := by
  rw [((ranked_perm candidates).map (·.1.id)).nodup_iff,List.map_map]
  exact hset.sublist (List.filter_sublist.map _)

theorem orders_nodup (hset : (candidates.map (·.id)).Nodup) :
    ((buildWavePlan r options now candidates).orders.map (·.orderId)).Nodup := by
  rw [orders_ids]
  exact (ranked_nodup hset).sublist ((List.take_sublist _ _).map _)

theorem mem_orders (h : a.id∈(buildWavePlan r options now candidates).orders.map (·.orderId)) :
    ∃ b∈accepted r options candidates, b.id=a.id := by
  rw [orders_ids,List.mem_map] at h
  obtain ⟨e,he,hid⟩ := h
  have hmem := (ranked_perm candidates).mem_iff.mp (List.mem_of_mem_take he)
  obtain ⟨b,hb,hentry⟩ := List.mem_map.mp hmem
  subst hentry
  exact ⟨b,hb,hid⟩

instance symmSeparated : Std.Symm (Separated r now) where
  symm a b h := by
    have hlocale := r.localeCompare_trans
    exact ⟨h.2.1,h.1,fun ht => h.2.2 ⟨ht.1.symm,ht.2.1.symm,Std.OrientedCmp.eq_symm ht.2.2⟩⟩

theorem ranked_consistent (h : (accepted r options candidates).Pairwise (Separated r now)) :
    Consistent (compareEntries r) ((accepted r options candidates).map (entry r now)) := by
  have hapart := h.forall
  constructor
  · intro x hx y hy
    obtain ⟨a,ha,rfl⟩ := List.mem_map.mp hx
    obtain ⟨b,hb,rfl⟩ := List.mem_map.mp hy
    by_cases he : a=b
    · rw [he,compareEntries_self]
      rfl
    · have hrated := hapart ha hb he
      rw [compareEntries_rank hrated.1 hrated.2.1,compareEntries_rank hrated.2.1 hrated.1]
      exact Std.OrientedCmp.eq_swap
  · intro x hx y hy z hz hxy hyz
    obtain ⟨a,ha,rfl⟩ := List.mem_map.mp hx
    obtain ⟨b,hb,rfl⟩ := List.mem_map.mp hy
    obtain ⟨c,hc,rfl⟩ := List.mem_map.mp hz
    by_cases hab : a=b
    · rw [hab]
      exact hyz
    · by_cases hbc : b=c
      · rw [← hbc]
        exact hxy
      · have hleft := hapart ha hb hab
        have hright := hapart hb hc hbc
        rw [compareEntries_rank hleft.1 hleft.2.1] at hxy
        rw [compareEntries_rank hright.1 hright.2.1] at hyz
        rw [compareEntries_rank hleft.1 hright.2.1]
        exact Std.TransCmp.isLE_trans hxy hyz

theorem ranked_listing (h : (accepted r options candidates).Pairwise (Separated r now))
    (hperm : listing.Perm candidates) :
    ranked r options now listing=ranked r options now candidates := by
  have hapart := h.forall
  rw [ranked_eq,ranked_eq]
  refine r.sorting.sort_perm (ranked_consistent h) ?_ ((accepted_perm hperm).map _)
  intro x hx y hy heq
  obtain ⟨a,ha,rfl⟩ := List.mem_map.mp hx
  obtain ⟨b,hb,rfl⟩ := List.mem_map.mp hy
  by_cases he : a=b
  · rw [he]
  · have hab := hapart ha hb he
    exact absurd heq ((separated_iff hab.1 hab.2.1).mp hab)

theorem orders_whole (h : (accepted r options candidates).length≤limit r options candidates) :
    (buildWavePlan r options now candidates).orders.map (·.orderId)=
      (ranked r options now candidates).map (·.1.id) := by
  have hlength := (@ranked_perm r options now candidates).length_eq
  rw [List.length_map] at hlength
  rw [orders_ids,List.take_of_length_le (hlength ▸ h)]

theorem orders_listing (h : (accepted r options candidates).Pairwise (Separated r now))
    (hperm : listing.Perm candidates) : (buildWavePlan r options now listing).orders=
      (buildWavePlan r options now candidates).orders := by
  unfold buildWavePlan
  rw [ranked_listing h hperm,limit_perm hperm]

theorem orders_sorted (hset : (candidates.map (·.id)).Nodup)
    (h : (accepted r options candidates).Pairwise (Separated r now)) :
    (buildWavePlan r options now candidates).orders.Pairwise fun x y =>
      ∀ a∈candidates, ∀ b∈candidates, a.id=x.orderId → b.id=y.orderId → Precedes r now a b := by
  have hapart := h.forall
  have hsorted : (ranked r options now candidates).Pairwise fun x y =>
      (compareEntries r x y).isLE=true := r.sorting.sorted (ranked_consistent h)
  have hdistinct : (ranked r options now candidates).Pairwise fun x y => x.1.id≠y.1.id :=
    List.pairwise_map.mp (ranked_nodup hset)
  have hboth := (hsorted.and hdistinct).sublist (List.take_sublist (limit r options candidates) _)
  have hkept : ∀ e∈(ranked r options now candidates).take (limit r options candidates),
      e.1∈accepted r options candidates ∧ e=entry r now e.1 := by
    intro e he
    have hmem := (ranked_perm candidates).mem_iff.mp (List.mem_of_mem_take he)
    obtain ⟨b,hb,rfl⟩ := List.mem_map.mp hmem
    exact ⟨hb,rfl⟩
  have hzip := List.zipIdx_map_fst 0 ((ranked r options now candidates).take (limit r options candidates))
  rw [← hzip,List.pairwise_map] at hboth
  refine List.pairwise_map.mpr (hboth.imp_of_mem fun {x y} hx hy hxy a ha b hb hax hby => ?_)
  have hx' := hkept x.1 (List.fst_mem_of_mem_zipIdx hx)
  have hy' := hkept y.1 (List.fst_mem_of_mem_zipIdx hy)
  have hax' := List.inj_on_of_nodup_map hset ha (List.mem_of_mem_filter hx'.1) hax
  have hby' := List.inj_on_of_nodup_map hset hb (List.mem_of_mem_filter hy'.1) hby
  have hne : x.1.1≠y.1.1 := fun he => hxy.2 (congrArg WaveCandidateOrder.id he)
  have hab := hapart hx'.1 hy'.1 hne
  rw [hx'.2,hy'.2] at hxy
  rw [hax',hby']
  exact (precedes_iff hab.1 hab.2.1).mpr hxy.1

theorem orderly_of_settled (hset : (candidates.map (·.id)).Nodup)
    (h : Settled r options now candidates) : Orderly r options now candidates where
  independent listing hperm := by
    have horders := orders_listing h.2 hperm
    refine ⟨?_,horders,rejectedIds_perm hset hperm⟩
    have hstatus : ∀ candidates, (buildWavePlan r options now candidates).status=
        if 0 < (buildWavePlan r options now candidates).orders.length then .PLANNED else .DRAFT :=
      fun _ => rfl
    rw [hstatus,hstatus,horders]
  sorted := orders_sorted hset h.2
  numbered := orders_numbered candidates
  placed a ha := by
    cases haccepted : isAccepted r options a with
    | true =>
      have hmem : a.id∈(buildWavePlan r options now candidates).orders.map (·.orderId) := by
        have hentry := List.mem_map_of_mem (f := entry r now) (List.mem_filter.mpr ⟨ha,haccepted⟩)
        rw [orders_whole h.1]
        exact List.mem_map_of_mem ((ranked_perm candidates).mem_iff.mpr hentry)
      have hkept : a.id∉rejectedIds r options candidates := by
        rw [mem_rejectedIds hset ha,haccepted]
        exact Bool.noConfusion
      exact Or.inl ⟨rfl,List.count_eq_one_of_mem (orders_nodup hset) hmem,hkept⟩
    | false =>
      have hout : a.id∉(buildWavePlan r options now candidates).orders.map (·.orderId) := by
        intro hmem
        obtain ⟨b,hb,hid⟩ := mem_orders hmem
        have hb' := List.mem_filter.mp hb
        have hsame := List.inj_on_of_nodup_map hset hb'.1 ha hid
        rw [hsame,haccepted] at hb'
        cases hb'.2
      exact Or.inr ⟨rfl,hout,List.count_eq_one_of_mem (rejectedIds_nodup hset)
        ((mem_rejectedIds hset ha).mpr haccepted)⟩

theorem Orderly.fits (hset : (candidates.map (·.id)).Nodup) (h : Orderly r options now candidates) :
    (accepted r options candidates).length≤limit r options candidates := by
  have hids : ((accepted r options candidates).map (·.id)).Nodup :=
    hset.sublist (List.filter_sublist.map _)
  have hsub : (accepted r options candidates).map (·.id) ⊆
      (buildWavePlan r options now candidates).orders.map (·.orderId) := by
    intro id hid
    obtain ⟨a,ha,rfl⟩ := List.mem_map.mp hid
    have hmem := List.mem_filter.mp ha
    cases h.placed a hmem.1 with
    | inl hin => exact List.one_le_count_iff.mp hin.2.1.ge
    | inr hout =>
      rw [hout.1] at hmem
      cases hmem.2
  have hlength := (hids.subperm hsub).length_le
  rw [List.length_map,orders_ids,List.length_map,List.length_take] at hlength
  omega

theorem pair_order {α : Type} {l : List α} {x y : α} (hl : l.Nodup) (h : [x,y].Sublist l)
    (h' : [y,x].Sublist l) : False := by
  induction l with
  | nil => cases h
  | cons z l ih =>
    have hz := List.nodup_cons.mp hl
    cases h with
    | cons _ hrest =>
      cases h' with
      | cons _ hrest' => exact ih hz.2 hrest hrest'
      | cons_cons _ hrest' => exact hz.1 (hrest.subset (List.mem_cons_of_mem x List.mem_cons_self))
    | cons_cons _ hrest =>
      have hy : y∈l := hrest.subset List.mem_cons_self
      cases h' with
      | cons _ hrest' => exact hz.1 (hrest'.subset (List.mem_cons_of_mem y List.mem_cons_self))
      | cons_cons _ hrest' => exact hz.1 hy

theorem Orderly.rated (hset : (candidates.map (·.id)).Nodup) (h : Orderly r options now candidates)
    (ha : a∈accepted r options candidates) (hb : b∈accepted r options candidates) (hne : a≠b) :
    IsRated r now a ∧ IsRated r now b := by
  have hin : ∀ c∈accepted r options candidates,
      ∃ x∈(buildWavePlan r options now candidates).orders, c.id=x.orderId := by
    intro c hc
    have hmem := List.mem_filter.mp hc
    cases h.placed c hmem.1 with
    | inl hplaced =>
      obtain ⟨x,hx,hid⟩ := List.mem_map.mp (List.one_le_count_iff.mp hplaced.2.1.ge)
      exact ⟨x,hx,hid.symm⟩
    | inr hout =>
      rw [hout.1] at hmem
      cases hmem.2
  obtain ⟨x,hx,hax⟩ := hin a ha
  obtain ⟨y,hy,hby⟩ := hin b hb
  have ha' := List.mem_of_mem_filter ha
  have hb' := List.mem_of_mem_filter hb
  have hxy : x≠y := by
    intro he
    exact hne (List.inj_on_of_nodup_map hset ha' hb' (hax.trans (he ▸ hby.symm)))
  let Both := fun x y : WavePlanOrder => ∀ a∈candidates, ∀ b∈candidates,
    a.id=x.orderId → b.id=y.orderId → IsRated r now a ∧ IsRated r now b
  have hsymm : Std.Symm Both :=
    ⟨fun _ _ hboth a ha b hb hay hbx => (hboth b hb a ha hbx hay).symm⟩
  have hpair : (buildWavePlan r options now candidates).orders.Pairwise Both :=
    h.sorted.imp fun hprecedes a ha b hb hax hby => (hprecedes a ha b hb hax hby).rated
  exact hpair.forall hx hy hxy a ha' b hb' hax hby

theorem Orderly.separated (hset : (candidates.map (·.id)).Nodup)
    (h : Orderly r options now candidates) (ha : a∈accepted r options candidates)
    (hb : b∈accepted r options candidates) (hne : a≠b) : Separated r now a b := by
  have hrated := h.rated hset ha hb hne
  rw [separated_iff hrated.1 hrated.2]
  intro htied
  have hfits := h.fits hset
  have hshown : ∀ a b, a∈accepted r options candidates → b∈accepted r options candidates → a≠b →
      compareEntries r (entry r now a) (entry r now b)=.eq →
      [a.id,b.id].Sublist ((buildWavePlan r options now candidates).orders.map (·.orderId)) := by
    intro a b ha hb hne htied
    have ha' := List.mem_filter.mp ha
    have hb' := List.mem_filter.mp hb
    have hperm : (a::b::(candidates.erase a).erase b).Perm candidates := by
      have hb'' : b∈candidates.erase a := (List.mem_erase_of_ne (Ne.symm hne)).mpr hb'.1
      exact ((List.perm_cons_erase ha'.1).trans ((List.perm_cons_erase hb'').cons a)).symm
    have hconsistent : Consistent (compareEntries r)
        ((accepted r options (a::b::(candidates.erase a).erase b)).map (entry r now)) := by
      refine Consistent.perm (Consistent.of_agree (rankEntries r) ?_) ((accepted_perm hperm).map _)
      intro x hx y hy
      obtain ⟨c,hc,rfl⟩ := List.mem_map.mp hx
      obtain ⟨d,hd,rfl⟩ := List.mem_map.mp hy
      have hall : ∀ c∈accepted r options candidates, IsRated r now c := by
        intro c hc
        by_cases hca : c=a
        · exact hca ▸ (h.rated hset ha hb hne).1
        · exact (h.rated hset hc ha hca).1
      exact compareEntries_rank (hall c hc) (hall d hd)
    have hfirst : [entry r now a,entry r now b].Sublist
        ((accepted r options (a::b::(candidates.erase a).erase b)).map (entry r now)) := by
      unfold accepted
      rw [List.filter_cons_of_pos ha'.2,List.filter_cons_of_pos hb'.2]
      exact (List.nil_sublist _).cons_cons _ |>.cons_cons _
    have hle : (compareEntries r (entry r now a) (entry r now b)).isLE=true := by
      rw [htied]
      rfl
    have hsorted := (r.sorting.stable hconsistent hle hfirst).map fun e : Entry => e.1.id
    rw [← ranked_eq,← orders_whole] at hsorted
    · rw [(h.independent _ hperm).2.1] at hsorted
      exact hsorted
    · rw [(accepted_perm hperm).length_eq,limit_perm hperm]
      exact hfits
  have hback : compareEntries r (entry r now b) (entry r now a)=.eq := by
    rw [compareEntries_rank hrated.1 hrated.2] at htied
    rw [compareEntries_rank hrated.2 hrated.1]
    exact Std.OrientedCmp.eq_symm htied
  exact pair_order (orders_nodup hset) (hshown a b ha hb hne htied)
    (hshown b a hb ha (Ne.symm hne) hback)

theorem orderly_iff (hset : (candidates.map (·.id)).Nodup) :
    Orderly r options now candidates ↔ Settled r options now candidates := by
  constructor
  · intro h
    have hnodup : (accepted r options candidates).Nodup :=
      (List.Nodup.of_map _ hset).sublist List.filter_sublist
    exact ⟨h.fits hset,hnodup.imp_of_mem fun ha hb hne => h.separated hset ha hb hne⟩
  · exact fun h => orderly_of_settled hset h

theorem rejectedIds_listing (hset : (candidates.map (·.id)).Nodup) :
    (∀ listing, listing.Perm candidates →
      rejectedIds r options listing=rejectedIds r options candidates) ↔
      (rejectedIds r options candidates).length≤1 := by
  constructor
  · intro h
    have hreverse := h candidates.reverse (List.reverse_perm candidates)
    have hset' : (candidates.reverse.map (·.id)).Nodup := by
      rw [List.map_reverse]
      exact List.nodup_reverse.mpr hset
    have hnodup := @rejectedIds_nodup r options candidates hset
    have hback : rejectedIds r options candidates.reverse=(rejectedIds r options candidates).reverse := by
      rw [rejectedIds_eq hset',rejectedIds_eq hset,List.filter_reverse,List.map_reverse]
    rw [hback] at hreverse
    cases hids : rejectedIds r options candidates with
    | nil => simp
    | cons x ids =>
      cases hlast : ids.reverse with
      | nil =>
        rw [List.reverse_eq_nil_iff.mp hlast]
        simp
      | cons y rest =>
        rw [hids] at hreverse hnodup
        rw [List.reverse_cons,hlast,List.cons_append] at hreverse
        have hy : y∈ids := List.mem_reverse.mp (hlast ▸ List.mem_cons_self)
        exact absurd ((List.cons.inj hreverse).1 ▸ hy) (List.nodup_cons.mp hnodup).1
  · intro hshort listing hperm
    have hids := @rejectedIds_perm r options _ _ hset hperm
    cases hrejected : rejectedIds r options candidates with
    | nil =>
      rw [hrejected] at hids
      exact hids.eq_nil
    | cons x ids =>
      rw [hrejected,List.length_cons] at hshort
      rw [hrejected,List.length_eq_zero_iff.mp (by omega : ids.length=0)] at hids
      rw [List.length_eq_zero_iff.mp (by omega : ids.length=0)]
      exact List.perm_singleton.mp hids

/-- A plan is as it should be exactly where all accepted orders fit in and each has a place of its own;
it is then one plan for all listings, where at most one order is rejected. -/
theorem wave_plan_orderly (r : Runtime) (options : WavePlanningOptions) (now : ℤ)
    (candidates : List WaveCandidateOrder) (hset : (candidates.map (·.id)).Nodup) :
    (Orderly r options now candidates ↔ Settled r options now candidates) ∧
      (Settled r options now candidates →
        ((∀ listing, listing.Perm candidates →
            buildWavePlan r options now listing=buildWavePlan r options now candidates) ↔
          (buildWavePlan r options now candidates).rejectedOrderIds.length≤1)) := by
  refine ⟨orderly_iff hset,fun hsettled => ?_⟩
  have hrejected := @rejectedIds_listing r options candidates hset
  constructor
  · intro h
    exact hrejected.mp fun listing hperm => congrArg WavePlan.rejectedOrderIds (h listing hperm)
  · intro h listing hperm
    have horderly := (orderly_of_settled hset hsettled).independent listing hperm
    exact WavePlan.ext horderly.1 horderly.2.1 (hrejected.mpr h listing hperm)

end Listings

def sampleRuntime : Runtime where
  toUpperCase s := s.map Char.toUpper
  localeCompare a b := compare a b
  localeCompare_trans := inferInstance
  sorting := insertion
  rounded q := q

def sampleOrder (name : String) (priority : Option Number) : WaveCandidateOrder :=
  ⟨name.toList,("SO-"++name).toList,"ALLOCATED".toList,none,none,none,priority,none⟩

def sampleOptions : WavePlanningOptions := ⟨none,none,none,none,none⟩

theorem wave_plan_orderly_demo : Orderly sampleRuntime sampleOptions 0
    [sampleOrder "1" none,sampleOrder "2" (some (.finite 5)),
      { sampleOrder "3" none with status := "CREATED".toList }] := by
  have hset : ([sampleOrder "1" none,sampleOrder "2" (some (.finite 5)),
      { sampleOrder "3" none with status := "CREATED".toList }].map (·.id)).Nodup := by decide
  exact (wave_plan_orderly sampleRuntime sampleOptions 0 _ hset).1.mpr (by decide +kernel)

/-- The priority "high" is no number, and its order stays where it is listed. -/
theorem listing_shown :
    ([sampleOrder "1" (candidatePriority (fun _ => .nan)
        (.object [(Numerals.units "priority",.text (Numerals.units "high"))])),
      sampleOrder "2" none].map (·.id)).Nodup ∧
    ¬Orderly sampleRuntime sampleOptions 0
      [sampleOrder "1" (candidatePriority (fun _ => .nan)
          (.object [(Numerals.units "priority",.text (Numerals.units "high"))])),
        sampleOrder "2" none] := by
  refine ⟨by decide,fun h => ?_⟩
  have hlisting := (h.independent _ (List.Perm.swap _ _ _)).2.1
  revert hlisting
  decide +kernel

end AardvarkWms.WavePlanning
