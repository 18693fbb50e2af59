import AardvarkWms.Holdings
import AardvarkWms.Calls

/-! Is what a quant says is reserved of it what its active reservations hold? -/
namespace AardvarkWms

open Transactions Transactions.Txn Relational

/-- Every quant's reserved quantity is the sum over its active reservations. -/
def Accounted (d : WmsDb) : Prop :=
  ∀ q∈(d .stockQuants).rows, q.reservedQuantity=
    (((d .reservations).rows.filter fun r => r.stockQuantId=q.id && r.status=.ACTIVE).map
      (·.quantity)).sum

instance (d : WmsDb) : Decidable (Accounted d) := List.decidableBAll _ _

/-- The reservation rows that the scanner's calls read without a lock are still the rows of
the commit, as far as they were active. -/
def ReservationsFresh (c : WmsCtx) : Prop :=
  ∀ id r, c.Saw (Select.row (D := wms) .reservations id) (some r) → r.status=.ACTIVE →
    (c.base .reservations).get? id=some r

/-- A line without an active reservation was picked from. -/
def PickedUnreserved (c : WmsCtx) : Prop :=
  ∃ warehouseId lineId,
    c.Saw (Select.rows (D := wms) .reservations (lineReservation warehouseId lineId)) []

/-- The calls that handle reservations, outside of these two cases. -/
def Accountable : Call → WmsCtx → Prop
  | .confirmPick _ _ _ _, c => ¬PickedUnreserved c
  | .scan _ _ _, c => ReservationsFresh c
  | .reportTaskException _ _ _, c => ReservationsFresh c
  | op, _ => op.handlesReservations=true

abbrev Covered : Table (TableName.key (t := .stockQuants)) →
    Table (TableName.key (t := .reservations)) → Prop :=
  Table.Kept (fun q n => q.reservedQuantity=n) (fun r => some r.stockQuantId) Reservation.held

/-- What is held of one quant changes by `n`. -/
abbrev Reheld (quantId : ℕ) (n : ℤ) : Table (TableName.key (t := .reservations)) →
    Table (TableName.key (t := .reservations)) → Prop :=
  Table.Shifts (fun r => some r.stockQuantId) Reservation.held (some quantId) n

theorem accounted_iff {d : WmsDb} : Accounted d ↔ Covered (d .stockQuants) (d .reservations) := by
  have hsum : ∀ id : ℕ, (((d .reservations).rows.filter fun r =>
      r.stockQuantId=id && r.status=.ACTIVE).map (·.quantity)).sum=
      Table.held (fun r : Reservation => some r.stockQuantId) Reservation.held id
        (d .reservations) := by
    intro id
    rw [← Table.total_ite]
    refine Table.total_congr fun r _ => ?_
    by_cases hid : r.stockQuantId=id
    · simp [Reservation.held,hid]
    · simp [hid]
  unfold Accounted Covered Table.Kept
  refine forall₂_congr fun q _ => ?_
  rw [hsum]
  rfl

section
variable {v v' : WmsDb}

theorem accounted_congr (h : SameStock v v') (ha : Accounted v) : Accounted v' := by
  unfold Accounted at ha ⊢
  rwa [← h .stockQuants rfl,← h .reservations rfl]

theorem Accounted.shift {k : ℕ} {n : ℤ} {u : StockQuantUpdate} (h : Accounted v)
    (hshift : Reheld k n (v .reservations) (v' .reservations))
    (hu : ∀ m, u.reservedQuantity.apply m=m+n)
    (hquants : v' .stockQuants=(v .stockQuants).modify k (wms.patch (t := .stockQuants) u)
      (wms.key_patch (t := .stockQuants) u)) : Accounted v' := by
  rw [accounted_iff] at h ⊢
  rw [hquants]
  refine h.shift _ hshift fun q m _ hq => ?_
  exact (hu q.reservedQuantity).trans (hq ▸ rfl)

theorem accounted_reserve {q : StockQuant} {r : Reservation} {m : StockMovement}
    (hr : Reserving v q r m) (h : Accounted v) : Accounted (after (reserveWrites q.id r m) v) := by
  have hshift : Reheld r.stockQuantId r.held (v .reservations) ((v .reservations).insert r) :=
    Table.shifts_insert hr.fresh
  have hheld : r.held=r.quantity := by simp [Reservation.held,hr.active]
  rw [hr.ofQuant,hheld] at hshift
  refine h.shift (k := q.id) (u := {reservedQuantity := .increment r.quantity}) ?_ (fun m => rfl) ?_
  · simpa [reserveWrites] using hshift
  · simp [reserveWrites]

theorem accounted_chunks {xs : List Chunk} : ∀ {v : WmsDb}, Admissible v xs → Accounted v →
    Accounted (after (chunkWrites xs) v) := by
  induction xs with
  | nil => exact fun _ h => h
  | cons x xs ih =>
    intro v hx h
    have hcons : chunkWrites (x::xs)=x.writes++chunkWrites xs := rfl
    rw [hcons,after_append]
    exact ih hx.2 (accounted_reserve hx.1 h)

theorem Accounted.giveBack {r : Reservation} {n : ℤ} {u : StockQuantUpdate} {p : ReservationUpdate}
    (h : Accounted v) (hr : (v .reservations).get? r.id=some r) (ha : r.status=.ACTIVE)
    (hheld : (p.patch r).held=r.quantity-n) (hu : u.reservedQuantity=.decrement n)
    (hquants : v' .stockQuants=(v .stockQuants).modify r.stockQuantId
      (wms.patch (t := .stockQuants) u) (wms.key_patch (t := .stockQuants) u))
    (hreservations : v' .reservations=(v .reservations).modify r.id
      (wms.patch (t := .reservations) p) (wms.key_patch (t := .reservations) p)) :
    Accounted v' := by
  have hshift : Reheld r.stockQuantId ((p.patch r).held-r.held) (v .reservations)
      (v' .reservations) := by
    rw [hreservations]
    exact Table.shifts_modify _ hr rfl
  have hn : (p.patch r).held-r.held= -n := by
    have hlive : r.held=r.quantity := by simp [Reservation.held,ha]
    omega
  rw [hn] at hshift
  refine h.shift hshift (fun m => ?_) hquants
  rw [hu,Change.apply_decrement]
  omega

theorem held_picked {r : Reservation} {n : ℤ} (ha : r.status=.ACTIVE) (hn : n ≤ r.quantity) :
    ((pickedReservation r.quantity n).patch r).held=r.quantity-n := by
  unfold pickedReservation
  split
  · simp only [ReservationUpdate.patch,Reservation.held,Option.getD_some,reduceCtorEq,if_false]
    omega
  · simp [ReservationUpdate.patch,Reservation.held,ha]

theorem held_released {r : Reservation} {n : ℤ} (ha : r.status=.ACTIVE) (hn : n ≤ r.quantity) :
    ((releasedReservation r.quantity n).patch r).held=r.quantity-n := by
  unfold releasedReservation
  split
  · simp only [ReservationUpdate.patch,Reservation.held,Option.getD_some,reduceCtorEq,if_false]
    omega
  · simp [ReservationUpdate.patch,Reservation.held,ha]

theorem held_ended {r : Reservation} (target : ReleaseStatus) :
    (ReservationUpdate.patch {status := some target.status} r).held=r.quantity-r.quantity := by
  cases target <;> simp [ReservationUpdate.patch,Reservation.held,ReleaseStatus.status]

theorem accounted_pick {p : Pick} {r : Reservation} {version : ℕ} {credit : Change}
    (hp : p.Valid v) (hr : p.reservation=some r) (hrow : (v .reservations).get? r.id=some r)
    (h : Accounted v) : Accounted (after (p.writes version credit) v) := by
  obtain ⟨ha,hle,hof⟩ := hp.reservation r hr
  refine h.giveBack hrow ha (held_picked ha hle)
    (u := {quantity := .decrement p.quantity, reservedQuantity := .decrement p.quantity,
           version := version}) rfl ?_ ?_
  · cases hc : p.completed <;> simp [Pick.writes,takeWrites,completionWrites,hr,hc,hof]
  · cases hc : p.completed <;> simp [Pick.writes,takeWrites,completionWrites,hr,hc]

theorem accounted_exception {x : Returned} {order : Option ℕ} (hx : x.Valid v)
    (hrow : (v .reservations).get? x.reservation.id=some x.reservation) (h : Accounted v) :
    Accounted (after (exceptionWrites (some x) order) v) := by
  refine h.giveBack hrow hx.active (held_released hx.active hx.le)
    (u := {reservedQuantity := .decrement x.quantity}) rfl ?_ ?_
  · cases order <;> simp [exceptionWrites,Returned.writes,hx.ofQuant]
  · cases order <;> simp [exceptionWrites,Returned.writes]

theorem accounted_other {ws : List (Statement wms)}
    (hquants : after ws v .stockQuants=v .stockQuants)
    (hreservations : after ws v .reservations=v .reservations) (h : Accounted v) :
    Accounted (after ws v) := by
  unfold Accounted at h ⊢
  rwa [hquants,hreservations]

end

section
variable {c : WmsCtx}

theorem accounted_created {dto : CreateReservationDto} {q : StockQuant} {r : Reservation}
    {m : StockMovement} (he : Created dto c q r m) (h : Accounted c.base) : Accounted c.view :=
  accounted_congr he.writes (accounted_reserve he.reserving h)

theorem accounted_ended {target : ReleaseStatus} {q : StockQuant} {r : Reservation}
    {m : StockMovement} (he : Released target c q r m) (h : Accounted c.base) :
    Accounted c.view := by
  refine accounted_congr he.writes ?_
  refine h.giveBack he.reservation he.active (held_ended target)
    (u := {reservedQuantity := .decrement r.quantity}) rfl ?_ ?_
  · simp [releaseWrites,he.ofQuant]
  · simp [releaseWrites]

theorem accounted_allocated {orderId : ℕ} {lines : List OutboundOrderLine}
    {as : List AllocatedLine} (he : Allocated c orderId lines as) (h : Accounted c.base) :
    Accounted c.view := by
  refine accounted_congr he.writes ?_
  rw [after_append]
  exact accounted_other (by simp) (by simp) (accounted_chunks he.admissible h)

theorem accounted_confirmed {task : ℕ} {dto : ConfirmPickDto} {p : Pick}
    (he : Confirmed task dto c p) (hok : ¬PickedUnreserved c) (h : Accounted c.base) :
    Accounted c.view := by
  refine accounted_congr he.writes ?_
  cases hr : p.reservation with
  | some r => exact accounted_pick he.valid hr (he.reservation r hr) h
  | none =>
    obtain ⟨t,orderId,lines,hres⟩ := he.resolved
    obtain ⟨warehouseId,hsaw⟩ := hres.none hr
    exact (hok ⟨warehouseId,_,hsaw⟩).elim

theorem accounted_scanned {dto : ScanRfStepDto} (he : ScanEffect dto c)
    (hok : ReservationsFresh c) (h : Accounted c.base) : Accounted c.view := by
  rcases he with hidle|⟨p,r,hs⟩|⟨t,n,hs⟩
  · exact accounted_congr hidle h
  · refine accounted_congr hs.writes ?_
    obtain ⟨ha,_⟩ := hs.valid.reservation r hs.reservation
    exact accounted_pick hs.valid hs.reservation (hok _ r hs.saw ha) h
  · exact accounted_congr hs.writes (accounted_other (by simp [submitWrites])
      (by simp [submitWrites]) h)

theorem accounted_reported {returned : Option Returned} {order : Option ℕ}
    (he : Reported c returned order) (hok : ReservationsFresh c) (h : Accounted c.base) :
    Accounted c.view := by
  refine accounted_congr he.writes ?_
  cases returned with
  | some x =>
    obtain ⟨hx,hsaw⟩ := he.valid x rfl
    exact accounted_exception hx (hok _ _ hsaw hx.active) h
  | none =>
    refine accounted_other ?_ ?_ h
    · cases order <;> simp [exceptionWrites]
    · cases order <;> simp [exceptionWrites]

theorem accounted_step (op : Call) (heffect : op.Effect c) (hok : Accountable op c)
    (h : Accounted c.base) : Accounted c.view := by
  cases op with
  | createReservation w dto =>
    obtain ⟨q,r,m,he⟩ := heffect
    exact accounted_created he h
  | releaseReservation w r target =>
    obtain ⟨q,r,m,he⟩ := heffect
    exact accounted_ended he h
  | allocateOutboundOrder w o dto =>
    obtain ⟨orderId,lines,as,he⟩ := heffect
    exact accounted_allocated he h
  | confirmPick w t dto actor =>
    obtain ⟨p,he⟩ := heffect
    exact accounted_confirmed he hok h
  | scan w s dto => exact accounted_scanned heffect hok h
  | reportTaskException w t dto =>
    obtain ⟨returned,order,he⟩ := heffect
    exact accounted_reported he hok h
  | _ => cases hok

end

/-- In every run of the calls that handle reservations, with commits as above, every quant's
reserved quantity stays what its active reservations hold. -/
theorem reserved_accounted {d : WmsDb} {tr : List (Call × WmsCtx)}
    {c : Config (interface wms) WmsDb Call} (hstart : Accounted d)
    (hrun : Run store Call.prog Accountable d tr c) : Accounted c.committed :=
  (hrun.invariant Call.effect hstart fun op _ => accounted_step op).1

def demoPick : Call := .confirmPick (.word 1) 1 ⟨none,none,none,[],pos_of_none⟩ ⟨[]⟩

/-- Five of a quant are reserved for no line, and a task without a reservation picks a line
of five. -/
def unreservedLine : WmsDb := after
  [.insert .warehouses ⟨1,.word 1⟩,.insert .skus ⟨1,.word 7,none,⟨false,false,false⟩⟩,
   .insert .stockQuants ⟨1,1,1,1,none,none,none,none,none,10,5,.AVAILABLE,1,0⟩,
   .insert .reservations ⟨1,1,none,none,1,1,5,.ACTIVE⟩,
   .insert .outboundOrders ⟨1,1,.word 1,.PICKING,none⟩,
   .insert .outboundOrderLines ⟨1,1,.word 1,.word 7,5,0,⟨false,false,false⟩,none⟩,
   .insert .warehouseTasks {WarehouseTask.record 1 1 .PICK with
     skuId := some 1, fromLocationId := some 1, outboundOrderId := some 1,
     outboundOrderLineId := some 1, quantity := some 5}] emptyDb

theorem unreserved_pick_unaccounted : ¬∀ d tr (c : Config (interface wms) WmsDb Call), Accounted d →
    Run store Call.prog (fun op _ => op.handlesReservations=true) d tr c →
    Accounted c.committed := by
  intro h
  obtain ⟨tr,d,he,hbad⟩ : ∃ tr d, serially store Call.prog id [demoPick] 10 [] unreservedLine=
      .ok (tr,d) ∧ ¬Accounted d := ⟨_,_,rfl,by decide⟩
  have hrun : Run store Call.prog (fun op _ => op.handlesReservations=true) _ tr (.idle d) :=
    Run.serial he (by simp [demoPick,Call.handlesReservations])
  exact hbad (h _ _ _ (by decide) hrun)

def demoReserve : Call := .createReservation (.word 1) ⟨1,none,some 1,4,none,by decide⟩

def demoRelease : Call := .releaseReservation (.word 1) 1 .CANCELLED

theorem reserved_accounted_demo : ∃ tr d,
    serially store Call.prog id [demoReserve,demoRelease] 10 [] unreservedLine=.ok (tr,d) ∧
    Accounted d := by
  obtain ⟨tr,d,he⟩ : ∃ tr d, serially store Call.prog id [demoReserve,demoRelease] 10 []
      unreservedLine=.ok (tr,d) := ⟨_,_,rfl⟩
  have hok : ∀ op∈[demoReserve,demoRelease], ∀ c, Accountable op c := by
    simp [demoReserve,demoRelease,Accountable,Call.handlesReservations]
  exact ⟨tr,d,he,reserved_accounted (by decide) (Run.serial he hok)⟩

end AardvarkWms
