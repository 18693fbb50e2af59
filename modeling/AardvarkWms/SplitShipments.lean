import AardvarkWms.Staging

/-! A packed order in several shipments: each is held against the picks of the whole order, so
that only an order in one shipment leaves the house. -/
namespace AardvarkWms.Staging

open Transactions Transactions.Txn Relational

theorem get?_row {d : WmsDb} {t : TableName} {r : t.Row} (h : r∈(d t).rows) :
    (d t).get? (wms.key r)=some r :=
  Table.get?_key h

/-- What packages hold of a line. -/
def held (ps : List ShipmentPackage) (lineId : ℕ) : ℤ :=
  sumPackageContentsByLine (ps.flatMap (·.contents)) lineId

namespace ShippingDb

def packagesOf (d : ShippingDb) (orderId : ℕ) : List ShipmentPackage :=
  (d.tables .shipmentPackages).rows.filter fun p => p.outboundOrderId=some orderId

def linesOf (d : ShippingDb) (orderId : ℕ) : List OutboundOrderLine :=
  (d.tables .outboundOrderLines).rows.filter fun l => l.orderId=orderId

def IsShipped (d : ShippingDb) (orderId : ℕ) : Prop :=
  ∃ o : OutboundOrder, (d.tables .outboundOrders).get? orderId=some o ∧ o.status=.SHIPPED

/-- All that is picked of the order is in its packages. -/
def FullyPacked (d : ShippingDb) (orderId : ℕ) : Prop :=
  d.packagesOf orderId≠[] ∧
    ∀ l∈d.linesOf orderId, l.pickedQuantity≤held (d.packagesOf orderId) l.id

end ShippingDb

def ShippingConflict.LacksPacking : ShippingConflict → Prop
  | .nothingPacked | .nothingStaged | .notFullyPacked _ _ _ => True
  | _ => False

/-- A shipment of the order with a package, in the state of the warehouse. -/
structure Ships (d : ShippingDb) (orderId : ℕ) (s : Shipment) : Prop where
  row : (d.tables .shipments).get? s.id=some s
  order : s.outboundOrderId=some orderId
  packed : ∃ p∈(d.tables .shipmentPackages).rows, p.shipmentId=s.id

/-- No shipment with packages is refused for lack of packing, and the order is shipped when all its
packages are. -/
structure SplitsComplete (d : ShippingDb) (orderId : ℕ) : Prop where
  stages : ∀ s, Ships d orderId s → ∀ c, d.stage s=.error (.conflict c) → ¬c.LacksPacking
  ships : ∀ s, Ships d orderId s → ∀ dto c, d.ship s dto=.error (.conflict c) → ¬c.LacksPacking
  shipped : d.IsShipped orderId ↔ ∀ p∈d.packagesOf orderId, ∃ s : Shipment,
    (d.tables .shipments).get? p.shipmentId=some s ∧ s.status=.SHIPPED

def OneShipment (d : ShippingDb) (orderId : ℕ) : Prop :=
  ∀ p∈d.packagesOf orderId, ∀ q∈d.packagesOf orderId, p.shipmentId=q.shipmentId

section Held
variable {ps : List ShipmentPackage}

def Positive (ps : List ShipmentPackage) : Prop := ∀ p∈ps, ∀ x∈p.contents, 0 < x.quantity

theorem held_cons (p : ShipmentPackage) (ps : List ShipmentPackage) (lineId : ℕ) :
    held (p::ps) lineId=sumPackageContentsByLine p.contents lineId+held ps lineId := by
  unfold held
  rw [List.flatMap_cons,sumPackageContentsByLine_append]

theorem held_append (ps : List ShipmentPackage) (p : ShipmentPackage) (lineId : ℕ) :
    held (ps++[p]) lineId=held ps lineId+sumPackageContentsByLine p.contents lineId := by
  unfold held
  rw [List.flatMap_append,sumPackageContentsByLine_append,List.flatMap_singleton]

theorem contents_nonneg {xs : List PackageContent} (h : ∀ x∈xs, 0 < x.quantity) (lineId : ℕ) :
    0 ≤ sumPackageContentsByLine xs lineId := by
  refine List.sum_nonneg fun n hn => ?_
  obtain ⟨x,hx,rfl⟩ := List.mem_map.mp hn
  exact (h x (List.mem_of_mem_filter hx)).le

theorem contents_pos {xs : List PackageContent} (h : ∀ x∈xs, 0 < x.quantity)
    {x : PackageContent} (hx : x∈xs) {lineId : ℕ} (hl : x.outboundOrderLineId=some lineId) :
    0 < sumPackageContentsByLine xs lineId := by
  induction xs with
  | nil => cases hx
  | cons y xs ih =>
    have hsplit := sumPackageContentsByLine_append [y] xs lineId
    have hone : 0 ≤ sumPackageContentsByLine [y] lineId :=
      contents_nonneg (fun z hz => h z (by simp_all)) lineId
    have hrest := contents_nonneg (fun z hz => h z (List.mem_cons_of_mem _ hz)) lineId
    cases List.mem_cons.mp hx with
    | inl hy =>
      subst hy
      have hquantity : sumPackageContentsByLine [x] lineId=x.quantity := by
        simp [sumPackageContentsByLine,hl]
      have hpositive := h x List.mem_cons_self
      rw [List.singleton_append] at hsplit
      omega
    | inr hmem =>
      have hmore := ih (fun z hz => h z (List.mem_cons_of_mem _ hz)) hmem
      rw [List.singleton_append] at hsplit
      omega

theorem held_nonneg (h : Positive ps) (lineId : ℕ) : 0≤held ps lineId := by
  refine contents_nonneg (fun x hx => ?_) lineId
  obtain ⟨p,hp,hxp⟩ := List.mem_flatMap.mp hx
  exact h p hp x hxp

theorem held_filter_le (h : Positive ps) (keep : ShipmentPackage → Bool) (lineId : ℕ) :
    held (ps.filter keep) lineId≤held ps lineId := by
  induction ps with
  | nil => exact le_rfl
  | cons p ps ih =>
    have hrest := ih fun q hq => h q (List.mem_cons_of_mem _ hq)
    have hnonneg := contents_nonneg (h p List.mem_cons_self) lineId
    cases hkeep : keep p with
    | true =>
      rw [List.filter_cons_of_pos hkeep,held_cons,held_cons]
      omega
    | false =>
      rw [List.filter_cons_of_neg (by simp [hkeep]),held_cons]
      omega

theorem held_filter_lt (h : Positive ps) (keep : ShipmentPackage → Bool) {p : ShipmentPackage}
    (hp : p∈ps) (hout : keep p=false) {x : PackageContent} (hx : x∈p.contents) {lineId : ℕ}
    (hl : x.outboundOrderLineId=some lineId) : held (ps.filter keep) lineId < held ps lineId := by
  induction ps with
  | nil => cases hp
  | cons q ps ih =>
    have htail : Positive ps := fun r hr => h r (List.mem_cons_of_mem _ hr)
    cases List.mem_cons.mp hp with
    | inl hq =>
      subst hq
      have hrest := held_filter_le htail keep lineId
      have hpositive := contents_pos (h p List.mem_cons_self) hx hl
      rw [List.filter_cons_of_neg (by simp [hout]),held_cons]
      omega
    | inr hmem =>
      have hrest := ih htail hmem
      have hnonneg := contents_nonneg (h q List.mem_cons_self) lineId
      cases hkeep : keep q with
      | true =>
        rw [List.filter_cons_of_pos hkeep,held_cons,held_cons]
        omega
      | false =>
        rw [List.filter_cons_of_neg (by simp [hkeep]),held_cons]
        omega

end Held

/-- A package goes with its shipment. -/
def Agrees (s : ShipmentStatus) : ShipmentPackageStatus → Prop
  | .PACKED => s=.DRAFT ∨ s=.PACKING
  | .STAGED => s=.STAGED
  | .SHIPPED => s=.SHIPPED
  | _ => False

section Agrees
variable {status : ShipmentStatus} {packed : ShipmentPackageStatus}

theorem Agrees.of_open (h : Agrees status packed) (hs : status=.PACKING ∨ status=.DRAFT) :
    packed=.PACKED := by
  cases hs with
  | inl hs => subst hs; cases packed <;> simp_all [Agrees]
  | inr hs => subst hs; cases packed <;> simp_all [Agrees]

theorem Agrees.of_staged (h : Agrees status packed) (hs : status=.STAGED ∨ status=.LOADING) :
    packed=.STAGED := by
  cases hs with
  | inl hs => subst hs; cases packed <;> simp_all [Agrees]
  | inr hs => subst hs; cases packed <;> simp_all [Agrees]

theorem Agrees.of_shipped (h : Agrees status packed) (hs : status=.SHIPPED) : packed=.SHIPPED := by
  subst hs
  cases packed <;> simp_all [Agrees]

end Agrees

/-- How the packages of an order lie in its shipments. At most one shipment ever got past packing,
and if it left, the order is shipped or is picked again. -/
structure Filed (orderId : ℕ) (d : ShippingDb) : Prop where
  refers : ∀ p∈(d.tables .shipmentPackages).rows, (d.tables .shipments).get? p.shipmentId≠none
  ofOrder : ∀ p∈(d.tables .shipmentPackages).rows, ∀ s : Shipment,
    (d.tables .shipments).get? p.shipmentId=some s → s.outboundOrderId=some orderId →
    p.outboundOrderId=some orderId
  shipment : ∀ p∈d.packagesOf orderId, ∃ s : Shipment,
    (d.tables .shipments).get? p.shipmentId=some s ∧ s.outboundOrderId=some orderId ∧
    Agrees s.status (d.packageStatus p.id)
  filled : ∀ p∈d.packagesOf orderId, ∃ x∈p.contents, ∃ l∈d.linesOf orderId,
    x.outboundOrderLineId=some l.id
  positive : Positive (d.packagesOf orderId)
  bound : ∀ l∈d.linesOf orderId, held (d.packagesOf orderId) l.id≤l.pickedQuantity
  single : ∀ p∈d.packagesOf orderId, ∀ q∈d.packagesOf orderId, d.packageStatus p.id≠.PACKED →
    d.packageStatus q.id≠.PACKED → p.shipmentId=q.shipmentId
  order : (d.tables .outboundOrders).get? orderId≠none
  left : d.IsShipped orderId → ∃ p∈d.packagesOf orderId, d.packageStatus p.id=.SHIPPED
  gone : ∀ p∈d.packagesOf orderId, d.packageStatus p.id=.SHIPPED → d.IsShipped orderId ∨
    ∃ l∈d.linesOf orderId, held ((d.packagesOf orderId).filter (·.shipmentId=p.shipmentId)) l.id
      < l.pickedQuantity

section State
variable {d : ShippingDb} {orderId : ℕ} {s : Shipment}

theorem mem_packagesOf {p : ShipmentPackage} : p∈d.packagesOf orderId ↔
    p∈(d.tables .shipmentPackages).rows ∧ p.outboundOrderId=some orderId := by
  unfold ShippingDb.packagesOf
  rw [List.mem_filter,decide_eq_true_eq]

theorem mem_linesOf {l : OutboundOrderLine} : l∈d.linesOf orderId ↔
    l∈(d.tables .outboundOrderLines).rows ∧ l.orderId=orderId := by
  unfold ShippingDb.linesOf
  rw [List.mem_filter,decide_eq_true_eq]

theorem Filed.short (h : Filed orderId d) {q : ShipmentPackage} (hq : q∈d.packagesOf orderId)
    {shipmentId : ℕ} (hne : q.shipmentId≠shipmentId) : ∃ l∈d.linesOf orderId,
      held ((d.packagesOf orderId).filter (·.shipmentId=shipmentId)) l.id < l.pickedQuantity := by
  obtain ⟨x,hx,l,hl,hxl⟩ := h.filled q hq
  have hbound := h.bound l hl
  have hless := held_filter_lt h.positive (fun p => decide (p.shipmentId=shipmentId)) hq
    (by simp [hne]) hx hxl
  exact ⟨l,hl,by omega⟩

theorem Filed.inOrder (h : Filed orderId d) (hrow : (d.tables .shipments).get? s.id=some s)
    (ho : s.outboundOrderId=some orderId) {p : ShipmentPackage}
    (hp : p∈(d.tables .shipmentPackages).rows) (hs : p.shipmentId=s.id) :
    p∈d.packagesOf orderId :=
  mem_packagesOf.mpr ⟨hp,h.ofOrder p hp s (hs ▸ hrow) ho⟩

theorem Filed.agrees (h : Filed orderId d) (hrow : (d.tables .shipments).get? s.id=some s)
    {p : ShipmentPackage} (hp : p∈d.packagesOf orderId) (hs : p.shipmentId=s.id) :
    Agrees s.status (d.packageStatus p.id) := by
  obtain ⟨s',hs',_,hagrees⟩ := h.shipment p hp
  rw [hs,hrow] at hs'
  cases hs'
  exact hagrees

theorem Filed.packagesIn (h : Filed orderId d) (hrow : (d.tables .shipments).get? s.id=some s)
    (ho : s.outboundOrderId=some orderId) {statuses : List ShipmentPackageStatus}
    (hall : ∀ p∈d.packagesOf orderId, p.shipmentId=s.id → d.packageStatus p.id∈statuses) :
    d.packagesIn s.id statuses=(d.packagesOf orderId).filter (·.shipmentId=s.id) := by
  unfold ShippingDb.packagesIn ShippingDb.packagesOf
  rw [List.filter_filter]
  refine List.filter_congr fun p hp => ?_
  by_cases hs : p.shipmentId=s.id
  · have hmem := h.inOrder hrow ho hp hs
    simp [hs,hall p hmem hs,(mem_packagesOf.mp hmem).2]
  · simp [hs]

theorem unpackedLine_eq_none {contents : List PackageContent} :
    d.unpackedLine orderId contents=none ↔ ∀ l∈d.linesOf orderId,
      0 < l.pickedQuantity → l.pickedQuantity ≤ sumPackageContentsByLine contents l.id := by
  unfold ShippingDb.unpackedLine
  rw [List.find?_eq_none]
  have hsort := List.perm_insertionSort (fun a b : OutboundOrderLine =>
    a.lineNumber.le b.lineNumber=true) ((d.tables .outboundOrderLines).rows.filter (·.orderId=orderId))
  refine forall_congr' fun l => ?_
  rw [hsort.mem_iff]
  simp [ShippingDb.linesOf]

theorem assertOutboundOrderPacked_cases (d : ShippingDb) (orderId : ℕ)
    (packages : List ShipmentPackage) :
    (d.assertOutboundOrderPacked (some orderId) packages=.ok () ∧
      ∀ l∈d.linesOf orderId, 0 < l.pickedQuantity → l.pickedQuantity≤held packages l.id) ∨
    ∃ c, d.assertOutboundOrderPacked (some orderId) packages=.error (.conflict c) ∧ c.LacksPacking ∧
      ∃ l∈d.linesOf orderId, held packages l.id < l.pickedQuantity := by
  unfold ShippingDb.assertOutboundOrderPacked
  simp only [Option.bind_some]
  cases hline : d.unpackedLine orderId (packages.flatMap (·.contents)) with
  | none => exact .inl ⟨rfl,unpackedLine_eq_none.mp hline⟩
  | some l =>
    refine .inr ⟨_,rfl,trivial,l,?_,?_⟩
    · have hmem := List.mem_of_find?_eq_some hline
      exact (List.perm_insertionSort _ _).mem_iff.mp hmem
    · have hless := List.find?_some hline
      simp only [Bool.and_eq_true,decide_eq_true_eq] at hless
      exact hless.2

theorem Filed.open_packages (h : Filed orderId d) (hrow : (d.tables .shipments).get? s.id=some s)
    (ho : s.outboundOrderId=some orderId) (hopen : s.status=.PACKING ∨ s.status=.DRAFT) :
    d.packagesIn s.id [.PACKED]=(d.packagesOf orderId).filter (·.shipmentId=s.id) := by
  refine h.packagesIn hrow ho fun p hp hs => ?_
  rw [(h.agrees hrow hp hs).of_open hopen]
  decide

theorem Filed.staged_packages (h : Filed orderId d) (hrow : (d.tables .shipments).get? s.id=some s)
    (ho : s.outboundOrderId=some orderId) (hstaged : s.status=.STAGED ∨ s.status=.LOADING) :
    d.packagesIn s.id [.STAGED,.LOADED]=(d.packagesOf orderId).filter (·.shipmentId=s.id) := by
  refine h.packagesIn hrow ho fun p hp hs => ?_
  rw [(h.agrees hrow hp hs).of_staged hstaged]
  decide

theorem Filed.packages_ne_nil (h : Filed orderId d) (hs : Ships d orderId s) :
    (d.packagesOf orderId).filter (·.shipmentId=s.id)≠[] := by
  obtain ⟨p,hp,hps⟩ := hs.packed
  have hmem : p∈(d.packagesOf orderId).filter (·.shipmentId=s.id) := by
    rw [List.mem_filter,decide_eq_true_eq]
    exact ⟨h.inOrder hs.row hs.order hp hps,hps⟩
  exact List.ne_nil_of_mem hmem

theorem OneShipment.all_in (hone : OneShipment d orderId) {p : ShipmentPackage}
    (hp : p∈d.packagesOf orderId) :
    (d.packagesOf orderId).filter (·.shipmentId=p.shipmentId)=d.packagesOf orderId := by
  rw [List.filter_eq_self]
  intro q hq
  rw [decide_eq_true_eq]
  exact hone q hq p hp

theorem Filed.check_one (h : Filed orderId d) (hpacked : d.FullyPacked orderId)
    (hone : OneShipment d orderId) (hs : Ships d orderId s) :
    d.assertOutboundOrderPacked (some orderId)
      ((d.packagesOf orderId).filter (·.shipmentId=s.id))=.ok () := by
  obtain ⟨p,hp,hps⟩ := hs.packed
  have hmem := h.inOrder hs.row hs.order hp hps
  rw [← hps,hone.all_in hmem]
  cases assertOutboundOrderPacked_cases d orderId (d.packagesOf orderId) with
  | inl hok => exact hok.1
  | inr hshort =>
    obtain ⟨c,_,_,l,hl,hless⟩ := hshort
    have hfull := hpacked.2 l hl
    omega

theorem Filed.refuses (h : Filed orderId d) {q : ShipmentPackage} (hq : q∈d.packagesOf orderId)
    {shipmentId : ℕ} (hne : q.shipmentId≠shipmentId) :
    ∃ c, d.assertOutboundOrderPacked (some orderId)
      ((d.packagesOf orderId).filter (·.shipmentId=shipmentId))=.error (.conflict c) ∧
      c.LacksPacking := by
  obtain ⟨l,hl,hshort⟩ := h.short hq hne
  cases assertOutboundOrderPacked_cases d orderId
      ((d.packagesOf orderId).filter (·.shipmentId=shipmentId)) with
  | inl hok =>
    have hpositive : Positive ((d.packagesOf orderId).filter (·.shipmentId=shipmentId)) :=
      fun r hr => h.positive r (List.mem_of_mem_filter hr)
    have hnonneg := held_nonneg hpositive l.id
    have hcovers := hok.2 l hl (by omega)
    omega
  | inr hrefused =>
    obtain ⟨c,hc,hlacks,_⟩ := hrefused
    exact ⟨c,hc,hlacks⟩

theorem Filed.stuck (h : Filed orderId d) {p q : ShipmentPackage} (hp : p∈d.packagesOf orderId)
    (hq : q∈d.packagesOf orderId) (hne : q.shipmentId≠p.shipmentId)
    (hopen : d.packageStatus p.id=.PACKED) : ¬SplitsComplete d orderId := by
  intro hsplit
  obtain ⟨s,hrow,ho,hagrees⟩ := h.shipment p hp
  have hid : p.shipmentId=s.id := (Table.key_of_get? hrow).symm
  rw [hid] at hrow hne
  rw [hopen] at hagrees
  have hships : Ships d orderId s := ⟨hrow,ho,p,(mem_packagesOf.mp hp).1,hid⟩
  have hstatus : s.status=.PACKING ∨ s.status=.DRAFT := hagrees.symm
  have hpackages := h.open_packages hrow ho hstatus
  obtain ⟨c,hc,hlacks⟩ := h.refuses hq hne
  refine hsplit.stages s hships c ?_ hlacks
  unfold ShippingDb.stage ShippingDb.assertShipmentReadyToStage
  rw [if_pos hstatus,hpackages,if_neg (h.packages_ne_nil hships),ho,hc]
  rfl

theorem Filed.splits_iff (h : Filed orderId d) (hpacked : d.FullyPacked orderId) :
    SplitsComplete d orderId ↔ OneShipment d orderId := by
  constructor
  · intro hsplit p hp q hq
    by_contra hne
    by_cases hopen : d.packageStatus p.id=.PACKED
    · exact h.stuck hp hq (Ne.symm hne) hopen hsplit
    · by_cases hopen' : d.packageStatus q.id=.PACKED
      · exact h.stuck hq hp hne hopen' hsplit
      · exact hne (h.single p hp q hq hopen hopen')
  · intro hone
    refine ⟨fun s hs c hc hlacks => ?_,fun s hs dto c hc hlacks => ?_,?_⟩
    · unfold ShippingDb.stage at hc
      split at hc
      · rename_i hopen
        unfold ShippingDb.assertShipmentReadyToStage at hc
        rw [h.open_packages hs.row hs.order hopen,if_neg (h.packages_ne_nil hs),hs.order,
          h.check_one hpacked hone hs] at hc
        cases hc
      · cases hc
        exact hlacks
    · unfold ShippingDb.ship at hc
      split at hc
      · rename_i hstaged
        unfold ShippingDb.assertShipmentReadyToShip at hc
        rw [h.staged_packages hs.row hs.order hstaged,if_neg (h.packages_ne_nil hs),hs.order,
          h.check_one hpacked hone hs] at hc
        split at hc
        · cases hc
          exact hlacks
        · cases hc
      · cases hc
        exact hlacks
    · constructor
      · intro hshipped p hp
        obtain ⟨q,hq,hstatus⟩ := h.left hshipped
        obtain ⟨s,hrow,_,hagrees⟩ := h.shipment q hq
        rw [hstatus] at hagrees
        rw [hone p hp q hq]
        exact ⟨s,hrow,hagrees⟩
      · intro hall
        obtain ⟨p,hp⟩ := List.exists_mem_of_ne_nil _ hpacked.1
        obtain ⟨s,hrow,hstatus⟩ := hall p hp
        obtain ⟨s',hrow',_,hagrees⟩ := h.shipment p hp
        rw [hrow] at hrow'
        cases hrow'
        cases h.gone p hp (hagrees.of_shipped hstatus) with
        | inl hshipped => exact hshipped
        | inr hshort =>
          obtain ⟨l,hl,hless⟩ := hshort
          rw [hone.all_in hp] at hless
          have hfull := hpacked.2 l hl
          omega

end State

section Steps
variable {d d' : ShippingDb} {orderId : ℕ} {s : Shipment}

theorem setPackageStatus_row {p : ShipmentPackage} (hp : p∈(d.tables .shipmentPackages).rows)
    (shipmentId : ℕ) (old : List ShipmentPackageStatus) (new : ShipmentPackageStatus) :
    d.setPackageStatus shipmentId old new p.id=
      if p.shipmentId=shipmentId ∧ d.packageStatus p.id∈old then new else d.packageStatus p.id := by
  have hany : (d.packagesIn shipmentId old).any (·.id=p.id)=true ↔
      p.shipmentId=shipmentId ∧ d.packageStatus p.id∈old := by
    unfold ShippingDb.packagesIn
    simp only [List.any_eq_true,List.mem_filter,Bool.and_eq_true,decide_eq_true_eq]
    constructor
    · rintro ⟨q,⟨hq,hin⟩,hid⟩
      have hqp : q=p := Table.inj_of_nodup (d.tables .shipmentPackages).nodup hq hp hid
      exact hqp ▸ hin
    · intro hin
      exact ⟨p,⟨hp,hin⟩,rfl⟩
  unfold ShippingDb.setPackageStatus
  by_cases hin : p.shipmentId=shipmentId ∧ d.packageStatus p.id∈old
  · rw [if_pos hin,if_pos (hany.mpr hin)]
  · rw [if_neg hin,if_neg fun h => hin (hany.mp h)]

/-- A shipment and its packages that move on together. -/
structure MovesOn (orderId : ℕ) (d d' : ShippingDb) (s : Shipment) (status : ShipmentStatus)
    (old : List ShipmentPackageStatus) (new : ShipmentPackageStatus) : Prop where
  row : (d.tables .shipments).get? s.id=some s
  shipments : d'.tables .shipments=
    (d.tables .shipments).modify s.id (fun s => {s with status}) fun _ => rfl
  packages : d'.tables .shipmentPackages=d.tables .shipmentPackages
  lines : d'.tables .outboundOrderLines=d.tables .outboundOrderLines
  statuses : d'.packageStatus=d.setPackageStatus s.id old new
  all : ∀ p∈d.packagesOf orderId, p.shipmentId=s.id → d.packageStatus p.id∈old
  agrees : Agrees status new

namespace MovesOn
variable {status : ShipmentStatus} {old : List ShipmentPackageStatus} {new : ShipmentPackageStatus}

theorem packagesOf (m : MovesOn orderId d d' s status old new) :
    d'.packagesOf orderId=d.packagesOf orderId := by
  unfold ShippingDb.packagesOf
  rw [m.packages]

theorem linesOf (m : MovesOn orderId d d' s status old new) :
    d'.linesOf orderId=d.linesOf orderId := by
  unfold ShippingDb.linesOf
  rw [m.lines]

theorem status_of (m : MovesOn orderId d d' s status old new) {p : ShipmentPackage}
    (hp : p∈d.packagesOf orderId) : d'.packageStatus p.id=
      if p.shipmentId=s.id then new else d.packageStatus p.id := by
  rw [m.statuses,setPackageStatus_row (mem_packagesOf.mp hp).1]
  by_cases hs : p.shipmentId=s.id
  · rw [if_pos ⟨hs,m.all p hp hs⟩,if_pos hs]
  · rw [if_neg fun h => hs h.1,if_neg hs]

theorem filed (m : MovesOn orderId d d' s status old new) (h : Filed orderId d)
    (single : ∀ p∈d.packagesOf orderId, ∀ q∈d.packagesOf orderId, d'.packageStatus p.id≠.PACKED →
      d'.packageStatus q.id≠.PACKED → p.shipmentId=q.shipmentId)
    (order : (d'.tables .outboundOrders).get? orderId≠none)
    (left : d'.IsShipped orderId → ∃ p∈d.packagesOf orderId, d'.packageStatus p.id=.SHIPPED)
    (gone : ∀ p∈d.packagesOf orderId, d'.packageStatus p.id=.SHIPPED → d'.IsShipped orderId ∨
      ∃ l∈d.linesOf orderId, held ((d.packagesOf orderId).filter (·.shipmentId=p.shipmentId)) l.id
        < l.pickedQuantity) : Filed orderId d' := by
  have hshipment : ∀ id, (d'.tables .shipments).get? id=if id=s.id then
      ((d.tables .shipments).get? id).map fun s => {s with status} else
      (d.tables .shipments).get? id := by
    intro id
    rw [m.shipments]
    exact Table.get?_modify _ _ _ _ _
  refine ⟨?_,?_,?_,?_,?_,?_,?_,order,?_,?_⟩
  · intro p hp
    rw [m.packages] at hp
    have hrefers := h.refers p hp
    rw [hshipment]
    split
    · simpa using hrefers
    · exact hrefers
  · intro p hp s' hs' ho
    rw [m.packages] at hp
    rw [hshipment] at hs'
    split at hs'
    · obtain ⟨s₀,hs₀,rfl⟩ := Option.map_eq_some_iff.mp hs'
      exact h.ofOrder p hp s₀ hs₀ ho
    · exact h.ofOrder p hp s' hs' ho
  · rw [m.packagesOf]
    intro p hp
    obtain ⟨s₀,hs₀,ho,hagrees⟩ := h.shipment p hp
    rw [hshipment,m.status_of hp]
    by_cases hs : p.shipmentId=s.id
    · rw [if_pos hs,if_pos hs,hs₀]
      exact ⟨_,rfl,ho,m.agrees⟩
    · rw [if_neg hs,if_neg hs]
      exact ⟨s₀,hs₀,ho,hagrees⟩
  · rw [m.packagesOf,m.linesOf]
    exact h.filled
  · rw [m.packagesOf]
    exact h.positive
  · rw [m.packagesOf,m.linesOf]
    exact h.bound
  · rw [m.packagesOf]
    exact single
  · rw [m.packagesOf]
    exact left
  · rw [m.packagesOf,m.linesOf]
    exact gone

end MovesOn

theorem Filed.elsewhere (h : Filed orderId d) (hrow : (d.tables .shipments).get? s.id=some s)
    (ho : s.outboundOrderId≠some orderId) {p : ShipmentPackage} (hp : p∈d.packagesOf orderId) :
    p.shipmentId≠s.id := by
  intro hs
  obtain ⟨s',hs',horder,_⟩ := h.shipment p hp
  rw [hs,hrow] at hs'
  cases hs'
  exact ho horder

theorem setShipmentStatus_self (d : ShippingDb) (id : ℕ) (status : ShipmentStatus) :
    d.setShipmentStatus id status .shipments=
      (d.tables .shipments).modify id (fun s => {s with status}) fun _ => rfl := by
  unfold ShippingDb.setShipmentStatus
  exact Function.update_self _ _ _

theorem ready_to_stage {r : Unit} (h : d.assertShipmentReadyToStage s=.ok r) :
    d.packagesIn s.id [.PACKED]≠[] ∧
      d.assertOutboundOrderPacked s.outboundOrderId (d.packagesIn s.id [.PACKED])=.ok () := by
  unfold ShippingDb.assertShipmentReadyToStage at h
  simp only at h
  split at h
  · cases h
  · rename_i hsome
    exact ⟨hsome,h⟩

theorem ready_to_ship {allow : Bool} {r : Unit} (h : d.assertShipmentReadyToShip s allow=.ok r) :
    d.packagesIn s.id [.STAGED,.LOADED]≠[] := by
  unfold ShippingDb.assertShipmentReadyToShip at h
  simp only at h
  split at h
  · cases h
  · assumption

theorem Filed.stage (h : Filed orderId d) (hrow : (d.tables .shipments).get? s.id=some s)
    (hd : d.stage s=.ok d') : Filed orderId d' := by
  unfold ShippingDb.stage at hd
  split at hd
  case isFalse => cases hd
  rename_i hopen
  obtain ⟨_,hready,hd⟩ := bind_eq_ok hd
  cases hd
  have hall : ∀ p∈d.packagesOf orderId, p.shipmentId=s.id → d.packageStatus p.id∈
      [ShipmentPackageStatus.PACKED] := by
    intro p hp hs
    rw [(h.agrees hrow hp hs).of_open hopen]
    decide
  have m : MovesOn orderId d {d with
      tables := d.setShipmentStatus s.id .STAGED
      packageStatus := d.setPackageStatus s.id [.PACKED] .STAGED} s .STAGED [.PACKED] .STAGED :=
    ⟨hrow,setShipmentStatus_self _ _ _,rfl,rfl,rfl,hall,rfl⟩
  refine m.filed h ?_ h.order ?_ ?_
  · intro p hp q hq hpacked hqacked
    rw [m.status_of hp] at hpacked
    rw [m.status_of hq] at hqacked
    by_cases ho : s.outboundOrderId=some orderId
    · -- the check saw every picked line covered, so nothing is packed elsewhere
      have hmine : ∀ r∈d.packagesOf orderId, r.shipmentId=s.id := by
        intro r hr
        by_contra hne
        obtain ⟨c,hc,_⟩ := h.refuses hr hne
        have hcheck := (ready_to_stage hready).2
        rw [h.open_packages hrow ho hopen,ho,hc] at hcheck
        cases hcheck
      rw [hmine p hp,hmine q hq]
    · rw [if_neg (h.elsewhere hrow ho hp)] at hpacked
      rw [if_neg (h.elsewhere hrow ho hq)] at hqacked
      exact h.single p hp q hq hpacked hqacked
  · intro hshipped
    obtain ⟨p,hp,hgone⟩ := h.left hshipped
    refine ⟨p,hp,?_⟩
    rw [m.status_of hp,if_neg]
    · exact hgone
    · intro hs
      have hpacked := (h.agrees hrow hp hs).of_open hopen
      rw [hgone] at hpacked
      cases hpacked
  · intro p hp hgone
    rw [m.status_of hp] at hgone
    split at hgone
    · cases hgone
    · exact h.gone p hp hgone

theorem Filed.ship (h : Filed orderId d) (hrow : (d.tables .shipments).get? s.id=some s)
    {dto : ShipShipmentDto} (hd : d.ship s dto=.ok d') : Filed orderId d' := by
  unfold ShippingDb.ship at hd
  split at hd
  case isFalse => cases hd
  rename_i hstaged
  obtain ⟨_,hready,hd⟩ := bind_eq_ok hd
  have hall : ∀ p∈d.packagesOf orderId, p.shipmentId=s.id → d.packageStatus p.id∈
      [ShipmentPackageStatus.PACKED,.STAGED,.LOADED] := by
    intro p hp hs
    rw [(h.agrees hrow hp hs).of_staged hstaged]
    decide
  have horders : d'.tables .outboundOrders=s.outboundOrderId.elim (d.tables .outboundOrders)
      fun orderId =>
        (d.tables .outboundOrders).modify orderId ShippingDb.shippedOrder.patch fun _ => rfl := by
    cases hd
    cases s.outboundOrderId with
    | none => rfl
    | some o => exact apply_update_self _ _ _ _
  have m : MovesOn orderId d d' s .SHIPPED [.PACKED,.STAGED,.LOADED] .SHIPPED := by
    cases hd
    cases s.outboundOrderId with
    | none => exact ⟨hrow,setShipmentStatus_self _ _ _,rfl,rfl,rfl,hall,rfl⟩
    | some o =>
      have hne : TableName.shipments≠.outboundOrders := by decide
      refine ⟨hrow,?_,rfl,rfl,rfl,hall,rfl⟩
      have hframe := apply_update_ne (D := wms) o ShippingDb.shippedOrder
        (d.setShipmentStatus s.id .SHIPPED) hne
      exact hframe.trans (setShipmentStatus_self _ _ _)
  have hother : ∀ p∈d.packagesOf orderId, d'.packageStatus p.id≠.PACKED →
      d.packageStatus p.id≠.PACKED := by
    intro p hp hpacked
    rw [m.status_of hp] at hpacked
    by_cases hs : p.shipmentId=s.id
    · rw [(h.agrees hrow hp hs).of_staged hstaged]
      decide
    · rwa [if_neg hs] at hpacked
  have hsingle : ∀ p∈d.packagesOf orderId, ∀ q∈d.packagesOf orderId,
      d'.packageStatus p.id≠.PACKED → d'.packageStatus q.id≠.PACKED → p.shipmentId=q.shipmentId :=
    fun p hp q hq hpacked hqacked => h.single p hp q hq (hother p hp hpacked) (hother q hq hqacked)
  by_cases ho : s.outboundOrderId=some orderId
  · rw [ho,Option.elim_some] at horders
    obtain ⟨o,hget⟩ := Option.ne_none_iff_exists'.mp h.order
    have hget' : (d'.tables .outboundOrders).get? orderId=some (ShippingDb.shippedOrder.patch o) := by
      rw [horders]
      exact (Table.get?_modify_self _ _ _ _).trans (by rw [hget]; rfl)
    have hshipped : d'.IsShipped orderId := ⟨_,hget',rfl⟩
    refine m.filed h hsingle (by rw [hget']; simp) (fun _ => ?_) fun _ _ _ => .inl hshipped
    have hsome := ready_to_ship hready
    rw [h.staged_packages hrow ho hstaged] at hsome
    obtain ⟨p,hp⟩ := List.exists_mem_of_ne_nil _ hsome
    obtain ⟨hp,hs⟩ := List.mem_filter.mp hp
    refine ⟨p,hp,?_⟩
    rw [m.status_of hp,if_pos (by simpa using hs)]
  · have hsame : (d'.tables .outboundOrders).get? orderId=
        (d.tables .outboundOrders).get? orderId := by
      rw [horders]
      cases hso : s.outboundOrderId with
      | none => rfl
      | some o =>
        have hne : orderId≠o := by
          intro he
          exact ho (he ▸ hso)
        rw [Option.elim_some]
        exact Table.get?_modify_ne _ _ _ hne
    have hstatus : ∀ p∈d.packagesOf orderId, d'.packageStatus p.id=d.packageStatus p.id := by
      intro p hp
      rw [m.status_of hp,if_neg (h.elsewhere hrow ho hp)]
    have hiff : d'.IsShipped orderId ↔ d.IsShipped orderId := by
      unfold ShippingDb.IsShipped
      rw [hsame]
    refine m.filed h hsingle (hsame ▸ h.order) (fun hshipped => ?_) fun p hp hgone => ?_
    · obtain ⟨p,hp,hgone⟩ := h.left (hiff.mp hshipped)
      exact ⟨p,hp,(hstatus p hp).trans hgone⟩
    · rw [hiff]
      exact h.gone p hp ((hstatus p hp).symm.trans hgone)

theorem planned_positive {lines : List OutboundOrderLine} {already : ℕ → ℤ}
    {contents : List PackageContentInputDto} : ∀ {planned planned' : List PackageContent},
    planPackageContents lines already contents planned=.ok planned' →
    (∀ x∈planned, 0 < x.quantity) →
    (∀ x∈planned', 0 < x.quantity) ∧ planned'.length=planned.length+contents.length := by
  induction contents with
  | nil =>
    intro planned planned' h hpositive
    cases h
    exact ⟨hpositive,rfl⟩
  | cons content contents ih =>
    intro planned planned' h hpositive
    obtain ⟨next,hnext,hrest⟩ := bind_eq_ok h
    have hquantity : 0 < next.quantity := by
      obtain ⟨l,_,hnext⟩ := bind_eq_ok hnext
      simp only at hnext
      split at hnext
      · cases hnext
      · split at hnext
        · cases hnext
        · split at hnext
          · cases hnext
          · cases hnext
            exact content.quantity_pos
    obtain ⟨hall,hlength⟩ := ih hrest (by
      intro x hx
      cases List.mem_append.mp hx with
      | inl hold => exact hpositive x hold
      | inr hnew => rw [List.mem_singleton.mp hnew]; exact hquantity)
    refine ⟨hall,?_⟩
    simp only [hlength,List.length_append,List.length_cons,List.length_nil]
    omega

/-- A package that a lone call added to a shipment. -/
structure Added (d d' : ShippingDb) (s : Shipment) (p : ShipmentPackage) : Prop where
  row : (d.tables .shipments).get? s.id=some s
  takes : s.status=.PACKING ∨ s.status=.DRAFT
  ofShipment : p.shipmentId=s.id
  order : p.outboundOrderId=s.outboundOrderId
  fresh : (d.tables .shipmentPackages).get? p.id=none
  packages : d'.tables .shipmentPackages=(d.tables .shipmentPackages).insert p
  shipments : d'.tables .shipments=d.tables .shipments
  lines : d'.tables .outboundOrderLines=d.tables .outboundOrderLines
  orders : ∀ orderId, s.outboundOrderId≠some orderId →
    (d'.tables .outboundOrders).get? orderId=(d.tables .outboundOrders).get? orderId
  packing : ∀ orderId, s.outboundOrderId=some orderId → ∃ fullyPacked,
    (d'.tables .outboundOrders).get? orderId=
      ((d.tables .outboundOrders).get? orderId).map (packedOrderUpdate fullyPacked).patch
  status : d'.packageStatus=fun id =>
    if (d.tables .shipmentPackages).get? id=none then .PACKED else d.packageStatus id
  within : ∀ orderId, s.outboundOrderId=some orderId →
    WithinPicked (d.linesOf orderId) (held (d.packagesOf orderId)) p.contents
  filled : ∀ orderId, s.outboundOrderId=some orderId → p.contents≠[] ∧ ∀ x∈p.contents, 0 < x.quantity

theorem added_of_addPackage {ids : ℕ → ℕ} {warehouse shipment : Text} {dto : AddShipmentPackageDto}
    (hd : d.addPackage ids warehouse shipment dto=.ok d') : ∃ s p, Added d d' s p := by
  unfold ShippingDb.addPackage at hd
  split at hd
  case h_2 => cases hd
  rename_i e halone
  cases hd
  have hwp : wp store (fun _ => True) (AardvarkWms.addPackage warehouse shipment dto)
      (.start d.tables) (fun _ c => ∃ s p, PackageFiled warehouse shipment dto c s p) :=
    wp_filesPackage warehouse shipment dto d.tables
  obtain ⟨s,p,hf⟩ := (hwp.alone halone (by simp)).1
  have hkeeps : ∀ t : TableName, t≠.shipmentPackages → t≠.outboundOrders →
      t≠.clientResourceLinks → t≠.ownerClientIds → e.ctx.base=d.tables ∧ e.ctx.view t=d.tables t ∧
        ∀ x∈e.ctx.log, ∃ v : WmsDb, v t=d.tables t ∧ x.result=answer x.query v := by
    intro t hp ho hl hc
    obtain ⟨hbase,hview,hlog⟩ := alone_keeps (S := store) (J := fun v : WmsDb => v t=d.tables t)
      (fun w v hw hv => (apply_of_table v (Packs.elsewhere hp ho hl hc w hw)).trans hv) _
      (packs_addPackage warehouse shipment dto) rfl halone
    refine ⟨hbase,hview,fun x hx => ?_⟩
    cases hlog x hx with
    | inl hnone => cases hnone
    | inr hseen => exact hseen
  obtain ⟨hbase,hshipments,_⟩ := hkeeps .shipments (by decide) (by decide) (by decide) (by decide)
  obtain ⟨_,hlines,hlog⟩ :=
    hkeeps .outboundOrderLines (by decide) (by decide) (by decide) (by decide)
  have hplan : ∀ orderId, s.outboundOrderId=some orderId → ∃ lines : List OutboundOrderLine,
      lines.Perm (d.linesOf orderId) ∧ planPackageContents lines (held (d.packagesOf orderId))
        dto.contents []=.ok p.contents := by
    intro orderId ho
    obtain ⟨lines,hsaw,hplan⟩ := hf.planned orderId ho
    obtain ⟨v,hv,hanswer⟩ := hlog _ hsaw
    have hanswer : lines=(v .outboundOrderLines).rows.filter (·.orderId=orderId) := hanswer
    rw [hv] at hanswer
    rw [hbase] at hplan
    refine ⟨_,?_,hplan⟩
    rw [hanswer]
    exact List.perm_insertionSort _ _
  refine ⟨s,p,?_⟩
  constructor
  · exact hbase ▸ hf.shipment.1
  · exact hf.takes.symm
  · exact hf.ofShipment
  · exact hf.order
  · exact hbase ▸ hf.fresh
  · exact hbase ▸ hf.packages
  · exact hshipments
  · exact hlines
  · intro orderId ho
    cases hso : s.outboundOrderId with
    | none => exact congrArg (fun T => Table.get? T orderId) ((hf.unordered hso).trans (by rw [hbase]))
    | some o =>
      obtain ⟨fullyPacked,horders⟩ := hf.ordered o hso
      have hne : orderId≠o := by
        intro he
        exact ho (he ▸ hso)
      show (e.ctx.view .outboundOrders).get? orderId=_
      rw [horders,hbase]
      exact Table.get?_modify_ne _ _ _ hne
  · intro orderId ho
    obtain ⟨fullyPacked,horders⟩ := hf.ordered orderId ho
    refine ⟨fullyPacked,?_⟩
    show (e.ctx.view .outboundOrders).get? orderId=_
    rw [horders,hbase]
    exact Table.get?_modify_self _ _ _ _
  · rfl
  · intro orderId ho
    obtain ⟨lines,hperm,hplan⟩ := hplan orderId ho
    have hnodup : (lines.map (·.id)).Nodup := by
      rw [(hperm.map _).nodup_iff]
      exact (d.tables .outboundOrderLines).nodup.sublist (List.filter_sublist.map _)
    have hwithin := withinPicked_plan hnodup withinPicked_nil hplan
    refine ⟨fun x hx => ?_,fun l hl => hwithin.bound l (hperm.mem_iff.mpr hl)⟩
    obtain ⟨l,hl,hxl⟩ := hwithin.named x hx
    exact ⟨l,hperm.mem_iff.mp hl,hxl⟩
  · intro orderId ho
    obtain ⟨lines,_,hplan⟩ := hplan orderId ho
    obtain ⟨hpositive,hlength⟩ := planned_positive hplan (by simp)
    refine ⟨?_,hpositive⟩
    intro hnil
    have hfilled := hf.filled (by rw [ho]; simp)
    rw [hnil] at hlength
    simp only [List.length_nil,zero_add] at hlength
    exact hfilled (List.length_eq_zero_iff.mp hlength.symm)

namespace Added
variable {p : ShipmentPackage}

theorem packagesOf (a : Added d d' s p) (orderId : ℕ) : d'.packagesOf orderId=
    d.packagesOf orderId++if s.outboundOrderId=some orderId then [p] else [] := by
  unfold ShippingDb.packagesOf
  rw [a.packages,Table.rows_insert a.fresh,List.filter_append]
  by_cases ho : s.outboundOrderId=some orderId
  · rw [if_pos ho]
    simp [a.order,ho]
  · rw [if_neg ho]
    simp [a.order,ho]

theorem linesOf (a : Added d d' s p) (orderId : ℕ) : d'.linesOf orderId=d.linesOf orderId := by
  unfold ShippingDb.linesOf
  rw [a.lines]

theorem status_old (a : Added d d' s p) {q : ShipmentPackage}
    (hq : q∈(d.tables .shipmentPackages).rows) : d'.packageStatus q.id=d.packageStatus q.id := by
  have hget : (d.tables .shipmentPackages).get? q.id=some q :=
    get?_row hq
  rw [a.status]
  simp only [hget,reduceCtorEq,if_false]

theorem status_new (a : Added d d' s p) : d'.packageStatus p.id=.PACKED := by
  rw [a.status]
  simp only [a.fresh,if_true]

theorem mem_rows (a : Added d d' s p) {q : ShipmentPackage}
    (hq : q∈(d'.tables .shipmentPackages).rows) :
    q∈(d.tables .shipmentPackages).rows ∨ q=p := by
  rw [a.packages,Table.rows_insert a.fresh] at hq
  cases List.mem_append.mp hq with
  | inl hold => exact .inl hold
  | inr hnew => exact .inr (List.mem_singleton.mp hnew)

theorem filed_other (a : Added d d' s p) (h : Filed orderId d)
    (ho : s.outboundOrderId≠some orderId) : Filed orderId d' := by
  have hpackages : d'.packagesOf orderId=d.packagesOf orderId := by
    rw [a.packagesOf,if_neg ho,List.append_nil]
  have hstatus : ∀ q∈d.packagesOf orderId, d'.packageStatus q.id=d.packageStatus q.id :=
    fun q hq => a.status_old (mem_packagesOf.mp hq).1
  have hshipped : d'.IsShipped orderId ↔ d.IsShipped orderId := by
    unfold ShippingDb.IsShipped
    rw [a.orders orderId ho]
  constructor
  · intro q hq
    rw [a.shipments]
    cases a.mem_rows hq with
    | inl hold => exact h.refers q hold
    | inr hnew =>
      rw [hnew,a.ofShipment,a.row]
      simp
  · intro q hq s' hs' ho'
    rw [a.shipments] at hs'
    cases a.mem_rows hq with
    | inl hold => exact h.ofOrder q hold s' hs' ho'
    | inr hnew =>
      rw [hnew,a.ofShipment,a.row] at hs'
      cases hs'
      exact (ho ho').elim
  · rw [hpackages,a.shipments]
    intro q hq
    rw [hstatus q hq]
    exact h.shipment q hq
  · rw [hpackages,a.linesOf]
    exact h.filled
  · rw [hpackages]
    exact h.positive
  · rw [hpackages,a.linesOf]
    exact h.bound
  · rw [hpackages]
    intro q hq r hr
    rw [hstatus q hq,hstatus r hr]
    exact h.single q hq r hr
  · rw [a.orders orderId ho]
    exact h.order
  · rw [hpackages,hshipped]
    intro hgone
    obtain ⟨q,hq,hq'⟩ := h.left hgone
    exact ⟨q,hq,(hstatus q hq).trans hq'⟩
  · rw [hpackages,a.linesOf,hshipped]
    intro q hq hgone
    exact h.gone q hq ((hstatus q hq).symm.trans hgone)

theorem filed_same (a : Added d d' s p) (h : Filed orderId d)
    (ho : s.outboundOrderId=some orderId) : Filed orderId d' := by
  have hpackages : d'.packagesOf orderId=d.packagesOf orderId++[p] := by
    rw [a.packagesOf,if_pos ho]
  obtain ⟨hsome,hpositive⟩ := a.filled orderId ho
  obtain ⟨x,hx⟩ := List.exists_mem_of_ne_nil _ hsome
  obtain ⟨m,hm,hxm⟩ := (a.within orderId ho).named x hx
  have hmine : p∈d'.packagesOf orderId := by
    rw [hpackages]
    exact List.mem_append_right _ (List.mem_singleton_self p)
  have hmem : ∀ q∈d'.packagesOf orderId, q∈d.packagesOf orderId ∨ q=p := by
    intro q hq
    rw [hpackages] at hq
    cases List.mem_append.mp hq with
    | inl hold => exact .inl hold
    | inr hnew => exact .inr (List.mem_singleton.mp hnew)
  have hstatus : ∀ q∈d.packagesOf orderId, d'.packageStatus q.id=d.packageStatus q.id :=
    fun q hq => a.status_old (mem_packagesOf.mp hq).1
  have hkept : ∀ q∈d'.packagesOf orderId, d'.packageStatus q.id≠.PACKED →
      q∈d.packagesOf orderId ∧ d.packageStatus q.id=d'.packageStatus q.id := by
    intro q hq hne
    cases hmem q hq with
    | inl hold => exact ⟨hold,(hstatus q hold).symm⟩
    | inr hnew =>
      rw [hnew] at hne
      exact (hne a.status_new).elim
  have hall : Positive (d'.packagesOf orderId) := by
    intro q hq
    cases hmem q hq with
    | inl hold => exact h.positive q hold
    | inr hnew => exact hnew ▸ hpositive
  have hbound : ∀ l∈d.linesOf orderId, held (d'.packagesOf orderId) l.id≤l.pickedQuantity := by
    intro l hl
    have hold := h.bound l hl
    rw [hpackages,held_append]
    cases (a.within orderId ho).bound l hl with
    | inl hzero => omega
    | inr hle => exact hle
  obtain ⟨fullyPacked,horder⟩ := a.packing orderId ho
  constructor
  · intro q hq
    rw [a.shipments]
    cases a.mem_rows hq with
    | inl hold => exact h.refers q hold
    | inr hnew =>
      rw [hnew,a.ofShipment,a.row]
      simp
  · intro q hq s' hs' ho'
    rw [a.shipments] at hs'
    cases a.mem_rows hq with
    | inl hold => exact h.ofOrder q hold s' hs' ho'
    | inr hnew => exact hnew ▸ a.order.trans ho
  · rw [a.shipments]
    intro q hq
    cases hmem q hq with
    | inl hold => exact (hstatus q hold) ▸ h.shipment q hold
    | inr hnew =>
      rw [hnew,a.status_new,a.ofShipment]
      exact ⟨s,a.row,ho,a.takes.symm⟩
  · rw [a.linesOf]
    intro q hq
    cases hmem q hq with
    | inl hold => exact h.filled q hold
    | inr hnew => exact hnew ▸ ⟨x,hx,m,hm,hxm⟩
  · exact hall
  · rw [a.linesOf]
    exact hbound
  · intro q hq r hr hqne hrne
    obtain ⟨hq,hqs⟩ := hkept q hq hqne
    obtain ⟨hr,hrs⟩ := hkept r hr hrne
    exact h.single q hq r hr (hqs ▸ hqne) (hrs ▸ hrne)
  · rw [horder]
    simpa using h.order
  · intro hshipped
    obtain ⟨o,ho',hs⟩ := hshipped
    rw [horder] at ho'
    obtain ⟨o₀,_,rfl⟩ := Option.map_eq_some_iff.mp ho'
    cases fullyPacked <;> cases hs
  · rw [a.linesOf]
    intro q hq hgone
    obtain ⟨hqold,hqs⟩ := hkept q hq (by rw [hgone]; decide)
    obtain ⟨s',hs',_,hagrees⟩ := h.shipment q hqold
    rw [hqs,hgone] at hagrees
    have hne : ¬p.shipmentId=q.shipmentId := by
      intro he
      rw [← he,a.ofShipment,a.row] at hs'
      cases hs'
      cases a.takes with
      | inl ht => rw [ht] at hagrees; cases hagrees
      | inr ht => rw [ht] at hagrees; cases hagrees
    have hless := held_filter_lt hall (fun r => decide (r.shipmentId=q.shipmentId)) hmine
      (by simp [hne]) hx hxm
    have hmost := hbound m hm
    exact .inr ⟨m,hm,by omega⟩

end Added

theorem Filed.addPackage (h : Filed orderId d) {ids : ℕ → ℕ} {warehouse shipment : Text}
    {dto : AddShipmentPackageDto} (hd : d.addPackage ids warehouse shipment dto=.ok d') :
    Filed orderId d' := by
  obtain ⟨s,p,hadded⟩ := added_of_addPackage hd
  by_cases ho : s.outboundOrderId=some orderId
  · exact hadded.filed_same h ho
  · exact hadded.filed_other h ho

theorem Filed.carry (h : Filed orderId d)
    (hpackages : d'.tables .shipmentPackages=d.tables .shipmentPackages)
    (hstatus : d'.packageStatus=d.packageStatus)
    (hshipments : ∀ p∈(d.tables .shipmentPackages).rows,
      (d'.tables .shipments).get? p.shipmentId=(d.tables .shipments).get? p.shipmentId)
    (hlines : ∀ l∈d.linesOf orderId, ∃ l'∈d'.linesOf orderId, l'.id=l.id)
    (hbound : ∀ l∈d'.linesOf orderId, held (d.packagesOf orderId) l.id≤l.pickedQuantity)
    (horder : (d'.tables .outboundOrders).get? orderId≠none)
    (hshipped : d'.IsShipped orderId → d.IsShipped orderId)
    (hgone : ∀ p∈d.packagesOf orderId, d.packageStatus p.id=.SHIPPED → d'.IsShipped orderId ∨
      ∃ l∈d'.linesOf orderId, held ((d.packagesOf orderId).filter (·.shipmentId=p.shipmentId)) l.id
        < l.pickedQuantity) : Filed orderId d' := by
  have hsame : d'.packagesOf orderId=d.packagesOf orderId := by
    unfold ShippingDb.packagesOf
    rw [hpackages]
  constructor
  · rw [hpackages]
    intro p hp
    rw [hshipments p hp]
    exact h.refers p hp
  · rw [hpackages]
    intro p hp s hs
    rw [hshipments p hp] at hs
    exact h.ofOrder p hp s hs
  · rw [hsame,hstatus]
    intro p hp
    rw [hshipments p (mem_packagesOf.mp hp).1]
    exact h.shipment p hp
  · rw [hsame]
    intro p hp
    obtain ⟨x,hx,l,hl,hxl⟩ := h.filled p hp
    obtain ⟨l',hl',hid⟩ := hlines l hl
    exact ⟨x,hx,l',hl',hid ▸ hxl⟩
  · rw [hsame]
    exact h.positive
  · rw [hsame]
    exact hbound
  · rw [hsame,hstatus]
    exact h.single
  · exact horder
  · rw [hsame,hstatus]
    exact fun hs => h.left (hshipped hs)
  · rw [hsame,hstatus]
    exact hgone

theorem Filed.createShipment (h : Filed orderId d) (dto : CreateShipment) :
    Filed orderId (d.createShipment dto) := by
  unfold ShippingDb.createShipment
  by_cases hfree : (d.tables .shipments).get? dto.id=none
  case neg => rwa [if_neg hfree]
  rw [if_pos hfree]
  refine h.carry rfl rfl ?_ (fun l hl => ⟨l,hl,rfl⟩) h.bound h.order id h.gone
  intro p hp
  have hne : p.shipmentId≠dto.id := by
    intro he
    exact h.refers p hp (he ▸ hfree)
  show (apply _ d.tables .shipments).get? p.shipmentId=_
  rw [apply_insert_self]
  exact Table.get?_insert_ne _ hne

theorem Filed.picked (h : Filed orderId d) {line : OutboundOrderLine} {quantity : ℤ}
    (hline : (d.tables .outboundOrderLines).get? line.id=some line) (hpos : 0 < quantity)
    (hpackages : d'.tables .shipmentPackages=d.tables .shipmentPackages)
    (hstatus : d'.packageStatus=d.packageStatus)
    (hshipments : d'.tables .shipments=d.tables .shipments)
    (hlines : d'.tables .outboundOrderLines=(d.tables .outboundOrderLines).modify line.id
      (fun l => {l with pickedQuantity := line.pickedQuantity+quantity}) fun _ => rfl)
    (horders : d'.tables .outboundOrders=d.tables .outboundOrders ∨
      d'.tables .outboundOrders=(d.tables .outboundOrders).modify line.orderId
        (fun o => {o with status := .PICKED, fulfillmentStatus := some .PICKED}) fun _ => rfl) :
    Filed orderId d' := by
  have hmem : ∀ l' : OutboundOrderLine, l'∈d'.linesOf orderId ↔ ∃ l∈d.linesOf orderId,
      l'=if l.id=line.id then {l with pickedQuantity := line.pickedQuantity+quantity} else l := by
    intro l'
    rw [mem_linesOf,hlines]
    constructor
    · intro hl'
      obtain ⟨l,hl,rfl⟩ := List.mem_map.mp hl'.1
      have ho := hl'.2
      refine ⟨l,mem_linesOf.mpr ⟨hl,?_⟩,rfl⟩
      split at ho <;> exact ho
    · intro hl'
      obtain ⟨l,hl,rfl⟩ := hl'
      obtain ⟨hl,ho⟩ := mem_linesOf.mp hl
      refine ⟨List.mem_map.mpr ⟨l,hl,rfl⟩,?_⟩
      split <;> exact ho
  have hmine : ∀ l∈d.linesOf orderId, l.id=line.id → l=line := by
    intro l hl hid
    have hrow : (d.tables .outboundOrderLines).get? line.id=some l :=
      hid ▸ get?_row (mem_linesOf.mp hl).1
    exact Option.some.inj (hrow.symm.trans hline)
  have hmore : ∀ l∈d.linesOf orderId, ∃ l'∈d'.linesOf orderId, l'.id=l.id ∧
      l.pickedQuantity≤l'.pickedQuantity := by
    intro l hl
    refine ⟨_,(hmem _).mpr ⟨l,hl,rfl⟩,?_⟩
    by_cases hid : l.id=line.id
    · rw [if_pos hid,hmine l hl hid]
      exact ⟨rfl,by simp only; omega⟩
    · rw [if_neg hid]
      exact ⟨rfl,le_rfl⟩
  have hless : line∈d.linesOf orderId → ∀ p∈d.packagesOf orderId, ∃ l∈d'.linesOf orderId,
      held ((d.packagesOf orderId).filter (·.shipmentId=p.shipmentId)) l.id < l.pickedQuantity := by
    intro hmem' p _
    refine ⟨_,(hmem _).mpr ⟨line,hmem',rfl⟩,?_⟩
    rw [if_pos rfl]
    have hsome := held_filter_le h.positive (fun q => decide (q.shipmentId=p.shipmentId)) line.id
    have hall := h.bound line hmem'
    show held _ line.id < line.pickedQuantity+quantity
    omega
  have hupdated : ∀ f : OutboundOrder → OutboundOrder, ∀ hf, d'.tables .outboundOrders=
      (d.tables .outboundOrders).modify line.orderId f hf →
      (d'.tables .outboundOrders).get? orderId=if orderId=line.orderId then
        ((d.tables .outboundOrders).get? orderId).map f else
        (d.tables .outboundOrders).get? orderId := by
    intro f hf he
    rw [he]
    exact Table.get?_modify _ _ _ _ _
  have hother : line.orderId≠orderId →
      (d'.tables .outboundOrders).get? orderId=(d.tables .outboundOrders).get? orderId := by
    intro hne
    cases horders with
    | inl hsame => rw [hsame]
    | inr hpicked =>
      rw [hpicked]
      exact Table.get?_modify_ne _ _ _ (Ne.symm hne)
  refine h.carry hpackages hstatus (fun p _ => by rw [hshipments]) ?_ ?_ ?_ ?_ ?_
  · intro l hl
    obtain ⟨l',hl',hid,_⟩ := hmore l hl
    exact ⟨l',hl',hid⟩
  · intro l' hl'
    obtain ⟨l,hl,rfl⟩ := (hmem l').mp hl'
    have hold := h.bound l hl
    by_cases hid : l.id=line.id
    · rw [if_pos hid]
      have hheld : held (d.packagesOf orderId) l.id≤line.pickedQuantity := (hmine l hl hid) ▸ hold
      show held _ l.id≤line.pickedQuantity+quantity
      omega
    · rw [if_neg hid]
      exact hold
  · cases horders with
    | inl hsame => exact hsame ▸ h.order
    | inr hpicked =>
      rw [hupdated _ _ hpicked]
      have hold := h.order
      split
      · simpa using hold
      · exact hold
  · intro hshipped
    obtain ⟨o,hget,hs⟩ := hshipped
    cases horders with
    | inl hsame => exact ⟨o,hsame ▸ hget,hs⟩
    | inr hpicked =>
      rw [hupdated _ _ hpicked] at hget
      split at hget
      · obtain ⟨o₀,_,rfl⟩ := Option.map_eq_some_iff.mp hget
        cases hs
      · exact ⟨o,hget,hs⟩
  · intro p hp hgone
    by_cases ho : line.orderId=orderId
    · have hmem' : line∈d.linesOf orderId :=
        mem_linesOf.mpr ⟨(Table.mem_of_get? hline).1,ho⟩
      exact .inr (hless hmem' p hp)
    · cases h.gone p hp hgone with
      | inl hshipped =>
        left
        unfold ShippingDb.IsShipped
        rw [hother ho]
        exact hshipped
      | inr hshort =>
        obtain ⟨l,hl,hl'⟩ := hshort
        obtain ⟨l',hl'mem,hid,hle⟩ := hmore l hl
        exact .inr ⟨l',hl'mem,by rw [hid]; omega⟩

theorem Filed.pick (h : Filed orderId d) (dto : Pick) : Filed orderId (d.pick dto) := by
  unfold ShippingDb.pick
  cases hline : (d.tables .outboundOrderLines).get? dto.lineId with
  | none => exact h
  | some line =>
    have hid : line.id=dto.lineId := Table.key_of_get? hline
    have hlines := apply_update_self (D := wms) .outboundOrderLines line.id
      (.set (line.pickedQuantity+dto.quantity)) d.tables
    simp only
    split
    · refine h.picked (hid ▸ hline) dto.quantity_pos rfl rfl rfl ?_ (.inr ?_)
      · have hne : TableName.outboundOrderLines≠.outboundOrders := by decide
        have hframe := fun v => apply_update_ne (D := wms) line.orderId
          ({status := .PICKED, fulfillmentStatus := some (some .PICKED)} : OutboundOrderUpdate) v hne
        exact (hframe _).trans hlines
      · exact apply_update_self (D := wms) .outboundOrders line.orderId _ _
    · exact h.picked (hid ▸ hline) dto.quantity_pos rfl rfl rfl hlines (.inl rfl)

theorem read_first {t : TableName} (p : t.Row → Bool) (e : HttpException) (v : WmsDb) :
    read (Txn.bind (findFirst (D := wms) t p) fun o => demand o e) v=
      match ((v t).rows.filter p).head? with
      | some r => .ok r
      | none => .error (.fault (.refused e)) := by
  have hasked : alone store id (Txn.bind (findFirst (D := wms) t p) fun o => demand o e) 0 []
      (.start v)=alone store id (demand ((v t).rows.filter p).head? e) 0 []
        ((Ctx.start v).saw (.rows t p) ((v t).rows.filter p)) := rfl
  unfold read
  rw [hasked]
  cases ((v t).rows.filter p).head? with
  | none => rfl
  | some r => rfl

theorem row_of_read {warehouseId : ℕ} {reference : Text} {v : WmsDb}
    (h : read (resolveShipmentWithClient warehouseId reference) v=.ok s) :
    (v .shipments).get? s.id=some s := by
  have hread := read_first (t := .shipments)
    (fun s => s.warehouseId=warehouseId && reference.names s.id s.shipmentNumber)
    (.notFound "Shipment was not found") v
  have hsame := hread.symm.trans h
  split at hsame
  · rename_i r hr
    cases hsame
    exact get?_row (List.mem_of_mem_filter (List.mem_of_mem_head? hr))
  · cases hsame

theorem Filed.stageShipment (h : Filed orderId d) {warehouse shipment : Text}
    {dto : StageShipmentDto} (hd : d.stageShipment warehouse shipment dto=.ok d') :
    Filed orderId d' := by
  obtain ⟨w,_,hd⟩ := bind_eq_ok hd
  cases hlocation : dto.stagedLocationReference with
  | none =>
    rw [hlocation] at hd
    obtain ⟨s,hs,hd⟩ := bind_eq_ok hd
    exact h.stage (row_of_read hs) hd
  | some reference =>
    rw [hlocation] at hd
    obtain ⟨_,_,hd⟩ := bind_eq_ok hd
    obtain ⟨s,hs,hd⟩ := bind_eq_ok hd
    exact h.stage (row_of_read hs) hd

theorem Filed.shipShipment (h : Filed orderId d) {warehouse shipment : Text}
    {dto : ShipShipmentDto} (hd : d.shipShipment warehouse shipment dto=.ok d') :
    Filed orderId d' := by
  obtain ⟨w,_,hd⟩ := bind_eq_ok hd
  obtain ⟨s,hs,hd⟩ := bind_eq_ok hd
  exact h.ship (row_of_read hs) hd

theorem Filed.act (h : Filed orderId d) (a : Action) : Filed orderId (d.act a) := by
  have hkept : ∀ r : Except Refusal ShippingDb, (∀ d', r=.ok d' → Filed orderId d') →
      Filed orderId (r.toOption.getD d) := by
    intro r hr
    cases r with
    | error e => exact h
    | ok d' => exact hr d' rfl
  cases a with
  | addPackage ids w r dto => exact hkept _ fun d' hd => h.addPackage hd
  | stageShipment w r dto => exact hkept _ fun d' hd => h.stageShipment hd
  | shipShipment w r dto => exact hkept _ fun d' hd => h.shipShipment hd
  | createShipment dto => exact h.createShipment dto
  | generateLabel label =>
    exact h.carry rfl rfl (fun _ _ => rfl) (fun l hl => ⟨l,hl,rfl⟩) h.bound h.order id h.gone
  | pick dto => exact h.pick dto

theorem Filed.run (h : Filed orderId d) (actions : List Action) : Filed orderId (d.run actions) := by
  induction actions generalizing d with
  | nil => exact h
  | cons a actions ih => exact ih (h.act a)

end Steps

/-- Nothing of the order is packed yet, and it has not left. -/
structure Unpacked (d : ShippingDb) (orderId : ℕ) : Prop where
  order : ∃ o : OutboundOrder, (d.tables .outboundOrders).get? orderId=some o ∧ o.status≠.SHIPPED
  refers : ∀ p∈(d.tables .shipmentPackages).rows, (d.tables .shipments).get? p.shipmentId≠none
  packages : ∀ p∈(d.tables .shipmentPackages).rows, p.outboundOrderId≠some orderId ∧
    ∀ s : Shipment, (d.tables .shipments).get? p.shipmentId=some s → s.outboundOrderId≠some orderId
  lines : ∀ l∈d.linesOf orderId, 0≤l.pickedQuantity

theorem Unpacked.filed {d : ShippingDb} {orderId : ℕ} (h : Unpacked d orderId) :
    Filed orderId d := by
  have hnone : d.packagesOf orderId=[] := by
    rw [List.eq_nil_iff_forall_not_mem]
    intro p hp
    obtain ⟨hp,ho⟩ := mem_packagesOf.mp hp
    exact (h.packages p hp).1 ho
  obtain ⟨o,hget,hopen⟩ := h.order
  have hbound : ∀ l∈d.linesOf orderId, held (d.packagesOf orderId) l.id≤l.pickedQuantity := by
    intro l hl
    rw [hnone]
    exact h.lines l hl
  have hleft : ¬d.IsShipped orderId := by
    intro hshipped
    obtain ⟨o',hget',hs⟩ := hshipped
    rw [hget] at hget'
    cases hget'
    exact hopen hs
  refine ⟨h.refers,fun p hp s hs ho => ((h.packages p hp).2 s hs ho).elim,?_,?_,?_,hbound,?_,
    by rw [hget]; simp,fun hs => (hleft hs).elim,?_⟩
  · rw [hnone]
    simp
  · rw [hnone]
    simp
  · rw [hnone]
    intro p hp
    cases hp
  · rw [hnone]
    simp
  · rw [hnone]
    simp

/-- Whatever is packed, staged, shipped and picked: once an order is packed in full, its shipments
can all leave, and it is shipped with the last of them, exactly where it has only one. -/
theorem split_shipments_complete (d : ShippingDb) (orderId : ℕ) (h : Unpacked d orderId)
    (actions : List Action) (hpacked : (d.run actions).FullyPacked orderId) :
    SplitsComplete (d.run actions) orderId ↔ OneShipment (d.run actions) orderId :=
  (h.filed.run actions).splits_iff hpacked

/-- Five are picked of the line of order 1, which has two shipments. -/
def packedStation : ShippingDb where
  tables := after
    [.insert .warehouses ⟨1,.word 1⟩,.insert .outboundOrders ⟨1,1,.word 1,.PICKED,none⟩,
     .insert .outboundOrderLines ⟨1,1,.word 1,.word 7,5,5,⟨false,false,false⟩,none⟩,
     .insert .shipments ⟨1,1,some 1,.word 11,.PACKING⟩,
     .insert .shipments ⟨2,1,some 1,.word 12,.PACKING⟩] emptyDb
  carrier := fun _ => none
  packageStatus := fun _ => .OPEN
  labels := []

theorem packedStation_unpacked : Unpacked packedStation 1 where
  order := ⟨⟨1,1,.word 1,.PICKED,none⟩,rfl,by decide⟩
  refers := by decide
  packages := by
    intro p hp
    cases hp
  lines := by decide

/-- The first id that is drawn is `n`. -/
def packInto (n : ℕ) (shipment : ℕ) (quantity : ℤ) (h : 0 < quantity) : Action :=
  .addPackage (· + n) (.word 1) (.word shipment) {contents := [⟨none,.word 7,quantity,h⟩]}

def packedOnce : List Action :=
  [packInto 21 11 5 (by decide),.stageShipment (.word 1) (.word 11) {},
   .shipShipment (.word 1) (.word 11) {}]

theorem split_shipments_complete_demo :
    SplitsComplete (packedStation.run packedOnce) 1 ↔ OneShipment (packedStation.run packedOnce) 1 :=
  split_shipments_complete packedStation 1 packedStation_unpacked packedOnce ⟨by decide,by decide⟩

def packedTwice : List Action := [packInto 21 11 2 (by decide),packInto 22 12 3 (by decide)]

/-- Two are in the first shipment and three in the second, and neither can be staged. -/
theorem second_shipment_stuck : ¬∀ d orderId, Unpacked d orderId → ∀ actions,
    (d.run actions).FullyPacked orderId → SplitsComplete (d.run actions) orderId := by
  intro h
  have hsplit := h packedStation 1 packedStation_unpacked packedTwice ⟨by decide,by decide⟩
  have hships : Ships (packedStation.run packedTwice) 1 ⟨1,1,some 1,.word 11,.PACKING⟩ :=
    ⟨rfl,rfl,⟨21,1,1,some 1,[⟨some 1,.word 7,2⟩]⟩,by decide,rfl⟩
  exact hsplit.stages _ hships (.notFullyPacked (.word 1) 5 2) rfl trivial

end AardvarkWms.Staging
