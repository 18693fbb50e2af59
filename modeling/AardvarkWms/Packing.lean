import AardvarkWms.Shipping
import AardvarkWms.StockSteps

/-! What `addPackage` files: inside what is picked for an order, unchecked without one. -/
namespace AardvarkWms

open Transactions Transactions.Txn Relational

section Contents
variable {lines : List OutboundOrderLine} {already : ℕ → ℤ}
  {planned : List PackageContent}

theorem sumPackageContentsByLine_append (xs ys : List PackageContent) (lineId : ℕ) :
    sumPackageContentsByLine (xs++ys) lineId=
      sumPackageContentsByLine xs lineId+sumPackageContentsByLine ys lineId := by
  simp [sumPackageContentsByLine]

theorem sumPackageContentsByLine_unnamed {xs : List PackageContent} {lineId : ℕ}
    (h : ∀ x∈xs, x.outboundOrderLineId≠some lineId) : sumPackageContentsByLine xs lineId=0 := by
  have hnil : xs.filter (fun x => decide (x.outboundOrderLineId=some lineId))=[] :=
    List.filter_eq_nil_iff.mpr fun x hx => by simpa using h x hx
  simp [sumPackageContentsByLine,hnil]

/-- Contents that name lines, each line inside what is left of its picks. -/
structure WithinPicked (lines : List OutboundOrderLine) (already : ℕ → ℤ)
    (planned : List PackageContent) : Prop where
  named : ∀ x∈planned, ∃ l∈lines, x.outboundOrderLineId=some l.id
  bound : ∀ l∈lines, sumPackageContentsByLine planned l.id=0 ∨
    already l.id+sumPackageContentsByLine planned l.id≤l.pickedQuantity

theorem withinPicked_nil : WithinPicked lines already [] :=
  ⟨by simp,fun _ _ => .inl rfl⟩

theorem resolvePackageContentLine_mem {content : PackageContentInputDto} {l : OutboundOrderLine}
    (h : resolvePackageContentLine lines content=.ok l) : l∈lines := by
  unfold resolvePackageContentLine at h
  split at h
  · split at h
    · rename_i hfind
      cases h
      exact List.mem_of_find?_eq_some hfind
    · cases h
  · simp only at h
    split at h
    · rename_i hfilter
      cases h
      exact List.mem_of_mem_filter (hfilter ▸ List.mem_singleton_self _)
    · cases h
    · cases h

theorem planPackageContent_ok {content : PackageContentInputDto} {next : PackageContent}
    (h : planPackageContent lines already planned content=.ok next) :
    ∃ l∈lines, next.outboundOrderLineId=some l.id ∧
      next.quantity≤l.pickedQuantity-already l.id-sumPackageContentsByLine planned l.id := by
  obtain ⟨l,hl,h⟩ := bind_eq_ok h
  simp only at h
  split at h
  · cases h
  · split at h
    · cases h
    · split at h
      · cases h
      · rename_i hle
        cases h
        exact ⟨l,resolvePackageContentLine_mem hl,rfl,by simpa using hle⟩

/-- One more content keeps every line inside its picks. -/
theorem WithinPicked.append {next : PackageContent} {l : OutboundOrderLine}
    (h : WithinPicked lines already planned) (hn : (lines.map (·.id)).Nodup) (hl : l∈lines)
    (hnext : next.outboundOrderLineId=some l.id)
    (hle : next.quantity≤l.pickedQuantity-already l.id-sumPackageContentsByLine planned l.id) :
    WithinPicked lines already (planned++[next]) := by
  constructor
  · intro x hx
    rcases List.mem_append.mp hx with hx|hx
    · exact h.named x hx
    · rw [List.mem_singleton.mp hx]
      exact ⟨l,hl,hnext⟩
  · intro m hm
    rw [sumPackageContentsByLine_append]
    by_cases hid : m.id=l.id
    · have hml : m=l := Table.inj_of_nodup hn hm hl hid
      subst hml
      right
      have hone : sumPackageContentsByLine [next] m.id=next.quantity := by
        simp [sumPackageContentsByLine,hnext]
      omega
    · have hzero : sumPackageContentsByLine [next] m.id=0 := by
        refine sumPackageContentsByLine_unnamed fun x hx => ?_
        rw [List.mem_singleton.mp hx,hnext]
        intro he
        exact hid (Option.some.inj he).symm
      rw [hzero,add_zero]
      exact h.bound m hm

theorem withinPicked_plan (hn : (lines.map (·.id)).Nodup)
    {contents : List PackageContentInputDto} : ∀ {planned planned' : List PackageContent},
      WithinPicked lines already planned →
      planPackageContents lines already contents planned=.ok planned' →
      WithinPicked lines already planned' := by
  induction contents with
  | nil =>
    intro planned planned' h he
    cases he
    exact h
  | cons content contents ih =>
    intro planned planned' h he
    obtain ⟨next,hnext,hrest⟩ := bind_eq_ok he
    obtain ⟨l,hl,hid,hle⟩ := planPackageContent_ok hnext
    exact ih (h.append hn hl hid hle) hrest

theorem unplanned_named : ∀ {contents : List PackageContentInputDto}
    {unplanned : List PackageContent}, contents.mapM unplannedContent=.ok unplanned →
    ∀ x∈unplanned, ∀ id, x.outboundOrderLineId=some id →
      ∃ content∈contents, content.outboundOrderLineReference=some (.uuid id) := by
  intro contents
  induction contents with
  | nil =>
    intro unplanned h x hx
    cases h
    cases hx
  | cons content contents ih =>
    intro unplanned h x hx id hid
    rw [List.mapM_cons] at h
    obtain ⟨first,hfirst,h⟩ := bind_eq_ok h
    obtain ⟨others,hothers,h⟩ := bind_eq_ok h
    cases h
    rcases List.mem_cons.mp hx with rfl|hx
    · refine ⟨content,List.mem_cons_self,?_⟩
      unfold unplannedContent at hfirst
      split at hfirst
      · cases hfirst
        cases hid
      · rename_i href
        cases hfirst
        cases hid
        exact href
      · cases hfirst
    · obtain ⟨content',hmem,href⟩ := ih hothers x hx id hid
      exact ⟨content',List.mem_cons_of_mem _ hmem,href⟩

end Contents

/-- What is in packages of an order line. -/
def packedQuantity (d : WmsDb) (lineId : ℕ) : ℤ :=
  (d .shipmentPackages).total fun p => sumPackageContentsByLine p.contents lineId

/-- The shipments that a call's references may mean. -/
def AddsTo (d : WmsDb) (warehouse shipment : Text) (s : Shipment) : Prop :=
  (d .shipments).get? s.id=some s ∧ shipment.names s.id s.shipmentNumber=true ∧
    ∃ w : Warehouse, (d .warehouses).get? w.id=some w ∧ warehouse.names w.id w.code=true ∧
      s.warehouseId=w.id

/-- A package as a call files it: planned for an order, as it came without one. -/
structure PackageAdded (warehouse shipment : Text) (dto : AddShipmentPackageDto) (c : WmsCtx)
    (s : Shipment) (p : ShipmentPackage) : Prop where
  shipment : AddsTo c.base warehouse shipment s
  order : p.outboundOrderId=s.outboundOrderId
  fresh : (c.base .shipmentPackages).get? p.id=none
  packages : c.view .shipmentPackages=(c.base .shipmentPackages).insert p
  lines : c.view .outboundOrderLines=c.base .outboundOrderLines
  unplanned : s.outboundOrderId=none → dto.contents.mapM unplannedContent=.ok p.contents
  planned : ∀ orderId, s.outboundOrderId=some orderId → ∃ lines,
    c.Saw (Select.rows (D := wms) .outboundOrderLines (·.orderId=orderId)) lines ∧
    planPackageContents (lines.insertionSort fun a b => a.lineNumber.le b.lineNumber=true)
      (sumPackageContentsByLine (((c.base .shipmentPackages).rows.filter
        fun p => p.outboundOrderId=some orderId).flatMap (·.contents))) dto.contents []=
      .ok p.contents

/-- A package as a call files it, with the shipment that takes it and what its order becomes. -/
structure PackageFiled (warehouse shipment : Text) (dto : AddShipmentPackageDto) (c : WmsCtx)
    (s : Shipment) (p : ShipmentPackage) : Prop
    extends PackageAdded warehouse shipment dto c s p where
  takes : s.status=.DRAFT ∨ s.status=.PACKING
  ofShipment : p.shipmentId=s.id
  filled : s.outboundOrderId≠none → dto.contents≠[]
  unordered : s.outboundOrderId=none → c.view .outboundOrders=c.base .outboundOrders
  ordered : ∀ orderId, s.outboundOrderId=some orderId → ∃ fullyPacked, c.view .outboundOrders=
    (c.base .outboundOrders).modify orderId (packedOrderUpdate fullyPacked).patch fun _ => rfl

section Rules
variable {Mid : WmsCtx → Prop}

theorem only_resolveShippingOwner {ok : Statement wms → Prop} (warehouseId : ℕ)
    (reference : Option Text) (resources : List (ResourceType × Option ℕ)) :
    Only ok (resolveShippingOwner warehouseId reference resources) := by
  refine (only_resolveSingleOwnerFromResources _ _).bind fun inherited => ?_
  cases reference with
  | none => trivial
  | some r =>
    refine (only_resolveOwnerClient _ _).bind fun found => (only_demand _ _).bind fun _ => ?_
    exact (only_require _ _).bind fun _ => trivial

theorem links_linkPackage (warehouseId id : ℕ) (owner : Option WmsClient) :
    Only Links (match owner with
      | none => (pure () : Wms Unit)
      | some o => linkOwnerResources warehouseId o [(.SHIPMENT_PACKAGE,some id)]) := by
  cases owner with
  | none => trivial
  | some o => exact links_linkOwnerResources _ _ _

theorem aside_linkPackage (warehouseId id : ℕ) (owner : Option WmsClient) :
    Only Aside (match owner with
      | none => (pure () : Wms Unit)
      | some o => linkOwnerResources warehouseId o [(.SHIPMENT_PACKAGE,some id)]) :=
  (links_linkPackage _ _ _).mono Links.aside

theorem wp_filesPackage (warehouse shipment : Text) (dto : AddShipmentPackageDto) (d : WmsDb) :
    wp store Mid (addPackage warehouse shipment dto) (.start d)
      (fun _ c => ∃ s p, PackageFiled warehouse shipment dto c s p) := by
  simp only [addPackage,resolveWarehouse,resolveShipmentWithClient,bind_eq,pure_eq,wp_bind]
  refine wp_findFirst (D := wms) fun ws hws => ?_
  simp only [wp_demand]
  intro w hw
  obtain ⟨hwname,hwrow⟩ := hws w hw
  refine wp_findFirst (D := wms) fun ss hss => ?_
  intro s hs
  obtain ⟨hsname,hsrow⟩ := hss s hs
  simp only [Bool.and_eq_true,decide_eq_true_eq] at hsname
  have hadds : AddsTo d warehouse shipment s :=
    ⟨row_of_settled (fun _ => rfl) hsrow,hsname.2,w,row_of_settled (fun _ => rfl) hwrow,hwname,
      hsname.1⟩
  refine wp_of_reads (only_resolveShippingOwner _ _ _) fun owner c hc => ?_
  simp only [wp_require]
  intro htakes
  have hc : Reaches (.start d) [] c :=
    ((Reaches.refl _).reads (Ctx.moves_saw _ _ _)).reads ((Ctx.moves_saw _ _ _).of_reads hc)
  cases hso : s.outboundOrderId with
  | none =>
    simp only [wp_done,buildPackageContentPlan,bind_eq,pure_eq,wp_bind]
    refine wp_findMany (D := wms) fun rs _ _ => ?_
    simp only [wp_compute]
    intro contents hcontents
    simp only [wp_fresh]
    intro id
    refine wp_inserts (t := .shipmentPackages) rfl (hc.reads (Ctx.moves_saw _ _ _))
      fun c hid hc => ?_
    refine wp_asides (aside_linkPackage _ _ _) hc fun _ c hc => ?_
    have hother : ∀ orderId, s.outboundOrderId≠some orderId := by simp [hso]
    refine ⟨s,⟨id,w.id,s.id,none,contents⟩,⟨hc.base ▸ hadds,hso.symm,hc.base ▸ hid,?_,?_,
      fun _ => hcontents,fun orderId he => (hother orderId he).elim⟩,htakes,rfl,
      fun hne => (hne hso).elim,fun _ => ?_,fun orderId he => (hother orderId he).elim⟩
    · rw [hc.table (t := .shipmentPackages) rfl,hc.base]
      simp only [List.nil_append,after_cons,after_nil,apply_insert_self]
      rfl
    · rw [hc.table (t := .outboundOrderLines) rfl,hc.base]
      rfl
    · rw [hc.table (t := .outboundOrders) rfl,hc.base]
      rfl
  | some orderId =>
    simp only [buildPackageContentPlan,findOrderLines,bind_eq,pure_eq,wp_bind]
    refine wp_locks hc fun c hc hk => ?_
    refine wp_selects_guarded (t := .shipmentPackages) rfl hk ?_ (fun _ => rfl) hc
      fun packages c hc hpackages => ?_
    · intro p hp
      have hp : p.outboundOrderId=some orderId := by simpa using hp
      simp [guards,TableName.parents,hp]
    have hpackages : packages=(d .shipmentPackages).rows.filter
        fun p => p.outboundOrderId=some orderId := by
      have hfixed : ∀ ps : List ShipmentPackage,
          ps.map (TableName.fixed (t := .shipmentPackages))=ps := fun ps => List.map_id ps
      exact (hfixed packages).symm.trans (hpackages.trans (hfixed _))
    subst hpackages
    simp only [wp_require]
    intro hfilled
    refine wp_selects (t := .outboundOrderLines) rfl hc fun lines c hc hsaw _ _ => ?_
    simp only [wp_done,wp_compute]
    intro _ contents hcontents
    simp only [wp_fresh]
    intro id
    refine wp_inserts (t := .shipmentPackages) rfl (Reaches.refl c) fun c₁ hid h₁ => ?_
    refine wp_updates h₁ fun c₂ h₂ => ?_
    refine wp_asides (aside_linkPackage _ _ _) h₂ fun _ c₃ h₃ => ?_
    have hview : c.view .shipmentPackages=d .shipmentPackages := hc.table rfl
    have hbase : c₃.base=d := h₃.base.trans hc.base
    have hsome : s.outboundOrderId≠none := by simp [hso]
    refine ⟨s,⟨id,w.id,s.id,some orderId,contents⟩,⟨hbase ▸ hadds,hso.symm,?_,?_,?_,
      fun he => (hsome he).elim,?_⟩,htakes,rfl,fun _ => hfilled,fun he => (hsome he).elim,?_⟩
    · rw [hbase,← hview]
      exact hid
    · rw [h₃.table (t := .shipmentPackages) rfl,hbase,← hview]
      simp
    · have hlines : c.view .outboundOrderLines=d .outboundOrderLines := hc.table rfl
      rw [h₃.table (t := .outboundOrderLines) rfl,hbase,← hlines]
      simp
    · intro orderId' he
      obtain rfl : orderId=orderId' := Option.some.inj (hso.symm.trans he)
      rw [hbase]
      exact ⟨lines,h₃.saw hsaw,hcontents⟩
    · intro orderId' he
      obtain rfl : orderId=orderId' := Option.some.inj (hso.symm.trans he)
      have horders : c.view .outboundOrders=d .outboundOrders := hc.table rfl
      have hupdated := h₃.table (t := .outboundOrders) rfl
      simp only [List.nil_append,List.cons_append,after_cons,after_nil,apply_update_self] at hupdated
      rw [hbase,← horders]
      exact ⟨_,hupdated⟩

theorem wp_addPackage (warehouse shipment : Text) (dto : AddShipmentPackageDto) (d : WmsDb) :
    wp store Mid (addPackage warehouse shipment dto) (.start d)
      (fun _ c => ∃ s p, PackageAdded warehouse shipment dto c s p) := by
  refine wp_mono (fun _ c h => ?_) (wp_filesPackage warehouse shipment dto d)
  obtain ⟨s,p,hfiled⟩ := h
  exact ⟨s,p,hfiled.toPackageAdded⟩

/-- What a call that adds a package may write. -/
def Packs (w : Statement wms) : Prop :=
  w.table=.shipmentPackages ∨ w.table=.outboundOrders ∨ Links w

theorem packs_addPackage (warehouse shipment : Text) (dto : AddShipmentPackageDto) :
    Only Packs (addPackage warehouse shipment dto) := by
  have hlink : ∀ w : Statement wms, Links w → Packs w := fun w h => .inr (.inr h)
  have hinsert : ∀ p : ShipmentPackage, Only Packs (insert (D := wms) .shipmentPackages p) :=
    fun p => only_insert (D := wms) (.inl rfl)
  simp only [addPackage,bind_eq,pure_eq]
  refine (only_resolveWarehouse _).bind fun w => ?_
  refine ((only_findFirst (D := wms) _ _).bind fun _ => only_demand _ _).bind fun s => ?_
  refine (only_resolveShippingOwner _ _ _).bind fun owner => (only_require _ _).bind fun _ => ?_
  cases s.outboundOrderId with
  | none =>
    simp only [buildPackageContentPlan,bind_eq,pure_eq]
    refine (only_findMany (D := wms) _ _).bind fun packages => ?_
    refine ((only_compute _).bind fun _ => only_done _).bind fun plan => ?_
    refine only_fresh.bind fun id => (hinsert _).bind fun _ => ?_
    exact (links_linkPackage _ _ _).mono hlink
  | some orderId =>
    simp only [buildPackageContentPlan,bind_eq,pure_eq]
    refine (only_lockRow (D := wms) _ _).bind fun _ => ?_
    refine (only_findMany (D := wms) _ _).bind fun packages => ?_
    refine Only.bind ?_ fun plan => ?_
    · refine (only_require _ _).bind fun _ => ?_
      refine ((only_findMany (D := wms) _ _).bind fun _ => only_done _).bind fun lines => ?_
      exact (only_require _ _).bind fun _ => (only_compute _).bind fun _ => only_done _
    · refine only_fresh.bind fun id => (hinsert _).bind fun _ => ?_
      refine ((only_update (D := wms) _ _ _).mpr (.inr (.inl rfl))).bind fun _ => ?_
      exact (links_linkPackage _ _ _).mono hlink

theorem Packs.elsewhere {t : TableName} (hp : t≠.shipmentPackages) (ho : t≠.outboundOrders)
    (hl : t≠.clientResourceLinks) (hc : t≠.ownerClientIds) (w : Statement wms) (h : Packs w) :
    w.table≠t := by
  intro ht
  obtain h|h|h|h := h
  · exact hp (ht.symm.trans h)
  · exact ho (ht.symm.trans h)
  · exact hl (ht.symm.trans h)
  · exact hc (ht.symm.trans h)

theorem only_addPackage (warehouse shipment : Text) (dto : AddShipmentPackageDto) :
    Only (fun w : Statement wms => w.table≠.outboundOrderLines)
      (addPackage warehouse shipment dto) :=
  (packs_addPackage _ _ _).mono (Packs.elsewhere (by decide) (by decide) (by decide) (by decide))

end Rules

end AardvarkWms
