import AardvarkWms.Calls

/-! No line is packed beyond its picks, in whatever order packages are added to shipments
of orders; a shipment without an order takes a line's contents unchecked. -/
namespace AardvarkWms

open Transactions Transactions.Txn Relational

/-- Every line is packed inside its picks, and in packages of its own order. -/
structure Packed (d : WmsDb) : Prop where
  bound : ∀ l∈(d .outboundOrderLines).rows, packedQuantity d l.id≤l.pickedQuantity
  filed : ∀ p∈(d .shipmentPackages).rows, ∀ x∈p.contents, ∀ l∈(d .outboundOrderLines).rows,
    x.outboundOrderLineId=some l.id → p.outboundOrderId=some l.orderId

/-- The call adds to a shipment without an order and names an order line. -/
def Call.PacksUnordered : Call → WmsDb → Prop
  | addPackage w s dto, d => ∃ x, AddsTo d w s x ∧ x.outboundOrderId=none ∧
      ∃ content∈dto.contents, ∃ l∈(d .outboundOrderLines).rows,
        content.outboundOrderLineReference=some (.uuid l.id)
  | _, _ => False

def Call.addsPackage : Call → Bool
  | addPackage _ _ _ => true
  | _ => false

/-- The lines that the call saw are those that are there. -/
def LinesSeen (c : WmsCtx) : Prop := ∀ orderId lines,
  c.Saw (Select.rows (D := wms) .outboundOrderLines (·.orderId=orderId)) lines →
  lines=(c.base .outboundOrderLines).rows.filter (·.orderId=orderId)

theorem only_addsPackage {op : Call} (h : op.addsPackage=true) :
    Only (fun w : Statement wms => w.table≠.outboundOrderLines) op.prog := by
  cases op with
  | addPackage w s dto => exact only_addPackage w s dto
  | _ => cases h

section
variable {v : WmsDb}

theorem packedQuantity_order (h : Packed v) {l : OutboundOrderLine}
    (hl : l∈(v .outboundOrderLines).rows) : sumPackageContentsByLine
      (((v .shipmentPackages).rows.filter (fun p => p.outboundOrderId=some l.orderId)).flatMap
        (·.contents)) l.id=packedQuantity v l.id := by
  have hsum : ∀ ps : List ShipmentPackage, (∀ p∈ps, p∈(v .shipmentPackages).rows) →
      sumPackageContentsByLine ((ps.filter (fun p => p.outboundOrderId=some l.orderId)).flatMap
        (·.contents)) l.id=(ps.map fun p => sumPackageContentsByLine p.contents l.id).sum := by
    intro ps
    induction ps with
    | nil => exact fun _ => rfl
    | cons p ps ih =>
      intro hps
      have hrest := ih fun q hq => hps q (List.mem_cons_of_mem _ hq)
      rw [List.map_cons,List.sum_cons,← hrest]
      by_cases hp : p.outboundOrderId=some l.orderId
      · rw [List.filter_cons_of_pos (by simpa using hp),List.flatMap_cons,
          sumPackageContentsByLine_append]
      · rw [List.filter_cons_of_neg (by simpa using hp)]
        have hzero : sumPackageContentsByLine p.contents l.id=0 :=
          sumPackageContentsByLine_unnamed fun x hx hxl =>
            hp (h.filed p (hps p List.mem_cons_self) x hx l hl hxl)
        omega
  exact hsum _ fun _ hp => hp

end

section
variable {c : WmsCtx} {w s : Text} {dto : AddShipmentPackageDto} {x : Shipment}
  {p : ShipmentPackage}

theorem PackageAdded.within (he : PackageAdded w s dto c x p) (hseen : LinesSeen c) {orderId : ℕ}
    (hx : x.outboundOrderId=some orderId) : ∃ lines : List OutboundOrderLine,
    (∀ l, l∈lines ↔ l∈(c.base .outboundOrderLines).rows ∧ l.orderId=orderId) ∧
    WithinPicked lines (sumPackageContentsByLine (((c.base .shipmentPackages).rows.filter
      fun p => p.outboundOrderId=some orderId).flatMap (·.contents))) p.contents := by
  obtain ⟨lines,hsaw,hplan⟩ := he.planned orderId hx
  obtain rfl := hseen orderId lines hsaw
  have hsort := List.perm_insertionSort (fun a b : OutboundOrderLine =>
    a.lineNumber.le b.lineNumber=true) ((c.base .outboundOrderLines).rows.filter (·.orderId=orderId))
  refine ⟨_,fun l => ?_,withinPicked_plan ?_ withinPicked_nil hplan⟩
  · rw [hsort.mem_iff,List.mem_filter,decide_eq_true_eq]
  · rw [(hsort.map _).nodup_iff]
    exact (c.base .outboundOrderLines).nodup.sublist (List.filter_sublist.map _)

theorem PackageAdded.ofOrder (he : PackageAdded w s dto c x p) (hseen : LinesSeen c)
    (hno : ¬(Call.addPackage w s dto).PacksUnordered c.base) {y : PackageContent}
    (hy : y∈p.contents) {l : OutboundOrderLine} (hl : l∈(c.base .outboundOrderLines).rows)
    (hyl : y.outboundOrderLineId=some l.id) : p.outboundOrderId=some l.orderId := by
  cases hx : x.outboundOrderId with
  | none =>
    obtain ⟨content,hmem,href⟩ := unplanned_named (he.unplanned hx) y hy l.id hyl
    exact (hno ⟨x,he.shipment,hx,content,hmem,l,hl,href⟩).elim
  | some orderId =>
    obtain ⟨lines,hlines,hwithin⟩ := he.within hseen hx
    obtain ⟨m,hm,hym⟩ := hwithin.named y hy
    obtain ⟨hm,horder⟩ := (hlines m).mp hm
    have hid : m.id=l.id := Option.some.inj (hym.symm.trans hyl)
    have hml : m=l := Table.inj_of_nodup (c.base .outboundOrderLines).nodup hm hl hid
    rw [he.order,hx,← hml,horder]

theorem packed_added (he : PackageAdded w s dto c x p) (hseen : LinesSeen c)
    (hno : ¬(Call.addPackage w s dto).PacksUnordered c.base) (h : Packed c.base) :
    Packed c.view := by
  have hpacked : ∀ lineId, packedQuantity c.view lineId=
      packedQuantity c.base lineId+sumPackageContentsByLine p.contents lineId := by
    intro lineId
    unfold packedQuantity
    rw [he.packages]
    exact Table.total_insert _ he.fresh
  constructor
  · intro l hl
    rw [he.lines] at hl
    rw [hpacked]
    have hbound := h.bound l hl
    by_cases hp : p.outboundOrderId=some l.orderId
    · have hx : x.outboundOrderId=some l.orderId := he.order ▸ hp
      obtain ⟨lines,hlines,hwithin⟩ := he.within hseen hx
      have hline := hwithin.bound l ((hlines l).mpr ⟨hl,rfl⟩)
      rw [packedQuantity_order h hl] at hline
      omega
    · have hzero : sumPackageContentsByLine p.contents l.id=0 :=
        sumPackageContentsByLine_unnamed fun y hy hyl => hp (he.ofOrder hseen hno hy hl hyl)
      omega
  · intro q hq y hy l hl hyl
    rw [he.lines] at hl
    rw [he.packages,Table.rows_insert he.fresh] at hq
    rcases List.mem_append.mp hq with hq|hq
    · exact h.filed q hq y hy l hl hyl
    · rw [List.mem_singleton] at hq
      subst hq
      exact he.ofOrder hseen hno hy hl hyl

end

/-- The permitted commits: packages, but none that names a line without its order. -/
def PacksOrdered (op : Call) (c : WmsCtx) : Prop :=
  op.addsPackage=true ∧ ¬op.PacksUnordered c.base

theorem linesSeen_of_run {d : WmsDb} {tr : List (Call × WmsCtx)}
    {c : Config (interface wms) WmsDb Call} (hrun : Run store Call.prog PacksOrdered d tr c) :
    ∀ e∈tr, LinesSeen e.2 := by
  have hreads := hrun.reads (fun _ (w : Statement wms) => w.table≠.outboundOrderLines)
    (fun op => op.addsPackage=true)
    (fun v => v .outboundOrderLines=d .outboundOrderLines) (fun op hop => only_addsPackage hop) (fun op c hok => hok.1)
    (fun op w v hw hv => (apply_of_table v hw).trans hv) rfl
  intro e he orderId lines hsaw
  obtain ⟨hbase,hlog⟩ := hreads.2.1 e he
  obtain ⟨v,hv,hanswer⟩ := hlog _ hsaw
  have hanswer : lines=(v .outboundOrderLines).rows.filter (·.orderId=orderId) := hanswer
  rw [hanswer,hv,hbase]

theorem packed_run {d : WmsDb} {tr : List (Call × WmsCtx)}
    {c : Config (interface wms) WmsDb Call} (hstart : Packed d)
    (hrun : Run store Call.prog PacksOrdered d tr c) : Packed c.committed := by
  have hseen : Run store Call.prog (fun op c => PacksOrdered op c ∧ LinesSeen c) d tr c :=
    hrun.imp fun e he hok => ⟨hok,linesSeen_of_run hrun e he⟩
  refine (hseen.invariant Call.effect hstart ?_).1
  intro op c hpost hok h
  cases op with
  | addPackage w s dto =>
    obtain ⟨x,p,he⟩ := hpost
    exact packed_added he hok.2 hok.1.2 h
  | _ => cases hok.1.1

/-- In every run that adds packages so, the contents of all packages never exceed what is
picked of a line. -/
theorem packed_within_picked {d : WmsDb} {tr : List (Call × WmsCtx)}
    {c : Config (interface wms) WmsDb Call} (hstart : Packed d)
    (hrun : Run store Call.prog PacksOrdered d tr c) :
    ∀ l∈(c.committed .outboundOrderLines).rows, packedQuantity c.committed l.id≤l.pickedQuantity :=
  (packed_run hstart hrun).bound

/-- Five are picked of the line of order 1; shipment 1 is the order's, shipment 2 has none. -/
def packingStation : WmsDb := after
  [.insert .warehouses ⟨1,.word 1⟩,.insert .outboundOrders ⟨1,1,.word 1,.PICKED,none⟩,
   .insert .outboundOrderLines ⟨1,1,.word 1,.word 7,5,5,⟨false,false,false⟩,none⟩,
   .insert .shipments ⟨1,1,some 1,.word 11,.PACKING⟩,
   .insert .shipments ⟨2,1,none,.word 12,.PACKING⟩] emptyDb

def demoPack (n : ℤ) (h : 0 < n) : Call :=
  .addPackage (.word 1) (.word 11) {contents := [⟨none,.word 7,n,h⟩]}

theorem packed_within_picked_demo : ∃ tr d,
    serially store Call.prog id [demoPack 2 (by decide),demoPack 3 (by decide)] 10 []
      packingStation=.ok (tr,d) ∧
    ∀ l∈(d .outboundOrderLines).rows, packedQuantity d l.id≤l.pickedQuantity := by
  have hhistory : ∃ tr d, serially store Call.prog id
      [demoPack 2 (by decide),demoPack 3 (by decide)] 10 [] packingStation=.ok (tr,d) := ⟨_,_,rfl⟩
  obtain ⟨tr,d,he⟩ := hhistory
  have hok : ∀ op∈[demoPack 2 (by decide),demoPack 3 (by decide)], ∀ c, PacksOrdered op c := by
    simp [demoPack,PacksOrdered,Call.addsPackage,Call.PacksUnordered]
  exact ⟨tr,d,he,packed_within_picked ⟨by decide,by decide⟩ (Run.serial he hok)⟩

/-- A package of shipment 2 takes another one of the line that is packed already. -/
def demoUnorderedPack : Call :=
  .addPackage (.word 1) (.word 12) {contents := [⟨some (.uuid 1),.word 7,1,by decide⟩]}

theorem unordered_package_exceeds_picked : ¬∀ d tr (c : Config (interface wms) WmsDb Call),
    Packed d → Run store Call.prog (fun op _ => op.addsPackage=true) d tr c →
    ∀ l∈(c.committed .outboundOrderLines).rows,
      packedQuantity c.committed l.id≤l.pickedQuantity := by
  intro h
  have hhistory : ∃ tr d, serially store Call.prog id
      [demoPack 5 (by decide),demoUnorderedPack] 10 [] packingStation=.ok (tr,d) ∧
      ¬∀ l∈(d .outboundOrderLines).rows, packedQuantity d l.id≤l.pickedQuantity :=
    ⟨_,_,rfl,by decide⟩
  obtain ⟨tr,d,he,hbad⟩ := hhistory
  have hrun : Run store Call.prog (fun op _ => op.addsPackage=true) _ tr (.idle d) :=
    Run.serial he (by simp [demoPack,demoUnorderedPack,Call.addsPackage])
  exact hbad (h _ _ _ ⟨by decide,by decide⟩ hrun)

end AardvarkWms
