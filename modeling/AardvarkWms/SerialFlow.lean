import AardvarkWms.SerialCalls

/-! Serials follow their stock: what each call does to the count of a quant's serials, and what
that makes of a run of calls. -/
namespace AardvarkWms

open Transactions Transactions.Txn Relational

theorem FollowBut.shift {d d' : WmsDb} {l l' : ℕ → ℤ} (h : FollowBut l d)
    (hsame : SameButSerials d d') (hl : ∀ q∈(d .stockQuants).rows, tracked d q.skuId=true →
      serialsOn d' q.id+l' q.id=serialsOn d q.id+l q.id) : FollowBut l' d' := by
  intro q hq ht
  have hquants : d' .stockQuants=d .stockQuants := (hsame .stockQuants rfl).symm
  rw [hquants] at hq
  rw [tracked_congr (hsame .skus rfl).symm] at ht
  exact (hl q hq ht).trans (h q hq ht)

section Receive
variable {d d' : WmsDb}

theorem settled_linkable {o : Option StockQuant} {skuId : ℕ} {status : SerialNumberStatus}
    (hstored : ∀ q∈o, q.skuId=skuId ∧ Settled (D := wms) d .stockQuants q.id q)
    (hexpected : status≠.EXPECTED)
    (havailable : ∀ q∈o, q.status=.AVAILABLE → status=.AVAILABLE) : Linkable d skuId o status := by
  intro id hid
  obtain ⟨q,hq,rfl⟩ := Option.mem_map.mp hid
  obtain ⟨hsku,r,hr,hfixed⟩ := hstored q hq
  have hfixed : TableName.fixed (t := .stockQuants) r=TableName.fixed q := hfixed
  simp only [TableName.fixed,StockQuant.mk.injEq] at hfixed
  refine ⟨r,(Table.mem_of_get? hr).1,Table.key_of_get? hr,?_,hexpected,fun h => ?_⟩
  · rw [← hsku]
    simp [hfixed]
  · refine havailable q hq ?_
    rw [← h]
    simp [hfixed]

/-- What a part of a receive leaves: stock of its identity, whose serials are still lacking. -/
structure PartStored (lack : ℕ → ℤ) (i : StockQuantIdentity) (n : ℤ) (o : Option StockQuant)
    (d d' : WmsDb) : Prop where
  sound : SerialsSound d'
  follow : FollowBut (fun k => lack k+n*captures o k) d'
  skus : d' .skus=d .skus
  later : Relational.Later d d'
  stored : ∀ q∈o, q.skuId=i.skuId ∧ Settled (D := wms) d' .stockQuants q.id q
  status : ∀ q∈o, q.status=i.status

theorem ran_receivePart {lack : ℕ → ℤ} {i : StockQuantIdentity} {n : ℤ} {o : Option StockQuant}
    (hsound : SerialsSound d) (hfollow : FollowBut lack d)
    (hlack : ∀ k, (d .stockQuants).get? k=none → lack k=0)
    (h : Ran store (Inbound.receivePart i n) d o d') : PartStored lack i n o d d' := by
  simp only [Inbound.receivePart,Inbound.incrementOrCreateReceiveQuant,bind_eq,pure_eq,ran_ite,
    ran_bind,ran_done] at h
  rcases h with ⟨hn,q,_,hdeposit,rfl,rfl⟩|⟨hn,rfl,rfl⟩
  · obtain ⟨t,rfl,ht,hsame⟩ := ran_incrementOrCreateQuant hdeposit
    have hidentity := quantIdentityWhere_eq ht.identity
    have hskus : after (t.writes 0 n) d .skus=d .skus := by
      refine after_of_table fun w hw => ?_
      rw [t.writes_table 0 n w hw]
      decide
    constructor
    · exact (hsound.deposit ht.fits).congr hsame
    · have hlacks : (fun k => lack k+n*captures (some t.quant) k)=lacking lack t.quant.id n := by
        funext k
        by_cases hk : t.quant.id=k
        · simp [captures,lacking,hk]
        · have hk' : ¬k=t.quant.id := fun h => hk h.symm
          simp [captures,lacking,hk,hk']
      rw [hlacks]
      exact (hfollow.deposit ht.fits hsound (hlack _)).congr hsame
    · exact (hsame .skus rfl).symm.trans hskus
    · exact Ran.only (S := store) (fun _ => store.later_refl _) store.later_trans
        (fun w d _ => store.later_apply w d)
        (only_incrementOrCreateQuant (fun _ _ => trivial) fun _ _ => trivial) hdeposit
    · rintro _ ⟨⟩
      refine ⟨hidentity.2.1,?_⟩
      have hpresent := ht.fits.present 0
      unfold Settled at hpresent ⊢
      rwa [← hsame .stockQuants rfl]
    · rintro _ ⟨⟩
      exact hidentity.2.2.2.1
  · refine ⟨hsound,?_,rfl,store.later_refl _,by simp,by simp⟩
    simpa [captures] using hfollow

theorem captures_eq_zero {o : Option StockQuant} {k : ℕ}
    (hstored : ∀ q∈o, ((d .stockQuants).get? q.id).isSome=true)
    (hk : (d .stockQuants).get? k=none) : captures o k=0 := by
  refine if_neg fun h => ?_
  obtain ⟨q,hq,rfl⟩ := Option.map_eq_some_iff.mp h
  have hrow := hstored q hq
  rw [hk] at hrow
  cases hrow

/-- The count of serials is exact where the SKU is tracked, and elsewhere it does not matter. -/
theorem Linkable.exact {skuId : ℕ} {o : Option StockQuant} {status : SerialNumberStatus} {m n : ℤ}
    (h : Linkable d skuId o status) (hn : tracked d skuId=true → m=n) {q : StockQuant}
    (hq : q∈(d .stockQuants).rows) (ht : tracked d q.skuId=true) :
    m*captures o q.id=n*captures o q.id := by
  by_cases hid : o.map (·.id)=some q.id
  · obtain ⟨r,hr,hrid,hsku,_⟩ := h q.id hid
    have hget : (d .stockQuants).get? q.id=some q := Table.get?_key hq
    have hget' : (d .stockQuants).get? q.id=some r := Table.get?_eq_some.mpr ⟨hr,hrid⟩
    obtain rfl := Option.some.inj (hget.symm.trans hget')
    rw [hn (hsku ▸ ht)]
  · simp [captures,hid]

theorem apart_createReceiveException (warehouseId : ℕ) (e : ReceiveExceptionCode × ℤ) :
    Only Apart (Inbound.createReceiveException warehouseId e) :=
  only_fresh.bind fun _ => apart_insert rfl _

theorem apart_createPartMovement (input : StockQuant → Inbound.ReceiveMovementInput)
    (quant : Option StockQuant) : Only Apart (Inbound.createPartMovement input quant) := by
  cases quant with
  | none => exact only_done _
  | some q =>
    refine (only_fresh.bind fun _ => ?_).bind fun _ => only_done _
    exact (apart_insert rfl _).bind fun _ => only_done _

theorem apart_receivePutaway (x : Inbound.ReceiveContext) (dto : Inbound.ReceiveInboundLineDto)
    (quant : Option StockQuant) : Only Apart (Inbound.receivePutaway x dto quant) := by
  cases quant with
  | none => exact only_done _
  | some q =>
    refine Only.ite (fun _ => only_done _) fun _ => ?_
    refine (Inbound.only_putawayTarget _ _ _ _ _).bind fun _ => (only_require _ _).bind fun _ => ?_
    exact only_fresh.bind fun _ => (apart_insert rfl _).bind fun _ => only_done _

theorem recordReceive_follow {x : Inbound.ReceiveContext} {dto : Inbound.ReceiveInboundLineDto}
    {quant damagedQuant : Option StockQuant} {task : Option ℕ} {r : Inbound.InboundReceiveResponse}
    (hsound : SerialsSound d) (hfollow : FollowBut (fun k => dto.quantity*captures quant k+
      dto.damaged*captures damagedQuant k) d)
    (hcount : tracked d x.sku.id=true → (dto.serialNumbers.length : ℤ)=dto.quantity ∧
      (dto.damagedSerialNumbers.length : ℤ)=dto.damaged)
    (hgood : Linkable d x.sku.id quant
      (if quant.any (·.status=.QUARANTINE) then .BLOCKED else .AVAILABLE))
    (hdamaged : Linkable d x.sku.id damagedQuant
      (if damagedQuant.any (·.status=.DAMAGED) then .DAMAGED else .BLOCKED))
    (h : Ran store (Inbound.recordReceive x dto quant damagedQuant task) d r d') :
    SerialsSound d' ∧ SerialsFollow d' := by
  simp only [Inbound.recordReceive,Inbound.recordReceiveSerials,bind_eq,pure_eq,ran_bind,
    ran_require,ran_done] at h
  obtain ⟨m,d₁,hm,m',d₂,hm',_,_,⟨_,rfl⟩,ids,d₃,hserials,h⟩ := h
  have hmoved := (Ran.aside (p := serialTables) hm (apart_createPartMovement _ _)).trans
    (Ran.aside (p := serialTables) hm' (apart_createPartMovement _ _))
  have hafter : SameSerials d₃ d' := by
    refine Ran.aside h ?_
    cases x.owner with
    | none =>
      exact (apart_update rfl _ _).bind fun _ => (apart_update rfl _ _).bind fun _ => only_done _
    | some owner =>
      refine ((links_linkOwnerResources _ _ _).mono Links.apart).bind fun _ => ?_
      exact (apart_update rfl _ _).bind fun _ => (apart_update rfl _ _).bind fun _ => only_done _
  obtain ⟨goods,e,hgoods,damages,e',hdamages,rfl,rfl⟩ := hserials
  have hquants := (hmoved .stockQuants rfl).symm
  have hskus := (hmoved .skus rfl).symm
  obtain ⟨hsound₁,hsame₁,hcaptured₁⟩ := receive_serials (hsound.congr hmoved)
    (hgood.congr hquants) hgoods
  have hquants₁ := (hsame₁ .stockQuants rfl).symm.trans hquants
  obtain ⟨hsound₂,hsame₂,hcaptured₂⟩ := receive_serials hsound₁ (hdamaged.congr hquants₁) hdamages
  have hfollowed : FollowBut (fun _ => 0) e' := by
    refine (hfollow.congr hmoved).shift (hsame₁.trans hsame₂) fun q hq ht => ?_
    have hcaptured := hcaptured₁ q hq ht
    have hcaptured' := hcaptured₂ q (hquants₁.trans hquants.symm ▸ hq)
      (by rwa [tracked_congr (hsame₁ .skus rfl).symm])
    rw [hquants] at hq
    rw [tracked_congr hskus] at ht
    have hexact := hgood.exact (fun ht => (hcount ht).1) hq ht
    have hexact' := hdamaged.exact (fun ht => (hcount ht).2) hq ht
    beta_reduce at hcaptured hcaptured' ⊢
    omega
  exact ⟨hsound₂.congr hafter,(hfollowed.congr hafter).follow (hsound₂.congr hafter)⟩

theorem tracked_row {sku : Sku} (h : sku∈(d .skus).rows) :
    tracked d sku.id=sku.traceability.serialRequired := by
  have hget : (d .skus).get? sku.id=some sku := Table.get?_key h
  simp [tracked,hget]

/-- Damaged stock is stored as damaged or under quarantine: the only values that the request
may give. -/
def DamagedApart (dto : Inbound.ReceiveInboundLineDto) : Prop :=
  ∀ status∈dto.damagedStockStatus, status=.DAMAGED ∨ status=.QUARANTINE

theorem receiveInto_follow {x : Inbound.ReceiveContext} {dto : Inbound.ReceiveInboundLineDto}
    {r : Inbound.InboundReceiveResponse} (hsound : SerialsSound d) (hfollow : SerialsFollow d)
    (hdto : DamagedApart dto)
    (hcount : tracked d x.sku.id=true → (dto.serialNumbers.length : ℤ)=dto.quantity ∧
      (dto.damagedSerialNumbers.length : ℤ)=dto.damaged)
    (h : Ran store (Inbound.receiveInto x dto) d r d') : SerialsSound d' ∧ SerialsFollow d' := by
  simp only [Inbound.receiveInto,bind_eq,ran_bind] at h
  obtain ⟨_,d₁,hexceptions,quant,d₂,hgood,damagedQuant,d₃,hdamaged,task,d₄,htask,hrecord⟩ := h
  have hsame := Ran.aside (p := serialTables) hexceptions
    (Only.each fun _ _ => apart_createReceiveException _ _)
  have hpart := ran_receivePart (hsound.congr hsame) (hfollow.but.congr hsame) (fun _ _ => rfl) hgood
  have hpart' := ran_receivePart hpart.sound hpart.follow (fun k hk => ?_) hdamaged
  · have htasked := Ran.aside (p := serialTables) htask (apart_receivePutaway _ _ _)
    have hskus : d₄ .skus=d .skus := by
      rw [← htasked .skus rfl,hpart'.skus,hpart.skus,hsame .skus rfl]
    have hquants := (htasked .stockQuants rfl).symm
    refine recordReceive_follow (hpart'.sound.congr htasked) ?_ ?_ ?_ ?_ hrecord
    · simpa only [zero_add] using hpart'.follow.congr htasked
    · rwa [tracked_congr hskus]
    · refine (settled_linkable (fun q hq => ?_) ?_ fun q hq hstatus => ?_).congr hquants
      · exact ⟨(hpart.stored q hq).1,(hpart.stored q hq).2.later hpart'.later⟩
      · split <;> decide
      · obtain rfl := hq
        simp [hstatus]
    · refine (settled_linkable (fun q hq => hpart'.stored q hq) ?_ fun q hq hstatus => ?_).congr hquants
      · split <;> decide
      · have hidentity := (hpart'.status q hq).symm.trans hstatus
        cases hd : dto.damagedStockStatus with
        | none =>
          simp [Inbound.ReceiveContext.identity,hd] at hidentity
        | some status =>
          simp only [Inbound.ReceiveContext.identity,hd,Option.getD_some] at hidentity
          rcases hdto status hd with rfl|rfl <;> cases hidentity
  · rw [zero_add,captures_eq_zero (fun q hq => ?_) hk,mul_zero]
    obtain ⟨_,r,hr,_⟩ := hpart.stored q hq
    simp [hr]

theorem receive_follow {warehouse shipment : Text} {dto : Inbound.ReceiveInboundLineDto}
    {r : Inbound.InboundReceiveResponse} (hsound : SerialsSound d) (hfollow : SerialsFollow d)
    (hdto : DamagedApart dto) (h : Ran store (Inbound.receive warehouse shipment dto) d r d') :
    SerialsSound d' ∧ SerialsFollow d' := by
  simp only [Inbound.receive,bind_eq,pure_eq,ran_bind] at h
  obtain ⟨w,_,hwarehouse,found,_,hfound,h⟩ := h
  obtain rfl := hwarehouse.reads (only_resolveWarehouse _)
  obtain rfl := hfound.reads (Inbound.only_findIdempotentReceive _ _)
  cases found with
  | some response =>
    obtain ⟨_,rfl⟩ := h
    exact ⟨hsound,hfollow⟩
  | none =>
    simp only [ran_bind] at h
    obtain ⟨x,e,hresolve,hinto⟩ := h
    obtain ⟨hsame,hsku,hcount⟩ := ran_resolveReceive hresolve
    have hsound' := hsound.congr hsame
    refine receiveInto_follow hsound' ((hfollow.but.congr hsame).follow hsound') hdto ?_ hinto
    rwa [tracked_congr (hsame .skus rfl).symm,tracked_row hsku]

end Receive

section Moves
variable {d d' : WmsDb}

theorem settled_sku {q r : StockQuant} {id : ℕ} (h : Settled (D := wms) d .stockQuants id q)
    (hr : r∈(d .stockQuants).rows) (hid : r.id=id) : r.skuId=q.skuId := by
  obtain ⟨r',hr',hfixed⟩ := h
  have hget : (d .stockQuants).get? id=some r := Table.get?_eq_some.mpr ⟨hr,hid⟩
  obtain rfl := Option.some.inj (hr'.symm.trans hget)
  have hfixed : TableName.fixed (t := .stockQuants) r'=TableName.fixed q := hfixed
  simp only [TableName.fixed,StockQuant.mk.injEq] at hfixed
  exact hfixed.2.2.2.1

theorem FollowBut.untracked {lack : ℕ → ℤ} (h : FollowBut lack d)
    (hlack : ∀ q∈(d .stockQuants).rows, tracked d q.skuId=true → lack q.id=0) :
    FollowBut (fun _ => 0) d := by
  intro q hq ht
  have hrow := h q hq ht
  rwa [hlack q hq ht] at hrow

theorem SerialsFollow.take {q : StockQuant} {u : StockQuantUpdate} {n : ℤ} (h : SerialsFollow d)
    (hu : u.quantity=.decrement n) :
    FollowBut (lacking (fun _ => 0) q.id (-n)) (after [.update .stockQuants q.id u] d) := by
  refine h.but.update fun y => ?_
  rw [hu]
  exact sub_eq_add_neg y n

theorem SerialsFollow.takeUntracked {q : StockQuant} {u : StockQuantUpdate} {n : ℤ}
    (h : SerialsFollow d) (hsound : SerialsSound d) (hu : u.quantity=.decrement n)
    (hrow : (d .stockQuants).get? q.id=some q) (ht : tracked d q.skuId=false) :
    SerialsFollow (after [.update .stockQuants q.id u] d) := by
  refine ((h.take hu).untracked fun r hr htracked => lacking_ne _ _ fun hid => ?_).follow
    hsound.update
  have hskus : after [.update .stockQuants q.id u] d .skus=d .skus := by simp
  have hsku := settled_sku ((settled_of_get? hrow).later (store.later_applyAll _ _)) hr hid
  rw [tracked_congr hskus,hsku,ht] at htracked
  cases htracked

theorem SerialsFollow.putUntracked {t : Deposit} {n : ℤ} (h : SerialsFollow d)
    (hsound : SerialsSound d) (hfits : t.Fits d n) (ht : tracked d t.quant.skuId=false) :
    SerialsFollow (after (t.writes 0 n) d) := by
  refine ((h.but.deposit hfits hsound fun _ => rfl).untracked fun r hr htracked =>
    lacking_ne _ _ fun hid => ?_).follow (hsound.deposit hfits)
  have hskus : after (t.writes 0 n) d .skus=d .skus := by
    refine after_of_table fun w hw => ?_
    rw [t.writes_table 0 n w hw]
    decide
  rw [tracked_congr hskus,settled_sku (hfits.present 0) hr hid,ht] at htracked
  cases htracked

theorem move_follow {warehouse : Text} {dto : MoveStockDto} {r : StockOperationResponse}
    (hsound : SerialsSound d) (hfollow : SerialsFollow d)
    (hsource : ∀ q, Ran store (moveSource warehouse dto) d (some q) d → tracked d q.skuId=false)
    (h : Ran store (move warehouse dto) d r d') : SerialsSound d' ∧ SerialsFollow d' := by
  cases ran_move h with
  | inl hsame => exact hsame ▸ ⟨hsound,hfollow⟩
  | inr hmoved =>
    obtain ⟨q,t,hread,hrow,hsku,hfits,hsame⟩ := hmoved
    have ht := hsource q hread
    have htaken := hfollow.takeUntracked hsound (u := {quantity := .decrement dto.quantity}) rfl
      hrow ht
    have hput := htaken.putUntracked hsound.update hfits ?_
    · have hsound' := (hsound.update.deposit hfits).congr hsame
      exact ⟨hsound',(hput.but.congr hsame).follow hsound'⟩
    · rw [tracked_congr (d := d) (by simp),hsku,ht]

theorem scan_follow {warehouse : Text} {session : ℕ} {dto : ScanRfStepDto} {u : Unit}
    (hsound : SerialsSound d) (hfollow : SerialsFollow d)
    (hpicked : ∀ q, Ran store (scannedQuant warehouse session dto) d (some q) d →
      tracked d q.skuId=false)
    (h : Ran store (scan warehouse session dto) d u d') : SerialsSound d' ∧ SerialsFollow d' := by
  cases ran_scan h with
  | inl hsame => exact ⟨hsound.congr hsame,(hfollow.but.congr hsame).follow (hsound.congr hsame)⟩
  | inr hscanned =>
    obtain ⟨q,n,hread,hrow,hsame⟩ := hscanned
    have htaken := hfollow.takeUntracked hsound (n := n)
      (u := ⟨.decrement n,.decrement n,1⟩) rfl hrow (hpicked q hread)
    have hsound' := hsound.update.congr hsame
    exact ⟨hsound',(htaken.but.congr hsame).follow hsound'⟩

end Moves

/-- Where stock of a tracked quant went, the serials that changed were linked to it, and they
are as many. -/
def PicksItsSerials (d d' : WmsDb) : Prop :=
  ∀ q∈(d .stockQuants).rows, tracked d q.skuId=true →
    ∀ q', (d' .stockQuants).get? q.id=some q' → q'.quantity≠q.quantity →
      (∀ s∈changedSerials d d', s.stockQuantId=some q.id) ∧
      ((changedSerials d d').length : ℤ)=q.quantity-q'.quantity

/-- A pick of a tracked quant is for a line of its SKU, and the serials that the request names
are linked to the quant. -/
def OwnSerials (d : WmsDb) (dto : ConfirmPickDto) (x : PickTarget) : Prop :=
  tracked d x.stockQuant.skuId=true → x.sku.any (·.id=x.stockQuant.skuId)=true ∧
    ∀ s∈(d .serialNumbers).rows, outboundSerial x.warehouseId dto.serialNumbers s=true →
      s.stockQuantId=some x.stockQuant.id

instance (d : WmsDb) (dto : ConfirmPickDto) (x : PickTarget) : Decidable (OwnSerials d dto x) :=
  inferInstanceAs (Decidable (_=true → _))

section Picks
variable {d d' : WmsDb} {input : SerialTransitionInput} {q : StockQuant}

theorem selected_linked {names : List Text} (hsound : SerialsSound d)
    (hquant : input.stockQuant=some q) (hexact : input.requireExact=true)
    (hnamed : ∀ s∈(d .serialNumbers).rows,
      outboundSerial input.warehouseId input.serialNumbers s=true → s.stockQuantId=some q.id)
    (h : Ran store (selectSerialNumbers input) d names d) :
    ∀ s∈(d .serialNumbers).rows, outboundSerial input.warehouseId names s=true →
      s.stockQuantId=some q.id := by
  unfold selectSerialNumbers at h
  cases hserials : input.serialNumbers with
  | cons n ns =>
    rw [hserials] at h
    obtain ⟨rfl,_⟩ := h
    rwa [hserials] at hnamed
  | nil =>
    rw [hserials,hexact,hquant] at h
    simp only [bind_eq,pure_eq,ran_bind,ran_done] at h
    obtain ⟨available,_,hread,rfl,_⟩ := h
    obtain ⟨rfl,_⟩ := ran_findMany.mp hread
    intro s hs hout
    simp only [outboundSerial,Bool.and_eq_true,decide_eq_true_eq,List.contains_iff_mem,
      List.mem_map] at hout
    obtain ⟨hwarehouse,s',hs',hserial⟩ := hout
    have hmem := (List.mem_insertionSort _).mp (List.mem_of_mem_take hs')
    simp only [List.mem_filter,Bool.and_eq_true,decide_eq_true_eq] at hmem
    obtain ⟨hrow,⟨hwarehouse',hlink⟩,_⟩ := hmem
    have hsame := hsound.unique s hs s' hrow (hwarehouse.trans hwarehouse'.symm) hserial.symm
    rw [hsame,hlink]

theorem Picking.untracked {found : List SerialNumber} (h : Picking input d found [] d')
    (hsound : SerialsSound d) (hfound : ∀ s∈found, s∈(d .serialNumbers).rows)
    (hsku : input.skuId=some q.skuId) (ht : tracked d q.skuId=false) {r : StockQuant}
    (hr : r∈(d .stockQuants).rows) (htracked : tracked d r.skuId=true) :
    serialsOn d' r.id=serialsOn d r.id := by
  have hnone : found.countP (linkedTo r.id)=0 := by
    refine List.countP_eq_zero.mpr fun s hs hlink => ?_
    have hid : s.stockQuantId=some r.id := by simpa [linkedTo] using hlink
    obtain ⟨r',hr',hrid,hfits⟩ := hsound.linked s (hfound s hs) r.id hid
    have hget : (d .stockQuants).get? r.id=some r := Table.get?_key hr
    have hget' : (d .stockQuants).get? r.id=some r' := Table.get?_eq_some.mpr ⟨hr',hrid⟩
    obtain rfl := Option.some.inj (hget.symm.trans hget')
    have hskuId := (h.picked s hs (by simp)).1.sku q.skuId hsku
    simp only [fitsQuant,htracked,Bool.not_true,Bool.false_or,Bool.and_eq_true,
      decide_eq_true_eq] at hfits
    rw [← hfits.1.1,hskuId,ht] at htracked
    cases htracked
  have hcount := h.count r.id
  rw [hnone] at hcount
  simpa using hcount

theorem Picking.tracked {found : List SerialNumber} (h : Picking input d found [] d')
    (hlinked : ∀ s∈found, s.stockQuantId=some q.id) (k : ℕ) :
    serialsOn d' k=serialsOn d k+lacking (fun _ => 0) q.id (-found.length) k := by
  have hcount := h.count k
  by_cases hk : k=q.id
  · subst hk
    have hall : found.countP (linkedTo q.id)=found.length :=
      List.countP_eq_length.mpr fun s hs => by simp [linkedTo,hlinked s hs]
    rw [hall] at hcount
    rw [lacking_self]
    simp only [List.countP_nil] at hcount
    omega
  · have hnone : found.countP (linkedTo k)=0 := by
      refine List.countP_eq_zero.mpr fun s hs hlink => ?_
      have hid : s.stockQuantId=some k := by simpa [linkedTo] using hlink
      rw [hlinked s hs] at hid
      exact hk (Option.some.inj hid).symm
    rw [hnone] at hcount
    rw [lacking_ne _ _ hk]
    simpa using hcount

theorem changedSerials_congr {e e' : WmsDb} (h : e .serialNumbers=d .serialNumbers)
    (h' : e' .serialNumbers=d' .serialNumbers) : changedSerials e e'=changedSerials d d' := by
  unfold changedSerials
  rw [h,h']

theorem taken_row {u : StockQuantUpdate} {n : ℤ} {r r' : StockQuant}
    (hrow : (d .stockQuants).get? q.id=some q) (hu : u.quantity=.decrement n)
    (hquants : d' .stockQuants=after [.update .stockQuants q.id u] d .stockQuants)
    (hr : r∈(d .stockQuants).rows) (hr' : (d' .stockQuants).get? r.id=some r')
    (hne : r'.quantity≠r.quantity) : r=q ∧ r'.quantity=q.quantity-n := by
  have hget : (d .stockQuants).get? r.id=some r := Table.get?_key hr
  rw [hquants,after_cons,after_nil,apply_update_self] at hr'
  by_cases hid : r.id=q.id
  · rw [hid] at hget hr'
    obtain rfl := Option.some.inj (hget.symm.trans hrow)
    rw [Table.get?_modify_self,hrow] at hr'
    obtain rfl := Option.some.inj hr'
    refine ⟨rfl,?_⟩
    change u.quantity.apply r.quantity=r.quantity-n
    rw [hu]
    rfl
  · rw [Table.get?_modify_ne _ _ _ hid,hget] at hr'
    obtain rfl := Option.some.inj hr'
    exact (hne rfl).elim

theorem scan_picks {warehouse : Text} {session : ℕ} {dto : ScanRfStepDto} {u : Unit}
    (hpicked : ∀ q, Ran store (scannedQuant warehouse session dto) d (some q) d →
      tracked d q.skuId=false)
    (h : Ran store (scan warehouse session dto) d u d') : PicksItsSerials d d' := by
  intro r hr ht r' hr' hne
  cases ran_scan h with
  | inl hsame =>
    have hget : (d .stockQuants).get? r.id=some r := Table.get?_key hr
    rw [← hsame .stockQuants rfl,hget] at hr'
    obtain rfl := Option.some.inj hr'
    exact (hne rfl).elim
  | inr hscanned =>
    obtain ⟨q,n,hread,hrow,hsame⟩ := hscanned
    obtain ⟨rfl,_⟩ := taken_row hrow rfl (hsame .stockQuants rfl).symm hr hr' hne
    rw [hpicked r hread] at ht
    cases ht

theorem pickTarget_sku {warehouse : Text} {task : ℕ} {dto : ConfirmPickDto} {x : PickTarget}
    (h : Ran store (pickTarget warehouse task dto) d x d') : ∀ sku∈x.sku, sku∈(d .skus).rows := by
  simp only [pickTarget,resolvePickLine,bind_eq,pure_eq,ran_bind,ran_demand,ran_done] at h
  obtain ⟨w,_,hwarehouse,candidate,_,hcandidate,order,_,horder,t,_,htask,line,_,⟨_,rfl⟩,h⟩ := h
  obtain rfl := hwarehouse.reads (only_resolveWarehouse _)
  obtain rfl := hcandidate.reads (only_resolveWarehouseTask _ _)
  obtain rfl := horder.reads (only_resolvePickOrder _ _ _)
  obtain rfl := htask.reads (only_resolveWarehouseTask _ _)
  obtain ⟨r,_,hreservation,q,_,hquant,sku,_,hsku,rfl,rfl⟩ := h
  obtain rfl := hreservation.reads (only_resolvePickReservation _ _ _)
  obtain ⟨_,rfl⟩ := ran_resolvePickStockQuant hquant
  obtain ⟨hfound,rfl⟩ := ran_findFirst.mp hsku
  exact fun sku' hsku' => List.mem_of_find?_eq_some (hfound.symm.trans hsku')

theorem OwnSerials.exact {dto : ConfirmPickDto} {x : PickTarget} (h : OwnSerials d dto x)
    (hsku : ∀ sku∈x.sku, sku∈(d .skus).rows) (ht : tracked d x.stockQuant.skuId=true) :
    (x.input dto).requireExact=true := by
  have hany := (h ht).1
  cases hx : x.sku with
  | none =>
    rw [hx] at hany
    cases hany
  | some sku =>
    have hid : sku.id=x.stockQuant.skuId := by simpa [hx] using hany
    rw [← hid,tracked_row (hsku sku hx)] at ht
    simp [PickTarget.input,resolveTraceabilityPolicy,mergePolicy,hx,ht]

theorem transition_follow {dto : ConfirmPickDto} {x : PickTarget} (hsound : SerialsSound d)
    (hpos : 0 < x.quantity)
    (hfollow : FollowBut (lacking (fun _ => 0) x.stockQuant.id (-x.quantity)) d)
    (hrow : Settled (D := wms) d .stockQuants x.stockQuant.id x.stockQuant)
    (hexact : tracked d x.stockQuant.skuId=true → (x.input dto).requireExact=true)
    (hown : OwnSerials d dto x)
    (h : Ran store (transitionOutboundSerials (x.input dto)) d () d') :
    SerialsSound d' ∧ SameButSerials d d' ∧ FollowBut (fun _ => 0) d' ∧
      (tracked d x.stockQuant.skuId=true →
        (∀ s∈changedSerials d d', s.stockQuantId=some x.stockQuant.id) ∧
        ((changedSerials d d').length : ℤ)=x.quantity) := by
  have hother : tracked d x.stockQuant.skuId=false → ∀ r∈(d .stockQuants).rows,
      tracked d r.skuId=true → lacking (fun _ => 0) x.stockQuant.id (-x.quantity) r.id=0 := by
    intro ht r hr htracked
    refine lacking_ne _ _ fun hid => ?_
    rw [settled_sku hrow hr hid,ht] at htracked
    cases htracked
  have hto : (x.input dto).toStatus=.PICKED := rfl
  rcases ran_transitionOutboundSerials hto hsound h with
    ⟨hfree,_,rfl⟩|⟨names,hnames,hcount,hlength,hpicking⟩
  · have ht : tracked d x.stockQuant.skuId=false := by
      by_contra ht
      rw [hexact (Bool.of_not_eq_false ht)] at hfree
      cases hfree
    exact ⟨hsound,SameOn.refl d,hfollow.untracked (hother ht),fun h => by rw [ht] at h; cases h⟩
  · have hrows : ∀ s∈(d .serialNumbers).rows.filter (outboundSerial x.warehouseId names),
        s∈(d .serialNumbers).rows := fun s hs => (List.mem_filter.mp hs).1
    cases ht : tracked d x.stockQuant.skuId with
    | false =>
      refine ⟨hpicking.sound,hpicking.same,?_,by simp⟩
      refine (hfollow.untracked (hother ht)).shift hpicking.same fun r hr htracked => ?_
      rw [hpicking.untracked hsound hrows rfl ht hr htracked]
    | true =>
      have hlinked : ∀ s∈(d .serialNumbers).rows.filter (outboundSerial x.warehouseId names),
          s.stockQuantId=some x.stockQuant.id := by
        intro s hs
        obtain ⟨hs,hout⟩ := List.mem_filter.mp hs
        have hquant : (x.input dto).stockQuant=some x.stockQuant := rfl
        exact selected_linked hsound hquant (hexact ht) (hown ht).2 hnames s hs hout
      have hn : (((d .serialNumbers).rows.filter
          (outboundSerial x.warehouseId names)).length : ℤ)=x.quantity := by
        have hcounted := hcount (hexact ht)
        have hfound : ((d .serialNumbers).rows.filter (outboundSerial x.warehouseId names)).length=
          names.length := hlength
        have hquantity : (x.input dto).quantity=x.quantity := rfl
        rw [hfound,hcounted,hquantity]
        omega
      have hchanged := hpicking.changed (by simp [PickTarget.input])
      refine ⟨hpicking.sound,hpicking.same,hfollow.shift hpicking.same fun r _ _ => ?_,fun _ => ?_⟩
      · rw [hpicking.tracked hlinked,← hn]
        exact add_zero _
      · rw [hchanged]
        exact ⟨hlinked,hn⟩

theorem confirmPick_follow {warehouse : Text} {task : ℕ} {dto : ConfirmPickDto}
    {actor : AuthenticatedUser} {u : Unit} (hsound : SerialsSound d) (hfollow : SerialsFollow d)
    (hown : ∀ x, Ran store (pickTarget warehouse task dto) d x d → OwnSerials d dto x)
    (h : Ran store (confirmPick warehouse task dto actor) d u d') :
    SerialsSound d' ∧ SerialsFollow d' ∧ PicksItsSerials d d' := by
  obtain ⟨x,d₁,d₂,hread,hpos,hrow,hsame,hrun,hsame'⟩ := ran_confirmPick h
  have hown := hown x hread
  have hserials : d₁ .serialNumbers=d .serialNumbers := by
    rw [← hsame .serialNumbers rfl]
    simp
  have hskus : d₁ .skus=d .skus := by
    rw [← hsame .skus rfl]
    simp
  have hsettled : Settled (D := wms) d₁ .stockQuants x.stockQuant.id x.stockQuant := by
    unfold Settled
    rw [← hsame .stockQuants rfl]
    exact (settled_of_get? hrow).later (store.later_applyAll _ _)
  have hsound₁ := hsound.update.congr hsame
  have hfollow₁ := (hfollow.take (u := x.take) rfl).congr hsame
  have hown₁ : OwnSerials d₁ dto x := by
    unfold OwnSerials
    rwa [tracked_congr hskus,hserials]
  have hexact : tracked d₁ x.stockQuant.skuId=true → (x.input dto).requireExact=true := by
    rw [tracked_congr hskus]
    exact hown.exact (pickTarget_sku hread)
  obtain ⟨hsound₂,hsame₂,hfollow₂,hchanged⟩ :=
    transition_follow hsound₁ hpos hfollow₁ hsettled hexact hown₁ hrun
  have hsound' := hsound₂.congr hsame'
  refine ⟨hsound',(hfollow₂.congr hsame').follow hsound',fun r hr ht r' hr' hne => ?_⟩
  have hquants : d' .stockQuants=
      after [.update .stockQuants x.stockQuant.id x.take] d .stockQuants := by
    rw [← hsame' .stockQuants rfl,← hsame₂ .stockQuants rfl,hsame .stockQuants rfl]
  obtain ⟨rfl,hquantity⟩ := taken_row hrow rfl hquants hr hr' hne
  rw [← tracked_congr hskus] at ht
  rw [changedSerials_congr hserials (hsame' .serialNumbers rfl)] at hchanged
  rw [hquantity,sub_sub_cancel]
  exact hchanged ht

end Picks

/-- Calls one after another, each of which returns; a call that is refused is rolled back. -/
inductive SerialRun (ok : WmsDb → Call → Prop) (start : WmsDb) : WmsDb → Prop
  | start : SerialRun ok start start
  | step {d d' : WmsDb} {op : Call} : SerialRun ok start d → ok d op →
      Ran store op.prog d () d' → SerialRun ok start d'

/-- Receive, move and the two picks. -/
def Call.handlesSerials : Call → Bool
  | receiveInbound _ _ _ | move _ _ | confirmPick _ _ _ _ | scan _ _ _ => true
  | _ => false

def Call.picks : Call → Bool
  | confirmPick _ _ _ _ | scan _ _ _ => true
  | _ => false

/-- Receives are open to all stock, confirmed picks to serials of their own quant; moves and
scanned picks are of stock that needs no serials. -/
def KeepsSerials (d : WmsDb) : Call → Prop
  | .receiveInbound _ _ dto => DamagedApart dto
  | .move w dto => ∀ q, Ran store (moveSource w dto) d (some q) d → tracked d q.skuId=false
  | .confirmPick w t dto _ => ∀ x, Ran store (pickTarget w t dto) d x d → OwnSerials d dto x
  | .scan w s dto =>
    ∀ q, Ran store (scannedQuant w s dto) d (some q) d → tracked d q.skuId=false
  | _ => False

section Runs
variable {d d' start : WmsDb} {op : Call}

theorem serials_step (hsound : SerialsSound d) (hfollow : SerialsFollow d)
    (hok : KeepsSerials d op) (h : Ran store op.prog d () d') :
    SerialsSound d' ∧ SerialsFollow d' := by
  cases op with
  | receiveInbound w s dto =>
    simp only [Call.prog,ran_bind,ran_done] at h
    obtain ⟨r,e,h,_,rfl⟩ := h
    exact receive_follow hsound hfollow hok h
  | move w dto =>
    simp only [Call.prog,ran_bind,ran_done] at h
    obtain ⟨r,e,h,_,rfl⟩ := h
    exact move_follow hsound hfollow hok h
  | confirmPick w t dto actor =>
    have hpicked := confirmPick_follow hsound hfollow hok h
    exact ⟨hpicked.1,hpicked.2.1⟩
  | scan w s dto => exact scan_follow hsound hfollow hok h
  | _ => exact hok.elim

theorem serials_run (hsound : SerialsSound start) (hfollow : SerialsFollow start)
    (hrun : SerialRun KeepsSerials start d) : SerialsSound d ∧ SerialsFollow d := by
  induction hrun with
  | start => exact ⟨hsound,hfollow⟩
  | step _ hok h ih => exact serials_step ih.1 ih.2 hok h

theorem picks_step (hsound : SerialsSound d) (hfollow : SerialsFollow d)
    (hok : KeepsSerials d op) (hpick : op.picks=true) (h : Ran store op.prog d () d') :
    PicksItsSerials d d' := by
  cases op with
  | confirmPick w t dto actor => exact (confirmPick_follow hsound hfollow hok h).2.2
  | scan w s dto => exact scan_picks hok h
  | _ => cases hpick

/-- In every run of such calls from a state where serials follow stock they follow it, and each
pick changes just the serials of its quant, as many as it picked. -/
theorem serials_follow_stock (hsound : SerialsSound start) (hfollow : SerialsFollow start)
    (hrun : SerialRun KeepsSerials start d) : SerialsFollow d ∧ ∀ op d', KeepsSerials d op →
      op.picks=true → Ran store op.prog d () d' → PicksItsSerials d d' := by
  obtain ⟨hsound,hfollow⟩ := serials_run hsound hfollow hrun
  exact ⟨hfollow,fun op d' hok hpick h => picks_step hsound hfollow hok hpick h⟩

end Runs

/-- Two quants of a tracked SKU, each of one with its serial; the first one is reserved for the
line that task 1 picks, at the desk or in the session. -/
def serialShelf : WmsDb := after
  [.insert .warehouses ⟨1,.word 1⟩,
   .insert .warehouseLocations ⟨1,1,.word 0,none,none,none,.RECEIVING,true⟩,
   .insert .warehouseLocations ⟨2,1,.word 2,none,none,none,.STORAGE,true⟩,
   .insert .skus ⟨7,.word 7,none,⟨false,true,false⟩⟩,
   .insert .stockQuants ⟨1,1,2,7,none,none,none,none,none,1,1,.AVAILABLE,0,0⟩,
   .insert .stockQuants ⟨2,1,2,7,none,none,some (.word 3),none,none,1,0,.AVAILABLE,0,0⟩,
   .insert .serialNumbers ⟨1,1,7,some 1,.word 31,.AVAILABLE,some 2,none,0⟩,
   .insert .serialNumbers ⟨2,1,7,some 2,.word 32,.AVAILABLE,some 2,none,0⟩,
   .insert .inboundShipments ⟨1,1,.word 11,.EXPECTED⟩,
   .insert .inboundShipmentLines ⟨1,1,.text (.word 1),.word 7,10,0,false,⟨false,false,false⟩,
     none,none,none⟩,
   .insert .outboundOrders ⟨1,1,.word 21,.PICKING,none⟩,
   .insert .outboundOrderLines ⟨1,1,.word 1,.word 7,1,0,⟨false,false,false⟩,none⟩,
   .insert .reservations ⟨1,1,some 1,some 1,1,7,1,.ACTIVE⟩,
   .insert .warehouseTasks {WarehouseTask.record 1 1 .PICK with
     skuId := some 7, fromLocationId := some 2, outboundOrderId := some 1,
     outboundOrderLineId := some 1, reservationId := some 1, quantity := some 1},
   .insert .scannerSessions ⟨5,1,some 1,.ACTIVE⟩,
   .insert .scannerWorkflowSteps ⟨6,5,.CONFIRM_QUANTITY,1,.OPEN,⟨.QUANTITY,[]⟩⟩] emptyDb

theorem serialShelf_sound : SerialsSound serialShelf := by
  constructor <;> decide

/-- One good unit and one damaged unit are received. -/
def receiveBoth : Call := .receiveInbound (.word 1) (.word 11)
  {lineReference := some (.text (.word 1)), quantity := 1, damagedQuantity := some 1,
   serialNumbers := [.word 33], damagedSerialNumbers := [.word 34],
   createPutawayTask := some false, quantity_nonneg := by decide, damaged_nonneg := by decide}

def moveOne : Call := .move (.word 1)
  ⟨⟨none,none,0⟩,some (.uuid 2),none,none,none,.word 0,1,none,none,none,by decide⟩

def scanPick : Call := .scan (.word 1) 5 ⟨.word 3,none,none,nonneg_of_none,nonneg_of_none⟩

def pickSerial (serialNumber : Text) : Call :=
  .confirmPick (.word 1) 1 ⟨none,none,none,[serialNumber],pos_of_none⟩ ⟨[]⟩

theorem serials_follow_stock_demo : ∃ d d', Ran store receiveBoth.prog serialShelf () d ∧
    Ran store (pickSerial (.word 31)).prog d () d' ∧ SerialsFollow d ∧ PicksItsSerials d d' := by
  obtain ⟨e,he,e',he',x,hx,hown⟩ : ∃ e, alone store id receiveBoth.prog 50 [] (.start serialShelf)=
      .ok e ∧ ∃ e', alone store id (pickSerial (.word 31)).prog 80 [] (.start e.ctx.view)=.ok e' ∧
      ∃ x, reading store (pickTarget (.word 1) 1 ⟨none,none,none,[.word 31],pos_of_none⟩) e.ctx.view=
        some x ∧ OwnSerials e.ctx.view ⟨none,none,none,[.word 31],pos_of_none⟩ x :=
    ⟨_,rfl,_,rfl,_,rfl,by decide⟩
  have hreceived := Ran.alone he
  have hpicked := Ran.alone he'
  have hdto : KeepsSerials serialShelf receiveBoth := by simp [KeepsSerials,receiveBoth,DamagedApart]
  have hkeeps : KeepsSerials e.ctx.view (pickSerial (.word 31)) :=
    fun y hy => hy.unique hx ▸ hown
  obtain ⟨hfollow,hpicks⟩ := serials_follow_stock serialShelf_sound (by decide)
    (.step .start hdto hreceived)
  exact ⟨_,_,hreceived,hpicked,hfollow,hpicks _ _ hkeeps rfl hpicked⟩

/-- Every quant of a tracked SKU has as many available serials as its quantity, whatever its
stock is. -/
def AllAvailable (d : WmsDb) : Prop :=
  ∀ q∈(d .stockQuants).rows, tracked d q.skuId=true →
    (((d .serialNumbers).rows.filter (availableOn q.id)).length : ℤ)=q.quantity

instance (d : WmsDb) : Decidable (AllAvailable d) :=
  inferInstanceAs (Decidable (∀ q∈(d .stockQuants).rows, tracked d q.skuId=true →
    (((d .serialNumbers).rows.filter (availableOn q.id)).length : ℤ)=q.quantity))

/-- All serials follow stock in every run of these calls. -/
def FollowAlong (ok : Call → Prop) : Prop :=
  ∀ start d, SerialsSound start → AllAvailable start → SerialRun (fun _ op => ok op) start d →
    AllAvailable d ∧ ∀ op d', ok op → op.picks=true → Ran store op.prog d () d' →
      PicksItsSerials d d'

theorem not_followAlong {ok : Call → Prop} (op : Call) (hop : ok op)
    (h : ∃ e, alone store id op.prog 50 [] (.start serialShelf)=.ok e ∧ ¬AllAvailable e.ctx.view) :
    ¬FollowAlong ok := by
  intro hfollow
  obtain ⟨e,he,hbad⟩ := h
  exact hbad (hfollow _ _ serialShelf_sound (by decide) (.step .start hop (Ran.alone he))).1

/-- Damaged units are not available. A move and a scanned pick leave the serials linked where
they were, and a confirmed pick takes a serial of another quant if it is named. -/
theorem serials_left_behind : ¬FollowAlong (fun op => op.handlesSerials=true) ∧
    ¬FollowAlong (fun op => op=receiveBoth) ∧ ¬FollowAlong (fun op => op=moveOne) ∧
    ¬FollowAlong (fun op => op=scanPick) ∧ ¬FollowAlong (fun op => op=pickSerial (.word 32)) := by
  have hreceive : ∃ e, alone store id receiveBoth.prog 50 [] (.start serialShelf)=.ok e ∧
      ¬AllAvailable e.ctx.view := ⟨_,rfl,by decide⟩
  exact ⟨not_followAlong receiveBoth rfl hreceive,not_followAlong receiveBoth rfl hreceive,
    not_followAlong moveOne rfl ⟨_,rfl,by decide⟩,
    not_followAlong scanPick rfl ⟨_,rfl,by decide⟩,
    not_followAlong (pickSerial (.word 32)) rfl ⟨_,rfl,by decide⟩⟩

end AardvarkWms
