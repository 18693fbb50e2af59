import AardvarkWms.SerialStock

/-! What receives and picks do to serials: each captured serial and each picked one is a step,
and the loops over them are runs of such steps. -/
namespace AardvarkWms

open Transactions Transactions.Txn Relational

section Only

theorem apart_insert {t : TableName} (ht : serialTables t=false) (r : t.Row) :
    Only Apart (insert (D := wms) t r) :=
  only_insert (D := wms) (by simp [Apart,Statement.table,ht])

theorem apart_update {t : TableName} (ht : serialTables t=false) (id : t.Id) (p : t.Patch) :
    Only Apart (update (D := wms) t id p) := by
  refine (only_update (D := wms) _ _ _).mpr ?_
  simp [Apart,Statement.table,ht]

theorem Links.apart (w : Statement wms) (h : Links w) : Apart w := by
  intro hserial
  cases h with
  | inl ht => rw [ht] at hserial; cases hserial
  | inr ht => rw [ht] at hserial; cases hserial

theorem links_linkFulfillmentOwner (warehouseId orderId : ℕ)
    (resources : List (ResourceType × Option ℕ)) :
    Only Links (linkFulfillmentOwner warehouseId orderId resources) := by
  refine (only_findResourceOwner _ _).bind fun owner => ?_
  cases owner with
  | none => exact only_done _
  | some owner =>
    exact (Only.each fun _ _ => links_ensureOwnedResourceLink _ _ _ _).bind fun _ =>
      (Only.each fun _ _ => links_mirrorOwnerClientIdToResource _ _ _).bind fun _ => trivial

theorem apart_createFulfillmentMovement (type : StockMovementType)
    (context : StockMovementContext) :
    Only Apart (createFulfillmentMovement type context) := by
  refine (only_resolveKnownSkuId _ _).bind fun _ => (only_demand _ _).bind fun _ => ?_
  refine only_fresh.bind fun _ => (apart_insert rfl _).bind fun _ => ?_
  exact (links_linkFulfillmentOwner _ _ _).mono Links.apart

end Only

/-- Only serials changed. -/
abbrev SameButSerials : WmsDb → WmsDb → Prop := SameOn fun t => decide (t≠.serialNumbers)

theorem sameButSerials (w : Statement wms) (d : WmsDb) (h : w.table=.serialNumbers) :
    SameButSerials d (apply w d) :=
  sameOn_apply d (by simp [h])

section Receive
variable {d d' : WmsDb} {warehouseId skuId locationId : ℕ} {quant : Option StockQuant}
  {status : SerialNumberStatus}

/-- May serials of the SKU be linked to the quant with this status? -/
def Linkable (d : WmsDb) (skuId : ℕ) (quant : Option StockQuant) (status : SerialNumberStatus) :
    Prop :=
  ∀ id∈quant.map (·.id), ∃ q∈(d .stockQuants).rows, q.id=id ∧ q.skuId=skuId ∧
    status≠.EXPECTED ∧ (q.status=.AVAILABLE → status=.AVAILABLE)

theorem Linkable.congr (h : Linkable d skuId quant status)
    (hs : d' .stockQuants=d .stockQuants) : Linkable d' skuId quant status := by
  unfold Linkable at h ⊢
  rwa [hs]

theorem Linkable.fits {s : SerialNumber} (h : Linkable d skuId quant status)
    (hsku : s.skuId=skuId) (hstatus : s.status=status) :
    ∀ id∈quant.map (·.id), ∃ q∈(d .stockQuants).rows, q.id=id ∧ fitsQuant d s q=true := by
  intro id hid
  obtain ⟨q,hq,hqid,hqsku,hne,havailable⟩ := h id hid
  refine ⟨q,hq,hqid,?_⟩
  by_cases hq : q.status=.AVAILABLE
  · simp [fitsQuant,hsku,hstatus,hqsku,havailable hq]
  · simp [fitsQuant,hsku,hstatus,hqsku,hne,hq]

/-- What a captured serial adds to the quant `k`. -/
def captures (quant : Option StockQuant) (k : ℕ) : ℤ := if quant.map (·.id)=some k then 1 else 0

variable (quant) in
theorem captured_linked (s : SerialNumber) (h : s.stockQuantId=quant.map (·.id)) (k : ℕ) :
    (if linkedTo k s then 1 else 0)=captures quant k := by
  simp only [linkedTo,captures,h,decide_eq_true_eq]

theorem SerialsSound.expected {s : SerialNumber} (h : SerialsSound d)
    (hs : s∈(d .serialNumbers).rows) (hstatus : s.status=.EXPECTED) {q : StockQuant}
    (hq : q∈(d .stockQuants).rows) (ht : tracked d q.skuId=true) : linkedTo q.id s=false := by
  by_contra hlinked
  have hid : s.stockQuantId=some q.id := by simpa [linkedTo] using hlinked
  obtain ⟨q',hq',hqid,hfits⟩ := h.linked s hs q.id hid
  have hget : (d .stockQuants).get? q.id=some q := Table.get?_key hq
  have hget' : (d .stockQuants).get? q.id=some q' := Table.get?_eq_some.mpr ⟨hq',hqid⟩
  obtain rfl := Option.some.inj (hget.symm.trans hget')
  simp [fitsQuant,ht,hstatus] at hfits

/-- The quants of tracked SKUs gain serials. -/
def Captured (d d' : WmsDb) (gain : ℕ → ℤ) : Prop :=
  ∀ q∈(d .stockQuants).rows, tracked d q.skuId=true → serialsOn d' q.id=serialsOn d q.id+gain q.id

theorem receive_serial {serialNumber : Text} {id : ℕ} (hsound : SerialsSound d)
    (hlink : Linkable d skuId quant status)
    (h : Ran store (Inbound.recordReceiveSerial warehouseId skuId locationId quant status
      serialNumber) d id d') :
    SerialsSound d' ∧ SameButSerials d d' ∧ Captured d d' (captures quant) := by
  simp only [Inbound.recordReceiveSerial,bind_eq,pure_eq,ran_bind] at h
  obtain ⟨found,_,hread,h⟩ := h
  obtain ⟨hfound,rfl⟩ := ran_findFirst.mp hread
  cases found with
  | some s =>
    simp only [ran_bind,ran_require,ran_update,ran_done] at h
    obtain ⟨_,_,⟨hsku,rfl⟩,_,_,⟨hexpected,rfl⟩,_,_,⟨_,rfl⟩,_,rfl⟩ := h
    have hmem : s∈(d .serialNumbers).rows := List.mem_of_find?_eq_some hfound.symm
    have hs : (d .serialNumbers).get? s.id=some s := Table.get?_key hmem
    refine ⟨hsound.updateSerial hs (hlink.fits hsku rfl),sameButSerials _ d rfl,?_⟩
    intro q hq ht
    rw [serialsOn_update hs,hsound.expected hmem hexpected hq ht,captured_linked quant _ rfl]
    simp
  | none =>
    simp only [ran_bind,ran_fresh,ran_done] at h
    obtain ⟨n,_,rfl,m,_,rfl,_,_,hinsert,_,rfl⟩ := h
    obtain ⟨hn,rfl⟩ := Ran.insert hinsert
    refine ⟨hsound.insertSerial hn (hlink.fits rfl rfl) ?_,sameButSerials _ d rfl,?_⟩
    · intro r hr hwarehouse hserial
      have hnot := List.find?_eq_none.mp hfound.symm r hr
      simp [hwarehouse,hserial] at hnot
    · intro q _ _
      rw [serialsOn_insert hn,captured_linked quant _ rfl]

theorem receive_serials {serialNumbers : List Text} {ids : List ℕ} (hsound : SerialsSound d)
    (hlink : Linkable d skuId quant status)
    (h : Ran store (each serialNumbers (Inbound.recordReceiveSerial warehouseId skuId locationId
      quant status)) d ids d') :
    SerialsSound d' ∧ SameButSerials d d' ∧
      Captured d d' fun k => serialNumbers.length*captures quant k := by
  have hloop := Ran.for (S := store) (f := Inbound.recordReceiveSerial warehouseId skuId locationId
      quant status) (fun rest e => SerialsSound e ∧ SameButSerials d e ∧ Captured d e fun k =>
        serialNumbers.length*captures quant k-rest.length*captures quant k)
    (fun x xs e e' b hJ hr => ?_) ⟨hsound,SameOn.refl d,fun q _ _ => by simp⟩ h
  · obtain ⟨hs,hsame,hcount⟩ := hloop
    refine ⟨hs,hsame,fun q hq ht => ?_⟩
    simpa using hcount q hq ht
  · obtain ⟨hs,hsame,hcount⟩ := hJ
    have hquants := (hsame .stockQuants rfl).symm
    obtain ⟨hs',hsame',hcount'⟩ := receive_serial hs (hlink.congr hquants) hr
    refine ⟨hs',hsame.trans hsame',fun q hq ht => ?_⟩
    have hbefore := hcount q hq ht
    have hskus : e .skus=d .skus := (hsame .skus rfl).symm
    have hafter := hcount' q (hquants ▸ hq) (by rwa [tracked_congr hskus])
    simp only [List.length_cons,Nat.cast_succ,add_mul,one_mul] at hbefore
    beta_reduce
    omega

end Receive

/-- The serials that are other ones afterwards. -/
def changedSerials (d d' : WmsDb) : List SerialNumber :=
  (d .serialNumbers).rows.filter fun s => (d' .serialNumbers).get? s.id≠some s

section Pick
variable {d d' : WmsDb} {input : SerialTransitionInput}

/-- What a pick makes of a serial: it leaves its quant. -/
def pickedSerial (input : SerialTransitionInput) (s : SerialNumber) : SerialNumberUpdate where
  status := .PICKED
  stockQuantId := none
  lastSeenLocationId := input.stockQuant.map (·.locationId) <|> s.lastSeenLocationId
  outboundOrderLineId := some input.outboundOrderLineId

/-- What is checked of a serial before it is picked. -/
structure Pickable (input : SerialTransitionInput) (s : SerialNumber) : Prop where
  sku : ∀ id∈input.skuId, s.skuId=id
  status : s.status∈input.fromStatus

theorem ran_transitionSerial {s : SerialNumber} {u : Unit} (hto : input.toStatus=.PICKED)
    (h : Ran store (transitionSerial input s) d u d') :
    Pickable input s ∧ 
      d'=apply (D := wms) (.update (t := .serialNumbers) s.id (pickedSerial input s)) d := by
  simp only [AardvarkWms.transitionSerial,bind_eq,ran_bind,ran_require,ran_update,hto,if_true] at h
  obtain ⟨_,_,⟨hsku,rfl⟩,_,_,⟨hstatus,rfl⟩,_,_,⟨_,rfl⟩,_,rfl⟩ := h
  exact ⟨⟨hsku,hstatus⟩,rfl⟩

/-- From `d` the serials of `found` are picked, but for those of `rest`. -/
structure Picking (input : SerialTransitionInput) (d : WmsDb) (found rest : List SerialNumber)
    (e : WmsDb) : Prop where
  sound : SerialsSound e
  same : SameButSerials d e
  nodup : (rest.map (·.id)).Nodup
  count : ∀ k, serialsOn e k-rest.countP (linkedTo k)=serialsOn d k-found.countP (linkedTo k)
  waiting : ∀ s∈rest, (e .serialNumbers).get? s.id=some s
  picked : ∀ s∈found, s∉rest → Pickable input s ∧
    ∃ s' : SerialNumber, (e .serialNumbers).get? s.id=some s' ∧ s'.status=.PICKED
  others : ∀ id, (∀ s∈found, s.id≠id) → (e .serialNumbers).get? id=(d .serialNumbers).get? id

theorem Picking.next {found rest : List SerialNumber} {s : SerialNumber} {e e' : WmsDb} {u : Unit}
    (hto : input.toStatus=.PICKED) (hs : s∈found) (h : Picking input d found (s::rest) e)
    (hr : Ran store (transitionSerial input s) e u e') : Picking input d found rest e' := by
  obtain ⟨hpickable,rfl⟩ := ran_transitionSerial hto hr
  have hrow := h.waiting s List.mem_cons_self
  have hnodup := List.nodup_cons.mp h.nodup
  have hne : ∀ r∈rest, r.id≠s.id := fun r hr he => hnodup.1 (List.mem_map.mpr ⟨r,hr,he⟩)
  have hget : ∀ id, id≠s.id → ((apply (D := wms) (.update (t := .serialNumbers) s.id
      (pickedSerial input s)) e) .serialNumbers).get? id=(e .serialNumbers).get? id := by
    intro id hid
    rw [apply_update_self]
    exact Table.get?_modify_ne _ _ _ hid
  constructor
  · exact h.sound.updateSerial hrow (by simp [pickedSerial])
  · exact h.same.trans (sameButSerials _ _ rfl)
  · exact hnodup.2
  · intro k
    have hcount := h.count k
    have hgone : ¬linkedTo k ((pickedSerial input s).patch s)=true := by
      simp [linkedTo,pickedSerial,SerialNumberUpdate.patch]
    rw [List.countP_cons] at hcount
    rw [serialsOn_update hrow,if_neg hgone]
    by_cases ha : linkedTo k s=true
    · rw [if_pos ha] at hcount ⊢
      push_cast at hcount
      omega
    · rw [if_neg ha] at hcount ⊢
      push_cast at hcount
      omega
  · intro r hr
    rw [hget r.id (hne r hr)]
    exact h.waiting r (List.mem_cons_of_mem _ hr)
  · intro r hr hnot
    by_cases he : r=s
    · subst he
      refine ⟨hpickable,(pickedSerial input r).patch r,?_,rfl⟩
      rw [apply_update_self,Table.get?_modify_self,hrow]
      rfl
    · have hnot' : r∉s::rest := by simp [he,hnot]
      obtain ⟨hp,s',hs',hstatus⟩ := h.picked r hr hnot'
      by_cases hid : r.id=s.id
      · rw [hid,hrow] at hs'
        obtain rfl := Option.some.inj hs'
        refine ⟨hp,(pickedSerial input s).patch s,?_,rfl⟩
        rw [apply_update_self,hid,Table.get?_modify_self,hrow]
        rfl
      · exact ⟨hp,s',(hget r.id hid).trans hs',hstatus⟩
  · intro id hid
    exact (hget id (hid s hs).symm).trans (h.others id hid)

theorem pick_serials {found : List SerialNumber} {us : List Unit} (hto : input.toStatus=.PICKED)
    (hsound : SerialsSound d) (hrows : ∀ s∈found, (d .serialNumbers).get? s.id=some s)
    (hnodup : (found.map (·.id)).Nodup)
    (h : Ran store (each found (transitionSerial input)) d us d') :
    Picking input d found [] d' := by
  have hstart : Picking input d found found d :=
    ⟨hsound,SameOn.refl d,hnodup,fun _ => rfl,hrows,fun s hs hnot => (hnot hs).elim,fun _ _ => rfl⟩
  have hloop := Ran.for (S := store) (f := transitionSerial input)
    (fun rest e => (∀ s∈rest, s∈found) ∧ Picking input d found rest e)
    (fun s rest e e' u hJ hr => ?_) ⟨fun _ hs => hs,hstart⟩ h
  · exact hloop.2
  · obtain ⟨hsub,hpicking⟩ := hJ
    refine ⟨fun r hr => hsub r (List.mem_cons_of_mem _ hr),?_⟩
    exact hpicking.next hto (hsub s List.mem_cons_self) hr

theorem Picking.changed {p : SerialNumber → Bool}
    (h : Picking input d ((d .serialNumbers).rows.filter p) [] d')
    (hfrom : SerialNumberStatus.PICKED∉input.fromStatus) :
    changedSerials d d'=(d .serialNumbers).rows.filter p := by
  unfold changedSerials
  refine List.filter_congr fun s hs => ?_
  cases hp : p s with
  | true =>
    have hmem : s∈(d .serialNumbers).rows.filter p := List.mem_filter.mpr ⟨hs,hp⟩
    obtain ⟨hpickable,s',hs',hstatus⟩ := h.picked s hmem (by simp)
    rw [decide_eq_true_eq,hs']
    intro he
    obtain rfl := Option.some.inj he
    exact hfrom (hstatus ▸ hpickable.status)
  | false =>
    have hrow : (d .serialNumbers).get? s.id=some s := Table.get?_key hs
    have hnot : ∀ r∈(d .serialNumbers).rows.filter p, r.id≠s.id := by
      intro r hr hid
      obtain ⟨hr,hpr⟩ := List.mem_filter.mp hr
      have hget : (d .serialNumbers).get? s.id=some r := Table.get?_eq_some.mpr ⟨hr,hid⟩
      obtain rfl := Option.some.inj (hget.symm.trans hrow)
      rw [hp] at hpr
      cases hpr
    rw [decide_eq_false_iff_not,h.others s.id hnot,hrow]
    simp

theorem ran_assertTraceabilityCapture {i : TraceabilityCaptureInput} {u : Unit}
    (h : Ran store (assertTraceabilityCapture i) d u d') : d=d' ∧
      (i.policy.serialRequired=true → (i.serialNumbers.length : ℤ)=max 0 i.quantity) := by
  simp only [assertTraceabilityCapture,bind_eq,ran_bind,ran_require] at h
  obtain ⟨_,_,⟨_,rfl⟩,hviolations,rfl⟩ := h
  refine ⟨rfl,fun hrequired => ?_⟩
  by_contra hne
  simp [traceabilityViolations,hrequired,hne] at hviolations

/-- The serials of the warehouse that a transition finds by their numbers. -/
def outboundSerial (warehouseId : ℕ) (names : List Text) (s : SerialNumber) : Bool :=
  s.warehouseId=warehouseId && names.contains s.serialNumber

theorem ran_transitionOutboundSerials {u : Unit} (hto : input.toStatus=.PICKED)
    (hsound : SerialsSound d) (h : Ran store (transitionOutboundSerials input) d u d') :
    (input.requireExact=false ∧ input.serialNumbers=[] ∧ d=d') ∨
    ∃ names, Ran store (selectSerialNumbers input) d names d ∧
      (input.requireExact=true → (names.length : ℤ)=max 0 input.quantity) ∧
      ((d .serialNumbers).rows.filter (outboundSerial input.warehouseId names)).length=
        names.length ∧
      Picking input d ((d .serialNumbers).rows.filter (outboundSerial input.warehouseId names)) []
        d' := by
  simp only [transitionOutboundSerials,bind_eq,pure_eq,ran_bind,ran_ite,ran_done,ran_require] at h
  obtain ⟨names,e,hnames,h⟩ := h
  obtain rfl := hnames.reads (only_selectSerialNumbers input)
  rcases h with ⟨⟨hexact,hnil⟩,_,rfl⟩|⟨_,_,e,hcapture,found,e',hfound,_,_,⟨hlength,rfl⟩,us,e'',hrun,_,rfl⟩
  · refine .inl ⟨hexact,?_,rfl⟩
    simp only [selectSerialNumbers,hexact] at hnames
    cases hs : input.serialNumbers with
    | nil => rfl
    | cons n ns =>
      rw [hs] at hnames
      exact (List.cons_ne_nil n ns (hnames.1.symm.trans hnil)).elim
  · obtain ⟨rfl,hexact⟩ := ran_assertTraceabilityCapture hcapture
    obtain ⟨rfl,rfl⟩ := ran_findMany.mp hfound
    refine .inr ⟨names,hnames,hexact,hlength,pick_serials hto hsound ?_ ?_ hrun⟩
    · exact fun s hs => Table.get?_key (List.mem_filter.mp hs).1
    · exact (d .serialNumbers).nodup.sublist (List.filter_sublist.map _)

end Pick

end AardvarkWms
