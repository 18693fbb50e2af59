import AardvarkWms.BigStep
import AardvarkWms.Calls
import AardvarkWms.Holdings

/-! Serials and the stock that they stand for: which state says that they follow it, and what
the statements on quants and on serials do to that. -/
namespace AardvarkWms

open Transactions Transactions.Txn Relational

/-- Does the policy of the SKU require serials? -/
def tracked (d : WmsDb) (skuId : ℕ) : Bool :=
  ((d .skus).get? skuId).any (·.traceability.serialRequired)

/-- Is the serial linked to the quant? -/
def linkedTo (quantId : ℕ) (s : SerialNumber) : Bool := s.stockQuantId=some quantId

/-- A linked serial that can be picked. -/
def availableOn (quantId : ℕ) (s : SerialNumber) : Bool :=
  s.stockQuantId=some quantId && s.status=.AVAILABLE

/-- Every quant of a tracked SKU has as many linked serials as its quantity, and they are all
available where the quant is. -/
def SerialsFollow (d : WmsDb) : Prop :=
  ∀ q∈(d .stockQuants).rows, tracked d q.skuId=true →
    (((d .serialNumbers).rows.filter (linkedTo q.id)).length : ℤ)=q.quantity ∧
    (q.status=.AVAILABLE →
      (((d .serialNumbers).rows.filter (availableOn q.id)).length : ℤ)=q.quantity)

instance (d : WmsDb) : Decidable (SerialsFollow d) :=
  inferInstanceAs (Decidable (∀ q∈(d .stockQuants).rows, tracked d q.skuId=true →
    (((d .serialNumbers).rows.filter (linkedTo q.id)).length : ℤ)=q.quantity ∧
    (q.status=.AVAILABLE →
      (((d .serialNumbers).rows.filter (availableOn q.id)).length : ℤ)=q.quantity)))

/-- A serial of a tracked quant is one of its SKU that has come, and it is available where the
quant is. -/
def fitsQuant (d : WmsDb) (s : SerialNumber) (q : StockQuant) : Bool :=
  !tracked d q.skuId
    || (s.skuId=q.skuId && s.status≠.EXPECTED && (q.status≠.AVAILABLE || s.status=.AVAILABLE))

/-- The foreign key from serials to quants and the unique index of serials, and that every
serial of a tracked quant fits it. -/
structure SerialsSound (d : WmsDb) : Prop where
  linked : ∀ s∈(d .serialNumbers).rows, ∀ id∈s.stockQuantId,
    ∃ q∈(d .stockQuants).rows, q.id=id ∧ fitsQuant d s q=true
  unique : ∀ s∈(d .serialNumbers).rows, ∀ s'∈(d .serialNumbers).rows,
    s.warehouseId=s'.warehouseId → s.serialNumber=s'.serialNumber → s=s'

/-- Linked serials of a quant. -/
def serialsOn (d : WmsDb) (quantId : ℕ) : ℤ :=
  (d .serialNumbers).total fun s => if linkedTo quantId s then 1 else 0

/-- Serials follow stock, but for those that the quants lack. -/
def FollowBut (lack : ℕ → ℤ) (d : WmsDb) : Prop :=
  ∀ q∈(d .stockQuants).rows, tracked d q.skuId=true → serialsOn d q.id+lack q.id=q.quantity

/-- Another `n` serials that `k` lacks. -/
def lacking (lack : ℕ → ℤ) (k : ℕ) (n : ℤ) : ℕ → ℤ := fun i => lack i+if i=k then n else 0

/-- The tables that this is about. -/
def serialTables : TableName → Bool
  | .skus | .stockQuants | .serialNumbers => true
  | _ => false

abbrev SameSerials : WmsDb → WmsDb → Prop := SameOn serialTables

/-- A statement on another table. -/
abbrev Apart (w : Statement wms) : Prop := ¬serialTables w.table=true

@[simp] theorem lacking_self (lack : ℕ → ℤ) (k : ℕ) (n : ℤ) : lacking lack k n k=lack k+n := by
  simp [lacking]

theorem lacking_ne (lack : ℕ → ℤ) {k i : ℕ} (n : ℤ) (h : i≠k) : lacking lack k n i=lack i := by
  simp [lacking,h]

theorem serialsOn_eq (d : WmsDb) (k : ℕ) :
    serialsOn d k=((d .serialNumbers).rows.filter (linkedTo k)).length := by
  unfold serialsOn
  rw [Table.total_ite]
  simp

theorem tracked_congr {d d' : WmsDb} (h : d' .skus=d .skus) : tracked d'=tracked d := by
  funext id
  unfold tracked
  rw [h]

theorem fitsQuant_congr {d d' : WmsDb} (h : d' .skus=d .skus) : fitsQuant d'=fitsQuant d := by
  funext s q
  unfold fitsQuant
  rw [tracked_congr h]

theorem SerialsFollow.but {d : WmsDb} (h : SerialsFollow d) : FollowBut (fun _ => 0) d := by
  intro q hq ht
  rw [serialsOn_eq,add_zero]
  exact (h q hq ht).1

theorem FollowBut.follow {d : WmsDb} (h : FollowBut (fun _ => 0) d) (hsound : SerialsSound d) :
    SerialsFollow d := by
  intro q hq ht
  have hcount := h q hq ht
  rw [serialsOn_eq,add_zero] at hcount
  refine ⟨hcount,fun havailable => ?_⟩
  rw [← hcount,Nat.cast_inj]
  refine congrArg List.length (List.filter_congr fun s hs => ?_)
  by_cases hlink : s.stockQuantId=some q.id
  · obtain ⟨q',hq',hid,hfits⟩ := hsound.linked s hs q.id hlink
    have hget : (d .stockQuants).get? q.id=some q := Table.get?_key hq
    have hget' : (d .stockQuants).get? q.id=some q' := Table.get?_eq_some.mpr ⟨hq',hid⟩
    obtain rfl := Option.some.inj (hget.symm.trans hget')
    simp [fitsQuant,ht,havailable] at hfits
    simp [availableOn,linkedTo,hfits.2]
  · simp [availableOn,linkedTo,hlink]

section Congr
variable {d d' : WmsDb}

theorem SerialsSound.congr (h : SerialsSound d) (hs : SameSerials d d') : SerialsSound d' := by
  have hserials := hs .serialNumbers rfl
  constructor
  · rw [← hserials,← hs .stockQuants rfl,fitsQuant_congr (hs .skus rfl).symm]
    exact h.linked
  · rw [← hserials]
    exact h.unique

theorem FollowBut.congr {lack : ℕ → ℤ} (h : FollowBut lack d) (hs : SameSerials d d') :
    FollowBut lack d' := by
  unfold FollowBut serialsOn at h ⊢
  rwa [← hs .serialNumbers rfl,← hs .stockQuants rfl,tracked_congr (hs .skus rfl).symm]

end Congr

section Quants
variable {d : WmsDb} {k : ℕ} {n : ℤ} {lack : ℕ → ℤ} {u : StockQuantUpdate}

theorem mem_updated {q : StockQuant}
    (h : q∈(after [.update .stockQuants k u] d .stockQuants).rows) :
    ∃ r∈(d .stockQuants).rows, q=if r.id=k then u.patch r else r := by
  rw [after_cons,after_nil,apply_update_self,Table.rows_modify] at h
  obtain ⟨r,hr,rfl⟩ := List.mem_map.mp h
  exact ⟨r,hr,rfl⟩

theorem FollowBut.update (h : FollowBut lack d) (hu : ∀ x, u.quantity.apply x=x+n) :
    FollowBut (lacking lack k n) (after [.update .stockQuants k u] d) := by
  intro q hq ht
  have hserials : after [.update .stockQuants k u] d .serialNumbers=d .serialNumbers := by simp
  have hskus : after [.update .stockQuants k u] d .skus=d .skus := by simp
  unfold FollowBut serialsOn at h
  unfold serialsOn
  rw [tracked_congr hskus] at ht
  rw [hserials]
  obtain ⟨r,hr,rfl⟩ := mem_updated hq
  by_cases hk : r.id=k
  · rw [if_pos hk] at ht ⊢
    have hrow := h r hr ht
    have hquantity : (u.patch r).quantity=r.quantity+n := hu r.quantity
    have hpatched : (u.patch r).id=r.id := rfl
    rw [hquantity,hpatched,hk,lacking_self]
    rw [hk] at hrow
    omega
  · rw [if_neg hk] at ht ⊢
    rw [lacking_ne lack n hk]
    exact h r hr ht

theorem FollowBut.insert {q : StockQuant} (h : FollowBut lack d) (hsound : SerialsSound d)
    (hn : (d .stockQuants).get? q.id=none) (hlack : lack q.id=0) :
    FollowBut (lacking lack q.id q.quantity)
      (after [.insert .stockQuants q] d) := by
  intro r hr ht
  have hserials : after [.insert .stockQuants q] d .serialNumbers=d .serialNumbers := by simp
  have hskus : after [.insert .stockQuants q] d .skus=d .skus := by simp
  have hfree := Table.get?_eq_none.mp hn
  unfold FollowBut serialsOn at h
  unfold serialsOn
  rw [hserials]
  rw [tracked_congr hskus] at ht
  rw [after_cons,after_nil,apply_insert_self,Table.rows_insert hn] at hr
  cases List.mem_append.mp hr with
  | inl hold =>
    have hne : ¬r.id=q.id := hfree r hold
    rw [lacking_ne lack _ hne]
    exact h r hold ht
  | inr hnew =>
    obtain rfl := List.mem_singleton.mp hnew
    have hnone : (d .serialNumbers).total (fun s => if linkedTo r.id s then 1 else 0)=
        (d .serialNumbers).total fun _ => 0 := by
      refine Table.total_congr fun s hs => if_neg ?_
      intro hlinked
      obtain ⟨q',hq',hid,_⟩ := hsound.linked s hs r.id (by simpa [linkedTo] using hlinked)
      exact hfree q' hq' hid
    rw [hnone]
    simp [Table.total,hlack]

theorem SerialsSound.quants {d' : WmsDb} (h : SerialsSound d) (hskus : d' .skus=d .skus)
    (hserials : d' .serialNumbers=d .serialNumbers)
    (hquants : ∀ q∈(d .stockQuants).rows, ∃ q'∈(d' .stockQuants).rows, q'.id=q.id ∧
      q'.skuId=q.skuId ∧ q'.status=q.status) : SerialsSound d' := by
  constructor
  · intro s hs id hid
    rw [hserials] at hs
    obtain ⟨q,hq,hqid,hfits⟩ := h.linked s hs id hid
    obtain ⟨q',hq',hid',hsku,hstatus⟩ := hquants q hq
    refine ⟨q',hq',hid'.trans hqid,?_⟩
    rw [fitsQuant_congr hskus]
    unfold fitsQuant at hfits ⊢
    rwa [hsku,hstatus]
  · rw [hserials]
    exact h.unique

theorem SerialsSound.update (h : SerialsSound d) :
    SerialsSound (after [.update .stockQuants k u] d) := by
  refine h.quants (by simp) (by simp) fun q hq => ?_
  rw [after_cons,after_nil,apply_update_self,Table.rows_modify]
  refine ⟨_,List.mem_map_of_mem hq,?_⟩
  split <;> exact ⟨rfl,rfl,rfl⟩

theorem SerialsSound.insert {q : StockQuant} (h : SerialsSound d)
    (hn : (d .stockQuants).get? q.id=none) : SerialsSound (after [.insert .stockQuants q] d) := by
  refine h.quants (by simp) (by simp) fun r hr => ?_
  rw [after_cons,after_nil,apply_insert_self,Table.rows_insert hn]
  exact ⟨r,List.mem_append_left _ hr,rfl,rfl,rfl⟩

theorem FollowBut.deposit {t : Deposit} (hfits : t.Fits d n) (h : FollowBut lack d)
    (hsound : SerialsSound d) (hlack : (d .stockQuants).get? t.quant.id=none → lack t.quant.id=0) :
    FollowBut (lacking lack t.quant.id n) (after (t.writes 0 n) d) := by
  cases t with
  | onto q => exact h.update (u := {quantity := .increment n}) fun _ => rfl
  | fresh q =>
    obtain ⟨hn,hquantity,_⟩ := hfits
    exact hquantity ▸ h.insert hsound hn (hlack hn)

theorem SerialsSound.deposit {t : Deposit} (hfits : t.Fits d n) (h : SerialsSound d) :
    SerialsSound (after (t.writes 0 n) d) := by
  cases t with
  | onto q => exact h.update
  | fresh q => exact h.insert hfits.1

end Quants

section Serials
variable {d : WmsDb} {s : SerialNumber} {u : SerialNumberUpdate}

theorem serialsOn_insert (hn : (d .serialNumbers).get? s.id=none) (k : ℕ) :
    serialsOn (apply (D := wms) (.insert .serialNumbers s) d) k=
      serialsOn d k+if linkedTo k s then 1 else 0 := by
  unfold serialsOn
  rw [apply_insert_self]
  exact Table.total_insert _ hn

theorem serialsOn_update (hs : (d .serialNumbers).get? s.id=some s) (k : ℕ) :
    serialsOn (apply (D := wms) (.update (t := .serialNumbers) s.id u) d) k=
      serialsOn d k-(if linkedTo k s then 1 else 0)+if linkedTo k (u.patch s) then 1 else 0 := by
  unfold serialsOn
  rw [apply_update_self]
  exact Table.total_modify _ _ _ hs

theorem SerialsSound.insertSerial (h : SerialsSound d) (hn : (d .serialNumbers).get? s.id=none)
    (hlink : ∀ id∈s.stockQuantId, ∃ q∈(d .stockQuants).rows, q.id=id ∧ fitsQuant d s q=true)
    (hfree : ∀ r∈(d .serialNumbers).rows, r.warehouseId=s.warehouseId →
      r.serialNumber≠s.serialNumber) :
    SerialsSound (apply (D := wms) (.insert .serialNumbers s) d) := by
  have hquants : apply (D := wms) (.insert .serialNumbers s) d .stockQuants=d .stockQuants := by simp
  have hskus : apply (D := wms) (.insert .serialNumbers s) d .skus=d .skus := by simp
  have hrows : (apply (D := wms) (.insert .serialNumbers s) d .serialNumbers).rows=
      (d .serialNumbers).rows++[s] := by
    rw [apply_insert_self]
    exact Table.rows_insert hn
  constructor
  · rw [hrows,hquants,fitsQuant_congr hskus]
    intro r hr
    cases List.mem_append.mp hr with
    | inl hold => exact h.linked r hold
    | inr hnew => exact List.mem_singleton.mp hnew ▸ hlink
  · rw [hrows]
    intro r hr r' hr' hwarehouse hserial
    rcases List.mem_append.mp hr with hr|hr <;> rcases List.mem_append.mp hr' with hr'|hr'
    · exact h.unique r hr r' hr' hwarehouse hserial
    · rw [List.mem_singleton.mp hr'] at hwarehouse hserial
      exact (hfree r hr hwarehouse hserial).elim
    · rw [List.mem_singleton.mp hr] at hwarehouse hserial
      exact (hfree r' hr' hwarehouse.symm hserial.symm).elim
    · exact (List.mem_singleton.mp hr).trans (List.mem_singleton.mp hr').symm

theorem SerialsSound.updateSerial (h : SerialsSound d)
    (hs : (d .serialNumbers).get? s.id=some s) (hlink : ∀ id∈u.stockQuantId,
      ∃ q∈(d .stockQuants).rows, q.id=id ∧ fitsQuant d (u.patch s) q=true) :
    SerialsSound (apply (D := wms) (.update (t := .serialNumbers) s.id u) d) := by
  have hquants : apply (D := wms) (.update (t := .serialNumbers) s.id u) d .stockQuants=
      d .stockQuants := by simp
  have hskus : apply (D := wms) (.update (t := .serialNumbers) s.id u) d .skus=d .skus := by simp
  have hsource : ∀ r∈(apply (D := wms) (.update (t := .serialNumbers) s.id u) d
      .serialNumbers).rows, ∃ r'∈(d .serialNumbers).rows, r=if r'.id=s.id then u.patch r' else r' := by
    intro r hr
    rw [apply_update_self,Table.rows_modify] at hr
    obtain ⟨r',hr',rfl⟩ := List.mem_map.mp hr
    exact ⟨r',hr',rfl⟩
  have hsame : ∀ r∈(d .serialNumbers).rows, r.id=s.id → r=s := by
    intro r hr hid
    have hget : (d .serialNumbers).get? s.id=some r := Table.get?_eq_some.mpr ⟨hr,hid⟩
    exact Option.some.inj (hget.symm.trans hs)
  constructor
  · rw [hquants,fitsQuant_congr hskus]
    intro r hr
    obtain ⟨r',hr',rfl⟩ := hsource r hr
    by_cases hid : r'.id=s.id
    · rw [if_pos hid,hsame r' hr' hid]
      exact hlink
    · rw [if_neg hid]
      exact h.linked r' hr'
  · intro r hr r' hr' hwarehouse hserial
    obtain ⟨x,hx,rfl⟩ := hsource r hr
    obtain ⟨x',hx',rfl⟩ := hsource r' hr'
    have hkeeps : ∀ y : SerialNumber,
        (if y.id=s.id then u.patch y else y).warehouseId=y.warehouseId ∧
        (if y.id=s.id then u.patch y else y).serialNumber=y.serialNumber := by
      intro y
      split <;> exact ⟨rfl,rfl⟩
    rw [(hkeeps x).1,(hkeeps x').1] at hwarehouse
    rw [(hkeeps x).2,(hkeeps x').2] at hserial
    rw [h.unique x hx x' hx' hwarehouse hserial]

end Serials

end AardvarkWms
