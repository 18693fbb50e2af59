import AardvarkWms.Serials

/-! What identifies a serial: its warehouse and its text without outer blanks, in the letter case in
which it was registered. -/
namespace AardvarkWms.Serials

open Messaging (Str trim)
open OrderUpdates (Uuid)
open Transactions.Txn (bind_eq_ok)

/-- The calls that register serials. -/
inductive Registration
  | create (warehouseReference : Str) (dto : CreateSerialNumberDto) (id : Uuid) (now : ℤ)
  | receive (input : ReceiveSerialCaptureInput) (newId : Str → Uuid) (now : ℤ)

def Registration.call (env : Env) : Registration → SerialDb → Except SerialError SerialDb
  | create warehouseReference dto id now, db => createSerialNumber env warehouseReference dto id now db
  | receive input newId now, db => receiveSerials env.lang input newId now db

/-- A call that fails changes nothing. -/
def Registration.step (env : Env) (db : SerialDb) (r : Registration) : SerialDb :=
  match r.call env db with
  | .ok db' => db'
  | .error _ => db

def register (env : Env) (calls : List Registration) (db : SerialDb) : SerialDb :=
  calls.foldl (Registration.step env) db

/-- Texts are stored without outer blanks, and each once in its warehouse. -/
structure Sound (db : SerialDb) : Prop where
  trimmed : ∀ s∈db.serials.rows, trim s.serialNumber=s.serialNumber
  once : ∀ s∈db.serials.rows, ∀ s'∈db.serials.rows, s.warehouseId=s'.warehouseId →
    s.serialNumber=s'.serialNumber → s=s'

section Steps
variable {db db' : SerialDb} {row : SerialNumber}

theorem mem_insert (h : db.admits row=true) {s : SerialNumber} :
    s∈(db.insert row).serials.rows ↔ s∈db.serials.rows ∨ s=row := by
  have hnone : db.serials.get? row.id=none := Option.isNone_iff_eq_none.mp (Bool.and_eq_true_iff.mp h).1
  have hrows : (db.insert row).serials.rows=db.serials.rows++[row] := Table.rows_insert hnone
  rw [hrows,List.mem_append,List.mem_singleton]

theorem Sound.insert (h : Sound db) (hadmits : db.admits row=true)
    (htrim : trim row.serialNumber=row.serialNumber) : Sound (db.insert row) := by
  have hother : ∀ s∈db.serials.rows, s.warehouseId=row.warehouseId →
      s.serialNumber=row.serialNumber → s=row := by
    intro s hs hw ht
    have hfree := List.all_eq_true.mp (Bool.and_eq_true_iff.mp hadmits).2 s hs
    simp [hw,ht] at hfree
  constructor
  · intro s hs
    cases (mem_insert hadmits).mp hs with
    | inl hold => exact h.trimmed s hold
    | inr hnew => rw [hnew]; exact htrim
  · intro s hs s' hs' hw ht
    cases (mem_insert hadmits).mp hs with
    | inl hold =>
      cases (mem_insert hadmits).mp hs' with
      | inl hold' => exact h.once s hold s' hold' hw ht
      | inr hnew' =>
        subst hnew'
        exact hother s hold hw ht
    | inr hnew =>
      subst hnew
      cases (mem_insert hadmits).mp hs' with
      | inl hold' => exact (hother s' hold' hw.symm ht.symm).symm
      | inr hnew' => exact hnew'.symm

theorem Sound.insertSerial {violated : SerialError} (h : Sound db)
    (hok : db.insertSerial row violated=.ok db') (htrim : trim row.serialNumber=row.serialNumber) :
    Sound db' := by
  unfold SerialDb.insertSerial at hok
  by_cases hadmits : db.admits row=true
  · rw [if_pos hadmits] at hok
    cases hok
    exact h.insert hadmits htrim
  · rw [if_neg hadmits] at hok
    cases hok

theorem Sound.update (h : Sound db) (id : Uuid) (f : SerialNumber → SerialNumber)
    (hid : ∀ s, (f s).id=s.id) (hw : ∀ s, (f s).warehouseId=s.warehouseId)
    (ht : ∀ s, (f s).serialNumber=s.serialNumber) :
    Sound {db with serials := db.serials.modify id f hid} := by
  have hmem : ∀ s∈(db.serials.modify id f hid).rows, ∃ s₀∈db.serials.rows, s.id=s₀.id ∧
      s.warehouseId=s₀.warehouseId ∧ s.serialNumber=s₀.serialNumber := by
    intro s hs
    obtain ⟨s₀,hs₀,rfl⟩ := List.mem_map.mp hs
    refine ⟨s₀,hs₀,?_⟩
    by_cases hsame : s₀.id=id
    · rw [if_pos hsame]
      exact ⟨hid s₀,hw s₀,ht s₀⟩
    · rw [if_neg hsame]
      exact ⟨rfl,rfl,rfl⟩
  constructor
  · intro s hs
    obtain ⟨s₀,hs₀,-,-,htext⟩ := hmem s hs
    rw [htext]
    exact h.trimmed s₀ hs₀
  · intro s hs s' hs' hsame hsame'
    obtain ⟨s₀,hs₀,hid₀,hw₀,ht₀⟩ := hmem s hs
    obtain ⟨s₁,hs₁,hid₁,hw₁,ht₁⟩ := hmem s' hs'
    have heq := h.once s₀ hs₀ s₁ hs₁ (by rw [← hw₀,← hw₁,hsame]) (by rw [← ht₀,← ht₁,hsame'])
    refine Table.inj_of_nodup (db.serials.modify id f hid).nodup hs hs' ?_
    rw [hid₀,hid₁,heq]

end Steps

section Captured
variable {lang : Language} {serialNumbers normalized : List Str}

theorem findDuplicates_nil : ∀ {vs seen duplicates : List Str},
    findDuplicates seen duplicates vs=[] → duplicates=[] ∧ vs.Nodup ∧ ∀ v∈vs, v∉seen := by
  intro vs
  induction vs with
  | nil =>
    intro seen duplicates h
    have hperm := List.mergeSort_perm duplicates fun a b => codeUnits a≤codeUnits b
    unfold findDuplicates at h
    rw [h] at hperm
    exact ⟨hperm.symm.eq_nil,List.nodup_nil,by simp⟩
  | cons v vs ih =>
    intro seen duplicates h
    unfold findDuplicates at h
    by_cases hv : v∈seen
    · rw [if_pos hv] at h
      have hsome := (ih h).1
      by_cases hd : v∈duplicates
      · rw [if_pos hd] at hsome
        rw [hsome] at hd
        cases hd
      · rw [if_neg hd] at hsome
        simp at hsome
    · rw [if_neg hv] at h
      obtain ⟨hnone,hnodup,hfresh⟩ := ih h
      refine ⟨hnone,List.nodup_cons.mpr ⟨?_,hnodup⟩,?_⟩
      · intro hmem
        exact hfresh v hmem (by simp)
      · intro w hw
        cases List.mem_cons.mp hw with
        | inl hself => rwa [hself]
        | inr hrest => exact fun hseen => hfresh w hrest (by simp [hseen])

theorem normalizeSerialNumbers_ok (h : normalizeSerialNumbers lang serialNumbers=.ok normalized) :
    normalized=captured serialNumbers ∧
      (normalized.map lang.toUpperCase).Nodup := by
  unfold normalizeSerialNumbers at h
  by_cases hnone : findDuplicates [] [] ((captured serialNumbers).map lang.toUpperCase)=[]
  · rw [if_pos hnone] at h
    cases h
    exact ⟨rfl,(findDuplicates_nil hnone).2.1⟩
  · rw [if_neg hnone] at h
    cases h

theorem trim_captured {v : Str} (h : v∈captured serialNumbers) : trim v=v := by
  obtain ⟨w,-,rfl⟩ := List.mem_map.mp (List.mem_filter.mp h).1
  exact trim_trim w

theorem captured_append (l l' : List Str) : captured (l++l')=captured l++captured l' := by
  simp only [captured,List.map_append,List.filter_append]

theorem captured_captured (l : List Str) : captured (captured l)=captured l := by
  have hmap : (captured l).map trim=captured l := by
    calc (captured l).map trim
        = (captured l).map id := List.map_congr_left fun v hv => trim_captured hv
      _ = captured l := List.map_id _
  unfold captured at hmap ⊢
  rw [hmap,List.filter_filter]
  simp only [Bool.and_self]

end Captured

section Calls
variable {env : Env} {db db' : SerialDb}

theorem Sound.create {warehouseReference : Str} {dto : CreateSerialNumberDto} {id : Uuid} {now : ℤ}
    (h : Sound db) (hok : createSerialNumber env warehouseReference dto id now db=.ok db') : Sound db' := by
  obtain ⟨warehouse,-,hok⟩ := bind_eq_ok hok
  obtain ⟨sku,-,hok⟩ := bind_eq_ok hok
  obtain ⟨lot,-,hok⟩ := bind_eq_ok hok
  obtain ⟨location,-,hok⟩ := bind_eq_ok hok
  obtain ⟨ownerClientId,-,hok⟩ := bind_eq_ok hok
  obtain ⟨stockQuantId,-,hok⟩ := bind_eq_ok hok
  split at hok
  · cases hok
  · exact h.insertSerial hok (trim_trim dto.serialNumber)

theorem Sound.receiveSerial {input : ReceiveSerialCaptureInput} {newId : Str → Uuid} {now : ℤ}
    {quant : Option (Uuid × StockQuantStatus)} {status : SerialNumberStatus} {serialNumber : Str}
    (h : Sound db) (htrim : trim serialNumber=serialNumber)
    (hok : recordReceiveSerial input newId now quant status db serialNumber=.ok db') : Sound db' := by
  unfold recordReceiveSerial at hok
  cases hfind : db.serials.rows.find? fun s =>
      s.warehouseId=input.warehouseId && s.serialNumber=serialNumber with
  | none =>
    simp only [hfind] at hok
    exact h.insertSerial hok htrim
  | some existing =>
    simp only [hfind] at hok
    split at hok
    · cases hok
    · split at hok
      · cases hok
      · cases hok
        exact h.update existing.id _ _ (fun _ => rfl) fun _ => rfl

theorem Sound.receiveGroup {input : ReceiveSerialCaptureInput} {newId : Str → Uuid} {now : ℤ}
    {quant : Option (Uuid × StockQuantStatus)} {status : SerialNumberStatus} {serialNumbers : List Str} :
    ∀ {db : SerialDb}, Sound db → (∀ v∈serialNumbers, trim v=v) →
      recordReceiveSerialGroup input newId now quant status serialNumbers db=.ok db' → Sound db' := by
  induction serialNumbers with
  | nil =>
    intro db h _ hok
    cases hok
    exact h
  | cons v vs ih =>
    intro db h htrim hok
    obtain ⟨db₁,hfirst,hrest⟩ := bind_eq_ok hok
    exact ih (h.receiveSerial (htrim v (by simp)) hfirst) (fun w hw => htrim w (by simp [hw])) hrest

theorem Sound.step (h : Sound db) (r : Registration) : Sound (r.step env db) := by
  unfold Registration.step
  cases hok : r.call env db with
  | error e => exact h
  | ok db' =>
    cases r with
    | create warehouseReference dto id now => exact h.create hok
    | receive input newId now =>
      obtain ⟨good,hgood,hok⟩ := bind_eq_ok hok
      obtain ⟨damaged,hdamaged,hok⟩ := bind_eq_ok hok
      obtain ⟨-,-,hok⟩ := bind_eq_ok hok
      obtain ⟨db₁,hfirst,hrest⟩ := bind_eq_ok hok
      rw [(normalizeSerialNumbers_ok hgood).1] at hfirst
      rw [(normalizeSerialNumbers_ok hdamaged).1] at hrest
      exact (h.receiveGroup (fun _ => trim_captured) hfirst).receiveGroup (fun _ => trim_captured) hrest

theorem Sound.register (calls : List Registration) : ∀ {db : SerialDb}, Sound db →
    Sound (register env calls db) := by
  induction calls with
  | nil => exact id
  | cons r rs ih => exact fun h => ih (h.step r)

theorem Sound.found (h : Sound db) {warehouseReference reference : Str} {w : OrderUpdates.Warehouse}
    (hw : resolveWarehouse env db warehouseReference=.ok w) {s : SerialNumber}
    (hs : s∈db.serials.rows) (hsw : s.warehouseId=w.id) (htext : trim reference=s.serialNumber)
    (hid : ∀ s'∈db.serials.rows, s'.warehouseId=w.id → s'.id.val=reference → s'=s) :
    getSerialNumber env db warehouseReference reference=.ok s := by
  have hfind : db.serials.rows.find? (fun s => s.warehouseId=w.id && s.isCalled reference)=some s := by
    refine Table.find?_unique hs (by simp [SerialNumber.isCalled,normalizeSerial,hsw,htext]) ?_
    intro s' hs' hcond
    simp only [Bool.and_eq_true,decide_eq_true_eq,SerialNumber.isCalled,Bool.or_eq_true,
      normalizeSerial] at hcond
    cases hcond.2 with
    | inl hsame => exact hid s' hs' hcond.1 hsame
    | inr hsame =>
      have hsame' := (of_decide_eq_true hsame).trans htext
      exact h.once s' hs' s hs (hcond.1.trans hsw.symm) hsame'
  change (resolveWarehouse env db warehouseReference >>= fun w => resolveSerialNumber db w.id reference)=_
  rw [hw]
  change orElseThrow (db.serials.rows.find? _) _=_
  rw [hfind]
  rfl

/-- Over all runs of registrations: a text is stored once in a warehouse, and whoever asks for it in its
own letter case gets its serial; what one receive captures differs in more than letter case. -/
theorem serial_identity (env : Env) {db₀ : SerialDb} (hstart : Sound db₀) (calls : List Registration) :
    (∀ s∈(register env calls db₀).serials.rows, ∀ s'∈(register env calls db₀).serials.rows,
      s.warehouseId=s'.warehouseId → s.serialNumber=s'.serialNumber → s=s') ∧
    (∀ warehouseReference reference w,
      resolveWarehouse env (register env calls db₀) warehouseReference=.ok w →
      ∀ s∈(register env calls db₀).serials.rows, s.warehouseId=w.id → trim reference=s.serialNumber →
      (∀ s'∈(register env calls db₀).serials.rows, s'.warehouseId=w.id → s'.id.val=reference → s'=s) →
      getSerialNumber env (register env calls db₀) warehouseReference reference=.ok s) ∧
    ∀ input newId now db', receiveSerials env.lang input newId now (register env calls db₀)=.ok db' →
        ((captured (input.serialNumbers++input.damagedSerialNumbers)).map env.lang.toUpperCase).Nodup := by
  have hsound : Sound (register env calls db₀) := hstart.register calls
  refine ⟨hsound.once,?_,?_⟩
  · intro warehouseReference reference w hw s hs hsw htext hid
    exact hsound.found hw hs hsw htext hid
  · intro input newId now db' hok
    obtain ⟨good,hgood,hok⟩ := bind_eq_ok hok
    obtain ⟨damaged,hdamaged,hok⟩ := bind_eq_ok hok
    obtain ⟨both,hboth,-⟩ := bind_eq_ok hok
    obtain ⟨hall,hnodup⟩ := normalizeSerialNumbers_ok hboth
    rw [hall,(normalizeSerialNumbers_ok hgood).1,(normalizeSerialNumbers_ok hdamaged).1,captured_append,
      captured_captured,captured_captured,← captured_append] at hnodup
    exact hnodup

end Calls

section Demo
open OrderUpdates (someUuid mainWarehouse)

def demoSku : Sku := ⟨someUuid '6' OrderUpdates.isHex_six,"SKU-1".toList,none⟩

def demoEnv : Env := ⟨.ascii,fun _ => none,fun a b => codeUnits a≤codeUnits b⟩

def noSerials : SerialDb where
  warehouses := [mainWarehouse]
  locations := []
  skus := [demoSku]
  lots := []
  quants := .empty
  serials := .empty

def demoCreate (serialNumber : String) (id : Uuid) : Registration :=
  .create "MAIN".toList {skuReference := "SKU-1".toList, serialNumber := serialNumber.toList} id 0

/-- The same serial in two letter cases. -/
def twoCases : List Registration :=
  [demoCreate "SN-1" (someUuid '7' OrderUpdates.isHex_seven),demoCreate " sn-1" (someUuid '8' OrderUpdates.isHex_eight)]

theorem sound_noSerials : Sound noSerials :=
  ⟨fun _ h => (List.not_mem_nil h).elim,fun _ h => (List.not_mem_nil h).elim⟩

theorem serial_identity_demo : ∃ s,
    getSerialNumber demoEnv (register demoEnv twoCases noSerials) "MAIN".toList "sn-1 ".toList=.ok s ∧
      s.id=someUuid '8' OrderUpdates.isHex_eight := by
  obtain ⟨s,hs,hsw,htext,hid⟩ : ∃ s∈(register demoEnv twoCases noSerials).serials.rows,
      s.warehouseId=mainWarehouse.id ∧ trim "sn-1 ".toList=s.serialNumber ∧
      s.id=someUuid '8' OrderUpdates.isHex_eight := by decide +kernel
  have hother : ∀ s'∈(register demoEnv twoCases noSerials).serials.rows, s'.id.val≠"sn-1 ".toList := by
    decide +kernel
  refine ⟨s,?_,hid⟩
  exact (serial_identity demoEnv sound_noSerials twoCases).2.1 _ _ mainWarehouse (by decide +kernel) s hs
    hsw htext fun s' hs' _ hnamed => absurd hnamed (hother s' hs')

/-- The two texts are stored side by side. -/
theorem two_cases_stored : ¬∀ (env : Env) (db₀ : SerialDb) (calls : List Registration), Sound db₀ →
    ∀ s∈(register env calls db₀).serials.rows, ∀ s'∈(register env calls db₀).serials.rows,
      s.warehouseId=s'.warehouseId → env.lang.toUpperCase s.serialNumber=env.lang.toUpperCase s'.serialNumber →
      s=s' := by
  intro h
  have hsame := h demoEnv noSerials twoCases sound_noSerials
  revert hsame
  decide +kernel

end Demo
end AardvarkWms.Serials
