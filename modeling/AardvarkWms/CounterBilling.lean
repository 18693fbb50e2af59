import AardvarkWms.BillingWrites
import Mathlib.Algebra.BigOperators.Ring.Finset

/-! Events from counters: what one call stores, and what the same call stores again. -/
namespace AardvarkWms.Billing

open Messaging (Str)
open OrderUpdates (Uuid someUuid)

/-- What an event is found by. -/
def BillingEvent.key (e : BillingEvent) : Uuid × Str := (e.clientId,e.reference)

def EventUpsert.key (u : EventUpsert) : Uuid × Str := (u.clientId,u.reference)

/-- All amounts that are stored. -/
def amounts (events : Table BillingEvent.id) : ℤ := events.total fun e => e.amountMinor

section Totals
variable {events events' : Table BillingEvent.id} {id : Uuid} {u : EventUpsert} {row : BillingEvent}
  {gen : ℕ → Uuid}

def findKey (events : Table BillingEvent.id) (k : Uuid × Str) : Option BillingEvent :=
  events.rows.find? fun e => e.key=k

/-- The amount that is stored under a key. -/
def held (events : Table BillingEvent.id) (k : Uuid × Str) : ℤ :=
  (findKey events k).elim 0 fun e => e.amountMinor

theorem findKey_eq (events : Table BillingEvent.id) (u : EventUpsert) :
    (events.rows.find? fun e => e.clientId=u.clientId && e.reference=u.reference)=
      findKey events u.key := by
  unfold findKey
  congr 1
  funext e
  rw [← Bool.decide_and]
  simp [BillingEvent.key,EventUpsert.key]

theorem key_of_findKey {k : Uuid × Str} {e : BillingEvent} (h : findKey events k=some e) :
    e∈events.rows ∧ e.key=k := by
  unfold findKey at h
  have hkey := List.find?_some h
  exact ⟨List.mem_of_find?_eq_some h,by simpa using hkey⟩

theorem key_updated (u : EventUpsert) (e : BillingEvent) : (u.updated e).key=e.key := rfl

theorem Upserted.amounts (h : Upserted events id u events' row) :
    amounts events'=amounts events-held events u.key+u.amountMinor := by
  cases h with
  | updated e he =>
    rw [findKey_eq] at he
    have hget := Table.get?_key (key_of_findKey he).1
    unfold Billing.amounts held
    rw [Table.total_modify _ _ _ hget,he]
    rfl
  | created hnone hnew =>
    rw [findKey_eq] at hnone
    unfold Billing.amounts held
    rw [Table.total_insert _ hnew,hnone]
    simp [EventUpsert.created]

theorem Upserted.findKey (h : Upserted events id u events' row) (k : Uuid × Str) :
    findKey events' k=if k=u.key then some row else findKey events k := by
  cases h with
  | updated e he =>
    rw [findKey_eq] at he
    obtain ⟨hmem,hkey⟩ := key_of_findKey he
    have hmap : Billing.findKey (events.modify e.id u.updated u.updated_id) k=
        (Billing.findKey events k).map fun r => if r.id=e.id then u.updated r else r := by
      unfold Billing.findKey
      rw [Table.rows_modify,List.find?_map]
      congr 1
      congr 1
      funext r
      simp only [Function.comp_apply]
      split <;> rfl
    rw [hmap]
    split
    · rename_i hk
      rw [hk,he]
      simp
    · rename_i hk
      cases hfound : Billing.findKey events k with
      | none => rfl
      | some r =>
        obtain ⟨hrmem,hrkey⟩ := key_of_findKey hfound
        have hne : r.id≠e.id := by
          intro hid
          have hsame : r=e := Table.inj_of_nodup events.nodup hrmem hmem hid
          exact hk (hrkey.symm.trans (hsame ▸ hkey))
        simp [hne]
  | created hnone hnew =>
    rw [findKey_eq] at hnone
    unfold Billing.findKey at hnone ⊢
    rw [Table.rows_insert hnew,List.find?_append]
    split
    · rename_i hk
      rw [hk,hnone]
      simp [EventUpsert.created,BillingEvent.key,EventUpsert.key]
    · rename_i hk
      have hkey : (u.created id).key≠k := fun he => hk he.symm
      simp [hkey]

theorem Upserted.row_amount (h : Upserted events id u events' row) : row.amountMinor=u.amountMinor := by
  cases h <;> rfl

theorem Upserted.held (h : Upserted events id u events' row) (k : Uuid × Str) :
    held events' k=if k=u.key then (u.amountMinor : ℤ) else held events k := by
  unfold Billing.held
  rw [h.findKey]
  split
  · simp [h.row_amount]
  · rfl

/-- What the upserts of a list overwrite of one another. -/
def overwritten : List EventUpsert → ℤ
  | [] => 0
  | u::us => (if u.key∈us.map EventUpsert.key then (u.amountMinor : ℤ) else 0)+overwritten us

/-- What is stored under the keys of a list. -/
def priorAmounts (events : Table BillingEvent.id) (us : List EventUpsert) : ℤ :=
  ((us.map EventUpsert.key).dedup.map (held events)).sum

theorem sum_held_changed {ks : List (Uuid × Str)} (hks : ks.Nodup) (k : Uuid × Str) (x : ℤ)
    (f : Uuid × Str → ℤ) : (ks.map fun k' => if k'=k then x else f k').sum=
      (ks.map f).sum+if k∈ks then x-f k else 0 := by
  induction ks with
  | nil => rfl
  | cons a ks ih =>
    obtain ⟨ha,hrest⟩ := List.nodup_cons.mp hks
    simp only [List.map_cons,List.sum_cons,ih hrest]
    by_cases hk : a=k
    · subst hk
      simp only [ha,if_true,if_false,List.mem_cons_self]
      omega
    · have hne : k≠a := fun he => hk he.symm
      simp only [hk,if_false,List.mem_cons,hne,false_or]
      omega

theorem upsertEvents_amounts {us : List EventUpsert} {rows : List BillingEvent}
    (h : upsertEvents events gen us=.ok (events',rows)) :
    amounts events'=amounts events+(us.map fun u => (u.amountMinor : ℤ)).sum-overwritten us-
      priorAmounts events us := by
  induction us generalizing events rows with
  | nil =>
    cases h
    simp [overwritten,priorAmounts]
  | cons u us ih =>
    obtain ⟨events₁,row,rest,hfirst,hrest⟩ := upsertEvents_cons h
    have hup := upsertEvent_ok hfirst
    have hprior : priorAmounts events₁ us=priorAmounts events us+
        if u.key∈us.map EventUpsert.key then u.amountMinor-held events u.key else 0 := by
      unfold priorAmounts
      have hheld : held events₁=fun k => if k=u.key then (u.amountMinor : ℤ) else held events k :=
        funext hup.held
      rw [hheld,sum_held_changed (List.nodup_dedup _)]
      simp only [List.mem_dedup]
    rw [ih hrest,hup.amounts,hprior]
    simp only [List.map_cons,List.sum_cons,overwritten]
    unfold priorAmounts
    rw [List.map_cons]
    by_cases hk : u.key∈us.map EventUpsert.key
    · rw [List.dedup_cons_of_mem hk]
      simp only [hk,if_true]
      omega
    · rw [List.dedup_cons_of_notMem hk]
      simp only [hk,if_false,List.map_cons,List.sum_cons]
      omega

theorem priorAmounts_eq_zero {us : List EventUpsert} (h : ∀ u∈us, findKey events u.key=none) :
    priorAmounts events us=0 := by
  unfold priorAmounts
  refine List.sum_eq_zero ?_
  intro x hx
  obtain ⟨k,hk,rfl⟩ := List.mem_map.mp hx
  obtain ⟨u,hu,rfl⟩ := List.mem_map.mp (List.mem_dedup.mp hk)
  unfold held
  rw [h u hu]
  rfl

end Totals

section Success
variable {events events' : Table BillingEvent.id} {gen : ℕ → Uuid} {u : EventUpsert}

/-- The columns hold what the upsert writes. -/
def EventUpsert.fits (u : EventUpsert) : Bool :=
  fitsInt u.quantity && fitsInt u.unitPriceMinor && fitsInt u.amountMinor

theorem upsertEvent_fits {id : Uuid} {x : Table BillingEvent.id × BillingEvent}
    (h : upsertEvent events id u=.ok x) : u.fits=true := by
  unfold upsertEvent at h
  split at h
  · cases h
  · rename_i hfits
    simpa [EventUpsert.fits] using hfits

theorem upsertEvent_ok_of_fits {id : Uuid} (hfits : u.fits=true)
    (h : findKey events u.key≠none ∨ events.get? id=none) :
    ∃ x, upsertEvent events id u=.ok x := by
  unfold upsertEvent
  unfold EventUpsert.fits at hfits
  rw [hfits,findKey_eq]
  cases hfound : findKey events u.key with
  | some e => exact ⟨_,rfl⟩
  | none =>
    cases h with
    | inl hsome => exact absurd hfound hsome
    | inr hnew =>
      refine ⟨(events.insert (u.created id),u.created id),?_⟩
      simp [hnew,pure,Except.pure]

theorem upsertEvents_fits {us : List EventUpsert} {rows : List BillingEvent}
    (h : upsertEvents events gen us=.ok (events',rows)) : ∀ u∈us, u.fits=true := by
  induction us generalizing events rows with
  | nil => exact fun _ hu => (List.not_mem_nil hu).elim
  | cons v us ih =>
    obtain ⟨events₁,row,rest,hfirst,hrest⟩ := upsertEvents_cons h
    intro u hu
    cases List.mem_cons.mp hu with
    | inl hfirst' =>
      rw [hfirst']
      exact upsertEvent_fits hfirst
    | inr hlater => exact ih hrest u hlater

theorem Upserted.get?_none {id x : Uuid} {row : BillingEvent} (h : Upserted events id u events' row)
    (hx : events.get? x=none) (hne : x≠id) : events'.get? x=none := by
  cases h with
  | updated e he =>
    rw [Table.get?_modify]
    split
    · rw [hx]
      rfl
    · exact hx
  | created hnone hnew => rwa [Table.get?_insert_ne _ hne]

/-- The ids that the database has ready are new, and no two are the same. -/
def NewIds (events : Table BillingEvent.id) (gen : ℕ → Uuid) (count : ℕ) : Prop :=
  ∀ n < count, events.get? (gen n)=none ∧ ∀ m < n, gen m≠gen n

theorem NewIds.mono {count count' : ℕ} (h : NewIds events gen count) (hle : count'≤count) :
    NewIds events gen count' := fun n hn => h n (Nat.lt_of_lt_of_le hn hle)

theorem upsertEvents_ok_of_fits {us : List EventUpsert} (hfits : ∀ u∈us, u.fits=true)
    (h : NewIds events gen us.length) : ∃ x, upsertEvents events gen us=.ok x := by
  induction us generalizing events with
  | nil => exact ⟨_,rfl⟩
  | cons u us ih =>
    obtain ⟨hnew,hothers⟩ := h us.length (Nat.lt_succ_self _)
    obtain ⟨⟨events₁,row⟩,hfirst⟩ := upsertEvent_ok_of_fits (hfits u List.mem_cons_self) (.inr hnew)
    have hup := upsertEvent_ok hfirst
    have hlater : NewIds events₁ gen us.length := by
      intro n hn
      obtain ⟨hnone,hbefore⟩ := h n (Nat.lt_succ_of_lt hn)
      exact ⟨hup.get?_none hnone (hothers n hn),hbefore⟩
    obtain ⟨⟨events₂,rows⟩,hrest⟩ := ih (fun v hv => hfits v (List.mem_cons_of_mem u hv)) hlater
    refine ⟨(events₂,row::rows),?_⟩
    simp only [upsertEvents,hfirst,hrest,bind,Except.bind,pure,Except.pure]

end Success

section Again
variable {events events' : Table BillingEvent.id} {gen : ℕ → Uuid} {u : EventUpsert} {id : Uuid}
  {row : BillingEvent}

/-- The last upsert of a key. -/
def lastOf : List EventUpsert → Uuid × Str → Option EventUpsert
  | [], _ => none
  | u::us, k => (lastOf us k).or (if u.key=k then some u else none)

/-- What the upserts of a list make of an event that is there. -/
def settle (us : List EventUpsert) (e : BillingEvent) : BillingEvent :=
  us.foldl (fun e u => if e.key=u.key then u.updated e else e) e

theorem updated_updated {v : EventUpsert} (hu : u.kind=.counter) (hv : v.kind=.counter)
    (e : BillingEvent) : v.updated (u.updated e)=v.updated e := by
  simp [EventUpsert.updated,hu,hv,UpsertKind.statusOf]

theorem updated_created (hu : u.kind=.counter) : u.updated (u.created id)=u.created id := by
  simp [EventUpsert.updated,EventUpsert.created,hu,UpsertKind.statusOf,UpsertKind.initialStatus]

theorem key_of_lastOf {us : List EventUpsert} {k : Uuid × Str} {v : EventUpsert}
    (h : lastOf us k=some v) : v∈us ∧ v.key=k := by
  induction us with
  | nil => cases h
  | cons u us ih =>
    cases Option.or_eq_some_iff.mp h with
    | inl hlater =>
      obtain ⟨hmem,hkey⟩ := ih hlater
      exact ⟨List.mem_cons_of_mem u hmem,hkey⟩
    | inr hfirst =>
      obtain ⟨_,hfirst⟩ := hfirst
      split at hfirst
      · rename_i hkey
        cases hfirst
        exact ⟨List.mem_cons_self,hkey⟩
      · cases hfirst

theorem lastOf_eq_none {us : List EventUpsert} {k : Uuid × Str} (h : lastOf us k=none) :
    ∀ u∈us, u.key≠k := by
  induction us with
  | nil => exact fun _ hu => (List.not_mem_nil hu).elim
  | cons v us ih =>
    obtain ⟨hlater,hfirst⟩ := Option.or_eq_none_iff.mp h
    intro u hu
    cases List.mem_cons.mp hu with
    | inl hsame =>
      intro hkey
      rw [if_pos (hsame ▸ hkey)] at hfirst
      cases hfirst
    | inr hmem => exact ih hlater u hmem

theorem settle_eq {us : List EventUpsert} (hus : ∀ u∈us, u.kind=.counter) (e : BillingEvent) :
    settle us e=(lastOf us e.key).elim e fun v => v.updated e := by
  induction us generalizing e with
  | nil => rfl
  | cons u us ih =>
    have hrest := fun v hv => hus v (List.mem_cons_of_mem u hv)
    have hstep : settle (u::us) e=settle us (if e.key=u.key then u.updated e else e) := rfl
    rw [hstep]
    by_cases hk : e.key=u.key
    · rw [if_pos hk,ih hrest,key_updated,lastOf,if_pos hk.symm]
      cases hlast : lastOf us e.key with
      | none => rfl
      | some v =>
        have hv := hrest v (key_of_lastOf hlast).1
        exact updated_updated (hus u List.mem_cons_self) hv e
    · rw [if_neg hk,ih hrest,lastOf,if_neg fun he => hk he.symm,Option.or_none]

/-- No two events have the key of one of these. -/
def KeysOnce (events : Table BillingEvent.id) (us : List EventUpsert) : Prop :=
  ∀ u∈us, ∀ e∈events.rows, ∀ e'∈events.rows, e.key=u.key → e'.key=u.key → e=e'

theorem Upserted.keysOnce {us : List EventUpsert} (h : Upserted events id u events' row)
    (honce : KeysOnce events us) : KeysOnce events' us := by
  intro v hv a ha b hb hakey hbkey
  cases h with
  | updated e he =>
    obtain ⟨o,ho,rfl⟩ := List.mem_map.mp ha
    obtain ⟨p,hp,rfl⟩ := List.mem_map.mp hb
    have hkeys : ∀ x : BillingEvent, (if x.id=e.id then u.updated x else x).key=x.key := by
      intro x
      split <;> rfl
    rw [hkeys] at hakey hbkey
    rw [honce v hv o ho p hp hakey hbkey]
  | created hnone hnew =>
    rw [findKey_eq] at hnone
    have hfree : ∀ e∈events.rows, e.key≠u.key := by
      intro e he hkey
      unfold Billing.findKey at hnone
      have hrow := List.find?_eq_none.mp hnone e he
      exact hrow (decide_eq_true hkey)
    have hkey : (u.created id).key=u.key := rfl
    rw [Table.rows_insert hnew] at ha hb
    cases List.mem_append.mp ha with
    | inl haold =>
      cases List.mem_append.mp hb with
      | inl hbold => exact honce v hv a haold b hbold hakey hbkey
      | inr hblast =>
        rw [List.mem_singleton.mp hblast,hkey] at hbkey
        exact absurd (hakey.trans hbkey.symm) (hfree a haold)
    | inr halast =>
      cases List.mem_append.mp hb with
      | inl hbold =>
        rw [List.mem_singleton.mp halast,hkey] at hakey
        exact absurd (hbkey.trans hakey.symm) (hfree b hbold)
      | inr hblast => rw [List.mem_singleton.mp halast,List.mem_singleton.mp hblast]

theorem Upserted.other (h : Upserted events id u events' row) {e : BillingEvent} (he : e.key≠u.key) :
    e∈events'.rows ↔ e∈events.rows := by
  cases h with
  | updated o ho =>
    rw [findKey_eq] at ho
    obtain ⟨homem,hokey⟩ := key_of_findKey ho
    constructor
    · intro hmem
      obtain ⟨p,hp,hchanged⟩ := List.mem_map.mp hmem
      split at hchanged
      · rename_i hid
        have hsame : p=o := Table.inj_of_nodup events.nodup hp homem hid
        rw [← hchanged,hsame] at he
        exact absurd hokey he
      · rw [← hchanged]
        exact hp
    · intro hmem
      refine List.mem_map.mpr ⟨e,hmem,if_neg ?_⟩
      intro hid
      have hsame : e=o := Table.inj_of_nodup events.nodup hmem homem hid
      exact he (hsame ▸ hokey)
  | created hnone hnew =>
    rw [Table.rows_insert hnew,List.mem_append,List.mem_singleton]
    refine or_iff_left ?_
    intro hsame
    exact he (hsame ▸ rfl)

theorem upsertEvents_other {us : List EventUpsert} {rows : List BillingEvent}
    (h : upsertEvents events gen us=.ok (events',rows)) {e : BillingEvent}
    (he : ∀ u∈us, u.key≠e.key) : e∈events'.rows ↔ e∈events.rows := by
  induction us generalizing events rows with
  | nil =>
    cases h
    exact Iff.rfl
  | cons u us ih =>
    obtain ⟨events₁,row,rest,hfirst,hrest⟩ := upsertEvents_cons h
    rw [ih hrest fun v hv => he v (List.mem_cons_of_mem u hv)]
    exact (upsertEvent_ok hfirst).other fun hkey => he u List.mem_cons_self hkey.symm

theorem Upserted.row_settled (h : Upserted events id u events' row) (hu : u.kind=.counter) :
    u.updated row=row := by
  cases h with
  | updated e he => exact updated_updated hu hu e
  | created hnone hnew => exact updated_created hu

theorem upsertEvents_settled {us : List EventUpsert} {rows : List BillingEvent}
    (h : upsertEvents events gen us=.ok (events',rows)) (hus : ∀ u∈us, u.kind=.counter)
    (honce : KeysOnce events us) : ∀ e∈events'.rows, ∀ v, lastOf us e.key=some v → v.updated e=e := by
  induction us generalizing events rows with
  | nil =>
    intro e _ v hv
    cases hv
  | cons u us ih =>
    obtain ⟨events₁,row,rest,hfirst,hrest⟩ := upsertEvents_cons h
    have hup := upsertEvent_ok hfirst
    have honce₁ := hup.keysOnce honce
    intro e he v hv
    cases Option.or_eq_some_iff.mp hv with
    | inl hlater =>
      exact ih hrest (fun w hw => hus w (List.mem_cons_of_mem u hw))
        (fun w hw => honce₁ w (List.mem_cons_of_mem u hw)) e he v hlater
    | inr hlast =>
      obtain ⟨hnone,hlast⟩ := hlast
      split at hlast
      · rename_i hkey
        cases hlast
        have hmem := (upsertEvents_other hrest (lastOf_eq_none hnone)).mp he
        have hfound : findKey events₁ u.key=some row := by rw [hup.findKey,if_pos rfl]
        obtain ⟨hrow,hrowkey⟩ := key_of_findKey hfound
        rw [honce₁ u List.mem_cons_self e hmem row hrow hkey.symm hrowkey]
        exact hup.row_settled (hus u List.mem_cons_self)
      · cases hlast

theorem upsertEvents_found {us : List EventUpsert} {rows : List BillingEvent}
    (h : upsertEvents events gen us=.ok (events',rows)) {k : Uuid × Str}
    (hk : findKey events k≠none ∨ k∈us.map EventUpsert.key) : findKey events' k≠none := by
  induction us generalizing events rows with
  | nil =>
    cases h
    exact hk.resolve_right List.not_mem_nil
  | cons u us ih =>
    obtain ⟨events₁,row,rest,hfirst,hrest⟩ := upsertEvents_cons h
    refine ih hrest ?_
    rw [(upsertEvent_ok hfirst).findKey]
    split
    · exact .inl (Option.some_ne_none _)
    · rename_i hne
      refine hk.imp_right ?_
      intro hmem
      exact (List.mem_cons.mp hmem).resolve_left hne

theorem upsertEvents_there {us : List EventUpsert} {rows : List BillingEvent}
    (h : upsertEvents events gen us=.ok (events',rows)) (hfound : ∀ u∈us, findKey events u.key≠none)
    (honce : KeysOnce events us) : events'.rows=events.rows.map (settle us) := by
  induction us generalizing events rows with
  | nil =>
    cases h
    exact (List.map_id _).symm
  | cons u us ih =>
    obtain ⟨events₁,row,rest,hfirst,hrest⟩ := upsertEvents_cons h
    have hup := upsertEvent_ok hfirst
    have hrows : events₁.rows=events.rows.map fun e => if e.key=u.key then u.updated e else e := by
      cases hup with
      | updated e he =>
        rw [findKey_eq] at he
        obtain ⟨hmem,hkey⟩ := key_of_findKey he
        refine List.map_congr_left ?_
        intro o ho
        by_cases hid : o.id=e.id
        · have hsame : o=e := Table.inj_of_nodup events.nodup ho hmem hid
          rw [if_pos hid,if_pos (hsame ▸ hkey)]
        · rw [if_neg hid,if_neg]
          intro hokey
          exact hid (congrArg BillingEvent.id (honce u List.mem_cons_self o ho e hmem hokey hkey))
      | created hnone hnew =>
        rw [findKey_eq] at hnone
        exact absurd hnone (hfound u List.mem_cons_self)
    have hfound₁ : ∀ v∈us, findKey events₁ v.key≠none := by
      intro v hv
      rw [hup.findKey]
      split
      · exact Option.some_ne_none _
      · exact hfound v (List.mem_cons_of_mem u hv)
    rw [ih hrest hfound₁ fun w hw => hup.keysOnce honce w (List.mem_cons_of_mem u hw),hrows,
      List.map_map]
    rfl

theorem table_ext {t t' : Table BillingEvent.id} (h : t.rows=t'.rows) : t=t' := by
  cases t
  cases t'
  cases h
  rfl

theorem upsertEvents_keysOnce {us vs : List EventUpsert} {rows : List BillingEvent}
    (h : upsertEvents events gen us=.ok (events',rows)) (honce : KeysOnce events vs) :
    KeysOnce events' vs := by
  induction us generalizing events rows with
  | nil =>
    cases h
    exact honce
  | cons u us ih =>
    obtain ⟨events₁,row,rest,hfirst,hrest⟩ := upsertEvents_cons h
    exact ih hrest ((upsertEvent_ok hfirst).keysOnce honce)

/-- The same upserts once more change nothing. -/
theorem upsertEvents_again {us : List EventUpsert} {rows rows' : List BillingEvent}
    {events'' : Table BillingEvent.id} {gen' : ℕ → Uuid}
    (h : upsertEvents events gen us=.ok (events',rows))
    (h' : upsertEvents events' gen' us=.ok (events'',rows')) (hus : ∀ u∈us, u.kind=.counter)
    (honce : KeysOnce events us) : events''=events' := by
  have hfound : ∀ u∈us, findKey events' u.key≠none :=
    fun u hu => upsertEvents_found h (.inr (List.mem_map.mpr ⟨u,hu,rfl⟩))
  have hrows := upsertEvents_there h' hfound (upsertEvents_keysOnce h honce)
  refine table_ext (hrows.trans ?_)
  conv_rhs => rw [← List.map_id events'.rows]
  refine List.map_congr_left ?_
  intro e he
  rw [settle_eq hus]
  cases hlast : lastOf us e.key with
  | none => rfl
  | some v => exact upsertEvents_settled h hus honce e he v hlast

end Again

section Counters
variable (env : Env) (c : WmsClient) (w : Uuid) (dto : GenerateBillingEventsDto)

/-- The counters of a positive quantity. -/
def billedCounters : List BillingCounterDto := dto.counters.filter fun k => 0 < k.quantity

/-- What they come to. -/
def owed : ℕ := ((billedCounters dto).map fun k => k.quantity*k.unitPriceMinor).sum

/-- A counter as the request bills it. -/
def counterUpsert (occurredAt : ℤ) : BillingCounterDto → EventUpsert :=
  counterEvent env c w (normalizeCurrency env dto.currency c.billingCurrency) occurredAt

def counterUpserts (occurredAt : ℤ) : List EventUpsert :=
  (billedCounters dto).map (counterUpsert env c w dto occurredAt)

/-- No counter that costs anything is followed by one of its reference. -/
def KeptApart (occurredAt : ℤ) : Prop :=
  (billedCounters dto).Pairwise fun k k' => k.unitPriceMinor=0 ∨
    (counterUpsert env c w dto occurredAt k').reference≠(counterUpsert env c w dto occurredAt k).reference

/-- The date is one, the columns hold the counters, and no counter that costs anything is followed by
one of its reference. -/
def Billable : Prop :=
  ∃ occurredAt, dto.occurredAt.bind env.runtime.newDate=some occurredAt ∧
    (∀ u∈counterUpserts env c w dto occurredAt, u.fits=true) ∧ KeptApart env c w dto occurredAt

variable {env c w dto}

theorem owed_eq (occurredAt : ℤ) : ((counterUpserts env c w dto occurredAt).map fun u =>
    (u.amountMinor : ℤ)).sum=owed dto := by
  unfold counterUpserts owed
  rw [List.map_map,Nat.cast_list_sum,List.map_map]
  rfl

theorem overwritten_nonneg (us : List EventUpsert) : 0≤overwritten us := by
  induction us with
  | nil => exact le_rfl
  | cons u us ih =>
    unfold overwritten
    split <;> omega

theorem overwritten_le (us : List EventUpsert) :
    overwritten us≤(us.map fun u => (u.amountMinor : ℤ)).sum := by
  induction us with
  | nil => exact le_rfl
  | cons u us ih =>
    simp only [overwritten,List.map_cons,List.sum_cons]
    split <;> omega

theorem overwritten_eq_zero {ks : List BillingCounterDto} {occurredAt : ℤ}
    (hpos : ∀ k∈ks, 0 < k.quantity) :
    overwritten (ks.map (counterUpsert env c w dto occurredAt))=0 ↔
      ks.Pairwise fun k k' => k.unitPriceMinor=0 ∨
        (counterUpsert env c w dto occurredAt k').reference≠
          (counterUpsert env c w dto occurredAt k).reference := by
  induction ks with
  | nil => exact ⟨fun _ => .nil,fun _ => rfl⟩
  | cons k ks ih =>
    have hrest := ih fun m hm => hpos m (List.mem_cons_of_mem k hm)
    have hnonneg := overwritten_nonneg (ks.map (counterUpsert env c w dto occurredAt))
    have hamount : (counterUpsert env c w dto occurredAt k).amountMinor=0 ↔ k.unitPriceMinor=0 := by
      have hquantity := hpos k List.mem_cons_self
      change k.quantity*k.unitPriceMinor=0 ↔ k.unitPriceMinor=0
      rw [Nat.mul_eq_zero]
      omega
    have hkeys : (counterUpsert env c w dto occurredAt k).key∈
        (ks.map (counterUpsert env c w dto occurredAt)).map EventUpsert.key ↔
        ∃ k'∈ks, (counterUpsert env c w dto occurredAt k').reference=
          (counterUpsert env c w dto occurredAt k).reference := by
      rw [List.map_map,List.mem_map]
      constructor
      · intro h
        obtain ⟨k',hk',hkey⟩ := h
        exact ⟨k',hk',congrArg Prod.snd hkey⟩
      · intro h
        obtain ⟨k',hk',href⟩ := h
        exact ⟨k',hk',Prod.ext rfl href⟩
    rw [List.map_cons,overwritten,List.pairwise_cons,← hrest]
    by_cases hk : ∃ k'∈ks, (counterUpsert env c w dto occurredAt k').reference=
        (counterUpsert env c w dto occurredAt k).reference
    · rw [if_pos (hkeys.mpr hk)]
      constructor
      · intro hsum
        have hzero : (counterUpsert env c w dto occurredAt k).amountMinor=0 := by omega
        exact ⟨fun _ _ => .inl (hamount.mp hzero),by omega⟩
      · intro h
        obtain ⟨hfirst,hlater⟩ := h
        obtain ⟨k',hk',href⟩ := hk
        have hprice := (hfirst k' hk').resolve_right fun hne => hne href
        rw [hamount.mpr hprice,hlater]
        rfl
    · rw [if_neg fun h => hk (hkeys.mp h)]
      constructor
      · intro hsum
        exact ⟨fun k' hk' => .inr fun href => hk ⟨k',hk',href⟩,by omega⟩
      · intro h
        rw [h.2]
        rfl

end Counters

section Runs
variable {env : Env} {s : System}

/-- The whole call of number `i`, with nothing in between. -/
def counterCall (i : ℕ) (gen : ℕ → Uuid) (ref client : Str) (dto : GenerateBillingEventsDto) :
    List Action :=
  .start i ref (.generateBillingEvents client dto)::List.replicate 3 (.advance i gen)

/-- The state after a call's transaction, be it committed or not. -/
def stored (db : BillingDb) (gen : ℕ → Uuid) (us : List EventUpsert) : BillingDb :=
  match upsertEvents db.events gen us with
  | .ok (events,_) => {db with events}
  | .error _ => db

/-- The books after a counter call: what its transaction leaves, if it comes to one. -/
def afterCounters (env : Env) (now : ℤ) (gen : ℕ → Uuid) (db : BillingDb) (c : WmsClient) (w : Uuid)
    (dto : GenerateBillingEventsDto) : BillingDb :=
  match buildBillingEventsFromCounters env c w now dto with
  | .ok us => if dto.dryRun then db else stored db gen us
  | .error _ => db

theorem afterClient_counters {now : ℤ} {client : Str} {dto : GenerateBillingEventsDto} {w : Uuid}
    {c : WmsClient} : afterClient env now (.generateBillingEvents client dto) w c=
      (buildBillingEventsFromCounters env c w now dto).map fun us =>
        if dto.dryRun then .ended (.ok (.dryRun us)) else .upserts us := by
  simp only [afterClient]
  cases buildBillingEventsFromCounters env c w now dto <;> rfl

theorem stored_advance {i : ℕ} {gen : ℕ → Uuid} {ref client : Str} {dto : GenerateBillingEventsDto}
    {us : List EventUpsert} {k : Call}
    (hc : (s.put s.db i k).call i=some ⟨ref,.generateBillingEvents client dto,.upserts us⟩) :
    ∃ last, System.act env (s.put s.db i k) (.advance i gen)=s.put (stored s.db gen us) i last := by
  unfold stored
  cases hup : upsertEvents s.db.events gen us with
  | error e =>
    have hlast : Billing.advance env s.now gen s.db ⟨ref,.generateBillingEvents client dto,.upserts us⟩=
        .error e := by
      simp only [Billing.advance,hup]
      rfl
    rw [act_error hc hlast]
    exact ⟨_,put_put _ _ _ _ _ _⟩
  | ok x =>
    obtain ⟨events,rows⟩ := x
    have hlast : Billing.advance env s.now gen s.db ⟨ref,.generateBillingEvents client dto,.upserts us⟩=
        .ok ({s.db with events},.ended (.ok (.events rows))) := by
      simp only [Billing.advance,hup]
      rfl
    rw [act_ok hc hlast,put_put]
    exact ⟨_,rfl⟩

theorem counterCall_run {i : ℕ} {gen : ℕ → Uuid} {ref client : Str} {dto : GenerateBillingEventsDto}
    {w : OrderUpdates.Warehouse} {c : WmsClient} (hfree : s.call i=none)
    (hw : env.runtime.resolveWarehouse s.db.places ref=.ok w)
    (hc : resolveClient env s.db client=.ok c) :
    ∃ last, System.run env s (counterCall i gen ref client dto)=
      s.put (afterCounters env s.now gen s.db c w.id dto) i last := by
  let call (phase : Phase) : Call := ⟨ref,.generateBillingEvents client dto,phase⟩
  have hstart : System.act env s (.start i ref (.generateBillingEvents client dto))=
      s.put s.db i (call .warehouse) := by
    simp only [System.act,hfree]
    rfl
  have hfirst : System.act env (s.put s.db i (call .warehouse)) (.advance i gen)=
      s.put s.db i (call (.client w.id)) := by
    have hadv : Billing.advance env s.now gen s.db (call .warehouse)=.ok (s.db,.client w.id) := by
      simp only [Billing.advance,call,hw]
      rfl
    rw [act_ok (put_call _ _ _ _) hadv,put_put]
  have hrun : System.run env s (counterCall i gen ref client dto)=
      System.act env (System.act env (s.put s.db i (call (.client w.id))) (.advance i gen))
        (.advance i gen) := by
    simp only [System.run,counterCall,List.replicate,List.foldl,hstart,hfirst]
  have hclient : Billing.advance env s.now gen s.db (call (.client w.id))=
      (afterClient env s.now (.generateBillingEvents client dto) w.id c).map fun p => (s.db,p) := by
    simp only [Billing.advance,call,Request.client,hc,bind,Except.bind,pure,Except.pure]
    cases afterClient env s.now (.generateBillingEvents client dto) w.id c <;> rfl
  rw [afterClient_counters] at hclient
  have hended (r : Except BillingError Answer) : System.act env (s.put s.db i (call (.ended r)))
      (.advance i gen)=s.put s.db i (call (.ended r)) := by
    have hadv : Billing.advance env s.now gen s.db (call (.ended r))=.ok (s.db,.ended r) := rfl
    rw [act_ok (put_call _ _ _ _) hadv,put_put]
  rw [hrun]
  unfold afterCounters
  cases hbuild : buildBillingEventsFromCounters env c w.id s.now dto with
  | error e =>
    rw [hbuild] at hclient
    have hsecond : System.act env (s.put s.db i (call (.client w.id))) (.advance i gen)=
        s.put s.db i (call (.ended (.error e))) := by
      rw [act_error (put_call _ _ _ _) hclient]
      exact put_put _ _ _ _ _ _
    rw [hsecond,hended]
    exact ⟨_,rfl⟩
  | ok us =>
    rw [hbuild] at hclient
    have hsecond : System.act env (s.put s.db i (call (.client w.id))) (.advance i gen)=
        s.put s.db i (call (if dto.dryRun then .ended (.ok (.dryRun us)) else .upserts us)) := by
      rw [act_ok (put_call _ _ _ _) hclient,put_put]
    rw [hsecond]
    cases hdry : dto.dryRun with
    | true =>
      rw [if_pos rfl,hended]
      exact ⟨_,rfl⟩
    | false => exact stored_advance (put_call s s.db i (call (.upserts us)))

/-- One call stores events of what its counters come to and leaves the others, and the same call
stores nothing else. -/
structure CountersBilled (dto : GenerateBillingEventsDto) (db db' db'' : BillingDb) : Prop where
  sum : amounts db'.events=amounts db.events+owed dto
  kept : ∀ e∈db.events.rows, e∈db'.events.rows
  again : db''.events=db'.events

section Stored
variable {db : BillingDb} {c : WmsClient} {w : Uuid} {dto : GenerateBillingEventsDto}
  {gen : ℕ → Uuid} {at' : ℤ}

theorem stored_clients (us : List EventUpsert) :
    (stored db gen us).clients=db.clients ∧ (stored db gen us).places=db.places := by
  unfold stored
  split <;> exact ⟨rfl,rfl⟩

theorem kind_counterUpserts : ∀ u∈counterUpserts env c w dto at', u.kind=.counter := by
  intro u hu
  obtain ⟨k,_,rfl⟩ := List.mem_map.mp hu
  rfl

theorem findKey_eq_none {events : Table BillingEvent.id} {k : Uuid × Str}
    (h : ∀ e∈events.rows, e.key≠k) : findKey events k=none := by
  refine List.find?_eq_none.mpr ?_
  intro e he
  simpa using h e he

theorem stored_cases (gen gen' : ℕ → Uuid)
    (hnew : NewIds db.events gen (counterUpserts env c w dto at').length)
    (hfresh : ∀ u∈counterUpserts env c w dto at', ∀ e∈db.events.rows, e.key≠u.key) :
    (∀ e∈db.events.rows, e∈(stored db gen (counterUpserts env c w dto at')).events.rows) ∧
    (stored (stored db gen (counterUpserts env c w dto at')) gen'
      (counterUpserts env c w dto at')).events=
      (stored db gen (counterUpserts env c w dto at')).events ∧
    amounts (stored db gen (counterUpserts env c w dto at')).events=
      if ∀ u∈counterUpserts env c w dto at', u.fits=true
      then amounts db.events+owed dto-overwritten (counterUpserts env c w dto at')
      else amounts db.events := by
  have hnone : ∀ u∈counterUpserts env c w dto at', findKey db.events u.key=none :=
    fun u hu => findKey_eq_none (hfresh u hu)
  cases hup : upsertEvents db.events gen (counterUpserts env c w dto at') with
  | error e =>
    have hsame : stored db gen (counterUpserts env c w dto at')=db := by
      simp only [stored,hup]
    have hfits : ¬∀ u∈counterUpserts env c w dto at', u.fits=true := by
      intro hfits
      have hok : ∃ x, upsertEvents db.events gen (counterUpserts env c w dto at')=.ok x :=
        upsertEvents_ok_of_fits hfits hnew
      rw [hup] at hok
      obtain ⟨x,hx⟩ := hok
      cases hx
    rw [hsame,if_neg hfits]
    refine ⟨fun _ he => he,?_,rfl⟩
    unfold stored
    cases hup' : upsertEvents db.events gen' (counterUpserts env c w dto at') with
    | error e' => rfl
    | ok x => exact absurd (upsertEvents_fits hup') hfits
  | ok x =>
    obtain ⟨events,rows⟩ := x
    have hsame : stored db gen (counterUpserts env c w dto at')={db with events} := by
      simp only [stored,hup]
    rw [hsame,if_pos (upsertEvents_fits hup)]
    refine ⟨?_,?_,?_⟩
    · intro e he
      exact (upsertEvents_other hup fun u hu hkey => hfresh u hu e he hkey.symm).mpr he
    · unfold stored
      cases hup' : upsertEvents events gen' (counterUpserts env c w dto at') with
      | error e' => rfl
      | ok x =>
        refine upsertEvents_again hup hup' kind_counterUpserts ?_
        intro u hu e he _ _ hkey
        exact absurd hkey (hfresh u hu e he)
    · rw [upsertEvents_amounts hup,owed_eq,priorAmounts_eq_zero hnone,Int.sub_zero]

theorem afterCounters_none {now : ℤ} {t : Str} (ht : dto.occurredAt=some t)
    (hdate : env.runtime.newDate t=none) : afterCounters env now gen db c w dto=db := by
  unfold afterCounters buildBillingEventsFromCounters
  simp only [ht,Option.elim_some,hdate]
  by_cases hcounters : (dto.counters.filter fun counter => 0 < counter.quantity)=[]
  · rw [if_pos hcounters]
    simp [pure,Except.pure,stored,upsertEvents]
  · rw [if_neg hcounters]
    rfl

theorem afterCounters_some {now : ℤ} {t : Str} (ht : dto.occurredAt=some t)
    (hdate : env.runtime.newDate t=some at') : afterCounters env now gen db c w dto=
      if dto.dryRun then db else stored db gen (counterUpserts env c w dto at') := by
  unfold afterCounters buildBillingEventsFromCounters
  simp only [ht,Option.elim_some,hdate]
  rfl

theorem afterCounters_clients {now : ℤ} : (afterCounters env now gen db c w dto).clients=db.clients ∧
    (afterCounters env now gen db c w dto).places=db.places := by
  unfold afterCounters
  split
  · split
    · exact ⟨rfl,rfl⟩
    · exact stored_clients _
  · exact ⟨rfl,rfl⟩

theorem countersBilled_same {db' db'' : BillingDb} (h : db'.events=db.events)
    (h' : db''.events=db.events) : CountersBilled dto db db' db'' ↔ owed dto=0 := by
  constructor
  · intro hbilled
    have hsum := hbilled.sum
    rw [h] at hsum
    omega
  · intro howed
    refine ⟨?_,?_,h'.trans h.symm⟩
    · rw [h,howed]
      omega
    · rw [h]
      exact fun _ he => he

theorem stored_billed (gen gen' : ℕ → Uuid)
    (hnew : NewIds db.events gen (counterUpserts env c w dto at').length)
    (hfresh : ∀ u∈counterUpserts env c w dto at', ∀ e∈db.events.rows, e.key≠u.key) :
    CountersBilled dto db (stored db gen (counterUpserts env c w dto at'))
      (stored (stored db gen (counterUpserts env c w dto at')) gen' (counterUpserts env c w dto at')) ↔
      owed dto=0 ∨ (∀ u∈counterUpserts env c w dto at', u.fits=true) ∧ KeptApart env c w dto at' := by
  obtain ⟨hkept,hagain,hsum⟩ := stored_cases gen gen' hnew hfresh
  have hpos : ∀ k∈billedCounters dto, 0 < k.quantity := by
    intro k hk
    exact of_decide_eq_true (List.mem_filter.mp hk).2
  have happart : overwritten (counterUpserts env c w dto at')=0 ↔ KeptApart env c w dto at' :=
    overwritten_eq_zero hpos
  have hnonneg := overwritten_nonneg (counterUpserts env c w dto at')
  have hle := overwritten_le (counterUpserts env c w dto at')
  rw [owed_eq] at hle
  have hiff : CountersBilled dto db (stored db gen (counterUpserts env c w dto at'))
      (stored (stored db gen (counterUpserts env c w dto at')) gen'
        (counterUpserts env c w dto at')) ↔
      amounts (stored db gen (counterUpserts env c w dto at')).events=amounts db.events+owed dto :=
    ⟨fun h => h.sum,fun h => ⟨h,hkept,hagain⟩⟩
  rw [hiff,hsum,← happart]
  split
  · rename_i hfits
    constructor
    · intro h
      exact .inr ⟨hfits,by omega⟩
    · intro h
      have hzero : overwritten (counterUpserts env c w dto at')=0 := by
        cases h with
        | inl howed => omega
        | inr h => exact h.2
      omega
  · rename_i hfits
    constructor
    · intro h
      exact .inl (by omega)
    · intro h
      have howed := h.resolve_right fun h => hfits h.1
      omega

theorem afterCounters_billed {now now' : ℤ} (gen gen' : ℕ → Uuid) {t : Str}
    (ht : dto.occurredAt=some t) (hnew : NewIds db.events gen dto.counters.length)
    (hfresh : ∀ occurredAt∈env.runtime.newDate t, ∀ u∈counterUpserts env c w dto occurredAt,
      ∀ e∈db.events.rows, e.key≠u.key) :
    CountersBilled dto db (afterCounters env now gen db c w dto)
      (afterCounters env now' gen' (afterCounters env now gen db c w dto) c w dto) ↔
      owed dto=0 ∨ dto.dryRun=false ∧ Billable env c w dto := by
  cases hdate : env.runtime.newDate t with
  | none =>
    have hnot : ¬Billable env c w dto := by
      intro h
      obtain ⟨occurredAt,hbind,_⟩ := h
      rw [ht,Option.bind_some,hdate] at hbind
      cases hbind
    rw [afterCounters_none ht hdate,afterCounters_none ht hdate,countersBilled_same rfl rfl]
    simp only [hnot,and_false,or_false]
  | some occurredAt =>
    rw [afterCounters_some ht hdate,afterCounters_some ht hdate]
    cases dto.dryRun with
    | true =>
      rw [if_pos rfl,if_pos rfl,countersBilled_same rfl rfl]
      simp only [Bool.true_eq_false,false_and,or_false]
    | false =>
      have hlength : (counterUpserts env c w dto occurredAt).length≤dto.counters.length := by
        unfold counterUpserts billedCounters
        rw [List.length_map]
        exact List.length_filter_le _ _
      have hbillable : Billable env c w dto ↔
          (∀ u∈counterUpserts env c w dto occurredAt, u.fits=true) ∧
            KeptApart env c w dto occurredAt := by
        unfold Billable
        rw [ht,Option.bind_some,hdate]
        simp only [Option.some.injEq,exists_eq_left']
      simp only [Bool.false_eq_true,if_false,true_and,hbillable]
      exact stored_billed gen gen' (hnew.mono hlength) (hfresh occurredAt hdate)

end Stored

/-- What two calls of the same counters leave. -/
theorem counterCalls_db {i j : ℕ} {gen : ℕ → Uuid} (gen' : ℕ → Uuid) {ref client : Str}
    (dto : GenerateBillingEventsDto) {w : OrderUpdates.Warehouse} {c : WmsClient}
    (hi : s.call i=none) (hj : s.call j=none) (hij : i≠j)
    (hw : env.runtime.resolveWarehouse s.db.places ref=.ok w)
    (hc : resolveClient env s.db client=.ok c) :
    (System.run env s (counterCall i gen ref client dto)).db=
      afterCounters env s.now gen s.db c w.id dto ∧
    ∃ now', (System.run env s (counterCall i gen ref client dto++counterCall j gen' ref client dto)).db=
      afterCounters env now' gen' (afterCounters env s.now gen s.db c w.id dto) c w.id dto := by
  obtain ⟨last,hrun⟩ : ∃ last, System.run env s (counterCall i gen ref client dto)=
      s.put (afterCounters env s.now gen s.db c w.id dto) i last := counterCall_run hi hw hc
  rw [run_append,hrun]
  have hj' : (s.put (afterCounters env s.now gen s.db c w.id dto) i last).call j=none := by
    simp [System.put,hij.symm,hj]
  obtain ⟨hclients,hplaces⟩ : (afterCounters env s.now gen s.db c w.id dto).clients=s.db.clients ∧
    (afterCounters env s.now gen s.db c w.id dto).places=s.db.places := afterCounters_clients
  have hw' : env.runtime.resolveWarehouse (afterCounters env s.now gen s.db c w.id dto).places ref=
      .ok w := by rw [hplaces,hw]
  have hc' : resolveClient env (afterCounters env s.now gen s.db c w.id dto) client=.ok c := by
    unfold resolveClient at hc ⊢
    rw [hclients,hc]
  obtain ⟨last',hrun'⟩ : ∃ last', System.run env (s.put (afterCounters env s.now gen s.db c w.id dto)
      i last) (counterCall j gen' ref client dto)=_ := counterCall_run hj' hw' hc'
  rw [hrun']
  exact ⟨rfl,_,rfl⟩

/-- A counter call on books without its references, and the same call again. -/
theorem counter_billing {i j : ℕ} {gen gen' : ℕ → Uuid} {ref client t : Str}
    {dto : GenerateBillingEventsDto} {w : OrderUpdates.Warehouse} {c : WmsClient}
    (hi : s.call i=none) (hj : s.call j=none) (hij : i≠j)
    (hw : env.runtime.resolveWarehouse s.db.places ref=.ok w)
    (hc : resolveClient env s.db client=.ok c) (ht : dto.occurredAt=some t)
    (hnew : NewIds s.db.events gen dto.counters.length)
    (hfresh : ∀ occurredAt∈env.runtime.newDate t, ∀ u∈counterUpserts env c w.id dto occurredAt,
      ∀ e∈s.db.events.rows, e.key≠u.key) :
    CountersBilled dto s.db (System.run env s (counterCall i gen ref client dto)).db
      (System.run env s (counterCall i gen ref client dto++counterCall j gen' ref client dto)).db ↔
      owed dto=0 ∨ dto.dryRun=false ∧ Billable env c w.id dto := by
  obtain ⟨hfirst,now',hsecond⟩ := counterCalls_db gen' dto hi hj hij hw hc
  rw [hfirst,hsecond]
  exact afterCounters_billed gen gen' ht hnew hfresh

/-- Some orders picked and some packed. -/
def demoCounters : GenerateBillingEventsDto where
  counters := [{eventType := .PICK, quantity := 2, unitPriceMinor := 100},
    {eventType := .PACK, quantity := 3, unitPriceMinor := 50},
    {eventType := .PICK, quantity := 0, unitPriceMinor := 100}]
  occurredAt := some "2026-01-15".toList

/-- Two lots of picks. -/
def demoPicks : GenerateBillingEventsDto where
  counters := [{eventType := .PICK, quantity := 2, unitPriceMinor := 100},
    {eventType := .PICK, quantity := 3, unitPriceMinor := 100}]
  occurredAt := some "2026-01-15".toList

def demoIds (n : ℕ) : Uuid :=
  if n=0 then someUuid '3' OrderUpdates.isHex_three else if n=1 then someUuid '4' OrderUpdates.isHex_four
  else someUuid '5' OrderUpdates.isHex_five

def demoCustomer : WmsClient := ⟨someUuid '2' OrderUpdates.isHex_two,"ACME".toList,"EUR".toList⟩

/-- A client and no events. -/
def demoReady : System := System.run demoEnv (System.initial demoPlaces) [demoClient]

theorem demoReady_books : demoReady.db.events.rows=[] ∧
    demoEnv.runtime.resolveWarehouse demoReady.db.places "MAIN".toList=.ok OrderUpdates.mainWarehouse ∧
    resolveClient demoEnv demoReady.db "ACME".toList=.ok demoCustomer :=
  ⟨rfl,rfl,rfl⟩

theorem demoIds_new : NewIds demoReady.db.events demoIds 3 := by
  have hapart : demoIds 0≠demoIds 1 ∧ demoIds 0≠demoIds 2 ∧ demoIds 1≠demoIds 2 := by decide
  intro n hn
  refine ⟨rfl,fun m hm => ?_⟩
  have hcases : n=1 ∧ m=0 ∨ n=2 ∧ m=0 ∨ n=2 ∧ m=1 := by omega
  rcases hcases with ⟨rfl,rfl⟩ | ⟨rfl,rfl⟩ | ⟨rfl,rfl⟩
  · exact hapart.1
  · exact hapart.2.1
  · exact hapart.2.2

theorem demoReady_fresh (us : List EventUpsert) :
    ∀ u∈us, ∀ e∈demoReady.db.events.rows, e.key≠u.key := by
  intro u _ e he
  rw [demoReady_books.1] at he
  cases he

theorem counter_billing_demo :
    CountersBilled demoCounters demoReady.db
      (System.run demoEnv demoReady
        (counterCall 1 demoIds "MAIN".toList "ACME".toList demoCounters)).db
      (System.run demoEnv demoReady (counterCall 1 demoIds "MAIN".toList "ACME".toList demoCounters++
        counterCall 2 demoIds "MAIN".toList "ACME".toList demoCounters)).db ↔
      owed demoCounters=0 ∨ demoCounters.dryRun=false ∧
        Billable demoEnv demoCustomer OrderUpdates.mainWarehouse.id demoCounters :=
  counter_billing rfl rfl (by decide) demoReady_books.2.1 demoReady_books.2.2 rfl demoIds_new
    fun _ _ => demoReady_fresh _

/-- Of the two lots only the second is stored. -/
theorem counter_overwritten : ¬∀ (env : Env) (s : System) (i j : ℕ) (gen gen' : ℕ → Uuid)
    (ref client t : Str) (dto : GenerateBillingEventsDto) (w : OrderUpdates.Warehouse) (c : WmsClient),
    s.call i=none → s.call j=none → i≠j → env.runtime.resolveWarehouse s.db.places ref=.ok w →
    resolveClient env s.db client=.ok c → dto.occurredAt=some t → dto.dryRun=false →
    NewIds s.db.events gen dto.counters.length →
    (∀ occurredAt∈env.runtime.newDate t, ∀ u∈counterUpserts env c w.id dto occurredAt,
      ∀ e∈s.db.events.rows, e.key≠u.key) →
    CountersBilled dto s.db (System.run env s (counterCall i gen ref client dto)).db
      (System.run env s (counterCall i gen ref client dto++counterCall j gen' ref client dto)).db := by
  intro h
  have hnew : NewIds demoReady.db.events demoIds demoPicks.counters.length :=
    demoIds_new.mono (by decide)
  have hbilled := h demoEnv demoReady 1 2 demoIds demoIds "MAIN".toList "ACME".toList
    "2026-01-15".toList demoPicks OrderUpdates.mainWarehouse demoCustomer rfl rfl (by decide)
    demoReady_books.2.1 demoReady_books.2.2 rfl rfl hnew fun _ _ => demoReady_fresh _
  obtain ⟨hfirst,now',hsecond⟩ := counterCalls_db demoIds demoPicks rfl rfl (show 1≠2 by decide)
    demoReady_books.2.1 demoReady_books.2.2
  rw [hfirst,hsecond] at hbilled
  cases (afterCounters_billed demoIds demoIds rfl hnew fun _ _ => demoReady_fresh _).mp hbilled with
  | inl howed =>
    revert howed
    decide
  | inr hbillable =>
    -- both lots have one reference
    obtain ⟨occurredAt,-,-,hapart⟩ := hbillable.2
    have hpicks : billedCounters demoPicks=demoPicks.counters := rfl
    unfold KeptApart at hapart
    rw [hpicks,demoPicks,List.pairwise_cons] at hapart
    cases hapart.1 _ (List.mem_singleton.mpr rfl) with
    | inl hfree => cases hfree
    | inr hreference => exact hreference rfl

end Runs
end AardvarkWms.Billing
