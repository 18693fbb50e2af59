import AardvarkWms.TaskRuns

/-! Who gets the next task? Any number of calls claim side by side. -/
namespace AardvarkWms.WarehouseTasks

open Transactions Transactions.Txn Relational

/-- A claim with the task that it returns. -/
structure ClaimCall where
  warehouse : Text
  dto : ClaimNextWarehouseTaskDto
  actorId : ℕ
  returned : WarehouseTask

def ClaimCall.prog (k : ClaimCall) : Wms Unit := do
  let task ← claimNext k.warehouse k.dto k.actorId
  require (task=k.returned) (.conflict "Answered otherwise")

/-- The task was one to assign, and it is returned and left as assigned to the named user,
or to the caller. -/
structure Claimed (k : ClaimCall) (c : WmsCtx) : Prop where
  before : ∃ t : WarehouseTask, (c.base .warehouseTasks).get? k.returned.id=some t ∧
    .ASSIGNED∈allowedTransitions t.status
  status : k.returned.status=.ASSIGNED
  user : ∃ user, NamedUser c.base k.dto.assignedUserReference user ∧
    k.returned.assignedUserId=some ((user.map (·.id)).getD k.actorId)
  view : (c.view .warehouseTasks).get? k.returned.id=some k.returned
  others : ∀ id, id≠k.returned.id →
    (c.view .warehouseTasks).get? id=(c.base .warehouseTasks).get? id

theorem ClaimCall.spec (k : ClaimCall) : Spec store (Claimed k) k.prog := by
  intro d
  simp only [ClaimCall.prog,bind_eq,wp_bind,wp_require]
  refine wp_claims fun t user u c hu ht hnext huser hc hk => ?_
  have hbase : c.base=d := hc.base
  have hview : c.view .warehouseTasks=(d .warehouseTasks).modify t.id u.patch (fun _ => rfl) := by
    refine (hc.view.table (t := .warehouseTasks) rfl).trans ?_
    exact apply_update_self _ _ _ _
  have hid : k.returned.id=t.id := by rw [← hk]; rfl
  subst hu
  refine ⟨⟨t,?_,hnext⟩,?_,⟨user,?_,?_⟩,?_,fun id hne => ?_⟩
  · rw [hid,hbase]
    exact ht
  · rw [← hk]
    rfl
  · rwa [hbase]
  · rw [← hk]
    rfl
  · rw [hid,hview]
    refine (Table.get?_modify_self _ _ _ _).trans ?_
    rw [ht]
    exact congrArg some hk
  · rw [hview,hbase]
    exact Table.get?_modify_ne _ _ _ (hid ▸ hne)

theorem Claimed.keeps {k : ClaimCall} {c : WmsCtx} (h : Claimed k c) {t : WarehouseTask}
    (hstatus : t.status=.ASSIGNED) (ht : (c.base .warehouseTasks).get? t.id=some t) :
    (c.view .warehouseTasks).get? t.id=some t := by
  have hne : t.id≠k.returned.id := by
    intro hid
    obtain ⟨t',ht',hnext⟩ := h.before
    rw [← hid,ht] at ht'
    rw [← Option.some.inj ht',hstatus] at hnext
    exact absurd hnext (by decide)
  rw [h.others _ hne]
  exact ht

/-- However the claims overlap: no task is returned to two calls, and what a call returned is
what is committed from then on, assigned to the user that the call names, or else to its
caller. -/
theorem claims_exclusive {d : WmsDb} {tr : List (ClaimCall × WmsCtx)}
    {c : Config (interface wms) WmsDb ClaimCall}
    (hrun : Run store ClaimCall.prog (fun _ _ => True) d tr c) :
    (tr.Pairwise fun e e' => e.1.returned.id≠e'.1.returned.id) ∧
    ∀ e∈tr, (c.committed .warehouseTasks).get? e.1.returned.id=some e.1.returned ∧
      e.1.returned.status=.ASSIGNED ∧
      ∃ user, NamedUser e.2.base e.1.dto.assignedUserReference user ∧
        e.1.returned.assignedUserId=some ((user.map (·.id)).getD e.1.actorId) := by
  have hcommits := hrun.commits ClaimCall.spec
  constructor
  · have hbetween := hrun.between ClaimCall.spec (P := fun e v => e.1.returned.status=.ASSIGNED ∧
      (v .warehouseTasks).get? e.1.returned.id=some e.1.returned)
      fun e op c hclaimed _ h => ⟨h.1,hclaimed.keeps h.1 h.2⟩
    refine List.Pairwise.imp_of_mem ?_ hbetween
    intro e e' he he' hlater hid
    obtain ⟨hlast,_⟩ := hcommits e he
    obtain ⟨hfirst,_⟩ := hcommits e' he'
    obtain ⟨hstatus,hfound⟩ := hlater ⟨hfirst.status,hfirst.view⟩
    obtain ⟨t,ht,hnext⟩ := hlast.before
    rw [hid,hfound] at ht
    rw [← Option.some.inj ht,hstatus] at hnext
    exact absurd hnext (by decide)
  · intro e he
    obtain ⟨hclaimed,_⟩ := hcommits e he
    refine ⟨?_,hclaimed.status,hclaimed.user⟩
    have hstays := hrun.carried ClaimCall.spec (P := fun v =>
      (v .warehouseTasks).get? e.1.returned.id=some e.1.returned)
      fun op c h _ hbase => h.keeps hclaimed.status hbase
    exact hstays e he hclaimed.view

/-- The floor with a user who can be named. -/
def staffed : WmsDb := after [.insert .users ⟨9,.word 9⟩] floor

def demoTask (id : ℕ) : Option WarehouseTask := (staffed .warehouseTasks).get? id

/-- Caller 5 claims task 1, and then task 2 for user 9. -/
def demoClaims : List ClaimCall :=
  ((demoTask 1).toList.map fun t => ⟨.word 1,{},5,(claimed {} 5).patch t⟩)
  ++(demoTask 2).toList.map fun t =>
    ⟨.word 1,{assignedUserReference := some (.word 9)},5,(claimed {} 9).patch t⟩

theorem claims_exclusive_demo : ∃ tr d,
    serially store ClaimCall.prog id demoClaims 10 [] staffed=.ok (tr,d) ∧ tr.length=2 ∧
    (tr.Pairwise fun e e' => e.1.returned.id≠e'.1.returned.id) ∧
    ∀ e∈tr, (d .warehouseTasks).get? e.1.returned.id=some e.1.returned := by
  have hhistory : ∃ tr d, serially store ClaimCall.prog id demoClaims 10 [] staffed=.ok (tr,d) ∧
      tr.length=2 := ⟨_,_,rfl,rfl⟩
  obtain ⟨tr,d,he,hlength⟩ := hhistory
  have hrun : Run store ClaimCall.prog (fun _ _ => True) staffed tr (.idle d) :=
    Run.serial he fun _ _ _ => trivial
  obtain ⟨hapart,hcommitted⟩ := claims_exclusive hrun
  exact ⟨tr,d,he,hlength,hapart,fun e hmem => (hcommitted e hmem).1⟩

/-- The task that caller 5 claims for user 9 is not assigned to caller 5. -/
theorem claim_for_another : ¬∀ d tr (c : Config (interface wms) WmsDb ClaimCall),
    Run store ClaimCall.prog (fun _ _ => True) d tr c →
    ∀ e∈tr, ∃ t : WarehouseTask, (c.committed .warehouseTasks).get? e.1.returned.id=some t ∧
      t.assignedUserId=some e.1.actorId := by
  intro h
  have hhistory : ∃ tr d, serially store ClaimCall.prog id demoClaims 10 [] staffed=.ok (tr,d) ∧
      ∃ e∈tr, e.1.actorId=5 ∧ ((d .warehouseTasks).get? e.1.returned.id).map (·.assignedUserId)=
        some (some 9) := ⟨_,_,rfl,by decide⟩
  obtain ⟨tr,d,he,e,hmem,hactor,huser⟩ := hhistory
  have hrun : Run store ClaimCall.prog (fun _ _ => True) staffed tr (.idle d) :=
    Run.serial he fun _ _ _ => trivial
  obtain ⟨t,ht,hassigned⟩ := h _ _ _ hrun e hmem
  have ht : (d .warehouseTasks).get? e.1.returned.id=some t := ht
  rw [ht,Option.map_some,hassigned,hactor] at huser
  exact absurd (Option.some.inj huser) (by decide)

end AardvarkWms.WarehouseTasks
