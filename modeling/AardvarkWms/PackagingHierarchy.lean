import AardvarkWms.MasterCodes

/-! What the validation of a packaging hierarchy accepts. -/
namespace AardvarkWms.ProductMaster

open Messaging (Str)

section Validation

structure PackagingLevelInput where
  levelCode : Str
  unitsPerLevel : ℤ
  parentLevelCode : Option Str := none
  isDefault : Option Bool := none

variable (lang : UpperCasing)

/-- The first loop: the levels by their codes, and the number of defaults. -/
def collect (byCode : List PackagingLevelInput) (defaultCount : ℕ) :
    List PackagingLevelInput → Except ProductError (List PackagingLevelInput × ℕ)
  | [] => .ok (byCode,defaultCount)
  | level::levels => do
    let code ← normalizeMasterCode lang level.levelCode
    if byCode.any fun l => l.levelCode=code then
      throw (.conflict ("Duplicate packaging level "++String.ofList code++"."))
    else if level.unitsPerLevel≤0 then
      throw (.conflict "unitsPerLevel must be a positive integer.")
    else
      collect (byCode++[{level with levelCode := code}])
        (if level.isDefault=some true then defaultCount+1 else defaultCount) levels

def checkParent (byCode : List PackagingLevelInput) (level : PackagingLevelInput) :
    Except ProductError Unit := do
  match ← ifGiven (normalizeMasterCode lang) level.parentLevelCode with
  | none => .ok ()
  | some parent =>
    match byCode.find? fun l => l.levelCode=parent with
    | none => throw (.conflict ("Parent packaging level "++String.ofList parent++" does not exist."))
    | some parentLevel =>
      if parent=level.levelCode then
        throw (.conflict "Packaging level cannot be its own parent.")
      else if parentLevel.unitsPerLevel≥level.unitsPerLevel then
        throw (.conflict "Parent packaging level must contain fewer units than child level.")
      else .ok ()

def checkParents (byCode : List PackagingLevelInput) :
    List PackagingLevelInput → Except ProductError Unit
  | [] => .ok ()
  | level::levels => do
    checkParent lang byCode level
    checkParents byCode levels

def validatePackagingHierarchy (levels : List PackagingLevelInput) : Except ProductError Unit := do
  let (byCode,defaultCount) ← collect lang [] 0 levels
  if defaultCount > 1 then
    throw (.conflict "Only one default packaging level is allowed per SKU.")
  else checkParents lang byCode byCode

end Validation

section Accepted
variable {lang : UpperCasing} {levels byCode : List PackagingLevelInput} {level : PackagingLevelInput}
  {r : List PackagingLevelInput × ℕ} {n : ℕ}

theorem bind_ok_iff {ε α β : Type} {x : Except ε α} {f : α → Except ε β} {b : β} :
    (x >>= f)=.ok b ↔ ∃ a, x=.ok a ∧ f a=.ok b := by
  constructor
  · exact Transactions.Txn.bind_eq_ok
  · rintro ⟨a,rfl,h⟩
    exact h

def PackagingLevelInput.code (lang : UpperCasing) (l : PackagingLevelInput) : Str :=
  masterCode lang l.levelCode

def PackagingLevelInput.normal (lang : UpperCasing) (l : PackagingLevelInput) :
    PackagingLevelInput :=
  {l with levelCode := l.code lang}

/-- What the validation accepts. -/
structure Accepted (lang : UpperCasing) (levels : List PackagingLevelInput) : Prop where
  codes : ∀ l∈levels, l.code lang≠[]
  positive : ∀ l∈levels, 0 < l.unitsPerLevel
  distinct : (levels.map (PackagingLevelInput.code lang)).Nodup
  oneDefault : levels.countP (fun l => l.isDefault=some true)≤1
  parents : ∀ l∈levels, ∀ p, given l.parentLevelCode=some p → masterCode lang p≠[] ∧
    ∃ q∈levels, q.code lang=masterCode lang p ∧ q.unitsPerLevel < l.unitsPerLevel

/-- The first loop, from any codes seen so far. -/
theorem collect_eq_ok : collect lang byCode n levels=.ok r ↔
    (∀ l∈levels, l.code lang≠[] ∧ 0 < l.unitsPerLevel) ∧
      (levels.map (PackagingLevelInput.code lang)).Nodup ∧
      (∀ l∈levels, ∀ q∈byCode, q.levelCode≠l.code lang) ∧
      r=(byCode++levels.map (PackagingLevelInput.normal lang),
        n+levels.countP fun l => l.isDefault=some true) := by
  induction levels generalizing byCode n with
  | nil =>
    simp only [collect,Except.ok.injEq]
    constructor
    · rintro rfl
      simp
    · rintro ⟨_,_,_,rfl⟩
      simp
  | cons l levels ih =>
    have hstep : collect lang byCode n (l::levels)=.ok r ↔ l.code lang≠[] ∧
        (∀ q∈byCode, q.levelCode≠l.code lang) ∧ 0 < l.unitsPerLevel ∧
        collect lang (byCode++[l.normal lang])
          (if l.isDefault=some true then n+1 else n) levels=.ok r := by
      rw [collect,bind_ok_iff]
      simp only [normalizeMasterCode_eq_ok]
      constructor
      · rintro ⟨code,⟨rfl,hne⟩,h⟩
        split at h
        · cases h
        · rename_i hnew
          split at h
          · cases h
          · rename_i hunits
            have hnew' : ∀ q∈byCode, q.levelCode≠l.code lang := by
              simpa [PackagingLevelInput.code] using hnew
            exact ⟨hne,hnew',not_le.mp hunits,h⟩
      · rintro ⟨hne,hnew,hunits,h⟩
        refine ⟨l.code lang,⟨rfl,hne⟩,?_⟩
        rw [if_neg (by simpa using hnew),if_neg (not_le.mpr hunits)]
        exact h
    rw [hstep,ih]
    have hcount : (if l.isDefault=some true then n+1 else n)+
        levels.countP (fun l => l.isDefault=some true)=
          n+(l::levels).countP fun l => l.isDefault=some true := by
      rw [List.countP_cons]
      by_cases hd : l.isDefault=some true
      · simp only [hd,if_true,decide_true]
        omega
      · simp [hd]
    rw [hcount,List.append_assoc]
    simp only [List.forall_mem_cons,List.map_cons,List.nodup_cons,List.mem_map,
      List.singleton_append,List.mem_append,List.mem_singleton]
    constructor
    · rintro ⟨hne,hnew,hunits,hall,hnodup,hapart,hr⟩
      refine ⟨⟨⟨hne,hunits⟩,hall⟩,⟨?_,hnodup⟩,⟨hnew,?_⟩,hr⟩
      · rintro ⟨x,hx,hsame⟩
        exact hapart x hx _ (.inr rfl) hsame.symm
      · intro x hx q hq
        exact hapart x hx q (.inl hq)
    · rintro ⟨⟨⟨hne,hunits⟩,hall⟩,⟨hfirst,hnodup⟩,⟨hnew,hapart⟩,hr⟩
      refine ⟨hne,hnew,hunits,hall,hnodup,?_,hr⟩
      rintro x hx q (hq|rfl)
      · exact hapart x hx q hq
      · intro hsame
        exact hfirst ⟨x,hx,hsame.symm⟩

/-- The second loop, for one level. -/
theorem checkParent_eq_ok (hdistinct : (byCode.map PackagingLevelInput.levelCode).Nodup)
    (hmem : level∈byCode) : checkParent lang byCode level=.ok () ↔
      ∀ p, given level.parentLevelCode=some p → masterCode lang p≠[] ∧
        ∃ q∈byCode, q.levelCode=masterCode lang p ∧ q.unitsPerLevel < level.unitsPerLevel := by
  unfold checkParent
  rw [bind_ok_iff]
  cases hg : given level.parentLevelCode with
  | none =>
    have hnone : ifGiven (normalizeMasterCode lang) level.parentLevelCode=.ok none := by
      simp [ifGiven,hg]
    simp [hnone]
  | some p =>
    have hsome : ∀ a, ifGiven (normalizeMasterCode lang) level.parentLevelCode=.ok a ↔
        masterCode lang p≠[] ∧ a=some (masterCode lang p) := by
      intro a
      simp only [ifGiven_eq_ok,hg,normalizeMasterCode_eq_ok,reduceCtorEq,false_and,false_or,
        Option.some.injEq]
      constructor
      · rintro ⟨v,w,rfl,⟨rfl,hne⟩,rfl⟩
        exact ⟨hne,rfl⟩
      · rintro ⟨hne,rfl⟩
        exact ⟨p,_,rfl,⟨rfl,hne⟩,rfl⟩
    simp only [hsome,Option.some.injEq,forall_eq']
    constructor
    · rintro ⟨a,⟨hne,rfl⟩,h⟩
      refine ⟨hne,?_⟩
      dsimp only at h
      split at h
      · cases h
      · rename_i q hq
        have hcode : q.levelCode=masterCode lang p := by simpa using List.find?_some hq
        split at h
        · cases h
        · split at h
          · cases h
          · rename_i hunits
            exact ⟨q,List.mem_of_find?_eq_some hq,hcode,not_le.mp hunits⟩
    · rintro ⟨hne,q,hq,hcode,hunits⟩
      refine ⟨some (masterCode lang p),⟨hne,rfl⟩,?_⟩
      have hfind : byCode.find? (fun l => l.levelCode=masterCode lang p)=some q := by
        cases hf : byCode.find? fun l => l.levelCode=masterCode lang p with
        | none =>
          rw [List.find?_eq_none] at hf
          exact (hf q hq (by simpa using hcode)).elim
        | some x =>
          have hx : x.levelCode=masterCode lang p := by simpa using List.find?_some hf
          have hsame : x=q := List.inj_on_of_nodup_map hdistinct (List.mem_of_find?_eq_some hf) hq
            (hx.trans hcode.symm)
          rw [hsame]
      have hown : masterCode lang p≠level.levelCode := by
        intro hown
        have hsame : q=level := List.inj_on_of_nodup_map hdistinct hq hmem (hcode.trans hown)
        subst hsame
        exact lt_irrefl _ hunits
      dsimp only
      rw [hfind]
      dsimp only
      rw [if_neg hown,if_neg (not_le.mpr hunits)]

theorem checkParents_eq_ok : checkParents lang byCode levels=.ok () ↔
    ∀ l∈levels, checkParent lang byCode l=.ok () := by
  induction levels with
  | nil => simp [checkParents]
  | cons l levels ih =>
    unfold checkParents
    rw [bind_ok_iff,List.forall_mem_cons,← ih]
    constructor
    · rintro ⟨_,h,hrest⟩
      exact ⟨h,hrest⟩
    · rintro ⟨h,hrest⟩
      exact ⟨(),h,hrest⟩

theorem validatePackagingHierarchy_eq_ok :
    validatePackagingHierarchy lang levels=.ok () ↔ Accepted lang levels := by
  have hlevelCode : (PackagingLevelInput.levelCode ∘ PackagingLevelInput.normal lang)=
      PackagingLevelInput.code lang := rfl
  have hparents : (levels.map (PackagingLevelInput.code lang)).Nodup →
      (checkParents lang (levels.map (PackagingLevelInput.normal lang))
          (levels.map (PackagingLevelInput.normal lang))=.ok () ↔
        ∀ l∈levels, ∀ p, given l.parentLevelCode=some p → masterCode lang p≠[] ∧
          ∃ q∈levels, q.code lang=masterCode lang p ∧ q.unitsPerLevel < l.unitsPerLevel) := by
    intro hdistinct
    rw [checkParents_eq_ok,List.forall_mem_map]
    refine forall₂_congr fun l hl => ?_
    rw [checkParent_eq_ok (by rw [List.map_map,hlevelCode]; exact hdistinct)
      (List.mem_map_of_mem hl)]
    simp only [List.mem_map,exists_exists_and_eq_and]
    rfl
  unfold validatePackagingHierarchy
  rw [bind_ok_iff]
  simp only [collect_eq_ok]
  constructor
  · rintro ⟨⟨found,count⟩,⟨hall,hdistinct,_,hr⟩,h⟩
    obtain ⟨rfl,rfl⟩ := Prod.mk.inj hr
    dsimp only at h
    split at h
    · cases h
    · rename_i hone
      simp only [List.nil_append] at h
      exact ⟨fun l hl => (hall l hl).1,fun l hl => (hall l hl).2,hdistinct,by omega,
        (hparents hdistinct).mp h⟩
  · intro h
    refine ⟨_,⟨fun l hl => ⟨h.codes l hl,h.positive l hl⟩,h.distinct,?_,rfl⟩,?_⟩
    · intro l _ q hq
      cases hq
    · have hone := h.oneDefault
      dsimp only
      rw [if_neg (by omega)]
      exact (hparents h.distinct).mpr h.parents

end Accepted

end AardvarkWms.ProductMaster
