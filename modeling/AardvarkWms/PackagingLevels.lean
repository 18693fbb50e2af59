import AardvarkWms.Forests
import AardvarkWms.Histories
import AardvarkWms.PackagingHierarchy

/-! The packaging levels of the SKUs. An upsert validates the hierarchy on what it reads, clears
the default and writes its level, each by a statement of its own. -/
namespace AardvarkWms.ProductMaster

open Messaging (Str trim)

section Model

structure Sku where
  id : Str
  code : Str
  barcode : Option Str

/-- A measure may be absent or `null`. -/
structure UpsertSkuPackagingLevelDto where
  levelCode : Str
  uom : Str
  unitsPerLevel : ℤ
  parentLevelCode : Option Str := none
  weightGrams : Option ℕ := none
  lengthMm : Option (Option ℕ) := none
  widthMm : Option (Option ℕ) := none
  heightMm : Option (Option ℕ) := none
  volumeCm3 : Option ℕ := none
  barcode : Option Str := none
  isDefault : Option Bool := none

structure PackagingLevel where
  skuId : Str
  levelCode : Str
  uom : Str
  unitsPerLevel : ℤ
  parentLevelCode : Option Str
  weightGrams : Option ℕ
  lengthMm : Option ℕ
  widthMm : Option ℕ
  heightMm : Option ℕ
  volumeCm3 : Option ℕ
  barcode : Option Str
  isDefault : Bool
  deriving DecidableEq

/-- The columns of the unique index. -/
def PackagingLevel.key (l : PackagingLevel) : Str × Str := (l.skuId,l.levelCode)

abbrev LevelDb : Type := Table PackagingLevel.key

/-- One call, with the SKUs that its first statement may read. -/
structure Call where
  skus : List Sku
  skuReference : Str
  dto : UpsertSkuPackagingLevelDto

inductive Phase
  | select
  | clear (skuId : Str)
  | insert (skuId : Str)
  | ended (result : Except ProductError PackagingLevel)

structure Upsert where
  call : Call
  phase : Phase

structure System where
  db : LevelDb
  upserts : List Upsert

inductive Action
  | start (call : Call)
  | statement (i : ℕ)

variable (lang : UpperCasing)

def resolveSku (skus : List Sku) (reference : Str) : Except ProductError Str := do
  let code ← normalizeMasterCode lang reference
  match skus.find? fun s => s.id=reference || s.code=code || s.barcode=some (trim reference) with
  | none => throw (.notFound "SKU was not found")
  | some sku => pure sku.id

def levelsOf (db : LevelDb) (skuId : Str) : List PackagingLevel :=
  db.rows.filter fun l => l.skuId=skuId

def PackagingLevel.input (l : PackagingLevel) : PackagingLevelInput where
  levelCode := l.levelCode
  unitsPerLevel := l.unitsPerLevel
  parentLevelCode := l.parentLevelCode
  isDefault := some l.isDefault

def UpsertSkuPackagingLevelDto.input (dto : UpsertSkuPackagingLevelDto) : PackagingLevelInput where
  levelCode := dto.levelCode
  unitsPerLevel := dto.unitsPerLevel
  parentLevelCode := dto.parentLevelCode
  isDefault := dto.isDefault

/-- The stored levels under other codes than the one that is upserted. -/
def otherLevels (levelCode : Str) : List PackagingLevel → Except ProductError (List PackagingLevel)
  | [] => .ok []
  | level::levels => do
    let code ← normalizeMasterCode lang level.levelCode
    let upserted ← normalizeMasterCode lang levelCode
    let others ← otherLevels levelCode levels
    pure (if code≠upserted then level::others else others)

def validateUpsert (existing : List PackagingLevel) (dto : UpsertSkuPackagingLevelDto) :
    Except ProductError Unit := do
  let others ← otherLevels lang dto.levelCode existing
  validatePackagingHierarchy lang (others.map PackagingLevel.input++[dto.input])

def deriveVolume (lengthMm widthMm heightMm : Option (Option ℕ)) : Option ℕ := do
  let length ← lengthMm
  let width ← widthMm
  let height ← heightMm
  pure ((length.getD 0*width.getD 0*height.getD 0+999)/1000)

/-- The numbers are within the range of their columns. -/
def PackagingLevel.inRange (l : PackagingLevel) : Bool :=
  l.unitsPerLevel≤2147483647 &&
    [l.weightGrams,l.lengthMm,l.widthMm,l.heightMm,l.volumeCm3].all fun n =>
      n.all fun n => n≤2147483647

/-- The row that an upsert proposes. -/
def proposedLevel (skuId levelCode uom : Str) (parentLevelCode barcode : Option Str)
    (dto : UpsertSkuPackagingLevelDto) : PackagingLevel where
  skuId := skuId
  levelCode := levelCode
  uom := uom
  unitsPerLevel := dto.unitsPerLevel
  parentLevelCode := parentLevelCode
  weightGrams := dto.weightGrams
  lengthMm := dto.lengthMm.getD none
  widthMm := dto.widthMm.getD none
  heightMm := dto.heightMm.getD none
  volumeCm3 := dto.volumeCm3.orElse fun _ => deriveVolume dto.lengthMm dto.widthMm dto.heightMm
  barcode := barcode
  isDefault := dto.isDefault.getD false

def selectLevels (db : LevelDb) (c : Call) : Except ProductError Str := do
  let skuId ← resolveSku lang c.skus c.skuReference
  validateUpsert lang (levelsOf db skuId) c.dto
  pure skuId

/-- `UPDATE sku_packaging_levels SET is_default = false WHERE sku_id = …`. -/
def clearDefaults (db : LevelDb) (skuId : Str) : LevelDb :=
  db.modifyWhere (fun l => l.skuId=skuId) (fun l => {l with isDefault := false}) fun _ => rfl

def insertedLevel (skuId : Str) (dto : UpsertSkuPackagingLevelDto) :
    Except ProductError PackagingLevel := do
  let levelCode ← normalizeMasterCode lang dto.levelCode
  let uom ← normalizeMasterCode lang dto.uom
  let parentLevelCode ← ifGiven (normalizeMasterCode lang) dto.parentLevelCode
  let barcode ← ifGiven normalizeBarcode dto.barcode
  let level := proposedLevel skuId levelCode uom parentLevelCode barcode dto
  if level.inRange then pure level else throw .outOfRange

/-- `INSERT … ON CONFLICT (sku_id, level_code) DO UPDATE`: every column is written anew. -/
def insertLevel (db : LevelDb) (skuId : Str) (dto : UpsertSkuPackagingLevelDto) :
    LevelDb × Except ProductError PackagingLevel :=
  match insertedLevel lang skuId dto with
  | .error e => (db,.error e)
  | .ok level => (db.put level,.ok level)

/-- What follows the validation. -/
def validated (skuId : Str) (dto : UpsertSkuPackagingLevelDto) : Phase :=
  if dto.isDefault=some true then .clear skuId else .insert skuId

/-- One statement of a call. -/
def statement (db : LevelDb) (u : Upsert) : LevelDb × Phase :=
  match u.phase with
  | .select =>
    match selectLevels lang db u.call with
    | .error e => (db,.ended (.error e))
    | .ok skuId => (db,validated skuId u.call.dto)
  | .clear skuId => (clearDefaults db skuId,.insert skuId)
  | .insert skuId => (insertLevel lang db skuId u.call.dto).map id .ended
  | .ended result => (db,.ended result)

def act (s : System) : Action → System
  | .start call => {s with upserts := s.upserts++[⟨call,.select⟩]}
  | .statement i =>
    match s.upserts[i]? with
    | none => s
    | some u =>
      let (db,phase) := statement lang s.db u
      ⟨db,s.upserts.set i {u with phase}⟩

def System.initial : System := ⟨Table.empty,[]⟩

def history (as : List Action) : System := Histories.run (act lang) System.initial as

/-- The whole call, with no other in between. -/
def upsertPackagingLevel (db : LevelDb) (c : Call) : LevelDb × Except ProductError PackagingLevel :=
  match selectLevels lang db c with
  | .error e => (db,.error e)
  | .ok skuId =>
    insertLevel lang (if c.dto.isDefault=some true then clearDefaults db skuId else db) skuId c.dto

end Model

section Law

/-- The levels of one SKU: a forest by their parents, of fewer units towards the root, with one
default at most. -/
structure ValidHierarchy (levels : List PackagingLevel) : Prop where
  forest : Forests.Forest PackagingLevel.levelCode PackagingLevel.parentLevelCode levels
  fewer : ∀ l∈levels, ∀ p, l.parentLevelCode=some p →
    ∃ q∈levels, q.levelCode=p ∧ q.unitsPerLevel < l.unitsPerLevel
  oneDefault : ∀ a∈levels, ∀ b∈levels, a.isDefault=true → b.isDefault=true → a=b

def System.Valid (s : System) : Prop := ∀ skuId, ValidHierarchy (levelsOf s.db skuId)

variable (lang : UpperCasing)

/-- Where a call is about to insert, its level would still pass on the rows as they now are. -/
def StillPasses (s : System) : Action → Prop
  | .start _ => True
  | .statement i => ∀ u skuId, s.upserts[i]?=some u → u.phase=.insert skuId →
    ∀ level, insertedLevel lang skuId u.call.dto=.ok level →
      validateUpsert lang (levelsOf s.db skuId) u.call.dto=.ok ()

/-- Apart from the default it takes over, the level keeps the hierarchy valid. -/
def OtherwiseValid (db : LevelDb) (skuId : Str) (dto : UpsertSkuPackagingLevelDto) : Prop :=
  validateUpsert lang (levelsOf (clearDefaults db skuId) skuId) dto=.ok ()

/-- The call succeeds, and its level is the only default of the SKU. -/
def BecomesDefault (db : LevelDb) (skuId : Str) (c : Call) : Prop :=
  ∃ level, (upsertPackagingLevel lang db c).2=.ok level ∧
    level.levelCode=masterCode lang c.dto.levelCode ∧
    ∀ l, l∈levelsOf (upsertPackagingLevel lang db c).1 skuId ∧ l.isDefault=true ↔ l=level

def NoOtherDefault (db : LevelDb) (skuId : Str) (dto : UpsertSkuPackagingLevelDto) : Prop :=
  ∀ l∈levelsOf db skuId, l.isDefault=true → l.levelCode=masterCode lang dto.levelCode

/-- The unit and the barcode are not blank, and the numbers are within range. -/
structure Storable (dto : UpsertSkuPackagingLevelDto) : Prop where
  uom : masterCode lang dto.uom≠[]
  barcode : ∀ b, given dto.barcode=some b → trim b≠[]
  inRange : (proposedLevel [] [] [] none none dto).inRange=true

end Law

section Rows
variable {lang : UpperCasing} {rows rows' : List PackagingLevel}
  {level l : PackagingLevel} {skuId : Str} {dto : UpsertSkuPackagingLevelDto}

/-- A row as the upserts write it: its codes are in normal form. -/
structure PackagingLevel.Stored (lang : UpperCasing) (l : PackagingLevel) : Prop where
  code : masterCode lang l.levelCode=l.levelCode
  codeGiven : l.levelCode≠[]
  parent : ∀ p, l.parentLevelCode=some p → p≠[] ∧ masterCode lang p=p
  positive : 0 < l.unitsPerLevel

/-- The input says of the level what the row holds. -/
structure Describes (lang : UpperCasing) (l : PackagingLevel) (i : PackagingLevelInput) : Prop where
  code : i.code lang=l.levelCode
  units : i.unitsPerLevel=l.unitsPerLevel
  parent : (given i.parentLevelCode).map (masterCode lang)=l.parentLevelCode
  isDefault : i.isDefault=some true ↔ l.isDefault=true

theorem ValidHierarchy.of_fewer (hkeys : (rows.map PackagingLevel.levelCode).Nodup)
    (hpositive : ∀ l∈rows, 0 < l.unitsPerLevel)
    (hfewer : ∀ l∈rows, ∀ p, l.parentLevelCode=some p →
      ∃ q∈rows, q.levelCode=p ∧ q.unitsPerLevel < l.unitsPerLevel)
    (hone : ∀ a∈rows, ∀ b∈rows, a.isDefault=true → b.isDefault=true → a=b) :
    ValidHierarchy rows := by
  refine ⟨?_,hfewer,hone⟩
  refine Forests.forest_of_measure hkeys (fun l => l.unitsPerLevel.toNat) ?_
  intro a ha k hk
  obtain ⟨b,hb,hcode,hlt⟩ := hfewer a ha k hk
  have hpos := hpositive a ha
  exact ⟨b,hb,hcode,by omega⟩

theorem ValidHierarchy.congr (hmem : ∀ l, l∈rows ↔ l∈rows') (h : ValidHierarchy rows) :
    ValidHierarchy rows' := by
  have hparent : Forests.ParentOf PackagingLevel.levelCode PackagingLevel.parentLevelCode rows=
      Forests.ParentOf PackagingLevel.levelCode PackagingLevel.parentLevelCode rows' := by
    funext a b
    simp only [Forests.ParentOf,hmem]
  obtain ⟨⟨hparents,hunique,hacyclic,hrooted⟩,hfewer,hone⟩ := h
  simp only [hmem,hparent] at hparents hunique hacyclic hrooted hfewer hone
  exact ⟨⟨hparents,hunique,hacyclic,hrooted⟩,hfewer,hone⟩

theorem countP_le_one {α : Type} {p : α → Bool} {xs : List α} (h : xs.Nodup) :
    xs.countP p≤1 ↔ ∀ a∈xs, ∀ b∈xs, p a=true → p b=true → a=b := by
  induction xs with
  | nil => simp
  | cons x xs ih =>
    obtain ⟨hx,hxs⟩ := List.nodup_cons.mp h
    rw [List.countP_cons]
    cases hp : p x with
    | false =>
      have hrest := ih hxs
      simp only [Bool.false_eq_true,if_false,Nat.add_zero,hrest,List.mem_cons]
      constructor
      · rintro h a (rfl|ha) b (rfl|hb) hpa hpb
        · rfl
        · simp [hp] at hpa
        · simp [hp] at hpb
        · exact h a ha b hb hpa hpb
      · intro h a ha b hb
        exact h a (.inr ha) b (.inr hb)
    | true =>
      constructor
      · intro hle
        have hzero : xs.countP p=0 := by simpa using hle
        have hnone := List.countP_eq_zero.mp hzero
        intro a ha b hb hpa hpb
        rcases List.mem_cons.mp ha with rfl|ha
        · rcases List.mem_cons.mp hb with rfl|hb
          · rfl
          · exact (hnone b hb hpb).elim
        · exact (hnone a ha hpa).elim
      · intro h
        have hnone : ∀ a∈xs, ¬p a=true := by
          intro a ha hpa
          have hsame := h a (by simp [ha]) x (by simp) hpa hp
          exact hx (hsame ▸ ha)
        simp [List.countP_eq_zero.mpr hnone]

theorem accepted_iff {f : PackagingLevel → PackagingLevelInput}
    (hrows : ∀ l∈rows, l.Stored lang) (hkeys : (rows.map PackagingLevel.levelCode).Nodup)
    (hf : ∀ l∈rows, Describes lang l (f l)) :
    Accepted lang (rows.map f) ↔ ValidHierarchy rows := by
  have hcount : (rows.map f).countP (fun i => i.isDefault=some true)=
      rows.countP PackagingLevel.isDefault := by
    rw [List.countP_map]
    refine List.countP_congr fun l hl => ?_
    simpa using (hf l hl).isDefault
  have hone := countP_le_one (p := PackagingLevel.isDefault) hkeys.of_map
  constructor
  · intro h
    refine ValidHierarchy.of_fewer hkeys (fun l hl => (hrows l hl).positive) ?_
      (hone.mp (hcount ▸ h.oneDefault))
    intro l hl p hp
    obtain ⟨v,hv,rfl⟩ := Option.map_eq_some_iff.mp ((hf l hl).parent.trans hp)
    obtain ⟨_,i,hi,hcode,hlt⟩ := h.parents (f l) (List.mem_map_of_mem hl) v hv
    obtain ⟨q,hq,rfl⟩ := List.mem_map.mp hi
    refine ⟨q,hq,(hf q hq).code.symm.trans hcode,?_⟩
    rw [← (hf q hq).units,← (hf l hl).units]
    exact hlt
  · intro h
    refine ⟨?_,?_,?_,hcount ▸ hone.mpr h.oneDefault,?_⟩
    · rw [List.forall_mem_map]
      intro l hl
      rw [(hf l hl).code]
      exact (hrows l hl).codeGiven
    · rw [List.forall_mem_map]
      intro l hl
      rw [(hf l hl).units]
      exact (hrows l hl).positive
    · have hcodes : (rows.map f).map (PackagingLevelInput.code lang)=
          rows.map PackagingLevel.levelCode := by
        rw [List.map_map]
        exact List.map_congr_left fun l hl => (hf l hl).code
      rw [hcodes]
      exact hkeys
    · rw [List.forall_mem_map]
      intro l hl p hp
      have hparent : l.parentLevelCode=some (masterCode lang p) := by
        rw [← (hf l hl).parent,hp]
        rfl
      obtain ⟨q,hq,hcode,hlt⟩ := h.fewer l hl _ hparent
      refine ⟨((hrows l hl).parent _ hparent).1,f q,List.mem_map_of_mem hq,?_,?_⟩
      · rw [(hf q hq).code,hcode]
      · rw [(hf q hq).units,(hf l hl).units]
        exact hlt

theorem PackagingLevel.Stored.describes (h : l.Stored lang) : Describes lang l l.input := by
  refine ⟨h.code,rfl,?_,by simp [PackagingLevel.input]⟩
  cases hp : l.parentLevelCode with
  | none => simp [PackagingLevel.input,given,hp]
  | some p =>
    obtain ⟨hne,hcode⟩ := h.parent p hp
    simp [PackagingLevel.input,given,hp,hne,hcode]

theorem insertedLevel_eq_ok : insertedLevel lang skuId dto=.ok level ↔
    ∃ levelCode uom parentLevelCode barcode,
      normalizeMasterCode lang dto.levelCode=.ok levelCode ∧
      normalizeMasterCode lang dto.uom=.ok uom ∧
      ifGiven (normalizeMasterCode lang) dto.parentLevelCode=.ok parentLevelCode ∧
      ifGiven normalizeBarcode dto.barcode=.ok barcode ∧
      level=proposedLevel skuId levelCode uom parentLevelCode barcode dto ∧
      level.inRange=true := by
  unfold insertedLevel
  simp only [bind_ok_iff]
  constructor
  · rintro ⟨a,ha,b,hb,p,hp,c,hc,h⟩
    split at h
    · rename_i hrange
      cases h
      exact ⟨a,b,p,c,ha,hb,hp,hc,rfl,hrange⟩
    · cases h
  · rintro ⟨a,b,p,c,ha,hb,hp,hc,rfl,hrange⟩
    refine ⟨a,ha,b,hb,p,hp,c,hc,?_⟩
    rw [if_pos hrange]
    rfl

theorem insertedLevel_spec (hunits : 0 < dto.unitsPerLevel)
    (h : insertedLevel lang skuId dto=.ok level) : level.Stored lang ∧ level.skuId=skuId ∧
      level.levelCode=masterCode lang dto.levelCode ∧ Describes lang level dto.input := by
  obtain ⟨a,b,p,c,ha,_,hp,_,rfl,_⟩ := insertedLevel_eq_ok.mp h
  obtain ⟨rfl,hne⟩ := normalizeMasterCode_eq_ok.mp ha
  have hparent : (given dto.parentLevelCode).map (masterCode lang)=p ∧
      ∀ q, p=some q → q≠[] ∧ masterCode lang q=q := by
    rcases ifGiven_eq_ok.mp hp with ⟨hg,rfl⟩|⟨v,w,hg,hw,rfl⟩
    · rw [hg]
      exact ⟨rfl,fun q hq => by cases hq⟩
    · obtain ⟨rfl,hwne⟩ := normalizeMasterCode_eq_ok.mp hw
      rw [hg]
      refine ⟨rfl,?_⟩
      intro q hq
      cases hq
      exact ⟨hwne,masterCode_idem v⟩
  refine ⟨⟨masterCode_idem _,hne,hparent.2,hunits⟩,rfl,rfl,⟨rfl,rfl,hparent.1,?_⟩⟩
  cases hd : dto.isDefault with
  | none => simp [UpsertSkuPackagingLevelDto.input,proposedLevel,hd]
  | some b => simp [UpsertSkuPackagingLevelDto.input,proposedLevel,hd]

/-- The levels beside the one that is upserted. -/
def besides (lang : UpperCasing) (rows : List PackagingLevel) (dto : UpsertSkuPackagingLevelDto) :
    List PackagingLevel :=
  rows.filter fun l => l.levelCode≠masterCode lang dto.levelCode

theorem otherLevels_eq (hrows : ∀ l∈rows, l.Stored lang) (hne : masterCode lang dto.levelCode≠[]) :
    otherLevels lang dto.levelCode rows=.ok (besides lang rows dto) := by
  induction rows with
  | nil => rfl
  | cons l rows ih =>
    have hl := hrows l (by simp)
    have hcode : normalizeMasterCode lang l.levelCode=.ok l.levelCode :=
      normalizeMasterCode_eq_ok.mpr ⟨hl.code,hl.codeGiven⟩
    have hupserted : normalizeMasterCode lang dto.levelCode=.ok (masterCode lang dto.levelCode) :=
      normalizeMasterCode_eq_ok.mpr ⟨rfl,hne⟩
    rw [otherLevels,hcode,hupserted,ih fun x hx => hrows x (by simp [hx])]
    by_cases hsame : l.levelCode=masterCode lang dto.levelCode
    · simp [besides,hsame,bind,Except.bind,pure,Except.pure]
    · simp [besides,hsame,bind,Except.bind,pure,Except.pure]

theorem validateUpsert_eq_ok (hrows : ∀ l∈rows, l.Stored lang) :
    validateUpsert lang rows dto=.ok () ↔
      Accepted lang ((besides lang rows dto).map PackagingLevel.input++[dto.input]) := by
  unfold validateUpsert
  rw [bind_ok_iff]
  simp only [validatePackagingHierarchy_eq_ok]
  have hgiven : ∀ others, Accepted lang (others++[dto.input]) → masterCode lang dto.levelCode≠[] :=
    fun others h => h.codes dto.input (by simp)
  constructor
  · rintro ⟨others,hothers,h⟩
    rw [otherLevels_eq hrows (hgiven _ h)] at hothers
    cases hothers
    exact h
  · intro h
    exact ⟨_,otherLevels_eq hrows (hgiven _ h),h⟩

theorem validateUpsert_valid (h : validateUpsert lang rows dto=.ok ()) :
    masterCode lang dto.levelCode≠[] ∧ 0 < dto.unitsPerLevel := by
  unfold validateUpsert at h
  obtain ⟨others,_,h⟩ := bind_ok_iff.mp h
  have haccepted := validatePackagingHierarchy_eq_ok.mp h
  exact ⟨haccepted.codes dto.input (by simp),haccepted.positive dto.input (by simp)⟩

end Rows

section Levels
variable {lang : UpperCasing} {db : LevelDb} {level l : PackagingLevel} {skuId other : Str}
  {dto : UpsertSkuPackagingLevelDto}

theorem mem_levelsOf : l∈levelsOf db skuId ↔ l∈db.rows ∧ l.skuId=skuId := by
  simp [levelsOf]

theorem levelsOf_nodup (db : LevelDb) (skuId : Str) :
    ((levelsOf db skuId).map PackagingLevel.levelCode).Nodup := by
  have hkeys : ((levelsOf db skuId).map PackagingLevel.key).Nodup :=
    db.nodup.sublist (List.filter_sublist.map _)
  refine List.Nodup.map_on ?_ hkeys.of_map
  intro a ha b hb hcode
  have hsku : a.skuId=b.skuId := (mem_levelsOf.mp ha).2.trans (mem_levelsOf.mp hb).2.symm
  exact Table.inj_of_nodup hkeys ha hb (Prod.ext hsku hcode)

theorem mem_levelsOf_put : l∈levelsOf (db.put level) skuId ↔
    l=level ∧ level.skuId=skuId ∨ l∈levelsOf db skuId ∧ l.key≠level.key := by
  rw [mem_levelsOf,mem_levelsOf,Table.mem_put]
  constructor
  · rintro ⟨rfl|⟨hmem,hne⟩,hsku⟩
    · exact .inl ⟨rfl,hsku⟩
    · exact .inr ⟨⟨hmem,hsku⟩,hne⟩
  · rintro (⟨rfl,hsku⟩|⟨⟨hmem,hsku⟩,hne⟩)
    · exact ⟨.inl rfl,hsku⟩
    · exact ⟨.inr ⟨hmem,hne⟩,hsku⟩

/-- A row whose default is cleared. -/
def PackagingLevel.cleared (l : PackagingLevel) : PackagingLevel := {l with isDefault := false}

theorem levelsOf_clearDefaults (db : LevelDb) (skuId other : Str) :
    levelsOf (clearDefaults db skuId) other=
      if other=skuId then (levelsOf db other).map PackagingLevel.cleared else levelsOf db other := by
  unfold levelsOf clearDefaults Table.modifyWhere
  dsimp only
  generalize db.rows=rows
  induction rows with
  | nil => simp
  | cons l rows ih =>
    rw [List.map_cons,List.filter_cons,List.filter_cons,ih]
    by_cases hl : l.skuId=skuId
    · by_cases ho : other=skuId
      · subst ho
        simp [hl,PackagingLevel.cleared]
      · have hne : ¬skuId=other := fun h => ho h.symm
        simp [hl,ho,hne]
    · by_cases ho : other=skuId
      · subst ho
        simp [hl]
      · simp [hl,ho]

theorem valid_put (hrows : ∀ l∈db.rows, l.Stored lang) (hunits : 0 < dto.unitsPerLevel)
    (hlevel : insertedLevel lang skuId dto=.ok level) :
    validateUpsert lang (levelsOf db skuId) dto=.ok () ↔
      ValidHierarchy (levelsOf (db.put level) skuId) := by
  obtain ⟨hstored,hsku,hcode,hdescribes⟩ := insertedLevel_spec hunits hlevel
  have hold : ∀ l∈levelsOf db skuId, l.Stored lang := fun l hl => hrows l (mem_levelsOf.mp hl).1
  set others := besides lang (levelsOf db skuId) dto with hothers
  have hmemOthers : ∀ l, l∈others ↔ l∈levelsOf db skuId ∧ l.levelCode≠level.levelCode := by
    intro l
    rw [hothers,besides,List.mem_filter,hcode]
    simp
  have hrowsAfter : ∀ l∈others++[level], l.Stored lang := by
    intro l hl
    rcases List.mem_append.mp hl with hl|hl
    · exact hold l ((hmemOthers l).mp hl).1
    · rw [List.mem_singleton.mp hl]
      exact hstored
  have hkeys : ((others++[level]).map PackagingLevel.levelCode).Nodup := by
    rw [List.map_append,List.nodup_append]
    refine ⟨(levelsOf_nodup db skuId).sublist (List.filter_sublist.map _),by simp,?_⟩
    intro a ha b hb
    obtain ⟨l,hl,rfl⟩ := List.mem_map.mp ha
    rw [List.map_singleton,List.mem_singleton] at hb
    exact hb ▸ ((hmemOthers l).mp hl).2
  -- each row beside its input, the new one beside what was asked for
  have hinputs : others.map PackagingLevel.input++[dto.input]=
      (others++[level]).map fun l => if l.levelCode=level.levelCode then dto.input else l.input := by
    rw [List.map_append,List.map_singleton,if_pos rfl]
    congr 1
    refine List.map_congr_left fun l hl => ?_
    rw [if_neg ((hmemOthers l).mp hl).2]
  have hdescribed : ∀ l∈others++[level], Describes lang l
      (if l.levelCode=level.levelCode then dto.input else l.input) := by
    intro l hl
    rcases List.mem_append.mp hl with hl|hl
    · rw [if_neg ((hmemOthers l).mp hl).2]
      exact (hold l ((hmemOthers l).mp hl).1).describes
    · rw [List.mem_singleton.mp hl,if_pos rfl]
      exact hdescribes
  have hsame : ∀ l, l∈others++[level] ↔ l∈levelsOf (db.put level) skuId := by
    intro l
    rw [mem_levelsOf_put,List.mem_append,List.mem_singleton,hmemOthers]
    constructor
    · rintro (⟨hl,hne⟩|rfl)
      · exact .inr ⟨hl,fun h => hne (congrArg Prod.snd h)⟩
      · exact .inl ⟨rfl,hsku⟩
    · rintro (⟨rfl,_⟩|⟨hl,hne⟩)
      · exact .inr rfl
      · refine .inl ⟨hl,?_⟩
        intro hcode
        exact hne (Prod.ext ((mem_levelsOf.mp hl).2.trans hsku.symm) hcode)
  rw [validateUpsert_eq_ok hold,hinputs,accepted_iff hrowsAfter hkeys hdescribed]
  exact ⟨ValidHierarchy.congr hsame,ValidHierarchy.congr fun l => (hsame l).symm⟩

theorem valid_put_other (hne : level.skuId≠other) :
    ValidHierarchy (levelsOf (db.put level) other) ↔ ValidHierarchy (levelsOf db other) := by
  have hsame : ∀ l, l∈levelsOf (db.put level) other ↔ l∈levelsOf db other := by
    intro l
    rw [mem_levelsOf_put]
    constructor
    · rintro (⟨_,hsku⟩|⟨hl,_⟩)
      · exact (hne hsku).elim
      · exact hl
    · intro hl
      refine .inr ⟨hl,?_⟩
      intro hkey
      have hsku : l.skuId=level.skuId := congrArg Prod.fst hkey
      exact hne (hsku.symm.trans (mem_levelsOf.mp hl).2)
  exact ⟨ValidHierarchy.congr hsame,ValidHierarchy.congr fun l => (hsame l).symm⟩

theorem valid_clearDefaults (hrows : ∀ l∈db.rows, l.Stored lang)
    (h : ValidHierarchy (levelsOf db other)) :
    ValidHierarchy (levelsOf (clearDefaults db skuId) other) := by
  have hkeys := levelsOf_nodup (clearDefaults db skuId) other
  rw [levelsOf_clearDefaults] at hkeys ⊢
  split
  · rename_i ho
    rw [if_pos ho] at hkeys
    refine ValidHierarchy.of_fewer hkeys ?_ ?_ ?_
    · rw [List.forall_mem_map]
      intro l hl
      exact (hrows l (mem_levelsOf.mp hl).1).positive
    · rw [List.forall_mem_map]
      intro l hl p hp
      obtain ⟨q,hq,hcode,hlt⟩ := h.fewer l hl p hp
      exact ⟨q.cleared,List.mem_map_of_mem hq,hcode,hlt⟩
    · rw [List.forall_mem_map]
      intro l _ b _ hd
      cases hd
  · exact h

theorem stored_clearDefaults (hrows : ∀ l∈db.rows, l.Stored lang) :
    ∀ l∈(clearDefaults db skuId).rows, l.Stored lang := by
  intro l hl
  obtain ⟨x,hx,rfl⟩ := List.mem_map.mp hl
  have hs := hrows x hx
  split
  · exact ⟨hs.code,hs.codeGiven,hs.parent,hs.positive⟩
  · exact hs

end Levels

section Steps
variable {lang : UpperCasing} {s : System} {i : ℕ} {u : Upsert} {c : Call} {skuId : Str} {a : Action}

/-- A phase in which the validation has passed. -/
def Phase.Validated (dto : UpsertSkuPackagingLevelDto) (lang : UpperCasing) : Phase → Prop
  | .clear _ | .insert _ => masterCode lang dto.levelCode≠[] ∧ 0 < dto.unitsPerLevel
  | .select | .ended _ => True

structure System.Inv (lang : UpperCasing) (s : System) : Prop where
  rows : ∀ l∈s.db.rows, l.Stored lang
  validated : ∀ u∈s.upserts, u.phase.Validated u.call.dto lang

theorem selectLevels_eq_ok {db : LevelDb} : selectLevels lang db c=.ok skuId ↔
    resolveSku lang c.skus c.skuReference=.ok skuId ∧
      validateUpsert lang (levelsOf db skuId) c.dto=.ok () := by
  unfold selectLevels
  rw [bind_ok_iff]
  simp only [bind_ok_iff]
  constructor
  · rintro ⟨sku,hsku,_,hvalid,h⟩
    cases h
    exact ⟨hsku,hvalid⟩
  · rintro ⟨hsku,hvalid⟩
    exact ⟨skuId,hsku,(),hvalid,rfl⟩

theorem stored_insertLevel (hrows : ∀ l∈s.db.rows, l.Stored lang)
    (hunits : 0 < c.dto.unitsPerLevel) :
    ∀ l∈(insertLevel lang s.db skuId c.dto).1.rows, l.Stored lang := by
  unfold insertLevel
  split
  · exact hrows
  · rename_i level hlevel
    intro l hl
    rcases Table.mem_put.mp hl with rfl|hl
    · exact (insertedLevel_spec hunits hlevel).1
    · exact hrows l hl.1

theorem statement_inv (hrows : ∀ l∈s.db.rows, l.Stored lang)
    (hu : u.phase.Validated u.call.dto lang) : (∀ l∈(statement lang s.db u).1.rows, l.Stored lang) ∧
      (statement lang s.db u).2.Validated u.call.dto lang := by
  unfold statement
  cases hphase : u.phase with
  | select =>
    dsimp only
    cases hselect : selectLevels lang s.db u.call with
    | error e => exact ⟨hrows,trivial⟩
    | ok skuId =>
      have hvalid := validateUpsert_valid (selectLevels_eq_ok.mp hselect).2
      refine ⟨hrows,?_⟩
      dsimp only [validated]
      split
      · exact hvalid
      · exact hvalid
  | clear skuId =>
    rw [hphase] at hu
    exact ⟨stored_clearDefaults hrows,hu⟩
  | insert skuId =>
    rw [hphase] at hu
    exact ⟨stored_insertLevel hrows hu.2,trivial⟩
  | ended result => exact ⟨hrows,trivial⟩

theorem act_none (h : s.upserts[i]?=none) : act lang s (.statement i)=s := by
  simp [act,h]

theorem act_some (h : s.upserts[i]?=some u) : act lang s (.statement i)=
    ⟨(statement lang s.db u).1,s.upserts.set i {u with phase := (statement lang s.db u).2}⟩ := by
  simp [act,h]

theorem System.Inv.act (hs : s.Inv lang) (a : Action) : (act lang s a).Inv lang := by
  cases a with
  | start call =>
    refine ⟨hs.rows,?_⟩
    intro u hu
    rcases List.mem_append.mp hu with hu|hu
    · exact hs.validated u hu
    · rw [List.mem_singleton.mp hu]
      trivial
  | statement i =>
    cases hget : s.upserts[i]? with
    | none =>
      rw [act_none hget]
      exact hs
    | some u =>
      obtain ⟨hrows,hphase⟩ := statement_inv hs.rows (hs.validated u (List.mem_of_getElem? hget))
      rw [act_some hget]
      refine ⟨hrows,?_⟩
      intro v hv
      rcases List.mem_or_eq_of_mem_set hv with hv|rfl
      · exact hs.validated v hv
      · exact hphase

theorem valid_statement (hrows : ∀ l∈s.db.rows, l.Stored lang) (hvalid : s.Valid)
    (hinsert : ∀ skuId, u.phase≠.insert skuId) (other : Str) :
    ValidHierarchy (levelsOf (statement lang s.db u).1 other) := by
  unfold statement
  cases hphase : u.phase with
  | select =>
    dsimp only
    split
    · exact hvalid other
    · exact hvalid other
  | clear skuId => exact valid_clearDefaults hrows (hvalid other)
  | insert skuId => exact (hinsert skuId hphase).elim
  | ended result => exact hvalid other

theorem valid_insertLevel (hrows : ∀ l∈s.db.rows, l.Stored lang) (hvalid : s.Valid)
    (hunits : 0 < c.dto.unitsPerLevel) :
    (∀ level, insertedLevel lang skuId c.dto=.ok level →
      validateUpsert lang (levelsOf s.db skuId) c.dto=.ok ()) ↔
        ∀ other, ValidHierarchy (levelsOf (insertLevel lang s.db skuId c.dto).1 other) := by
  unfold insertLevel
  cases hlevel : insertedLevel lang skuId c.dto with
  | error e =>
    constructor
    · intro _
      exact hvalid
    · intro _ level h
      cases h
  | ok level =>
    have hput := valid_put hrows hunits hlevel
    constructor
    · intro h other
      by_cases ho : level.skuId=other
      · have hsku := (insertedLevel_spec hunits hlevel).2.1
        rw [← ho,hsku]
        exact hput.mp (h level rfl)
      · exact (valid_put_other ho).mpr (hvalid other)
    · intro h _ _
      exact hput.mpr (h skuId)

theorem valid_act (hs : s.Inv lang) (hvalid : s.Valid) (a : Action) :
    StillPasses lang s a ↔ (act lang s a).Valid := by
  cases a with
  | start call => exact ⟨fun _ => hvalid,fun _ => trivial⟩
  | statement i =>
    cases hget : s.upserts[i]? with
    | none =>
      rw [act_none hget]
      refine ⟨fun _ => hvalid,?_⟩
      intro _ u skuId hu
      rw [hget] at hu
      cases hu
    | some u =>
      rw [act_some hget]
      have hpasses : StillPasses lang s (.statement i) ↔ ∀ skuId, u.phase=.insert skuId →
          ∀ level, insertedLevel lang skuId u.call.dto=.ok level →
            validateUpsert lang (levelsOf s.db skuId) u.call.dto=.ok () := by
        constructor
        · intro h skuId hphase
          exact h u skuId hget hphase
        · intro h v skuId hv hphase
          obtain rfl : u=v := Option.some.inj (hget.symm.trans hv)
          exact h skuId hphase
      rw [hpasses]
      by_cases hinsert : ∃ skuId, u.phase=.insert skuId
      · obtain ⟨skuId,hphase⟩ := hinsert
        have hu := hs.validated u (List.mem_of_getElem? hget)
        rw [hphase] at hu
        have hdb : (statement lang s.db u).1=(insertLevel lang s.db skuId u.call.dto).1 := by
          simp [statement,hphase]
        simp only [hphase,Phase.insert.injEq,forall_eq']
        unfold System.Valid
        rw [hdb]
        exact valid_insertLevel hs.rows hvalid hu.2
      · have hnot : ∀ skuId, u.phase≠.insert skuId := not_exists.mp hinsert
        constructor
        · intro _
          exact valid_statement hs.rows hvalid hnot
        · intro _ skuId hphase
          exact (hnot skuId hphase).elim

theorem inv_initial : (System.initial).Inv lang := by
  refine ⟨?_,?_⟩
  · intro l hl
    cases hl
  · intro u hu
    cases hu

theorem valid_initial : System.initial.Valid := by
  intro skuId
  have hempty : levelsOf System.initial.db skuId=[] := rfl
  rw [hempty]
  refine ValidHierarchy.of_fewer List.nodup_nil ?_ ?_ ?_
  · intro l hl
    cases hl
  · intro l hl
    cases hl
  · intro l hl
    cases hl

theorem history_inv (lang : UpperCasing) (as : List Action) : (history lang as).Inv lang := by
  induction as using List.reverseRecOn with
  | nil => exact inv_initial
  | append_singleton as a ih =>
    unfold history at ih ⊢
    rw [Histories.run_concat]
    exact ih.act a

theorem history_valid_iff (lang : UpperCasing) (as : List Action) :
    (∀ bs, bs<+:as → (history lang bs).Valid) ↔
      Histories.Throughout (act lang) (StillPasses lang) System.initial as := by
  have hstep : ∀ (s : System) (a : Action), s.Inv lang ∧ s.Valid →
      (StillPasses lang s a ↔ ((act lang s a).Inv lang ∧ (act lang s a).Valid) ∧ True) := by
    intro s a hs
    rw [valid_act hs.1 hs.2 a]
    exact ⟨fun h => ⟨⟨hs.1.act a,h⟩,trivial⟩,fun h => h.1.2⟩
  have hlawful : Histories.Lawful (act lang) (fun s => s.Inv lang ∧ s.Valid) (fun _ _ => True)
      System.initial as ↔ Histories.Throughout (act lang) (StillPasses lang) System.initial as :=
    Histories.lawful_iff ⟨inv_initial,valid_initial⟩ (fun _ _ => trivial) (fun _ _ => trivial) hstep
  rw [← hlawful]
  constructor
  · intro h
    exact ⟨fun bs hbs => ⟨history_inv lang bs,h bs hbs⟩,fun _ _ _ _ => trivial⟩
  · intro h bs hbs
    exact (h.inv bs hbs).2

end Steps

section Defaults
variable {lang : UpperCasing} {db : LevelDb} {c : Call} {skuId : Str} {level : PackagingLevel}
  {dto : UpsertSkuPackagingLevelDto}

theorem besides_clearDefaults (db : LevelDb) (skuId : Str) (dto : UpsertSkuPackagingLevelDto) :
    besides lang (levelsOf (clearDefaults db skuId) skuId) dto=
      (besides lang (levelsOf db skuId) dto).map PackagingLevel.cleared := by
  rw [levelsOf_clearDefaults,if_pos rfl]
  unfold besides
  rw [List.filter_map]
  rfl

/-- With no other default the validation passes on the rows as it would with the defaults
cleared, and with another one it refuses. -/
theorem validateUpsert_default (hrows : ∀ l∈db.rows, l.Stored lang) (hd : dto.isDefault=some true)
    (hother : OtherwiseValid lang db skuId dto) :
    validateUpsert lang (levelsOf db skuId) dto=.ok () ↔ NoOtherDefault lang db skuId dto := by
  have hold : ∀ l∈levelsOf db skuId, l.Stored lang := fun l hl => hrows l (mem_levelsOf.mp hl).1
  rw [validateUpsert_eq_ok hold]
  constructor
  · intro h l hl hdefault
    have hcount := h.oneDefault
    have hdto : [dto.input].countP (fun i => i.isDefault=some true)=1 := by
      simp [UpsertSkuPackagingLevelDto.input,hd]
    rw [List.countP_append,hdto] at hcount
    have hzero : ((besides lang (levelsOf db skuId) dto).map PackagingLevel.input).countP
        (fun i => i.isDefault=some true)=0 := by omega
    by_contra hne
    have hmem : l∈besides lang (levelsOf db skuId) dto := by simp [besides,hl,hne]
    have hnot := List.countP_eq_zero.mp hzero _ (List.mem_map_of_mem hmem)
    simp [PackagingLevel.input,hdefault] at hnot
  · intro h
    have hsame : (besides lang (levelsOf db skuId) dto).map PackagingLevel.cleared=
        besides lang (levelsOf db skuId) dto := by
      conv_rhs => rw [← List.map_id (besides lang (levelsOf db skuId) dto)]
      refine List.map_congr_left fun l hl => ?_
      simp only [besides,List.mem_filter,decide_eq_true_eq] at hl
      have hfalse : l.isDefault=false := by
        cases hdefault : l.isDefault with
        | false => rfl
        | true => exact (hl.2 (h l hl.1 hdefault)).elim
      simp [PackagingLevel.cleared,← hfalse]
    have hcleared : ∀ l∈levelsOf (clearDefaults db skuId) skuId, l.Stored lang :=
      fun l hl => stored_clearDefaults hrows l (mem_levelsOf.mp hl).1
    have haccepted := (validateUpsert_eq_ok hcleared).mp hother
    rw [besides_clearDefaults,hsame] at haccepted
    exact haccepted

theorem storable_of_inserted (h : insertedLevel lang skuId dto=.ok level) : Storable lang dto := by
  obtain ⟨a,b,p,d,_,hb,_,hc,rfl,hrange⟩ := insertedLevel_eq_ok.mp h
  refine ⟨?_,?_,hrange⟩
  · obtain ⟨rfl,hne⟩ := normalizeMasterCode_eq_ok.mp hb
    exact hne
  · intro v hv
    rcases ifGiven_eq_ok.mp hc with ⟨hnone,_⟩|⟨v',w,hg,hw,_⟩
    · rw [hnone] at hv
      cases hv
    · obtain rfl : v'=v := Option.some.inj (hg.symm.trans hv)
      obtain ⟨rfl,hne⟩ := normalizeBarcode_eq_ok.mp hw
      exact hne

theorem inserted_of_storable (hrows : ∀ l∈db.rows, l.Stored lang)
    (hvalid : validateUpsert lang (levelsOf db skuId) dto=.ok ()) (h : Storable lang dto) :
    ∃ level, insertedLevel lang skuId dto=.ok level := by
  have hold : ∀ l∈levelsOf db skuId, l.Stored lang := fun l hl => hrows l (mem_levelsOf.mp hl).1
  have haccepted := (validateUpsert_eq_ok hold).mp hvalid
  have hmem : dto.input∈(besides lang (levelsOf db skuId) dto).map PackagingLevel.input++
      [dto.input] := by simp
  have hparent : ∃ p, ifGiven (normalizeMasterCode lang) dto.parentLevelCode=.ok p := by
    cases hg : given dto.parentLevelCode with
    | none => exact ⟨none,ifGiven_eq_ok.mpr (.inl ⟨hg,rfl⟩)⟩
    | some v =>
      have hne := (haccepted.parents _ hmem v hg).1
      have hok := normalizeMasterCode_eq_ok.mpr ⟨rfl,hne⟩
      exact ⟨_,ifGiven_eq_ok.mpr (.inr ⟨v,_,hg,hok,rfl⟩)⟩
  have hbarcode : ∃ b, ifGiven normalizeBarcode dto.barcode=.ok b := by
    cases hg : given dto.barcode with
    | none => exact ⟨none,ifGiven_eq_ok.mpr (.inl ⟨hg,rfl⟩)⟩
    | some v =>
      have hok := normalizeBarcode_eq_ok.mpr ⟨rfl,h.barcode v hg⟩
      exact ⟨_,ifGiven_eq_ok.mpr (.inr ⟨v,_,hg,hok,rfl⟩)⟩
  obtain ⟨p,hp⟩ := hparent
  obtain ⟨b,hb⟩ := hbarcode
  have hcode := normalizeMasterCode_eq_ok.mpr ⟨rfl,haccepted.codes _ hmem⟩
  have huom := normalizeMasterCode_eq_ok.mpr ⟨rfl,h.uom⟩
  exact ⟨_,insertedLevel_eq_ok.mpr ⟨_,_,p,b,hcode,huom,hp,hb,rfl,h.inRange⟩⟩

theorem upsertPackagingLevel_eq_ok (hd : c.dto.isDefault=some true)
    (hsku : resolveSku lang c.skus c.skuReference=.ok skuId) :
    (upsertPackagingLevel lang db c).2=.ok level ↔
      validateUpsert lang (levelsOf db skuId) c.dto=.ok () ∧
        insertedLevel lang skuId c.dto=.ok level := by
  unfold upsertPackagingLevel
  cases hselect : selectLevels lang db c with
  | error e =>
    constructor
    · intro h
      cases h
    · rintro ⟨hvalid,_⟩
      have hok := selectLevels_eq_ok.mpr ⟨hsku,hvalid⟩
      rw [hselect] at hok
      cases hok
  | ok found =>
    obtain ⟨hfound,hvalid⟩ := selectLevels_eq_ok.mp hselect
    obtain rfl : skuId=found := Except.ok.inj (hsku.symm.trans hfound)
    dsimp only
    rw [if_pos hd]
    unfold insertLevel
    cases hlevel : insertedLevel lang skuId c.dto with
    | error e => simp
    | ok x => simp [hvalid]

theorem upsertPackagingLevel_db (hd : c.dto.isDefault=some true)
    (hsku : resolveSku lang c.skus c.skuReference=.ok skuId)
    (hvalid : validateUpsert lang (levelsOf db skuId) c.dto=.ok ())
    (hlevel : insertedLevel lang skuId c.dto=.ok level) :
    (upsertPackagingLevel lang db c).1=(clearDefaults db skuId).put level := by
  unfold upsertPackagingLevel
  rw [selectLevels_eq_ok.mpr ⟨hsku,hvalid⟩]
  dsimp only
  rw [if_pos hd]
  unfold insertLevel
  rw [hlevel]

theorem becomesDefault_iff (hrows : ∀ l∈db.rows, l.Stored lang) (hd : c.dto.isDefault=some true)
    (hsku : resolveSku lang c.skus c.skuReference=.ok skuId)
    (hother : OtherwiseValid lang db skuId c.dto) :
    BecomesDefault lang db skuId c ↔ NoOtherDefault lang db skuId c.dto ∧ Storable lang c.dto := by
  constructor
  · rintro ⟨level,hok,_,_⟩
    obtain ⟨hvalid,hlevel⟩ := (upsertPackagingLevel_eq_ok hd hsku).mp hok
    exact ⟨(validateUpsert_default hrows hd hother).mp hvalid,storable_of_inserted hlevel⟩
  · rintro ⟨hnone,hstorable⟩
    have hvalid := (validateUpsert_default hrows hd hother).mpr hnone
    obtain ⟨level,hlevel⟩ := inserted_of_storable hrows hvalid hstorable
    obtain ⟨_,hlevelSku,hcode,_⟩ := insertedLevel_spec (validateUpsert_valid hvalid).2 hlevel
    have hdefault : level.isDefault=true := by
      obtain ⟨_,_,_,_,_,_,_,_,rfl,_⟩ := insertedLevel_eq_ok.mp hlevel
      simp [proposedLevel,hd]
    refine ⟨level,(upsertPackagingLevel_eq_ok hd hsku).mpr ⟨hvalid,hlevel⟩,hcode,?_⟩
    intro l
    rw [upsertPackagingLevel_db hd hsku hvalid hlevel,mem_levelsOf_put,levelsOf_clearDefaults,
      if_pos rfl]
    constructor
    · rintro ⟨⟨rfl,_⟩|⟨hl,_⟩,hlDefault⟩
      · rfl
      · obtain ⟨x,_,rfl⟩ := List.mem_map.mp hl
        cases hlDefault
    · rintro rfl
      exact ⟨.inl ⟨rfl,hlevelSku⟩,hdefault⟩

theorem run_alone (s : System) (c : Call) : Histories.run (act lang) s
    [.start c,.statement s.upserts.length,.statement s.upserts.length,.statement s.upserts.length]=
      ⟨(upsertPackagingLevel lang s.db c).1,
        s.upserts++[⟨c,.ended (upsertPackagingLevel lang s.db c).2⟩]⟩ := by
  have hlast : ∀ (d : LevelDb) (p : Phase), act lang ⟨d,s.upserts++[⟨c,p⟩]⟩
      (.statement s.upserts.length)=⟨(statement lang d ⟨c,p⟩).1,
        s.upserts++[⟨c,(statement lang d ⟨c,p⟩).2⟩]⟩ := by
    intro d p
    have hget : (s.upserts++[⟨c,p⟩])[s.upserts.length]?=some ⟨c,p⟩ := by simp
    rw [act_some hget]
    simp
  have hstart : act lang s (.start c)=⟨s.db,s.upserts++[⟨c,.select⟩]⟩ := rfl
  simp only [Histories.run,List.foldl_cons,List.foldl_nil,hstart,hlast]
  unfold upsertPackagingLevel
  cases hselect : selectLevels lang s.db c with
  | error e => simp [statement,hselect]
  | ok skuId =>
    by_cases hd : c.dto.isDefault=some true
    · simp [statement,hselect,validated,hd]
    · simp [statement,hselect,validated,hd]

end Defaults

/-- The hierarchies stay valid in just the histories in which every insert would still pass on the
rows as it finds them; and in any state of a history, an upsert that would otherwise keep the
hierarchy valid takes the default over just where no other level of the SKU has it. -/
theorem packaging_hierarchy (lang : UpperCasing) (as : List Action) :
    ((∀ bs, bs<+:as → (history lang bs).Valid) ↔
      Histories.Throughout (act lang) (StillPasses lang) System.initial as) ∧
    ∀ bs, bs<+:as → ∀ (c : Call) (skuId : Str),
      c.dto.isDefault=some true → resolveSku lang c.skus c.skuReference=.ok skuId →
        OtherwiseValid lang (history lang bs).db skuId c.dto →
          (BecomesDefault lang (history lang bs).db skuId c ↔
            NoOtherDefault lang (history lang bs).db skuId c.dto ∧ Storable lang c.dto) := by
  refine ⟨history_valid_iff lang as,?_⟩
  intro bs _ c skuId hd hsku hother
  exact becomesDefault_iff (history_inv lang bs).rows hd hsku hother

/-- A call on the one SKU there is. -/
def defaultCall (levelCode uom : String) (unitsPerLevel : ℤ) (parentLevelCode : Option String) :
    Call where
  skus := [⟨"1".toList,"TEA".toList,none⟩]
  skuReference := "tea".toList
  dto := {
    levelCode := levelCode.toList
    uom := uom.toList
    unitsPerLevel := unitsPerLevel
    parentLevelCode := parentLevelCode.map String.toList
    isDefault := some true}

def eachCall : Call := defaultCall "each" "ea" 1 none

def innerCall : Call := defaultCall "inner" "in" 6 none

def caseCall : Call := defaultCall "case" "cs" 12 (some "each")

def defaultLevel (levelCode uom : String) (unitsPerLevel : ℤ) : PackagingLevel :=
  ⟨"1".toList,levelCode.toList,uom.toList,unitsPerLevel,none,none,none,none,none,none,none,true⟩

/-- Two upserts that both find no default leave two; and once a level is the default, no other can
be made it. -/
theorem default_stays :
    ¬(history .ascii [.start eachCall,.start innerCall,.statement 0,.statement 1,.statement 0,
      .statement 1,.statement 0,.statement 1]).Valid ∧
    (history .ascii [.start eachCall,.statement 0,.statement 0,.statement 0]).Valid ∧
    resolveSku .ascii caseCall.skus caseCall.skuReference=.ok "1".toList ∧
    OtherwiseValid .ascii (history .ascii [.start eachCall,.statement 0,.statement 0,
      .statement 0]).db "1".toList caseCall.dto ∧
    (upsertPackagingLevel .ascii (history .ascii [.start eachCall,.statement 0,.statement 0,
      .statement 0]).db caseCall).2=
        .error (.conflict "Only one default packaging level is allowed per SKU.") ∧
    ¬BecomesDefault .ascii (history .ascii [.start eachCall,.statement 0,.statement 0,
      .statement 0]).db "1".toList caseCall := by
  have hrefused : (upsertPackagingLevel .ascii (history .ascii [.start eachCall,.statement 0,
      .statement 0,.statement 0]).db caseCall).2=
        .error (.conflict "Only one default packaging level is allowed per SKU.") := by decide
  have hother : OtherwiseValid .ascii (history .ascii [.start eachCall,.statement 0,.statement 0,
      .statement 0]).db "1".toList caseCall.dto := by
    unfold OtherwiseValid
    decide
  refine ⟨?_,?_,by decide,hother,hrefused,?_⟩
  · intro h
    have hsame := (h "1".toList).oneDefault (defaultLevel "EACH" "EA" 1) (by decide)
      (defaultLevel "INNER" "IN" 6) (by decide) rfl rfl
    revert hsame
    decide
  · have hrows : (history .ascii [.start eachCall,.statement 0,.statement 0,.statement 0]).db.rows=
        [defaultLevel "EACH" "EA" 1] := by decide
    have hmem : ∀ skuId, ∀ l∈levelsOf (history .ascii [.start eachCall,.statement 0,.statement 0,
        .statement 0]).db skuId, l=defaultLevel "EACH" "EA" 1 := by
      intro skuId l hl
      have hin := (mem_levelsOf.mp hl).1
      rw [hrows,List.mem_singleton] at hin
      exact hin
    intro skuId
    refine ValidHierarchy.of_fewer (levelsOf_nodup _ _) ?_ ?_ ?_
    · intro l hl
      rw [hmem skuId l hl]
      decide
    · intro l hl p hp
      rw [hmem skuId l hl] at hp
      cases hp
    · intro a ha b hb _ _
      rw [hmem skuId a ha,hmem skuId b hb]
  · rintro ⟨level,hok,_⟩
    rw [hrefused] at hok
    cases hok

end AardvarkWms.ProductMaster
