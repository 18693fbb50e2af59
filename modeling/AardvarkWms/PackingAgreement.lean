import AardvarkWms.PackingPlan
import Mathlib.Algebra.Order.BigOperators.Group.List

/-! When does the validator of package contents say what the packing plan does? -/
namespace AardvarkWms.PackingPlan

open Messaging (Str trim)
open Transactions.Txn (bind_eq_ok)

/-- The line's number is the reference up to letter case and outer white space. -/
def SameNumber (lang : Language) (reference : Str) (line : OutboundOrderLineRecord) : Prop :=
  trim line.lineNumber≠[] ∧
    normalizeCode lang line.lineNumber=normalizeCode lang reference

/-- The reference is the id of a line and of no earlier line the number; or it is neither id nor,
in any letter case, number of a line; or it is the very number of a line, and of no later line the
number in any letter case. -/
inductive Plain (lang : Language) (lines : List OutboundOrderLineRecord) (reference : Str) : Prop
  | byId (before : List OutboundOrderLineRecord) (line : OutboundOrderLineRecord)
      (later : List OutboundOrderLineRecord) : lines=before++line::later → line.id=reference →
      (∀ l∈before, l.lineNumber≠reference) → Plain lang lines reference
  | unknown : (∀ l∈lines, l.id≠reference ∧ ¬SameNumber lang reference l) →
      Plain lang lines reference
  | byNumber (before : List OutboundOrderLineRecord) (line : OutboundOrderLineRecord)
      (later : List OutboundOrderLineRecord) : lines=before++line::later →
      line.lineNumber=reference → (∀ l∈lines, l.id≠reference) →
      (∀ l∈before, l.lineNumber≠reference) → (∀ l∈later, ¬SameNumber lang reference l) →
      Plain lang lines reference

/-- The references of the contents are plain. -/
def PlainReferences (lang : Language) (lines : List OutboundOrderLineRecord)
    (contents : List PackageContentInputDto) : Prop :=
  ∀ content∈contents, ∀ reference,
    normalizeNullableString content.outboundOrderLineReference=some reference →
      Plain lang lines reference

/-- A line as the validator takes it. -/
def OutboundOrderLineRecord.input (l : OutboundOrderLineRecord) : PackingOrderLineInput :=
  ⟨l.id,some l.lineNumber,l.sku,l.orderedQuantity,l.pickedQuantity⟩

/-- Both resolve the content to the same line. -/
def SameLine (lang : Language) (lines : List OutboundOrderLineRecord)
    (content : PackageContentInputDto) : Prop :=
  ∀ l, resolvePackageContentLine lang lines content=.ok l ↔
    resolvePackingLine lang (lines.map (·.input)) content=.line l.input

/-- The validator accepts what can be planned, and the plan stays inside what is picked. -/
structure Agrees (lang : Language) (lines : List OutboundOrderLineRecord)
    (existing : List PackageContentRecord) (contents : List PackageContentInputDto) : Prop where
  succeeds : (∃ plan, buildPackageContentPlan lang lines existing contents=.ok plan) ↔
    (validatePackageContentsAgainstPickedQuantities lang (lines.map (·.input)) existing
      contents).ok=true
  resolves : ∀ content∈contents, SameLine lang lines content
  plans : ∀ plan, buildPackageContentPlan lang lines existing contents=.ok plan →
    plan.map (fun c => (c.outboundOrderLineId,c.sku,c.quantity))=
      (validatePackageContentsAgainstPickedQuantities lang (lines.map (·.input)) existing
        contents).resolvedContents.map fun c => (c.outboundOrderLineId,c.sku,c.quantity)
  within : ∀ plan, buildPackageContentPlan lang lines existing contents=.ok plan → ∀ l∈lines,
    (∃ c∈plan, c.outboundOrderLineId=l.id) →
      newlyPacked plan l.id≤l.pickedQuantity-sumPackageContentsByLine existing l.id

section References
variable {lang : Language} {lines : List OutboundOrderLineRecord}
  {content : PackageContentInputDto} {reference : Str}

theorem input_inj {l l' : OutboundOrderLineRecord} (h : l.input=l'.input) : l=l' := by
  cases l
  cases l'
  simpa [OutboundOrderLineRecord.input] using h

/-- The line that the validator files under the reference. -/
def filed (lang : Language) (lines : List OutboundOrderLineRecord) (reference : Str) :
    Option OutboundOrderLineRecord :=
  lines.reverse.find? (·.id=reference) <|> lines.reverse.find? fun l =>
    trim l.lineNumber≠[] && normalizeCode lang l.lineNumber=normalizeCode lang reference

theorem lastWith_input (has : PackingOrderLineInput → Bool) :
    lastWith has (lines.map (·.input))=
      (lines.reverse.find? fun l => has l.input).map (·.input) := by
  unfold lastWith
  rw [← List.map_reverse,List.find?_map]
  rfl

theorem resolvePackingLine_reference
    (h : normalizeNullableString content.outboundOrderLineReference=some reference) :
    resolvePackingLine lang (lines.map (·.input)) content=
      ((filed lang lines reference).map fun l => PackingLine.line l.input).getD .unknown := by
  have href : (content.outboundOrderLineReference.map trim).filter (·≠[])=some reference := h
  have hid : lastWith (·.id=reference) (lines.map (·.input))=
      (lines.reverse.find? (·.id=reference)).map (·.input) := lastWith_input _
  have hnumber : lastWith (hasNumber lang (normalizeCodeLike lang reference)) (lines.map (·.input))=
      (lines.reverse.find? fun l => trim l.lineNumber≠[] &&
        normalizeCode lang l.lineNumber=normalizeCode lang reference).map (·.input) :=
    lastWith_input _
  unfold resolvePackingLine filed
  rw [href]
  dsimp only
  rw [hid,hnumber]
  cases lines.reverse.find? fun l => decide (l.id=reference) with
  | some l => rfl
  | none =>
    cases lines.reverse.find? fun l => decide (trim l.lineNumber≠[]) &&
        decide (normalizeCode lang l.lineNumber=normalizeCode lang reference) with
    | some l => rfl
    | none => rfl

theorem resolvePackageContentLine_reference {l : OutboundOrderLineRecord}
    (h : normalizeNullableString content.outboundOrderLineReference=some reference) :
    resolvePackageContentLine lang lines content=.ok l ↔
      lines.find? (fun l => l.id=reference || l.lineNumber=reference)=some l := by
  unfold resolvePackageContentLine
  rw [h]
  dsimp only
  split
  · rename_i line hfind
    rw [hfind]
    simp
  · rename_i hfind
    rw [hfind]
    simp

theorem sameLine_reference
    (h : normalizeNullableString content.outboundOrderLineReference=some reference) :
    SameLine lang lines content ↔
      lines.find? (fun l => l.id=reference || l.lineNumber=reference)=filed lang lines reference := by
  unfold SameLine
  rw [resolvePackingLine_reference h]
  constructor
  · intro hsame
    refine Option.ext fun l => ?_
    rw [← resolvePackageContentLine_reference h,hsame l]
    cases filed lang lines reference with
    | none => simp
    | some l' =>
      simp only [Option.map_some,Option.getD_some,PackingLine.line.injEq,Option.some.injEq]
      exact ⟨input_inj,fun he => congrArg _ he⟩
  · intro hsame l
    rw [resolvePackageContentLine_reference h,hsame]
    cases filed lang lines reference with
    | none => simp
    | some l' =>
      simp only [Option.map_some,Option.getD_some,PackingLine.line.injEq,Option.some.injEq]
      exact ⟨fun he => congrArg _ he,input_inj⟩

theorem sameLine_sku (h : normalizeNullableString content.outboundOrderLineReference=none) :
    SameLine lang lines content := by
  have href : (content.outboundOrderLineReference.map trim).filter (·≠[])=none := h
  have hfilter : (lines.map (·.input)).filter (fun line : PackingOrderLineInput =>
      normalizeCodeLike lang line.sku=normalizeCodeLike lang content.sku)=
      (lines.filter fun line : OutboundOrderLineRecord =>
        normalizeCode lang line.sku=normalizeCode lang content.sku).map (·.input) := by
    rw [List.filter_map]
    rfl
  intro l
  unfold resolvePackageContentLine resolvePackingLine
  rw [h,href]
  dsimp only
  rw [hfilter]
  cases lines.filter fun line : OutboundOrderLineRecord =>
      decide (normalizeCode lang line.sku=normalizeCode lang content.sku) with
  | nil => simp
  | cons a as =>
    cases as with
    | nil =>
      simp only [List.map_cons,List.map_nil,Except.ok.injEq,PackingLine.line.injEq]
      exact ⟨fun he => congrArg _ he,input_inj⟩
    | cons b bs => simp

theorem sameNumber_self (h : normalizeNullableString content.outboundOrderLineReference=
    some reference) {l : OutboundOrderLineRecord} (hl : l.lineNumber=reference) :
    SameNumber lang reference l := by
  unfold normalizeNullableString at h
  obtain ⟨hsome,hne⟩ := Option.filter_eq_some_iff.mp h
  obtain ⟨raw,_,rfl⟩ := Option.map_eq_some_iff.mp hsome
  refine ⟨?_,by rw [hl]⟩
  rw [hl,trim_trim]
  simpa using hne

theorem find?_reverse_eq_some {α : Type} {has : α → Bool} {as : List α} {a : α} :
    as.reverse.find? has=some a ↔ has a=true ∧ ∃ before later, as=before++a::later ∧
      ∀ b∈later, has b=false := by
  rw [List.find?_eq_some_iff_append]
  simp only [Bool.not_eq_eq_eq_not,Bool.not_true]
  constructor
  · rintro ⟨ha,xs,ys,hsplit,hxs⟩
    refine ⟨ha,ys.reverse,xs.reverse,?_,fun b hb => hxs b (List.mem_reverse.mp hb)⟩
    have hreverse := congrArg List.reverse hsplit
    simpa using hreverse
  · rintro ⟨ha,before,later,rfl,hlater⟩
    refine ⟨ha,later.reverse,before.reverse,by simp,fun b hb => hlater b (List.mem_reverse.mp hb)⟩

theorem split_unique (hn : (lines.map (·.id)).Nodup)
    {before before' later later' : List OutboundOrderLineRecord} {l l' : OutboundOrderLineRecord}
    (h : lines=before++l::later) (h' : lines=before'++l'::later') (hid : l.id=l'.id) :
    before=before' ∧ l=l' ∧ later=later' := by
  have hnodup := hn
  rw [h',List.map_append,List.map_cons,List.nodup_append] at hnodup
  obtain ⟨hbefore,hcons,hapart⟩ := hnodup
  have hl' : l'∉before' := fun hmem =>
    hapart _ (List.mem_map.mpr ⟨l',hmem,rfl⟩) _ List.mem_cons_self rfl
  have hl'' : l'∉later' := fun hmem =>
    (List.nodup_cons.mp hcons).1 (List.mem_map.mpr ⟨l',hmem,rfl⟩)
  have hmem : l∈before'++l'::later' := by
    rw [← h',h]
    simp
  have hsame : l=l' := by
    have hinj := List.inj_on_of_nodup_map hn
    refine hinj ?_ ?_ hid
    · rw [h]
      simp
    · rw [h']
      simp
  subst hsame
  obtain ⟨hbefore,_,hlater⟩ :=
    (List.append_cons_inj_of_notMem hl' hl'').mp (h'.symm.trans h)
  exact ⟨hbefore.symm,rfl,hlater.symm⟩

theorem filed_eq_of_id {l : OutboundOrderLineRecord}
    (h : lines.reverse.find? (·.id=reference)=some l) : filed lang lines reference=some l := by
  unfold filed
  rw [h]
  rfl

theorem filed_eq_of_number (h : ∀ l∈lines, l.id≠reference) :
    filed lang lines reference=lines.reverse.find? fun l =>
      trim l.lineNumber≠[] && normalizeCode lang l.lineNumber=normalizeCode lang reference := by
  have hnone : lines.reverse.find? (·.id=reference)=none := by
    refine List.find?_eq_none.mpr fun l hl => ?_
    simpa using h l (List.mem_reverse.mp hl)
  unfold filed
  rw [hnone]
  rfl

theorem sameNumber_iff {l : OutboundOrderLineRecord} :
    (decide (trim l.lineNumber≠[]) &&
      decide (normalizeCode lang l.lineNumber=normalizeCode lang reference))=true ↔
        SameNumber lang reference l := by
  simp [SameNumber]

theorem plain_of_sameLine (hn : (lines.map (·.id)).Nodup)
    (hsame : lines.find? (fun l => l.id=reference || l.lineNumber=reference)=
      filed lang lines reference) : Plain lang lines reference := by
  by_cases hid : ∀ l∈lines, l.id≠reference
  · rw [filed_eq_of_number hid] at hsame
    cases hfind : lines.find? (fun l => l.id=reference || l.lineNumber=reference) with
    | none =>
      rw [hfind] at hsame
      refine .unknown fun l hl => ⟨hid l hl,fun hnumber => ?_⟩
      have hnone := List.find?_eq_none.mp hsame.symm l (List.mem_reverse.mpr hl)
      exact hnone (sameNumber_iff.mpr hnumber)
    | some l =>
      rw [hfind] at hsame
      obtain ⟨hl,before,later,hsplit,hbefore⟩ := List.find?_eq_some_iff_append.mp hfind
      obtain ⟨_,before',later',hsplit',hlater⟩ := find?_reverse_eq_some.mp hsame.symm
      obtain ⟨rfl,_,rfl⟩ := split_unique hn hsplit hsplit' rfl
      have hmem : l∈lines := by
        rw [hsplit]
        simp
      refine .byNumber before l later hsplit ?_ hid ?_ ?_
      · simpa [hid l hmem] using hl
      · intro b hb
        have hnot := hbefore b hb
        simp only [Bool.not_eq_true',Bool.or_eq_false_iff,decide_eq_false_iff_not] at hnot
        exact hnot.2
      · intro b hb hnumber
        have hnot := hlater b hb
        rw [sameNumber_iff.mpr hnumber] at hnot
        cases hnot
  · have hfound : (lines.reverse.find? (·.id=reference)).isSome=true := by
      rw [List.find?_isSome]
      push Not at hid
      obtain ⟨l,hl,hlid⟩ := hid
      exact ⟨l,List.mem_reverse.mpr hl,by simpa using hlid⟩
    obtain ⟨l,hl⟩ := Option.isSome_iff_exists.mp hfound
    rw [filed_eq_of_id hl] at hsame
    obtain ⟨_,before,later,hsplit,hbefore⟩ := List.find?_eq_some_iff_append.mp hsame
    have hlid : l.id=reference := by simpa using (find?_reverse_eq_some.mp hl).1
    refine .byId before l later hsplit hlid fun b hb => ?_
    have hnot := hbefore b hb
    simp only [Bool.not_eq_true',Bool.or_eq_false_iff,decide_eq_false_iff_not] at hnot
    exact hnot.2

theorem sameLine_of_plain (hn : (lines.map (·.id)).Nodup)
    (hself : ∀ l : OutboundOrderLineRecord, l.lineNumber=reference → SameNumber lang reference l)
    (h : Plain lang lines reference) :
    lines.find? (fun l => l.id=reference || l.lineNumber=reference)=
      filed lang lines reference := by
  cases h with
  | byId before line later hsplit hid hbefore =>
    have hapart : ∀ l∈before++later, l.id≠reference := by
      intro l hl he
      obtain ⟨xs,ys,hxs⟩ : ∃ xs ys, lines=xs++l::ys := by
        refine List.append_of_mem ?_
        rw [hsplit]
        rcases List.mem_append.mp hl with hl|hl
        · exact List.mem_append_left _ hl
        · exact List.mem_append_right _ (List.mem_cons_of_mem _ hl)
      obtain ⟨rfl,rfl,rfl⟩ := split_unique hn hsplit hxs (hid.trans he.symm)
      rw [hsplit,List.map_append,List.map_cons,List.nodup_append,List.nodup_cons] at hn
      rcases List.mem_append.mp hl with hl|hl
      · exact hn.2.2 _ (List.mem_map.mpr ⟨line,hl,rfl⟩) _ List.mem_cons_self rfl
      · exact hn.2.1.1 (List.mem_map.mpr ⟨line,hl,rfl⟩)
    have hfiled : lines.reverse.find? (·.id=reference)=some line := by
      refine find?_reverse_eq_some.mpr ⟨by simpa using hid,before,later,hsplit,fun l hl => ?_⟩
      simpa using hapart l (List.mem_append_right _ hl)
    rw [filed_eq_of_id hfiled]
    refine List.find?_eq_some_iff_append.mpr ⟨by simp [hid],before,later,hsplit,fun l hl => ?_⟩
    simp [hapart l (List.mem_append_left _ hl),hbefore l hl]
  | unknown hnone =>
    rw [filed_eq_of_number fun l hl => (hnone l hl).1]
    have hfirst : lines.find? (fun l => l.id=reference || l.lineNumber=reference)=none := by
      refine List.find?_eq_none.mpr fun l hl => ?_
      have hnumber : l.lineNumber≠reference := fun he => (hnone l hl).2 (hself l he)
      simp [(hnone l hl).1,hnumber]
    rw [hfirst]
    refine (List.find?_eq_none.mpr fun l hl => ?_).symm
    exact fun hnumber => (hnone l (List.mem_reverse.mp hl)).2 (sameNumber_iff.mp hnumber)
  | byNumber before line later hsplit hnumber hids hbefore hlater =>
    rw [filed_eq_of_number hids]
    have hlast : lines.reverse.find? (fun l => trim l.lineNumber≠[] &&
        normalizeCode lang l.lineNumber=normalizeCode lang reference)=some line := by
      refine find?_reverse_eq_some.mpr ⟨sameNumber_iff.mpr (hself line hnumber),before,later,
        hsplit,fun l hl => ?_⟩
      exact Bool.eq_false_iff.mpr fun hsame => hlater l hl (sameNumber_iff.mp hsame)
    rw [hlast]
    refine List.find?_eq_some_iff_append.mpr ⟨by simp [hnumber],before,later,hsplit,fun l hl => ?_⟩
    have hmem : l∈lines := by
      rw [hsplit]
      exact List.mem_append_left _ hl
    simp [hids l hmem,hbefore l hl]

theorem sameLine_iff_plain (hn : (lines.map (·.id)).Nodup)
    (h : normalizeNullableString content.outboundOrderLineReference=some reference) :
    SameLine lang lines content ↔ Plain lang lines reference := by
  rw [sameLine_reference h]
  exact ⟨plain_of_sameLine hn,sameLine_of_plain hn fun _ hl => sameNumber_self h hl⟩

end References

section Plan
variable {lang : Language} {lines : List OutboundOrderLineRecord} {already : Str → ℤ}
  {planned planned' : List PlannedPackageContent}

/-- The content is for this line, and of its SKU. -/
structure Takes (lang : Language) (lines : List OutboundOrderLineRecord)
    (content : PackageContentInputDto) (l : OutboundOrderLineRecord) : Prop where
  line : resolvePackageContentLine lang lines content=.ok l
  sku : normalizeCode lang l.sku=normalizeCode lang content.sku

/-- A line for each content. -/
structure Assigned (lang : Language) (lines : List OutboundOrderLineRecord)
    (contents : List PackageContentInputDto)
    (ps : List (PackageContentInputDto × OutboundOrderLineRecord)) : Prop where
  contents : ps.map (·.1)=contents
  takes : ∀ p∈ps, Takes lang lines p.1 p.2

/-- The content as it is planned for its line. -/
def plannedFor (lang : Language) (p : PackageContentInputDto × OutboundOrderLineRecord) :
    PlannedPackageContent :=
  ⟨p.2.id,normalizeCode lang p.1.sku,p.1.quantity,p.1.metadata⟩

theorem newlyPacked_append (xs ys : List PlannedPackageContent) (id : Str) :
    newlyPacked (xs++ys) id=newlyPacked xs id+newlyPacked ys id := by
  simp [newlyPacked]

theorem newlyPacked_nonneg {xs : List PlannedPackageContent} (h : ∀ x∈xs, 0<x.quantity) (id : Str) :
    0≤newlyPacked xs id := by
  refine List.sum_nonneg fun n hn => ?_
  obtain ⟨x,hx,rfl⟩ := List.mem_map.mp hn
  exact (h x (List.mem_of_mem_filter hx)).le

theorem newlyPacked_unnamed {xs : List PlannedPackageContent} {id : Str}
    (h : ∀ x∈xs, x.outboundOrderLineId≠id) : newlyPacked xs id=0 := by
  have hnil : xs.filter (fun x => decide (x.outboundOrderLineId=id))=[] :=
    List.filter_eq_nil_iff.mpr fun x hx => by simpa using h x hx
  simp [newlyPacked,hnil]

theorem newlyPacked_single (p : PackageContentInputDto × OutboundOrderLineRecord) :
    newlyPacked [plannedFor lang p] p.2.id=p.1.quantity := by
  simp [newlyPacked,plannedFor]

theorem resolvePackageContentLine_mem {content : PackageContentInputDto}
    {l : OutboundOrderLineRecord} (h : resolvePackageContentLine lang lines content=.ok l) :
    l∈lines := by
  unfold resolvePackageContentLine at h
  split at h
  · dsimp only at h
    split at h
    · rename_i hfind
      cases h
      exact List.mem_of_find?_eq_some hfind
    · cases h
  · dsimp only at h
    split at h
    · rename_i hfilter
      cases h
      exact List.mem_of_mem_filter (hfilter ▸ List.mem_singleton_self _)
    · cases h
    · cases h

theorem planContent_ok {content : PackageContentInputDto} {next : PlannedPackageContent} :
    planContent lang lines already planned content=.ok next ↔ ∃ l, Takes lang lines content l ∧
      0<l.pickedQuantity ∧
      content.quantity≤l.pickedQuantity-already l.id-newlyPacked planned l.id ∧
      next=plannedFor lang (content,l) := by
  cases hline : resolvePackageContentLine lang lines content with
  | error e =>
    have herror : planContent lang lines already planned content=.error e := by
      unfold planContent
      rw [hline]
      rfl
    rw [herror]
    constructor
    · intro h
      cases h
    · rintro ⟨l,htakes,_⟩
      have hcontra := hline.symm.trans htakes.line
      cases hcontra
  | ok l =>
    unfold planContent
    rw [hline]
    dsimp only [bind,Except.bind]
    split_ifs with hsku hpicked hrest
    · constructor
      · intro h
        cases h
      · rintro ⟨l',htakes,_⟩
        obtain rfl := Except.ok.inj (hline.symm.trans htakes.line)
        exact (hsku htakes.sku).elim
    · constructor
      · intro h
        cases h
      · rintro ⟨l',htakes,hpos,_⟩
        obtain rfl := Except.ok.inj (hline.symm.trans htakes.line)
        omega
    · constructor
      · intro h
        cases h
      · rintro ⟨l',htakes,_,hle,_⟩
        obtain rfl := Except.ok.inj (hline.symm.trans htakes.line)
        omega
    · constructor
      · intro h
        cases h
        exact ⟨l,⟨hline,not_not.mp hsku⟩,by omega,by omega,rfl⟩
      · rintro ⟨l',htakes,_,_,rfl⟩
        obtain rfl := Except.ok.inj (hline.symm.trans htakes.line)
        rfl

theorem planContents_ok (hn : (lines.map (·.id)).Nodup) (halready : ∀ id, 0≤already id)
    {contents : List PackageContentInputDto} :
    ∀ {planned planned' : List PlannedPackageContent}, (∀ c∈contents, 0<c.quantity) →
      (∀ x∈planned, 0<x.quantity) →
      (planContents lang lines already contents planned=.ok planned' ↔
        ∃ ps, Assigned lang lines contents ps ∧ planned'=planned++ps.map (plannedFor lang) ∧
          ∀ p∈ps, already p.2.id+newlyPacked planned' p.2.id≤p.2.pickedQuantity) := by
  induction contents with
  | nil =>
    intro planned planned' _ _
    constructor
    · intro h
      cases h
      exact ⟨[],⟨rfl,by simp⟩,by simp,by simp⟩
    · rintro ⟨ps,hps,hplanned,_⟩
      obtain rfl := List.map_eq_nil_iff.mp hps.contents
      simp [planContents,hplanned]
  | cons c cs ih =>
    intro planned planned' hpos hplanned
    have hcs : ∀ c∈cs, 0<c.quantity := fun c hc => hpos c (List.mem_cons_of_mem _ hc)
    have hc := hpos c List.mem_cons_self
    have hnext : ∀ l, ∀ x∈planned++[plannedFor lang (c,l)], 0<x.quantity := by
      intro l x hx
      rcases List.mem_append.mp hx with hx|hx
      · exact hplanned x hx
      · rw [List.mem_singleton.mp hx]
        exact hc
    constructor
    · intro h
      obtain ⟨next,hplan,hrest⟩ := bind_eq_ok h
      obtain ⟨l,htakes,hpicked,hle,rfl⟩ := planContent_ok.mp hplan
      obtain ⟨ps,hps,rfl,hwithin⟩ := (ih hcs (hnext l)).mp hrest
      refine ⟨(c,l)::ps,⟨by simp [hps.contents],?_⟩,by simp,?_⟩
      · intro p hp
        rcases List.mem_cons.mp hp with rfl|hp
        · exact htakes
        · exact hps.takes p hp
      · intro p hp
        rcases List.mem_cons.mp hp with rfl|hp
        · by_cases hl : ∃ q∈ps, q.2=l
          · obtain ⟨q,hq,rfl⟩ := hl
            exact hwithin q hq
          · have hother : newlyPacked (ps.map (plannedFor lang)) l.id=0 := by
              refine newlyPacked_unnamed fun x hx => ?_
              obtain ⟨p,hp,rfl⟩ := List.mem_map.mp hx
              intro hid
              have hmem := resolvePackageContentLine_mem (hps.takes p hp).line
              have hmem' := resolvePackageContentLine_mem htakes.line
              exact hl ⟨p,hp,List.inj_on_of_nodup_map hn hmem hmem' hid⟩
            have hsingle : newlyPacked [plannedFor lang (c,l)] l.id=c.quantity :=
              newlyPacked_single (c,l)
            rw [newlyPacked_append,newlyPacked_append,hother,hsingle]
            dsimp only at hle ⊢
            omega
        · exact hwithin p hp
    · rintro ⟨ps,hps,rfl,hwithin⟩
      cases ps with
      | nil => cases hps.contents
      | cons p ps =>
        obtain ⟨rfl,hcontents⟩ := List.cons.inj hps.contents
        have hquantity : 0<p.1.quantity := hc
        have htakes := hps.takes p List.mem_cons_self
        have hsum := hwithin p List.mem_cons_self
        have hrest : ∀ x∈ps.map (plannedFor lang), 0<x.quantity := by
          intro x hx
          obtain ⟨p',hp',rfl⟩ := List.mem_map.mp hx
          refine hcs p'.1 ?_
          rw [← hcontents]
          exact List.mem_map.mpr ⟨p',hp',rfl⟩
        have hbefore := newlyPacked_nonneg hplanned p.2.id
        have hlater := newlyPacked_nonneg hrest p.2.id
        have hzero := halready p.2.id
        have hsingle : newlyPacked [plannedFor lang p] p.2.id=p.1.quantity := newlyPacked_single p
        rw [List.map_cons,← List.singleton_append,newlyPacked_append,newlyPacked_append,hsingle] at hsum
        have hplan : planContent lang lines already planned p.1=.ok (plannedFor lang p) :=
          planContent_ok.mpr ⟨p.2,htakes,by omega,by omega,rfl⟩
        have hstep : planContents lang lines already (p.1::cs) planned=
            planContents lang lines already cs (planned++[plannedFor lang p]) := by
          rw [planContents,hplan]
          rfl
        rw [hstep]
        refine (ih hcs (hnext p.2)).mpr ⟨ps,⟨hcontents,fun q hq => ?_⟩,by simp,fun q hq => ?_⟩
        · exact hps.takes q (List.mem_cons_of_mem _ hq)
        · simpa using hwithin q (List.mem_cons_of_mem _ hq)

end Plan

/-- The quantities that are requested of each line. -/
def requestedOf (xs : List PlannedPackageContent) : List (Str × ℤ) :=
  xs.foldl (fun m x => addQuantity x.outboundOrderLineId x.quantity m) []

theorem mem_requestedOf (xs : List PlannedPackageContent) (e : Str × ℤ) : e∈requestedOf xs ↔
    (∃ x∈xs, x.outboundOrderLineId=e.1) ∧ e.2=newlyPacked xs e.1 :=
  Tallies.mem_tally_summed (fun x : PlannedPackageContent => x.outboundOrderLineId)
    (fun x => x.quantity) xs e

section Validated
variable {lang : Language} {lines : List OutboundOrderLineRecord} {already : Str → ℤ}
  {content : PackageContentInputDto} {v : Validation}

/-- The content as the validator resolves it. -/
def resolvedFor (lang : Language) (already : Str → ℤ)
    (p : PackageContentInputDto × OutboundOrderLineRecord) : ResolvedPackageContentInput :=
  ⟨p.2.id,normalizeCode lang p.1.sku,p.1.quantity,p.1.metadata,
    max 0 (p.2.pickedQuantity-already p.2.id),already p.2.id⟩

theorem resolvePackingLine_mem {ls : List PackingOrderLineInput} {l : PackingOrderLineInput}
    (h : resolvePackingLine lang ls content=.line l) : l∈ls := by
  have hlast : ∀ {has : PackingOrderLineInput → Bool} {a}, lastWith has ls=some a → a∈ls :=
    fun ha => List.mem_reverse.mp (List.mem_of_find?_eq_some ha)
  unfold resolvePackingLine at h
  split at h
  · split at h
    · rename_i a hor
      cases h
      rw [Option.orElse_eq_orElse,Option.orElse_eq_or] at hor
      rcases Option.or_eq_some_iff.mp hor with ha|⟨_,ha⟩
      · exact hlast ha
      · exact hlast ha
    · cases h
  · split at h
    · cases h
    · rename_i hfilter
      cases h
      exact List.mem_of_mem_filter (hfilter ▸ List.mem_singleton_self _)
    · cases h

theorem validateContent_takes (hsame : SameLine lang lines content) (hpos : 0<content.quantity)
    {l : OutboundOrderLineRecord} (h : Takes lang lines content l) :
    validateContent lang (lines.map (·.input)) already v content=
      ⟨v.issues,v.resolvedContents++[resolvedFor lang already (content,l)],
        addQuantity l.id content.quantity v.requestedByLineId⟩ := by
  have hline := (hsame l).mp h.line
  have hsku : ¬normalizeCodeLike lang content.sku≠normalizeCodeLike lang l.input.sku :=
    not_not.mpr h.sku.symm
  unfold validateContent
  rw [hline]
  dsimp only
  rw [if_neg hsku,if_neg (not_le.mpr hpos)]
  rfl

theorem validateContent_refuses (hsame : SameLine lang lines content)
    (h : ∀ l, ¬Takes lang lines content l) :
    ∃ i, (validateContent lang (lines.map (·.input)) already v content).issues=v.issues++[i] := by
  unfold validateContent
  cases hline : resolvePackingLine lang (lines.map (·.input)) content with
  | unknown => exact ⟨_,rfl⟩
  | ambiguousSku => exact ⟨_,rfl⟩
  | line l' =>
    obtain ⟨l,hl,rfl⟩ := List.mem_map.mp (resolvePackingLine_mem hline)
    have hsku : normalizeCodeLike lang content.sku≠normalizeCodeLike lang l.input.sku := by
      intro hsku
      exact h l ⟨(hsame l).mpr hline,hsku.symm⟩
    dsimp only
    rw [if_pos hsku]
    exact ⟨_,rfl⟩

theorem issues_validateContent (ls : List PackingOrderLineInput) (v : Validation)
    (content : PackageContentInputDto) :
    v.issues <+: (validateContent lang ls already v content).issues := by
  unfold validateContent
  dsimp only
  split
  · exact List.prefix_append _ _
  · exact List.prefix_append _ _
  · split
    · exact List.prefix_append _ _
    · split
      · exact List.prefix_append _ _
      · exact List.prefix_rfl

theorem issues_foldl (ls : List PackingOrderLineInput) (contents : List PackageContentInputDto) :
    ∀ v : Validation, v.issues <+: (contents.foldl (validateContent lang ls already) v).issues := by
  induction contents with
  | nil => exact fun _ => List.prefix_rfl
  | cons c cs ih => exact fun v => (issues_validateContent ls v c).trans (ih _)

theorem foldl_assigned {contents : List PackageContentInputDto}
    {ps : List (PackageContentInputDto × OutboundOrderLineRecord)}
    (hsame : ∀ c∈contents, SameLine lang lines c) (hpos : ∀ c∈contents, 0<c.quantity)
    (h : Assigned lang lines contents ps) :
    contents.foldl (validateContent lang (lines.map (·.input)) already) v=
      ⟨v.issues,v.resolvedContents++ps.map (resolvedFor lang already),
        (ps.map (plannedFor lang)).foldl
          (fun m x => addQuantity x.outboundOrderLineId x.quantity m) v.requestedByLineId⟩ := by
  induction ps generalizing contents v with
  | nil =>
    obtain rfl := h.contents
    simp
  | cons p ps ih =>
    obtain rfl := h.contents
    have hrest : Assigned lang lines (ps.map (·.1)) ps :=
      ⟨rfl,fun q hq => h.takes q (List.mem_cons_of_mem _ hq)⟩
    rw [List.map_cons,List.foldl_cons,validateContent_takes (hsame p.1 List.mem_cons_self)
      (hpos p.1 List.mem_cons_self) (h.takes p List.mem_cons_self),
      ih (fun c hc => hsame c (List.mem_cons_of_mem _ hc))
        (fun c hc => hpos c (List.mem_cons_of_mem _ hc)) hrest]
    simp [plannedFor]

theorem assigned_of_foldl {contents : List PackageContentInputDto}
    (hsame : ∀ c∈contents, SameLine lang lines c)
    (h : (contents.foldl (validateContent lang (lines.map (·.input)) already) v).issues=[]) :
    ∃ ps, Assigned lang lines contents ps := by
  induction contents generalizing v with
  | nil => exact ⟨[],rfl,by simp⟩
  | cons c cs ih =>
    rw [List.foldl_cons] at h
    obtain ⟨ps,hps⟩ := ih (fun c hc => hsame c (List.mem_cons_of_mem _ hc)) h
    by_cases htakes : ∃ l, Takes lang lines c l
    · obtain ⟨l,hl⟩ := htakes
      refine ⟨(c,l)::ps,by simp [hps.contents],fun p hp => ?_⟩
      rcases List.mem_cons.mp hp with rfl|hp
      · exact hl
      · exact hps.takes p hp
    · obtain ⟨i,hi⟩ : ∃ i, (validateContent lang (lines.map (·.input)) already v c).issues=
          v.issues++[i] :=
        validateContent_refuses (hsame c List.mem_cons_self) fun l hl => htakes ⟨l,hl⟩
      have hpart : (validateContent lang (lines.map (·.input)) already v c).issues <+:
          (cs.foldl (validateContent lang (lines.map (·.input)) already)
            (validateContent lang (lines.map (·.input)) already v c)).issues := issues_foldl _ _ _
      rw [hi,h] at hpart
      have hnil := List.prefix_nil.mp hpart
      simp at hnil

end Validated

section Result
variable {lang : Language} {lines : List OutboundOrderLineRecord}
  {existing : List PackageContentRecord} {contents : List PackageContentInputDto}

/-- Order lines with ids of their own and no more picked than ordered, and contents with positive
quantities. -/
structure Packable (lines : List OutboundOrderLineRecord) (existing : List PackageContentRecord)
    (contents : List PackageContentInputDto) : Prop where
  ids : (lines.map (·.id)).Nodup
  picked : ∀ l∈lines, 0≤l.pickedQuantity ∧ l.pickedQuantity≤l.orderedQuantity
  existing : ∀ c∈existing, 0<c.quantity
  nonempty : contents≠[]
  contents : ∀ c∈contents, 0<c.quantity

/-- The contents fit into what is left of the lines that they are for. -/
structure Fits (lang : Language) (lines : List OutboundOrderLineRecord)
    (existing : List PackageContentRecord) (contents : List PackageContentInputDto)
    (ps : List (PackageContentInputDto × OutboundOrderLineRecord)) : Prop where
  assigned : Assigned lang lines contents ps
  within : ∀ p∈ps, sumPackageContentsByLine existing p.2.id+
    newlyPacked (ps.map (plannedFor lang)) p.2.id≤p.2.pickedQuantity

theorem packed_nonneg (h : ∀ c∈existing, 0<c.quantity) (id : Str) :
    0≤ sumPackageContentsByLine existing id := by
  refine List.sum_nonneg fun n hn => ?_
  obtain ⟨c,hc,rfl⟩ := List.mem_map.mp hn
  exact (h c (List.mem_of_mem_filter hc)).le

theorem buildPackageContentPlan_ok (h : Packable lines existing contents)
    {plan : List PlannedPackageContent} :
    buildPackageContentPlan lang lines existing contents=.ok plan ↔
      ∃ ps, Fits lang lines existing contents ps ∧ plan=ps.map (plannedFor lang) := by
  have hplan : planContents lang lines (sumPackageContentsByLine existing) contents []=.ok plan ↔
      ∃ ps, Fits lang lines existing contents ps ∧ plan=ps.map (plannedFor lang) := by
    rw [planContents_ok h.ids (packed_nonneg h.existing) h.contents (by simp)]
    constructor
    · rintro ⟨ps,hps,rfl,hwithin⟩
      exact ⟨ps,⟨hps,hwithin⟩,rfl⟩
    · rintro ⟨ps,hps,rfl⟩
      exact ⟨ps,hps.assigned,rfl,hps.within⟩
  have hsome : contents.isEmpty=false := by simpa using h.nonempty
  unfold buildPackageContentPlan
  rw [hsome,if_neg (by simp)]
  cases lines with
  | nil =>
    constructor
    · intro he
      cases he
    · rintro ⟨ps,hps,_⟩
      have hne : ps≠[] := fun he => h.nonempty (by rw [← hps.assigned.contents,he]; rfl)
      obtain ⟨p,hp⟩ := List.exists_mem_of_ne_nil ps hne
      cases resolvePackageContentLine_mem (hps.assigned.takes p hp).line
  | cons l ls => exact hplan

theorem lastWith_id (hn : (lines.map (·.id)).Nodup) {l : OutboundOrderLineRecord} (hl : l∈lines) :
    lastWith (·.id=l.id) (lines.map (·.input))=some l.input := by
  have hfound : (lines.reverse.find? (·.id=l.id)).isSome=true := by
    rw [List.find?_isSome]
    exact ⟨l,List.mem_reverse.mpr hl,by simp⟩
  obtain ⟨l',hl'⟩ := Option.isSome_iff_exists.mp hfound
  have hid : l'.id=l.id := by simpa using List.find?_some hl'
  have hmem := List.mem_reverse.mp (List.mem_of_find?_eq_some hl')
  obtain rfl := List.inj_on_of_nodup_map hn hmem hl hid
  have hlast : lastWith (·.id=l'.id) (lines.map (·.input))=
      (lines.reverse.find? (·.id=l'.id)).map (·.input) := lastWith_input _
  rw [hlast,hl']
  rfl

theorem validated_ok (h : Packable lines existing contents)
    (hsame : ∀ c∈contents, SameLine lang lines c) :
    (validatePackageContentsAgainstPickedQuantities lang (lines.map (·.input)) existing
      contents).ok=true ↔ ∃ ps, Fits lang lines existing contents ps := by
  have hexceeds : (lines.map (·.input)).filterMap pickedExceedsOrdered=[] := by
    refine List.filterMap_eq_nil_iff.mpr fun l' hl' => ?_
    obtain ⟨l,hl,rfl⟩ := List.mem_map.mp hl'
    exact if_neg (not_lt.mpr (h.picked l hl).2)
  have hcontents : noContents contents=[] := by
    have hsome : contents.isEmpty=false := by simpa using h.nonempty
    simp [noContents,hsome]
  have hover : ∀ ps, Assigned lang lines contents ps →
      ((requestedOf (ps.map (plannedFor lang))).filterMap
        (overPacked (lines.map (·.input)) (sumPackedQuantitiesByLine existing))=[] ↔
        Fits lang lines existing contents ps) := by
    intro ps hps
    have hentry : ∀ p∈ps, ∀ q, overPacked (lines.map (·.input))
        (sumPackedQuantitiesByLine existing) (p.2.id,q)=none ↔
          sumPackageContentsByLine existing p.2.id+q≤p.2.pickedQuantity := by
      intro p hp q
      have hline := lastWith_id h.ids (resolvePackageContentLine_mem (hps.takes p hp).line)
      unfold overPacked
      rw [hline]
      dsimp only [OutboundOrderLineRecord.input,sumPackedQuantitiesByLine]
      split
      · simp
        omega
      · simp
        omega
    rw [List.filterMap_eq_nil_iff]
    constructor
    · intro hnone
      refine ⟨hps,fun p hp => (hentry p hp _).mp (hnone _ ((mem_requestedOf _ _).mpr ⟨?_,rfl⟩))⟩
      exact ⟨plannedFor lang p,List.mem_map.mpr ⟨p,hp,rfl⟩,rfl⟩
    · rintro hfits ⟨id,q⟩ he
      obtain ⟨⟨x,hx,hid⟩,hq⟩ := (mem_requestedOf _ _).mp he
      obtain ⟨p,hp,rfl⟩ := List.mem_map.mp hx
      have hid : p.2.id=id := hid
      have hq : q=newlyPacked (ps.map (plannedFor lang)) id := hq
      subst hid hq
      exact (hentry p hp _).mpr (hfits.within p hp)
  unfold validatePackageContentsAgainstPickedQuantities
  rw [hcontents,hexceeds]
  dsimp only
  rw [List.isEmpty_iff,List.append_eq_nil_iff]
  constructor
  · rintro ⟨hissues,hnone⟩
    obtain ⟨ps,hps⟩ := assigned_of_foldl hsame hissues
    rw [foldl_assigned hsame h.contents hps] at hnone
    exact ⟨ps,(hover ps hps).mp hnone⟩
  · rintro ⟨ps,hps⟩
    rw [foldl_assigned hsame h.contents hps.assigned]
    exact ⟨rfl,(hover ps hps.assigned).mpr hps⟩

theorem resolved_of_fits (h : Packable lines existing contents)
    (hsame : ∀ c∈contents, SameLine lang lines c)
    {ps : List (PackageContentInputDto × OutboundOrderLineRecord)}
    (hps : Fits lang lines existing contents ps) :
    (validatePackageContentsAgainstPickedQuantities lang (lines.map (·.input)) existing
      contents).resolvedContents=
        ps.map (resolvedFor lang (sumPackageContentsByLine existing)) := by
  have hok := (validated_ok h hsame).mpr ⟨ps,hps⟩
  unfold validatePackageContentsAgainstPickedQuantities at hok ⊢
  dsimp only at hok ⊢
  rw [if_pos hok,foldl_assigned hsame h.contents hps.assigned]
  rfl

theorem agrees_of_sameLine (h : Packable lines existing contents)
    (hsame : ∀ c∈contents, SameLine lang lines c) : Agrees lang lines existing contents := by
  refine ⟨?_,hsame,?_,?_⟩
  · rw [validated_ok h hsame]
    constructor
    · rintro ⟨plan,hplan⟩
      obtain ⟨ps,hps,_⟩ := (buildPackageContentPlan_ok h).mp hplan
      exact ⟨ps,hps⟩
    · rintro ⟨ps,hps⟩
      exact ⟨_,(buildPackageContentPlan_ok h).mpr ⟨ps,hps,rfl⟩⟩
  · intro plan hplan
    obtain ⟨ps,hps,rfl⟩ := (buildPackageContentPlan_ok h).mp hplan
    rw [resolved_of_fits h hsame hps,List.map_map,List.map_map]
    rfl
  · rintro plan hplan l hl ⟨c,hc,hid⟩
    obtain ⟨ps,hps,rfl⟩ := (buildPackageContentPlan_ok h).mp hplan
    obtain ⟨p,hp,rfl⟩ := List.mem_map.mp hc
    have hline : p.2=l := List.inj_on_of_nodup_map h.ids
      (resolvePackageContentLine_mem (hps.assigned.takes p hp).line) hl hid
    have hwithin := hps.within p hp
    rw [hline] at hwithin
    omega

/-- The validator and the plan agree on contents if and only if their references are plain. -/
theorem packing_plan_agrees (lang : Language) (lines : List OutboundOrderLineRecord)
    (existing : List PackageContentRecord) (contents : List PackageContentInputDto)
    (h : Packable lines existing contents) :
    Agrees lang lines existing contents ↔ PlainReferences lang lines contents := by
  constructor
  · intro hagrees c hc reference href
    exact (sameLine_iff_plain h.ids href).mp (hagrees.resolves c hc)
  · intro hplain
    refine agrees_of_sameLine h fun c hc => ?_
    cases href : normalizeNullableString c.outboundOrderLineReference with
    | none => exact sameLine_sku href
    | some reference => exact (sameLine_iff_plain h.ids href).mpr (hplain c hc reference href)

/-- A line of which two are picked. -/
def pickedLine : OutboundOrderLineRecord := ⟨['7'],['L'],['S'],2,2⟩

def oneOf (reference : Str) : PackageContentInputDto :=
  {outboundOrderLineReference := some reference, sku := ['s'], quantity := 1}

theorem packable_one (reference : Str) : Packable [pickedLine] [] [oneOf reference] where
  ids := List.nodup_singleton _
  picked := by simp [pickedLine]
  existing := by simp
  nonempty := by simp
  contents := by simp [oneOf]

theorem packing_plan_agrees_demo : Agrees .ascii [pickedLine] [] [oneOf ['L']] := by
  refine (packing_plan_agrees .ascii _ _ _ (packable_one ['L'])).mpr ?_
  intro c hc reference href
  rw [List.mem_singleton.mp hc] at href
  have href : some ['L']=some reference := href
  obtain rfl := Option.some.inj href
  exact .byNumber [] pickedLine [] rfl rfl (by decide) (by simp) (by simp)

/-- The number of a line in another letter case: the validator accepts it, the plan does not. -/
theorem reference_in_other_case : ¬∀ lang lines existing contents,
    Packable lines existing contents → Agrees lang lines existing contents := by
  intro h
  have hagrees := h .ascii _ _ _ (packable_one ['l'])
  obtain ⟨plan,hplan⟩ := hagrees.succeeds.mpr rfl
  cases hplan

end Result

end AardvarkWms.PackingPlan
