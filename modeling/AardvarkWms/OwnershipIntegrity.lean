import AardvarkWms.Billing
import AardvarkWms.Separators
import AardvarkWms.Texts
import Mathlib.Data.Char
import Mathlib.Data.List.Find
import Mathlib.Data.List.Lex

/-! The check of resource owners: `src/clients/ownership-integrity.helpers.ts`. -/
namespace AardvarkWms.OwnershipIntegrity

open Messaging (Str trim)

section Grouping
variable {α κ : Type} [DecidableEq κ] (key : α → κ)

/-- A value goes to the group of its key, or else a group is added at the end. -/
def addToGroups (groups : List (κ × List α)) (x : α) : List (κ × List α) :=
  if groups.any (·.1=key x) then
    groups.map fun g => if g.1=key x then (g.1,g.2++[x]) else g
  else groups++[(key x,[x])]

def groupByKey (xs : List α) : List (κ × List α) := xs.foldl (addToGroups key) []

def group? (groups : List (κ × List α)) (k : κ) : Option (List α) :=
  (groups.find? (·.1=k)).map (·.2)

/-- Each group has all values of its key, and each value has a group. -/
structure Grouped (groups : List (κ × List α)) (xs : List α) : Prop where
  members : ∀ g∈groups, g.2=xs.filter (key ·=g.1)
  nonempty : ∀ g∈groups, g.2≠[]
  keys : ∀ x∈xs, ∃ g∈groups, g.1=key x

variable {key} {groups : List (κ × List α)} {xs : List α}

theorem Grouped.add (h : Grouped key groups xs) (x : α) :
    Grouped key (addToGroups key groups x) (xs++[x]) := by
  unfold addToGroups
  by_cases hany : groups.any (·.1=key x)=true
  · rw [if_pos hany]
    constructor
    · intro g hg
      obtain ⟨g',hg',rfl⟩ := List.mem_map.mp hg
      rw [List.filter_append]
      by_cases hkey : g'.1=key x
      · simp [hkey,h.members g' hg']
      · simp [hkey,h.members g' hg',Ne.symm hkey]
    · intro g hg
      obtain ⟨g',hg',rfl⟩ := List.mem_map.mp hg
      by_cases hkey : g'.1=key x
      · simp [hkey]
      · simpa [hkey] using h.nonempty g' hg'
    · have hmapped : ∀ g∈groups, ∃ g'∈groups.map
          (fun g => if g.1=key x then (g.1,g.2++[x]) else g), g'.1=g.1 := by
        intro g hg
        refine ⟨_,List.mem_map_of_mem hg,?_⟩
        split <;> rfl
      intro y hy
      cases List.mem_append.mp hy with
      | inl hold =>
        obtain ⟨g,hg,hkey⟩ := h.keys y hold
        obtain ⟨g',hg',hsame⟩ := hmapped g hg
        exact ⟨g',hg',hsame.trans hkey⟩
      | inr hnew =>
        rw [List.mem_singleton] at hnew
        obtain ⟨g,hg,hkey⟩ := List.any_eq_true.mp hany
        obtain ⟨g',hg',hsame⟩ := hmapped g hg
        exact ⟨g',hg',by rw [hsame,of_decide_eq_true hkey,hnew]⟩
  · rw [if_neg hany]
    have hnone : ∀ g∈groups, g.1≠key x := by
      intro g hg hkey
      exact hany (List.any_eq_true.mpr ⟨g,hg,decide_eq_true hkey⟩)
    constructor
    · intro g hg
      rw [List.filter_append]
      cases List.mem_append.mp hg with
      | inl hold => simp [h.members g hold,Ne.symm (hnone g hold)]
      | inr hnew =>
        rw [List.mem_singleton] at hnew
        have hfresh : xs.filter (key ·=key x)=[] := by
          refine List.filter_eq_nil_iff.mpr fun y hy hkey => ?_
          obtain ⟨g',hg',hkey'⟩ := h.keys y hy
          exact hnone g' hg' (hkey'.trans (of_decide_eq_true hkey))
        simp [hnew,hfresh]
    · intro g hg
      cases List.mem_append.mp hg with
      | inl hold => exact h.nonempty g hold
      | inr hnew =>
        rw [List.mem_singleton] at hnew
        simp [hnew]
    · intro y hy
      cases List.mem_append.mp hy with
      | inl hold =>
        obtain ⟨g,hg,hkey⟩ := h.keys y hold
        exact ⟨g,List.mem_append_left _ hg,hkey⟩
      | inr hnew =>
        rw [List.mem_singleton] at hnew
        exact ⟨_,List.mem_append_right _ List.mem_cons_self,by rw [hnew]⟩

theorem grouped (xs : List α) : Grouped key (groupByKey key xs) xs := by
  have hfold : ∀ (ys xs : List α) (groups : List (κ × List α)), Grouped key groups xs →
      Grouped key (ys.foldl (addToGroups key) groups) (xs++ys) := by
    intro ys
    induction ys with
    | nil =>
      intro xs groups h
      simpa using h
    | cons y ys ih =>
      intro xs groups h
      have hrest := ih (xs++[y]) _ (h.add y)
      rw [List.append_assoc] at hrest
      exact hrest
  have hempty : Grouped key ([] : List (κ × List α)) ([] : List α) := by
    constructor <;> nofun
  exact hfold xs [] [] hempty

theorem group?_head (xs : List α) (k : κ) :
    (group? (groupByKey key xs) k).bind List.head?=xs.find? (key ·=k) := by
  have h := @grouped α κ _ key xs
  unfold group?
  cases hfind : (groupByKey key xs).find? (·.1=k) with
  | none =>
    have hnone : xs.find? (key ·=k)=none := by
      refine List.find?_eq_none.mpr fun x hx hkey => ?_
      obtain ⟨g,hg,hg'⟩ := h.keys x hx
      have hother := List.find?_eq_none.mp hfind g hg
      exact hother (decide_eq_true (hg'.trans (of_decide_eq_true hkey)))
    simp [hnone]
  | some g =>
    have hk : g.1=k := by simpa using List.find?_some hfind
    have hg := h.members g (List.mem_of_find?_eq_some hfind)
    rw [hk] at hg
    simp [hg]

end Grouping

section Check

inductive OwnershipIntegritySeverity
  | INFO | WARNING | ERROR
  deriving DecidableEq

inductive OwnershipIntegrityIssueCode
  | DUPLICATE_RESOURCE_OWNER | INHERITED_OWNER_MISSING_PARENT | INHERITED_OWNER_MISMATCH
  deriving DecidableEq

def OwnershipIntegrityIssueCode.text : OwnershipIntegrityIssueCode → Str
  | DUPLICATE_RESOURCE_OWNER => "DUPLICATE_RESOURCE_OWNER".toList
  | INHERITED_OWNER_MISSING_PARENT => "INHERITED_OWNER_MISSING_PARENT".toList
  | INHERITED_OWNER_MISMATCH => "INHERITED_OWNER_MISMATCH".toList

structure OwnershipLinkForIntegrity where
  id : Option Str
  clientId : Str
  resourceType : Str
  resourceId : Str
  metadata : Option Json

structure NormalizedOwnershipLink where
  id : Str
  clientId : Str
  resourceType : Str
  resourceId : Str
  metadata : Option Json

structure InheritedResourceReference where
  resourceType : Str
  resourceId : Str

structure OwnershipIntegrityIssue where
  code : OwnershipIntegrityIssueCode
  severity : OwnershipIntegritySeverity
  resourceType : Str
  resourceId : Str
  clientId : Option Str
  expectedClientId : Option Str
  actualClientId : Option Str
  relatedResourceType : Option Str
  relatedResourceId : Option Str
  linkIds : List Str
  message : Str

structure OwnershipIntegritySummary where
  totalLinks : ℕ
  issueCount : ℕ
  issues : List OwnershipIntegrityIssue

/-- The language of the codes: within ASCII its upper case is known. -/
structure Runtime where
  env : Billing.Env
  toUpperCase_ascii : ∀ s, isAscii s=true → env.runtime.toUpperCase s=s.map Char.toUpper

variable (r : Runtime)

def toRecord (value : Option Json) : Json.Fields :=
  match value with
  | some (.object fields) => fields
  | _ => []

def readString (value : Option Json) : Option Str :=
  match value with
  | some (.string s) => if trim s.toList=[] then none else some s.toList
  | _ => none

def readReference (record : Json.Fields) (typeKey idKey : String) :
    Option InheritedResourceReference :=
  match Billing.normalizeOptionalResourceCode r.env (readString (record.get? typeKey)),
      (readString (record.get? idKey)).map trim with
  | some resourceType, some resourceId => some ⟨resourceType,resourceId⟩
  | _, _ => none

def readInheritedFrom (metadata : Option Json) : Option InheritedResourceReference :=
  let record := toRecord metadata
  (readReference r record "inheritedFromResourceType" "inheritedFromResourceId").or
    (readReference r (toRecord (record.get? "inheritedFrom")) "resourceType" "resourceId")

def normalizeOwnershipLink (link : OwnershipLinkForIntegrity) : Option NormalizedOwnershipLink :=
  match Billing.normalizeOptionalResourceCode r.env (some link.resourceType) with
  | none => none
  | some resourceType =>
    if trim link.resourceId=[] ∨ trim link.clientId=[] then none
    else some ⟨(link.id.map trim).getD [],trim link.clientId,resourceType,trim link.resourceId,
      link.metadata⟩

def resourceKey (resourceType resourceId : Str) : Str := resourceType++ ':':: ':'::resourceId

def NormalizedOwnershipLink.key (link : NormalizedOwnershipLink) : Str :=
  resourceKey link.resourceType link.resourceId

def resourceText (resourceType resourceId : Str) : Str := resourceType++ ':'::resourceId

def presentIds (ids : List Str) : List Str := ids.filter (·≠[])

def clientIds (group : List NormalizedOwnershipLink) : List Str :=
  ((group.map (·.clientId)).filter (·≠[])).eraseDups

/-- A resource with several owners. -/
def duplicateIssue (group : List NormalizedOwnershipLink) : Option OwnershipIntegrityIssue :=
  match group with
  | [] => none
  | first::_ =>
    if 1 < (clientIds group).length then some
      { code := .DUPLICATE_RESOURCE_OWNER
        severity := .ERROR
        resourceType := first.resourceType
        resourceId := first.resourceId
        clientId := none
        expectedClientId := none
        actualClientId := some ([','].intercalate (clientIds group))
        relatedResourceType := none
        relatedResourceId := none
        linkIds := presentIds (group.map (·.id))
        message := "Resource ".toList++resourceText first.resourceType first.resourceId++
          " has multiple client owners.".toList }
    else none

/-- A link whose parent is not in the list, or has another owner. -/
def inheritedIssue (byResource : List (Str × List NormalizedOwnershipLink))
    (link : NormalizedOwnershipLink) : Option OwnershipIntegrityIssue :=
  match readInheritedFrom r link.metadata with
  | none => none
  | some inheritedFrom =>
    let resource := resourceText link.resourceType link.resourceId
    match (group? byResource (resourceKey inheritedFrom.resourceType
        inheritedFrom.resourceId)).bind List.head? with
    | none => some
      { code := .INHERITED_OWNER_MISSING_PARENT
        severity := .WARNING
        resourceType := link.resourceType
        resourceId := link.resourceId
        clientId := some link.clientId
        expectedClientId := none
        actualClientId := none
        relatedResourceType := some inheritedFrom.resourceType
        relatedResourceId := some inheritedFrom.resourceId
        linkIds := presentIds [link.id]
        message := "Resource ".toList++resource++" inherits ownership from ".toList++
          resourceText inheritedFrom.resourceType inheritedFrom.resourceId++
          ", but the parent ownership link is missing.".toList }
    | some parent =>
      if parent.clientId≠link.clientId then some
        { code := .INHERITED_OWNER_MISMATCH
          severity := .ERROR
          resourceType := link.resourceType
          resourceId := link.resourceId
          clientId := none
          expectedClientId := some parent.clientId
          actualClientId := some link.clientId
          relatedResourceType := some parent.resourceType
          relatedResourceId := some parent.resourceId
          linkIds := presentIds [link.id,parent.id]
          message := "Resource ".toList++resource++" is owned by ".toList++link.clientId++
            ", but inherited parent ".toList++
            resourceText parent.resourceType parent.resourceId++" is owned by ".toList++
            parent.clientId++".".toList }
      else none

def severityOrder : OwnershipIntegritySeverity → ℕ
  | .ERROR => 0
  | .WARNING => 1
  | .INFO => 2

/-- `a.localeCompare(b)` -/
def localeOrdering (a b : Str) : Ordering :=
  if r.env.localeCompare a b then if r.env.localeCompare b a then .eq else .lt else .gt

def compareOwnershipIssues (a b : OwnershipIntegrityIssue) : Ordering :=
  (((compare (severityOrder a.severity) (severityOrder b.severity)).then
    (localeOrdering r a.code.text b.code.text)).then
    (localeOrdering r a.resourceType b.resourceType)).then
    (localeOrdering r a.resourceId b.resourceId)

def normalizedLinks (links : List OwnershipLinkForIntegrity) : List NormalizedOwnershipLink :=
  links.filterMap (normalizeOwnershipLink r)

def evaluateOwnershipIntegrity (links : List OwnershipLinkForIntegrity) :
    OwnershipIntegritySummary :=
  let normalizedLinks := normalizedLinks r links
  let byResource := groupByKey NormalizedOwnershipLink.key normalizedLinks
  let issues := (byResource.filterMap fun g => duplicateIssue g.2)++
    normalizedLinks.filterMap (inheritedIssue r byResource)
  { totalLinks := normalizedLinks.length
    issueCount := issues.length
    issues := issues.insertionSort fun a b => (compareOwnershipIssues r a b).isLE }

end Check

section Owners

/-- What a link says: the owner of a resource, and from which resource it is inherited. -/
structure Ownership where
  resource : Str × Str
  clientId : Str
  parent : Option (Str × Str)

/-- Each resource has one owner, and an inherited one is that of the parent, which has one. -/
structure Intact (os : List Ownership) : Prop where
  owner : ∀ o∈os, ∀ q∈os, o.resource=q.resource → o.clientId=q.clientId
  inherited : ∀ o∈os, ∀ p∈o.parent, ∃ q∈os, q.resource=p ∧ q.clientId=o.clientId

variable (r : Runtime)

def InheritedResourceReference.resource (p : InheritedResourceReference) : Str × Str :=
  (p.resourceType,p.resourceId)

def NormalizedOwnershipLink.ownership (link : NormalizedOwnershipLink) : Ownership where
  resource := (link.resourceType,link.resourceId)
  clientId := link.clientId
  parent := (readInheritedFrom r link.metadata).map InheritedResourceReference.resource

/-- The links in the normal form of their codes. -/
def ownerships (links : List OwnershipLinkForIntegrity) : List Ownership :=
  (normalizedLinks r links).map (NormalizedOwnershipLink.ownership r)

/-- A link as it is written. -/
def OwnershipLinkForIntegrity.written (link : OwnershipLinkForIntegrity) : Ownership where
  resource := (link.resourceType,link.resourceId)
  clientId := link.clientId
  parent := (readInheritedFrom r link.metadata).map InheritedResourceReference.resource

def OwnershipIntegrityIssue.resource (i : OwnershipIntegrityIssue) : Str × Str :=
  (i.resourceType,i.resourceId)

/-- An issue of a link and its parent. -/
def OwnershipIntegrityIssue.Between (i : OwnershipIntegrityIssue) (resource parent : Str × Str) :
    Prop :=
  i.resource=resource ∧ i.relatedResourceType=some parent.1 ∧ i.relatedResourceId=some parent.2

/-- What each issue says of the links. -/
def OwnershipIntegrityIssue.Holds (os : List Ownership) (i : OwnershipIntegrityIssue) : Prop :=
  match i.code with
  | .DUPLICATE_RESOURCE_OWNER => ∃ o∈os, ∃ q∈os, o.resource=i.resource ∧ q.resource=i.resource ∧
    o.clientId≠q.clientId
  | .INHERITED_OWNER_MISSING_PARENT => ∃ o∈os, ∃ p∈o.parent, i.Between o.resource p ∧
    ∀ q∈os, q.resource≠p
  | .INHERITED_OWNER_MISMATCH => ∃ o∈os, ∃ p∈o.parent, i.Between o.resource p ∧
    ∃ q∈os, q.resource=p ∧ q.clientId≠o.clientId

variable {os : List Ownership} {i : OwnershipIntegrityIssue}

theorem Intact.not_holds (h : Intact os) : ¬i.Holds os := by
  unfold OwnershipIntegrityIssue.Holds
  cases i.code with
  | DUPLICATE_RESOURCE_OWNER =>
    rintro ⟨o,ho,q,hq,hor,hqr,hne⟩
    exact hne (h.owner o ho q hq (hor.trans hqr.symm))
  | INHERITED_OWNER_MISSING_PARENT =>
    rintro ⟨o,ho,p,hp,-,hnone⟩
    obtain ⟨q,hq,hresource,-⟩ := h.inherited o ho p hp
    exact hnone q hq hresource
  | INHERITED_OWNER_MISMATCH =>
    rintro ⟨o,ho,p,hp,-,q,hq,hresource,hne⟩
    obtain ⟨q',hq',hresource',hsame⟩ := h.inherited o ho p hp
    exact hne ((h.owner q hq q' hq' (hresource.trans hresource'.symm)).trans hsame)

end Owners

section Codes
variable {r : Runtime}

theorem colon_notMem_code {value : Option Str} {code : Str}
    (h : Billing.normalizeOptionalResourceCode r.env value=some code) : ':'∉code := by
  have hchar : ∀ c : Char, c= '_' ∨ Billing.isAlnum c=true →
      c.toNat < 128 ∧ c.toUpper≠ ':' := by
    intro c hc
    have hascii : c.toNat < 128 := by
      cases hc with
      | inl hline =>
        rw [hline]
        decide
      | inr halnum =>
        unfold Billing.isAlnum at halnum
        simp only [Bool.or_eq_true,Bool.and_eq_true,decide_eq_true_eq,Char.le_def,
          UInt32.le_iff_toNat_le] at halnum
        change c.val.toNat < 128
        have h9 : ('9' : Char).val.toNat=57 := rfl
        have hz : ('z' : Char).val.toNat=122 := rfl
        have hZ : ('Z' : Char).val.toNat=90 := rfl
        omega
    have htest := of_ascii (p := fun c => !(c= '_' || Billing.isAlnum c) || c.toUpper≠ ':')
      (by decide) hascii
    refine ⟨hascii,?_⟩
    cases hc with
    | inl hline =>
      rw [hline]
      decide
    | inr halnum => simpa [halnum] using htest
  obtain ⟨s,hs⟩ := Option.mem_filter_iff.mp h
  obtain ⟨v,_,rfl⟩ := Option.map_eq_some_iff.mp s
  intro hcolon
  unfold Billing.normalizeClientCode at hcolon
  set stripped := Billing.strip '_' (Billing.replaceRuns Billing.isAlnum '_' false (trim v)) with hst
  have hmem : ∀ c∈stripped, c= '_' ∨ Billing.isAlnum c=true := by
    intro c hc
    have hsub : c∈Billing.replaceRuns Billing.isAlnum '_' false (trim v) := by
      rw [hst] at hc
      unfold Billing.strip at hc
      rw [List.mem_reverse] at hc
      have hmid := (List.dropWhile_suffix _).subset hc
      rw [List.mem_reverse] at hmid
      exact (List.dropWhile_suffix _).subset hmid
    exact (Billing.replaceRuns_mem _ _ hsub).imp_right fun h => h.2
  have hascii : isAscii stripped=true :=
    List.all_eq_true.mpr fun c hc => decide_eq_true (hchar c (hmem c hc)).1
  rw [r.toUpperCase_ascii stripped hascii] at hcolon
  obtain ⟨c,hc,hupper⟩ := List.mem_map.mp hcolon
  exact (hchar c (hmem c hc)).2 hupper

theorem resourceKey_inj {t t' i i' : Str} (ht : ':'∉t) (ht' : ':'∉t') :
    resourceKey t i=resourceKey t' i' ↔ t=t' ∧ i=i' := by
  constructor
  · intro h
    have hsplit := Separators.split_first ht ht' h
    exact ⟨hsplit.1,(List.cons.inj hsplit.2).2⟩
  · rintro ⟨rfl,rfl⟩
    rfl

theorem normalized_code {links : List OwnershipLinkForIntegrity} {l : NormalizedOwnershipLink}
    (h : l∈normalizedLinks r links) : ':'∉l.resourceType ∧ l.clientId≠[] := by
  obtain ⟨link,_,hlink⟩ := List.mem_filterMap.mp h
  unfold normalizeOwnershipLink at hlink
  cases hcode : Billing.normalizeOptionalResourceCode r.env (some link.resourceType) with
  | none =>
    rw [hcode] at hlink
    cases hlink
  | some code =>
    simp only [hcode] at hlink
    split_ifs at hlink with hempty
    cases hlink
    exact ⟨colon_notMem_code hcode,fun hnil => hempty (Or.inr hnil)⟩

theorem readReference_code {record : Json.Fields} {typeKey idKey : String}
    {p : InheritedResourceReference} (h : readReference r record typeKey idKey=some p) :
    ':'∉p.resourceType := by
  unfold readReference at h
  split at h
  · rename_i code id hcode hid
    cases h
    exact colon_notMem_code hcode
  · cases h

theorem inherited_code {metadata : Option Json} {p : InheritedResourceReference}
    (h : readInheritedFrom r metadata=some p) : ':'∉p.resourceType := by
  unfold readInheritedFrom at h
  cases Option.or_eq_some_iff.mp h with
  | inl hflat => exact readReference_code hflat
  | inr hnested => exact readReference_code hnested.2

end Codes

section Issues
variable {r : Runtime} {links : List OwnershipLinkForIntegrity}

theorem one_lt_eraseDups {α : Type} [BEq α] [LawfulBEq α] (xs : List α) :
    1 < xs.eraseDups.length ↔ ∃ x∈xs, ∃ y∈xs, x≠y := by
  cases xs with
  | nil => simp
  | cons a xs =>
    have hrest : 1 < (a::xs).eraseDups.length ↔ ∃ y∈xs, y≠a := by
      rw [List.eraseDups_cons,List.length_cons,Nat.lt_add_left_iff_pos,List.length_pos_iff_exists_mem]
      simp
    rw [hrest]
    constructor
    · rintro ⟨y,hy,hne⟩
      exact ⟨y,List.mem_cons_of_mem a hy,a,List.mem_cons_self,hne⟩
    · rintro ⟨x,hx,y,hy,hne⟩
      -- one of the two is not the first
      by_cases hxa : x=a
      · have hya : y≠a := fun h => hne (hxa.trans h.symm)
        exact ⟨y,(List.mem_cons.mp hy).resolve_left hya,hya⟩
      · exact ⟨x,(List.mem_cons.mp hx).resolve_left hxa,hxa⟩

theorem several_clientIds {group : List NormalizedOwnershipLink} (h : ∀ l∈group, l.clientId≠[]) :
    1 < (clientIds group).length ↔ ∃ l∈group, ∃ m∈group, l.clientId≠m.clientId := by
  have hall : (group.map (·.clientId)).filter (·≠[])=group.map (·.clientId) := by
    refine List.filter_eq_self.mpr fun c hc => ?_
    obtain ⟨l,hl,rfl⟩ := List.mem_map.mp hc
    exact decide_eq_true (h l hl)
  unfold clientIds
  rw [hall,one_lt_eraseDups]
  simp

theorem mem_issues {i : OwnershipIntegrityIssue} :
    i∈(evaluateOwnershipIntegrity r links).issues ↔
      (∃ g∈groupByKey NormalizedOwnershipLink.key (normalizedLinks r links),
        duplicateIssue g.2=some i) ∨
      ∃ l∈normalizedLinks r links,
        inheritedIssue r (groupByKey NormalizedOwnershipLink.key (normalizedLinks r links)) l=
          some i := by
  unfold evaluateOwnershipIntegrity
  simp only [(List.perm_insertionSort _ _).mem_iff,List.mem_append,List.mem_filterMap]

theorem key_eq_iff {l m : NormalizedOwnershipLink} (hl : l∈normalizedLinks r links)
    (hm : m∈normalizedLinks r links) :
    l.key=m.key ↔ (l.ownership r).resource=(m.ownership r).resource := by
  unfold NormalizedOwnershipLink.key
  rw [resourceKey_inj (normalized_code hl).1 (normalized_code hm).1]
  exact Prod.mk_inj.symm

theorem mem_group {g : Str × List NormalizedOwnershipLink}
    (hg : g∈groupByKey NormalizedOwnershipLink.key (normalizedLinks r links))
    {l : NormalizedOwnershipLink} : l∈g.2 ↔ l∈normalizedLinks r links ∧ l.key=g.1 := by
  rw [(grouped (normalizedLinks r links)).members g hg,List.mem_filter,decide_eq_true_iff]

theorem duplicate_holds {g : Str × List NormalizedOwnershipLink}
    (hg : g∈groupByKey NormalizedOwnershipLink.key (normalizedLinks r links))
    {i : OwnershipIntegrityIssue} (h : duplicateIssue g.2=some i) :
    i.Holds (ownerships r links) := by
  cases hlist : g.2 with
  | nil =>
    rw [hlist] at h
    cases h
  | cons first rest =>
    have hfirst := (mem_group hg).mp (hlist ▸ List.mem_cons_self)
    have hclients : ∀ l∈g.2, l.clientId≠[] := fun l hl =>
      (normalized_code ((mem_group hg).mp hl).1).2
    rw [hlist] at h
    simp only [duplicateIssue] at h
    split_ifs at h with hseveral
    cases h
    rw [← hlist,several_clientIds hclients] at hseveral
    obtain ⟨l,hl,m,hm,hne⟩ := hseveral
    have hlink : ∀ q∈g.2, q.ownership r∈ownerships r links ∧
        (q.ownership r).resource=(first.resourceType,first.resourceId) := by
      intro q hq
      have hq' := (mem_group hg).mp hq
      exact ⟨List.mem_map_of_mem hq'.1,(key_eq_iff hq'.1 hfirst.1).mp (hq'.2.trans hfirst.2.symm)⟩
    exact ⟨_,(hlink l hl).1,_,(hlink m hm).1,(hlink l hl).2,(hlink m hm).2,hne⟩

theorem duplicate_reported {l m : NormalizedOwnershipLink} (hl : l∈normalizedLinks r links)
    (hm : m∈normalizedLinks r links)
    (hresource : (l.ownership r).resource=(m.ownership r).resource)
    (hne : l.clientId≠m.clientId) : ∃ i∈(evaluateOwnershipIntegrity r links).issues,
      i.code=.DUPLICATE_RESOURCE_OWNER ∧ i.resource=(l.ownership r).resource := by
  have hgrouped := @grouped _ _ _ NormalizedOwnershipLink.key (normalizedLinks r links)
  obtain ⟨g,hg,hkey⟩ := hgrouped.keys l hl
  have hlg : l∈g.2 := (mem_group hg).mpr ⟨hl,hkey.symm⟩
  have hsame : l.key=m.key := (key_eq_iff hl hm).mpr hresource
  have hmg : m∈g.2 := (mem_group hg).mpr ⟨hm,hsame.symm.trans hkey.symm⟩
  have hclients : ∀ q∈g.2, q.clientId≠[] := fun q hq =>
    (normalized_code ((mem_group hg).mp hq).1).2
  have hseveral := (several_clientIds hclients).mpr ⟨l,hlg,m,hmg,hne⟩
  cases hlist : g.2 with
  | nil =>
    rw [hlist] at hlg
    cases hlg
  | cons first rest =>
    have hfirst := (mem_group hg).mp (hlist ▸ List.mem_cons_self)
    rw [hlist] at hseveral
    have hissue := @mem_issues r links
    refine ⟨_,hissue.mpr (Or.inl ⟨g,hg,by rw [hlist,duplicateIssue,if_pos hseveral]⟩),rfl,?_⟩
    exact (key_eq_iff hfirst.1 hl).mp (hfirst.2.trans hkey)

theorem parent_eq {p : InheritedResourceReference} (hp : ':'∉p.resourceType) :
    ((group? (groupByKey NormalizedOwnershipLink.key (normalizedLinks r links))
      (resourceKey p.resourceType p.resourceId)).bind List.head?)=
      (normalizedLinks r links).find? fun q => (q.ownership r).resource=p.resource := by
  rw [group?_head]
  refine List.find?_congr fun q hq => ?_
  have hkey : q.key=resourceKey p.resourceType p.resourceId ↔
      (q.ownership r).resource=p.resource := by
    unfold NormalizedOwnershipLink.key
    rw [resourceKey_inj (normalized_code hq).1 hp]
    exact Prod.mk_inj.symm
  exact decide_eq_decide.mpr hkey

theorem inherited_holds {l : NormalizedOwnershipLink} (hl : l∈normalizedLinks r links)
    {i : OwnershipIntegrityIssue}
    (h : inheritedIssue r (groupByKey NormalizedOwnershipLink.key (normalizedLinks r links)) l=
      some i) : i.Holds (ownerships r links) := by
  unfold inheritedIssue at h
  cases hfrom : readInheritedFrom r l.metadata with
  | none =>
    rw [hfrom] at h
    cases h
  | some p =>
    have hparent : p.resource∈(l.ownership r).parent := by
      unfold NormalizedOwnershipLink.ownership
      rw [hfrom]
      rfl
    simp only [hfrom,parent_eq (inherited_code hfrom)] at h
    cases hfind : (normalizedLinks r links).find? fun q => (q.ownership r).resource=p.resource with
    | none =>
      rw [hfind] at h
      cases h
      refine ⟨_,List.mem_map_of_mem hl,_,hparent,⟨rfl,rfl,rfl⟩,fun q hq hsame => ?_⟩
      obtain ⟨m,hm,rfl⟩ := List.mem_map.mp hq
      exact List.find?_eq_none.mp hfind m hm (decide_eq_true hsame)
    | some parent =>
      have hresource : (parent.ownership r).resource=p.resource := by
        simpa using List.find?_some hfind
      simp only [hfind] at h
      split_ifs at h with hne
      cases h
      have hmem := List.mem_of_find?_eq_some hfind
      refine ⟨_,List.mem_map_of_mem hl,_,hparent,⟨rfl,?_,?_⟩,_,List.mem_map_of_mem hmem,hresource,hne⟩
      · exact congrArg (fun q => some q.1) hresource
      · exact congrArg (fun q => some q.2) hresource

theorem inherited_reported {l : NormalizedOwnershipLink} (hl : l∈normalizedLinks r links)
    {p : Str × Str} (hp : p∈(l.ownership r).parent)
    (hnone : ∀ q∈ownerships r links, q.resource=p → q.clientId≠l.clientId) :
    ∃ i∈(evaluateOwnershipIntegrity r links).issues, i.Between (l.ownership r).resource p ∧
      i.code=if ∃ q∈ownerships r links, q.resource=p then .INHERITED_OWNER_MISMATCH
        else .INHERITED_OWNER_MISSING_PARENT := by
  obtain ⟨reference,hfrom,rfl⟩ := Option.map_eq_some_iff.mp hp
  have hissue : ∀ i, inheritedIssue r
      (groupByKey NormalizedOwnershipLink.key (normalizedLinks r links)) l=some i →
      i∈(evaluateOwnershipIntegrity r links).issues := fun i h => mem_issues.mpr (Or.inr ⟨l,hl,h⟩)
  unfold inheritedIssue at hissue
  simp only [hfrom,parent_eq (inherited_code hfrom)] at hissue
  cases hfind : (normalizedLinks r links).find? fun q =>
      (q.ownership r).resource=reference.resource with
  | none =>
    have habsent : ¬∃ q∈ownerships r links, q.resource=reference.resource := by
      rintro ⟨q,hq,hsame⟩
      obtain ⟨m,hm,rfl⟩ := List.mem_map.mp hq
      exact List.find?_eq_none.mp hfind m hm (decide_eq_true hsame)
    rw [if_neg habsent]
    simp only [hfind] at hissue
    exact ⟨_,hissue _ rfl,⟨rfl,rfl,rfl⟩,rfl⟩
  | some parent =>
    have hresource : (parent.ownership r).resource=reference.resource := by
      simpa using List.find?_some hfind
    have hmem : parent.ownership r∈ownerships r links :=
      List.mem_map_of_mem (List.mem_of_find?_eq_some hfind)
    have hne : parent.clientId≠l.clientId := hnone _ hmem hresource
    rw [if_pos ⟨_,hmem,hresource⟩]
    simp only [hfind,if_pos hne] at hissue
    refine ⟨_,hissue _ rfl,⟨rfl,?_,?_⟩,rfl⟩
    · exact congrArg (fun q => some q.1) hresource
    · exact congrArg (fun q => some q.2) hresource

end Issues

/-- The check finds no issue if and only if each resource has one owner and each inherited owner is
that of the parent, which is in the list; else it reports each resource with two owners, each link
whose parent has none and each whose parent is only another's, and every issue holds of the links. -/
theorem ownership_checked (r : Runtime) (links : List OwnershipLinkForIntegrity) :
    ((evaluateOwnershipIntegrity r links).issues=[] ↔ Intact (ownerships r links)) ∧
    (∀ o∈ownerships r links, ∀ q∈ownerships r links, o.resource=q.resource →
      o.clientId≠q.clientId → ∃ i∈(evaluateOwnershipIntegrity r links).issues,
        i.code=.DUPLICATE_RESOURCE_OWNER ∧ i.resource=o.resource) ∧
    (∀ o∈ownerships r links, ∀ p∈o.parent,
      (∀ q∈ownerships r links, q.resource=p → q.clientId≠o.clientId) →
        ∃ i∈(evaluateOwnershipIntegrity r links).issues, i.Between o.resource p ∧
          i.code=if ∃ q∈ownerships r links, q.resource=p then .INHERITED_OWNER_MISMATCH
            else .INHERITED_OWNER_MISSING_PARENT) ∧
    ∀ i∈(evaluateOwnershipIntegrity r links).issues, i.Holds (ownerships r links) := by
  have hduplicate : ∀ o∈ownerships r links, ∀ q∈ownerships r links, o.resource=q.resource →
      o.clientId≠q.clientId → ∃ i∈(evaluateOwnershipIntegrity r links).issues,
        i.code=.DUPLICATE_RESOURCE_OWNER ∧ i.resource=o.resource := by
    intro o ho q hq
    obtain ⟨l,hl,rfl⟩ := List.mem_map.mp ho
    obtain ⟨m,hm,rfl⟩ := List.mem_map.mp hq
    exact duplicate_reported hl hm
  have hinherited : ∀ o∈ownerships r links, ∀ p∈o.parent,
      (∀ q∈ownerships r links, q.resource=p → q.clientId≠o.clientId) →
        ∃ i∈(evaluateOwnershipIntegrity r links).issues, i.Between o.resource p ∧
          i.code=if ∃ q∈ownerships r links, q.resource=p then .INHERITED_OWNER_MISMATCH
            else .INHERITED_OWNER_MISSING_PARENT := by
    intro o ho p hp hnone
    obtain ⟨l,hl,rfl⟩ := List.mem_map.mp ho
    exact inherited_reported hl hp hnone
  have hholds : ∀ i∈(evaluateOwnershipIntegrity r links).issues, i.Holds (ownerships r links) := by
    intro i hi
    cases mem_issues.mp hi with
    | inl hgroup =>
      obtain ⟨g,hg,h⟩ := hgroup
      exact duplicate_holds hg h
    | inr hlink =>
      obtain ⟨l,hl,h⟩ := hlink
      exact inherited_holds hl h
  refine ⟨⟨fun hnil => ⟨?_,?_⟩,fun hintact => ?_⟩,hduplicate,hinherited,hholds⟩
  · intro o ho q hq hresource
    by_contra hne
    obtain ⟨i,hi,-⟩ := hduplicate o ho q hq hresource hne
    rw [hnil] at hi
    cases hi
  · intro o ho p hp
    by_contra hnone
    have hother : ∀ q∈ownerships r links, q.resource=p → q.clientId≠o.clientId :=
      fun q hq hresource hsame => hnone ⟨q,hq,hresource,hsame⟩
    obtain ⟨i,hi,-⟩ := hinherited o ho p hp hother
    rw [hnil] at hi
    cases hi
  · refine List.eq_nil_iff_forall_not_mem.mpr fun i hi => hintact.not_holds (hholds i hi)

def demoLinks : List OwnershipLinkForIntegrity :=
  [⟨some "1".toList,"acme".toList,"PALLET".toList,"7".toList,none⟩,
    ⟨some "2".toList,"initech".toList,"pallet".toList,"7".toList,none⟩]

def demoRuntime : Runtime where
  env :=
    { runtime := ⟨fun s => s.map Char.toUpper,fun _ => none⟩
      shortHash := id
      localeCompare := fun a b => decide (a≤b)
      collates := fun a b => a=b
      readsUuid := fun _ => false }
  toUpperCase_ascii := fun _ _ => rfl

/-- Two spellings of a type are one type, so that a resource which has one owner under each is
reported. -/
theorem spellings_reported :
    ¬((evaluateOwnershipIntegrity demoRuntime demoLinks).issues=[] ↔
      Intact (demoLinks.map (OwnershipLinkForIntegrity.written demoRuntime))) := by
  have hfound : (evaluateOwnershipIntegrity demoRuntime demoLinks).issues.isEmpty=false := by
    decide +kernel
  have hparents : (demoLinks.map (OwnershipLinkForIntegrity.written demoRuntime)).all
      (fun o => o.parent.isNone)=true := by
    decide +kernel
  have hintact : Intact (demoLinks.map (OwnershipLinkForIntegrity.written demoRuntime)) := by
    constructor
    · decide
    · intro o ho p hp
      have hnone := List.all_eq_true.mp hparents o ho
      rw [Option.isNone_iff_eq_none.mp hnone] at hp
      cases hp
  intro h
  rw [h.mpr hintact] at hfound
  cases hfound

end AardvarkWms.OwnershipIntegrity
