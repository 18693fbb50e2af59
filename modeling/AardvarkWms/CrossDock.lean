import AardvarkWms.Filling
import AardvarkWms.Texts

/-! Cross-docking: which supplies a demand is matched with, in `enterprise-ops.helpers.ts`. -/
namespace AardvarkWms.CrossDock

open Messaging (Str)
open Filling

/-- A `Date`, which may be invalid, or its text. -/
inductive ExpiryDate
  | date (time : Option ℤ)
  | text (s : Str)
  deriving DecidableEq

structure CrossDockSupplyInput where
  inboundLineId : Str
  skuId : Str
  quantity : ℤ
  lotId : Option Str := none
  expiryDate : Option ExpiryDate := none
  deriving DecidableEq

structure CrossDockDemandInput where
  outboundLineId : Str
  skuId : Str
  quantity : ℤ
  priority : Option ℤ := none
  lotId : Option Str := none
  deriving DecidableEq

structure CrossDockOpportunity where
  inboundLineId : Str
  outboundLineId : Str
  skuId : Str
  lotId : Option Str
  quantity : ℤ
  priority : ℤ
  deriving DecidableEq

def CrossDockDemandInput.rank (d : CrossDockDemandInput) : ℤ := d.priority.getD 0

section Model
variable (newDate : Str → Option ℤ)

def parseDate : Option ExpiryDate → Option ℤ
  | none => none
  | some (.date time) => time
  | some (.text s) => if s=[] then none else newDate s

def compareExpiry (left right : Option ExpiryDate) : ℤ :=
  match parseDate newDate left, parseDate newDate right with
  | none, none => 0
  | none, some _ => 1
  | some _, none => -1
  | some l, some r => l-r

/-- A supply and its place in the input: what is left of it is kept for the place. -/
abbrev Line := CrossDockSupplyInput × ℕ

def compatible (d : CrossDockDemandInput) (s : CrossDockSupplyInput) : Bool :=
  s.skuId=d.skuId && (d.lotId.getD []=[] || s.lotId=d.lotId)

/-- The supplies that a demand is served from, the ones that expire first at the front. -/
def candidateSupplies (stock : List Line) (left : ℕ → ℤ) (d : CrossDockDemandInput) : List Line :=
  sorted (fun a b => compareExpiry newDate a.1.expiryDate b.1.expiryDate)
    (stock.filter fun e => compatible d e.1 && 0 < left e.2)

/-- A demand, and what it takes of which supplies. -/
structure Service where
  demand : CrossDockDemandInput
  picks : List (Line × ℤ)

def serve (stock : List Line) (left : ℕ → ℤ) (d : CrossDockDemandInput) : Service :=
  ⟨d,fill (fun e => left e.2) (candidateSupplies newDate stock left d) d.quantity⟩

/-- What a service takes of the supply at a place. -/
def Service.taken (v : Service) (place : ℕ) : ℤ :=
  ((v.picks.filter (·.1.2=place)).map (·.2)).sum

/-- What a service takes in all. -/
def Service.served (v : Service) : ℤ := (v.picks.map (·.2)).sum

/-- The loop over the demands. -/
def services (stock : List Line) : List CrossDockDemandInput → (ℕ → ℤ) → List Service
  | [], _ => []
  | d::ds, left =>
    let v := serve newDate stock left d
    v::services stock ds fun place => left place-v.taken place

def Service.opportunities (v : Service) : List CrossDockOpportunity :=
  v.picks.map fun pick =>
    ⟨pick.1.1.inboundLineId,v.demand.outboundLineId,v.demand.skuId,pick.1.1.lotId,pick.2,v.demand.rank⟩

/-- The supplies that have something, with their places. -/
def stockOf (supplies : List CrossDockSupplyInput) : List Line :=
  supplies.zipIdx.filter fun e => 0 < e.1.quantity

def quantityAt (supplies : List CrossDockSupplyInput) (place : ℕ) : ℤ :=
  (supplies[place]?.map (·.quantity)).getD 0

def sortedDemands (demands : List CrossDockDemandInput) : List CrossDockDemandInput :=
  sorted (fun a b => b.rank-a.rank) (demands.filter fun d => 0 < d.quantity)

def plan (supplies : List CrossDockSupplyInput) (demands : List CrossDockDemandInput) : List Service :=
  services newDate (stockOf supplies) (sortedDemands demands) (quantityAt supplies)

def detectCrossDockOpportunities (supplies : List CrossDockSupplyInput)
    (demands : List CrossDockDemandInput) : List CrossDockOpportunity :=
  (plan newDate supplies demands).flatMap Service.opportunities

end Model

/-- What all services take of the supply at a place. -/
def used (vs : List Service) (place : ℕ) : ℤ := (vs.map (·.taken place)).sum

/-- The opportunities are those of some services of the demands, and these are sound, waste nothing
and are fair. -/
structure Matched (newDate : Str → Option ℤ) (supplies : List CrossDockSupplyInput)
    (demands : List CrossDockDemandInput) (found : List CrossDockOpportunity) (vs : List Service) :
    Prop where
  opportunities : found=vs.flatMap Service.opportunities
  demands : (vs.map (·.demand)).Perm (demands.filter fun d => 0 < d.quantity)
  sound : ∀ v∈vs, ∀ pick∈v.picks, supplies[pick.1.2]?=some pick.1.1 ∧ 0 < pick.2 ∧
    pick.1.1.skuId=v.demand.skuId ∧ ∀ lot∈v.demand.lotId, lot≠[] → pick.1.1.lotId=some lot
  supply : ∀ place s, supplies[place]?=some s → 0≤used vs place ∧ used vs place ≤ max s.quantity 0
  demand : ∀ v∈vs, 0≤v.served ∧ v.served≤v.demand.quantity
  noWaste : ∀ place s, supplies[place]?=some s → ∀ v∈vs, compatible v.demand s=true →
    ¬(0 < s.quantity-used vs place ∧ 0 < v.demand.quantity-v.served)
  fair : ∀ v∈vs, ∀ w∈vs, v.demand.rank < w.demand.rank → ∀ pick∈v.picks,
    compatible w.demand pick.1.1=true → w.served=w.demand.quantity
  expiry : ∀ v∈vs,
    v.picks.Pairwise fun a b => compareExpiry newDate a.1.1.expiryDate b.1.1.expiryDate≤0
  expiresFirst : ∀ v∈vs, ∀ pick∈v.picks, ∀ place s, supplies[place]?=some s → 0 < s.quantity →
    compatible v.demand s=true → compareExpiry newDate s.expiryDate pick.1.1.expiryDate < 0 →
    used vs place=s.quantity

section Order
variable (newDate : Str → Option ℤ)

theorem consistent_compareExpiry : Consistent (compareExpiry newDate) := by
  constructor
  · intro a b
    unfold compareExpiry
    cases parseDate newDate a <;> cases parseDate newDate b <;> grind
  · intro a b c
    unfold compareExpiry
    cases parseDate newDate a <;> cases parseDate newDate b <;> cases parseDate newDate c <;> grind

theorem consistent_lines : Consistent fun a b : Line =>
    compareExpiry newDate a.1.expiryDate b.1.expiryDate :=
  (consistent_compareExpiry newDate).comp fun e : Line => e.1.expiryDate

theorem sortedDemands_pairwise (demands : List CrossDockDemandInput) :
    (sortedDemands demands).Pairwise fun a b => b.rank≤a.rank := by
  have hconsistent : Consistent fun a b : CrossDockDemandInput => b.rank-a.rank :=
    (consistent_sub CrossDockDemandInput.rank).flip
  refine (sorted_pairwise hconsistent _).imp ?_
  intro a b h
  omega

end Order

section Serve
variable {newDate : Str → Option ℤ} {stock : List Line} {remaining : ℕ → ℤ} {d : CrossDockDemandInput}

/-- The places of the stock are places of their own, and nothing is overdrawn. -/
structure Stocked (stock : List Line) (remaining : ℕ → ℤ) : Prop where
  places : (stock.map (·.2)).Nodup
  nonneg : ∀ e∈stock, 0≤remaining e.2

theorem mem_candidateSupplies {e : Line} : e∈candidateSupplies newDate stock remaining d ↔
    e∈stock ∧ compatible d e.1=true ∧ 0 < remaining e.2 := by
  unfold candidateSupplies
  rw [(sorted_perm _ _).mem_iff,List.mem_filter,Bool.and_eq_true,decide_eq_true_iff]

theorem candidates_positive : ∀ e∈candidateSupplies newDate stock remaining d, 0 < remaining e.2 :=
  fun _ he => (mem_candidateSupplies.mp he).2.2

theorem candidates_nodup (newDate : Str → Option ℤ) (d : CrossDockDemandInput)
    (h : Stocked stock remaining) :
    ((candidateSupplies newDate stock remaining d).map (·.2)).Nodup := by
  unfold candidateSupplies
  rw [((sorted_perm _ _).map _).nodup_iff]
  exact h.places.sublist (List.filter_sublist.map _)

theorem picks_first (newDate : Str → Option ℤ) (stock : List Line) (remaining : ℕ → ℤ)
    (d : CrossDockDemandInput) : (serve newDate stock remaining d).picks.map (·.1) <+:
      candidateSupplies newDate stock remaining d :=
  fill_first candidates_positive _

theorem pick_mem {pick : Line × ℤ} (hpick : pick∈(serve newDate stock remaining d).picks) :
    (pick.1∈stock ∧ compatible d pick.1.1=true) ∧ 0 < pick.2 ∧ pick.2≤remaining pick.1.2 := by
  have hmem := (picks_first newDate stock remaining d).mem (List.mem_map_of_mem hpick)
  obtain ⟨hstock,hcompatible,_⟩ := mem_candidateSupplies.mp hmem
  exact ⟨⟨hstock,hcompatible⟩,fill_amount candidates_positive _ pick hpick⟩

theorem picks_nodup (h : Stocked stock remaining) :
    ((serve newDate stock remaining d).picks.map (·.1.2)).Nodup := by
  have hplaces := (candidates_nodup newDate d h).sublist
    ((picks_first newDate stock remaining d).sublist.map (·.2))
  rwa [List.map_map] at hplaces

theorem taken_of_pick {v : Service} (hnodup : (v.picks.map (·.1.2)).Nodup) {pick : Line × ℤ}
    (hpick : pick∈v.picks) : v.taken pick.1.2=pick.2 := by
  obtain ⟨demand,picks⟩ := v
  unfold Service.taken
  dsimp only at hnodup hpick ⊢
  induction picks with
  | nil => cases hpick
  | cons p picks ih =>
    rw [List.map_cons,List.nodup_cons] at hnodup
    cases List.mem_cons.mp hpick with
    | inl hp =>
      subst hp
      have hnone : picks.filter (·.1.2=pick.1.2)=[] := by
        rw [List.filter_eq_nil_iff]
        intro q hq hsame
        exact hnodup.1 (of_decide_eq_true hsame ▸ List.mem_map_of_mem hq)
      simp [hnone]
    | inr hlater =>
      have hne : p.1.2≠pick.1.2 := fun hsame => hnodup.1 (hsame ▸ List.mem_map_of_mem hlater)
      simp only [List.filter_cons,hne,decide_false,Bool.false_eq_true,if_false]
      exact ih hnodup.2 hlater

theorem taken_of_none {v : Service} {place : ℕ} (h : ∀ pick∈v.picks, pick.1.2≠place) :
    v.taken place=0 := by
  have hnone : v.picks.filter (·.1.2=place)=[] := by
    rw [List.filter_eq_nil_iff]
    exact fun pick hpick hsame => h pick hpick (of_decide_eq_true hsame)
  simp [Service.taken,hnone]

theorem taken_bounds (newDate : Str → Option ℤ) (d : CrossDockDemandInput) (h : Stocked stock remaining)
    {e : Line} (he : e∈stock) :
    0≤(serve newDate stock remaining d).taken e.2 ∧
      (serve newDate stock remaining d).taken e.2≤remaining e.2 := by
  by_cases hpicked : ∃ pick∈(serve newDate stock remaining d).picks, pick.1.2=e.2
  · obtain ⟨pick,hpick,hplace⟩ := hpicked
    obtain ⟨_,hpos,hle⟩ := pick_mem hpick
    rw [← hplace,taken_of_pick (picks_nodup h) hpick]
    omega
  · push Not at hpicked
    rw [taken_of_none hpicked]
    exact ⟨le_rfl,h.nonneg e he⟩

theorem taken_outside {place : ℕ} (h : ∀ e∈stock, e.2≠place) :
    (serve newDate stock remaining d).taken place=0 :=
  taken_of_none fun _ hpick => h _ (pick_mem hpick).1.1

theorem served_bounds (newDate : Str → Option ℤ) (stock : List Line) (remaining : ℕ → ℤ)
    (hd : 0 < d.quantity) : 0≤(serve newDate stock remaining d).served ∧
    (serve newDate stock remaining d).served≤d.quantity := by
  have hsum : (serve newDate stock remaining d).served=
      min d.quantity ((candidateSupplies newDate stock remaining d).map fun e => remaining e.2).sum :=
    fill_sum candidates_positive hd.le
  have hnonneg : 0≤((candidateSupplies newDate stock remaining d).map fun e => remaining e.2).sum :=
    available_sum_nonneg candidates_positive
  omega

theorem taken_all (h : Stocked stock remaining) {e : Line}
    (hpick : (e,remaining e.2)∈(serve newDate stock remaining d).picks) :
    (serve newDate stock remaining d).taken e.2=remaining e.2 :=
  taken_of_pick (picks_nodup h) hpick

theorem served_or_taken (h : Stocked stock remaining) (hd : 0 < d.quantity) {e : Line} (he : e∈stock)
    (hcompatible : compatible d e.1=true) :
    (serve newDate stock remaining d).served=d.quantity ∨
      (serve newDate stock remaining d).taken e.2=remaining e.2 := by
  by_cases hserved : (serve newDate stock remaining d).served=d.quantity
  · exact .inl hserved
  · have hless : (serve newDate stock remaining d).served < d.quantity := by
      have hbounds := served_bounds newDate stock remaining hd
      omega
    refine .inr ?_
    by_cases hleft : 0 < remaining e.2
    · exact taken_all h (fill_all candidates_positive hd.le hless e
        (mem_candidateSupplies.mpr ⟨he,hcompatible,hleft⟩))
    · have hbounds := taken_bounds newDate d h he
      omega

theorem picks_sorted (newDate : Str → Option ℤ) (stock : List Line) (remaining : ℕ → ℤ)
    (d : CrossDockDemandInput) : (serve newDate stock remaining d).picks.Pairwise fun a b =>
      compareExpiry newDate a.1.1.expiryDate b.1.1.expiryDate≤0 := by
  have hsorted := (sorted_pairwise (consistent_lines newDate) (stock.filter fun e =>
    compatible d e.1 && 0 < remaining e.2)).sublist (picks_first newDate stock remaining d).sublist
  exact List.pairwise_map.mp hsorted

theorem taken_before (h : Stocked stock remaining) {pick : Line × ℤ}
    (hpick : pick∈(serve newDate stock remaining d).picks) {e : Line} (he : e∈stock)
    (hcompatible : compatible d e.1=true)
    (hbefore : compareExpiry newDate e.1.expiryDate pick.1.1.expiryDate < 0) :
    (serve newDate stock remaining d).taken e.2=remaining e.2 := by
  by_cases hleft : 0 < remaining e.2
  · have hcandidate : e∈candidateSupplies newDate stock remaining d :=
      mem_candidateSupplies.mpr ⟨he,hcompatible,hleft⟩
    have hpicked := (picks_first newDate stock remaining d).mem (List.mem_map_of_mem hpick)
    obtain ⟨pre,post,hsplit⟩ := List.append_of_mem hpicked
    have hpre : e∈pre := by
      have hsorted : (candidateSupplies newDate stock remaining d).Pairwise fun a b =>
          compareExpiry newDate a.1.expiryDate b.1.expiryDate≤0 :=
        sorted_pairwise (consistent_lines newDate) _
      rw [hsplit] at hcandidate hsorted
      cases List.mem_append.mp hcandidate with
      | inl hpre => exact hpre
      | inr hrest =>
        have hlater := (List.pairwise_append.mp hsorted).2.1
        have hswap := ((consistent_compareExpiry newDate).swap pick.1.1.expiryDate e.1.expiryDate).mpr
          hbefore
        cases List.mem_cons.mp hrest with
        | inl hsame =>
          rw [hsame] at hbefore hswap
          omega
        | inr hpost =>
          have hle := List.rel_of_pairwise_cons hlater hpost
          omega
    have hnodup := (candidates_nodup newDate d h).of_map
    exact taken_all h (fill_before candidates_positive hnodup hsplit hpick e hpre)
  · have hbounds := taken_bounds newDate d h he
    omega

end Serve

section Services
variable {newDate : Str → Option ℤ} {stock : List Line} {remaining : ℕ → ℤ}
  {ds : List CrossDockDemandInput}

theorem Stocked.after (h : Stocked stock remaining) (newDate : Str → Option ℤ)
    (d : CrossDockDemandInput) :
    Stocked stock fun place => remaining place-(serve newDate stock remaining d).taken place := by
  refine ⟨h.places,fun e he => ?_⟩
  have hbounds := taken_bounds newDate d h he
  omega

theorem used_cons (v : Service) (vs : List Service) (place : ℕ) :
    used (v::vs) place=v.taken place+used vs place := rfl

theorem used_bounds (newDate : Str → Option ℤ) (ds : List CrossDockDemandInput)
    (h : Stocked stock remaining) {e : Line} (he : e∈stock) :
    0≤used (services newDate stock ds remaining) e.2 ∧
      used (services newDate stock ds remaining) e.2≤remaining e.2 := by
  induction ds generalizing remaining with
  | nil => exact ⟨le_rfl,h.nonneg e he⟩
  | cons d ds ih =>
    have hfirst := taken_bounds newDate d h he
    have hrest := ih (h.after newDate d)
    unfold services
    rw [used_cons]
    omega

theorem used_outside {place : ℕ} (h : ∀ e∈stock, e.2≠place) :
    used (services newDate stock ds remaining) place=0 := by
  induction ds generalizing remaining with
  | nil => rfl
  | cons d ds ih =>
    unfold services
    rw [used_cons,taken_outside h,ih,zero_add]

theorem services_demands : (services newDate stock ds remaining).map (·.demand)=ds := by
  induction ds generalizing remaining with
  | nil => rfl
  | cons d ds ih =>
    unfold services
    rw [List.map_cons,ih]
    rfl

/-- A service takes part in the loop with what was left when its turn came: what it leaves of a
supply when it has used it up stays used up. -/
theorem service_turn (h : Stocked stock remaining) {v : Service}
    (hv : v∈services newDate stock ds remaining) : ∃ turn : ℕ → ℤ, Stocked stock turn ∧
      v=serve newDate stock turn v.demand ∧ v.demand∈ds ∧ (∀ e∈stock, turn e.2≤remaining e.2) ∧
      ∀ e∈stock, v.taken e.2=turn e.2 →
        used (services newDate stock ds remaining) e.2=remaining e.2 := by
  induction ds generalizing remaining with
  | nil => cases hv
  | cons d ds ih =>
    unfold services at hv ⊢
    cases List.mem_cons.mp hv with
    | inl hfirst =>
      refine ⟨remaining,h,?_,?_,fun _ _ => le_rfl,fun e he htaken => ?_⟩
      · rw [hfirst]
        rfl
      · rw [hfirst]
        exact List.mem_cons_self
      · have hrest := used_bounds newDate ds (h.after newDate d) he
        rw [used_cons]
        rw [hfirst] at htaken
        omega
    | inr hlater =>
      obtain ⟨turn,hturn,hserve,hmem,hle,hused⟩ := ih (h.after newDate d) hlater
      refine ⟨turn,hturn,hserve,List.mem_cons_of_mem _ hmem,fun e he => ?_,fun e he htaken => ?_⟩
      · have hbounds := taken_bounds newDate d h he
        have hturnle := hle e he
        omega
      · have hrest := hused e he htaken
        rw [used_cons]
        omega

theorem services_fair (h : Stocked stock remaining) (hds : ∀ d∈ds, 0 < d.quantity) :
    (services newDate stock ds remaining).Pairwise fun w v => ∀ pick∈v.picks,
      compatible w.demand pick.1.1=true → w.served=w.demand.quantity := by
  induction ds generalizing remaining with
  | nil => exact List.Pairwise.nil
  | cons d ds ih =>
    unfold services
    refine List.pairwise_cons.mpr ⟨?_,ih (h.after newDate d) fun e he => hds e (List.mem_cons_of_mem _ he)⟩
    intro v hv pick hpick hcompatible
    obtain ⟨turn,_,hserve,_,hle,_⟩ := service_turn (h.after newDate d) hv
    rw [hserve] at hpick
    obtain ⟨⟨hstock,_⟩,hpos,hleft⟩ := pick_mem hpick
    have hturn := hle pick.1 hstock
    cases served_or_taken h (hds d List.mem_cons_self) hstock hcompatible with
    | inl hserved => exact hserved
    | inr htaken => omega

end Services

theorem mem_stockOf {supplies : List CrossDockSupplyInput} {e : Line} :
    e∈stockOf supplies ↔ supplies[e.2]?=some e.1 ∧ 0 < e.1.quantity := by
  unfold stockOf
  rw [List.mem_filter,List.mk_mem_zipIdx_iff_getElem?,decide_eq_true_iff]

theorem quantityAt_eq {supplies : List CrossDockSupplyInput} {place : ℕ} {s : CrossDockSupplyInput}
    (h : supplies[place]?=some s) : quantityAt supplies place=s.quantity := by
  unfold quantityAt
  rw [h]
  rfl

theorem stocked_stockOf (supplies : List CrossDockSupplyInput) :
    Stocked (stockOf supplies) (quantityAt supplies) := by
  constructor
  · refine List.Nodup.sublist (List.filter_sublist.map _) ?_
    rw [List.zipIdx_map_snd]
    exact List.nodup_range'
  · intro e he
    obtain ⟨hplace,hpos⟩ := mem_stockOf.mp he
    rw [quantityAt_eq hplace]
    exact hpos.le

section Plan
variable {newDate : Str → Option ℤ} {supplies : List CrossDockSupplyInput}
  {demands : List CrossDockDemandInput}

theorem sortedDemands_perm (demands : List CrossDockDemandInput) :
    (sortedDemands demands).Perm (demands.filter fun d => 0 < d.quantity) := sorted_perm _ _

theorem sortedDemands_positive {d : CrossDockDemandInput} (h : d∈sortedDemands demands) :
    0 < d.quantity :=
  of_decide_eq_true (List.mem_filter.mp ((sortedDemands_perm demands).mem_iff.mp h)).2

theorem plan_demands : (plan newDate supplies demands).map (·.demand)=sortedDemands demands :=
  services_demands

theorem plan_turn {v : Service} (hv : v∈plan newDate supplies demands) : ∃ turn : ℕ → ℤ,
    Stocked (stockOf supplies) turn ∧ v=serve newDate (stockOf supplies) turn v.demand ∧
      0 < v.demand.quantity ∧ ∀ place s, (s,place)∈stockOf supplies → v.taken place=turn place →
        used (plan newDate supplies demands) place=s.quantity := by
  obtain ⟨turn,hturn,hserve,hmem,_,hused⟩ := service_turn (stocked_stockOf supplies) hv
  refine ⟨turn,hturn,hserve,sortedDemands_positive hmem,fun place s hstock htaken => ?_⟩
  rw [← quantityAt_eq (mem_stockOf.mp hstock).1]
  exact hused (s,place) hstock htaken

theorem plan_sound {v : Service} (hv : v∈plan newDate supplies demands) {pick : Line × ℤ}
    (hpick : pick∈v.picks) : supplies[pick.1.2]?=some pick.1.1 ∧ 0 < pick.2 ∧
      pick.1.1.skuId=v.demand.skuId ∧ ∀ lot∈v.demand.lotId, lot≠[] → pick.1.1.lotId=some lot := by
  obtain ⟨turn,_,hserve,_⟩ := plan_turn hv
  rw [hserve] at hpick
  obtain ⟨⟨hstock,hcompatible⟩,hpos,_⟩ := pick_mem hpick
  obtain ⟨hsku,hlot⟩ := (Bool.and_eq_true _ _).mp hcompatible
  refine ⟨(mem_stockOf.mp hstock).1,hpos,of_decide_eq_true hsku,fun lot hsome hne => ?_⟩
  rw [Option.mem_def] at hsome
  rw [hsome] at hlot
  simpa [hne] using hlot

theorem plan_supply {place : ℕ} {s : CrossDockSupplyInput} (hplace : supplies[place]?=some s) :
    0≤used (plan newDate supplies demands) place ∧
      used (plan newDate supplies demands) place ≤ max s.quantity 0 := by
  by_cases hpos : 0 < s.quantity
  · have hstock : (s,place)∈stockOf supplies := mem_stockOf.mpr ⟨hplace,hpos⟩
    have hbounds := used_bounds newDate (sortedDemands demands) (stocked_stockOf supplies) hstock
    rw [quantityAt_eq hplace] at hbounds
    exact ⟨hbounds.1,hbounds.2.trans (le_max_left _ _)⟩
  · have hzero : used (plan newDate supplies demands) place=0 := by
      refine used_outside fun e he hsame => ?_
      obtain ⟨hfound,hquantity⟩ := mem_stockOf.mp he
      rw [hsame,hplace] at hfound
      exact hpos (Option.some.inj hfound ▸ hquantity)
    rw [hzero]
    exact ⟨le_rfl,le_max_right _ _⟩

theorem plan_demand {v : Service} (hv : v∈plan newDate supplies demands) :
    0≤v.served ∧ v.served≤v.demand.quantity := by
  obtain ⟨turn,_,hserve,hpos,_⟩ := plan_turn hv
  have hbounds := served_bounds newDate (stockOf supplies) turn hpos
  rwa [← hserve] at hbounds

theorem plan_noWaste {place : ℕ} {s : CrossDockSupplyInput} (hplace : supplies[place]?=some s)
    {v : Service} (hv : v∈plan newDate supplies demands) (hcompatible : compatible v.demand s=true) :
    ¬(0 < s.quantity-used (plan newDate supplies demands) place ∧
      0 < v.demand.quantity-v.served) := by
  obtain ⟨turn,hturn,hserve,hpos,hused⟩ := plan_turn hv
  have hsupply : 0≤used (plan newDate supplies demands) place := (plan_supply hplace).1
  intro ⟨hleft,hlacks⟩
  have hquantity : 0 < s.quantity := by omega
  have hstock : (s,place)∈stockOf supplies := mem_stockOf.mpr ⟨hplace,hquantity⟩
  have hcases : (serve newDate (stockOf supplies) turn v.demand).served=v.demand.quantity ∨
      (serve newDate (stockOf supplies) turn v.demand).taken place=turn place :=
    served_or_taken hturn hpos hstock hcompatible
  rw [← hserve] at hcases
  cases hcases with
  | inl hserved => omega
  | inr htaken =>
    have hall := hused place s hstock htaken
    omega

theorem plan_fair {v w : Service} (hv : v∈plan newDate supplies demands)
    (hw : w∈plan newDate supplies demands) (hrank : v.demand.rank < w.demand.rank)
    {pick : Line × ℤ} (hpick : pick∈v.picks) (hcompatible : compatible w.demand pick.1.1=true) :
    w.served=w.demand.quantity := by
  have hsorted : ((plan newDate supplies demands).map (·.demand)).Pairwise fun a b => b.rank≤a.rank := by
    rw [plan_demands]
    exact sortedDemands_pairwise demands
  have hturns : (plan newDate supplies demands).Pairwise fun w v => ∀ pick∈v.picks,
      compatible w.demand pick.1.1=true → w.served=w.demand.quantity :=
    services_fair (stocked_stockOf supplies) fun _ => sortedDemands_positive
  have hfirst : (plan newDate supplies demands).Pairwise fun v w => v.demand.rank < w.demand.rank →
      ∀ pick∈v.picks, compatible w.demand pick.1.1=true → w.served=w.demand.quantity :=
    (List.pairwise_map.mp hsorted).imp fun hle hlt => absurd hlt (not_lt.mpr hle)
  have hlater : (plan newDate supplies demands).Pairwise (flip fun v w : Service =>
      v.demand.rank < w.demand.rank → ∀ pick∈v.picks, compatible w.demand pick.1.1=true →
        w.served=w.demand.quantity) :=
    hturns.imp fun {w v} h (_ : v.demand.rank < w.demand.rank) => h
  exact List.Pairwise.forall_of_forall_of_flip (fun x _ hlt => absurd hlt (lt_irrefl _)) hfirst hlater
    hv hw hrank pick hpick hcompatible

theorem plan_expiry {v : Service} (hv : v∈plan newDate supplies demands) :
    v.picks.Pairwise fun a b => compareExpiry newDate a.1.1.expiryDate b.1.1.expiryDate≤0 := by
  obtain ⟨turn,_,hserve,_⟩ := plan_turn hv
  rw [hserve]
  exact picks_sorted newDate (stockOf supplies) turn v.demand

theorem plan_expiresFirst {v : Service} (hv : v∈plan newDate supplies demands) {pick : Line × ℤ}
    (hpick : pick∈v.picks) {place : ℕ} {s : CrossDockSupplyInput}
    (hstock : (s,place)∈stockOf supplies) (hcompatible : compatible v.demand s=true)
    (hbefore : compareExpiry newDate s.expiryDate pick.1.1.expiryDate < 0) :
    used (plan newDate supplies demands) place=s.quantity := by
  obtain ⟨turn,hturn,hserve,_,hused⟩ := plan_turn hv
  rw [hserve] at hpick
  have htaken := taken_before hturn hpick hstock hcompatible hbefore
  rw [← hserve] at htaken
  exact hused place s hstock htaken

end Plan

end AardvarkWms.CrossDock
