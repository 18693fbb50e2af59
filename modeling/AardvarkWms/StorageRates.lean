import AardvarkWms.BillingWrites

/-! Storage days and the rate that they are charged at. -/
namespace AardvarkWms.Billing.StorageRates

open Messaging (Str)
open OrderUpdates (Uuid)

/-- A line of a rate card, with the terms that the storage billing does not read. -/
structure RateCardLine extends ClientRate where
  minChargeMinor : Option ℕ
  vatRateBps : Option ℕ
  deriving DecidableEq

/-- What a quantity is charged. -/
structure Charge where
  unitPriceMinor : ℕ
  amountMinor : ℕ
  vatRateBps : Option ℕ
  netAmountMinor : ℕ
  taxAmountMinor : ℕ
  grossAmountMinor : ℕ
  deriving DecidableEq

def Charge.of (unitPriceMinor amountMinor : ℕ) (vatRateBps : Option ℕ) : Charge :=
  let (rate,net,tax,gross) := calculateTaxAmounts amountMinor vatRateBps
  ⟨unitPriceMinor,amountMinor,rate,net,tax,gross⟩

def applyRateToBillingQuantity (quantity : ℕ) (rate : RateCardLine) : Charge :=
  .of rate.unitPriceMinor (max (quantity*rate.unitPriceMinor) (rate.minChargeMinor.getD 0))
    rate.vatRateBps

/-- The charge of a storage draft: its tax is worked out without a rate. -/
def draftCharge (u : EventUpsert) : Charge := .of u.unitPriceMinor u.amountMinor none

/-- `Math.ceil` of a difference in days. -/
def ceilDays (milliseconds : ℤ) : ℤ := -(-milliseconds/MS_PER_DAY)

def calculateChargeableDays (periodStart periodEnd ownedFrom : ℤ) (ownedTo : Option ℤ) : ℤ :=
  let periodStart := startOfUtcDay periodStart
  let periodEnd := startOfUtcDay periodEnd
  let ownedFrom := startOfUtcDay ownedFrom
  let ownedTo := ownedTo.elim periodEnd startOfUtcDay
  let first := if periodStart < ownedFrom then ownedFrom else periodStart
  let last := if ownedTo < periodEnd then ownedTo else periodEnd
  if last≤first then 0 else ceilDays (last-first)

/-- The days of a period. -/
def periodDays (periodStart periodEnd : ℤ) : ℤ :=
  ceilDays (startOfUtcDay periodEnd-startOfUtcDay periodStart)

/-- The day that a day's start is the start of. -/
def dayIndex (t : ℤ) : ℤ := startOfUtcDay t/MS_PER_DAY

theorem startOfUtcDay_eq (t : ℤ) : startOfUtcDay t=86400000*dayIndex t := by
  have hdvd : MS_PER_DAY∣startOfUtcDay t := by
    unfold startOfUtcDay
    dsimp only
    split
    · exact Int.dvd_mul_left _ _
    · exact Int.dvd_mul_left _ _
  exact (Int.mul_ediv_cancel' hdvd).symm

theorem ceilDays_mul (n : ℤ) : ceilDays (86400000*n)=n := by
  unfold ceilDays MS_PER_DAY
  omega

theorem calculateChargeableDays_eq (periodStart periodEnd ownedFrom : ℤ) (ownedTo : Option ℤ) :
    calculateChargeableDays periodStart periodEnd ownedFrom ownedTo=
      max 0 (min (ownedTo.elim (dayIndex periodEnd) dayIndex) (dayIndex periodEnd)-
        max (dayIndex ownedFrom) (dayIndex periodStart)) := by
  have hto : ownedTo.elim (86400000*dayIndex periodEnd) startOfUtcDay=
      86400000*ownedTo.elim (dayIndex periodEnd) dayIndex := by
    cases ownedTo with
    | none => rfl
    | some t => exact startOfUtcDay_eq t
  unfold calculateChargeableDays
  simp only [startOfUtcDay_eq periodStart,startOfUtcDay_eq periodEnd,startOfUtcDay_eq ownedFrom,hto]
  generalize ownedTo.elim (dayIndex periodEnd) dayIndex=last
  split <;> split <;> split <;> try rw [← Int.mul_sub,ceilDays_mul]
  all_goals omega

theorem periodDays_eq (periodStart periodEnd : ℤ) :
    periodDays periodStart periodEnd=dayIndex periodEnd-dayIndex periodStart := by
  unfold periodDays
  rw [startOfUtcDay_eq,startOfUtcDay_eq,← Int.mul_sub,ceilDays_mul]

theorem calculateChargeableDays_of_quant {periodStart periodEnd : ℤ} (ownedFrom : ℤ)
    (hstart : startOfUtcDay periodStart=periodStart) (hend : startOfUtcDay periodEnd=periodEnd) :
    calculateChargeableDays periodStart periodEnd ownedFrom none=
      Billing.calculateChargeableDays periodStart periodEnd ownedFrom := by
  have hs := startOfUtcDay_eq periodStart
  have he := startOfUtcDay_eq periodEnd
  have ho := startOfUtcDay_eq ownedFrom
  rw [hstart] at hs
  rw [hend] at he
  rw [calculateChargeableDays_eq]
  unfold Billing.calculateChargeableDays MS_PER_DAY
  simp only [Option.elim_none]
  omega

/-- Days are counted once: over adjacent periods they add up, and a period has at most its own. -/
structure DaysAdd : Prop where
  adjacent : ∀ a b c ownedFrom ownedTo, startOfUtcDay a < startOfUtcDay b →
    startOfUtcDay b < startOfUtcDay c → calculateChargeableDays a c ownedFrom ownedTo=
      calculateChargeableDays a b ownedFrom ownedTo+calculateChargeableDays b c ownedFrom ownedTo
  bounded : ∀ a b ownedFrom ownedTo, startOfUtcDay a < startOfUtcDay b →
    0≤calculateChargeableDays a b ownedFrom ownedTo ∧
      calculateChargeableDays a b ownedFrom ownedTo≤periodDays a b

/-- The chargeable quantity of a quant. -/
def chargeableUnits (period : ℤ × ℤ) (quant : StockQuant) : ℕ :=
  quant.quantity*Billing.calculateChargeableDays period.1 period.2 quant.createdAt

/-- What is stored for the quants is what the rate says, and nothing is left out that costs. -/
structure HonoursRate (rate : RateCardLine) (period : ℤ × ℤ) (quants : List StockQuant)
    (us : List EventUpsert) : Prop where
  stored : ∀ u∈us, draftCharge u=applyRateToBillingQuantity u.quantity rate
  charged : ∀ quant∈quants, 0 < chargeableUnits period quant →
    (∃ u∈us, u.resourceId=some quant.id.val ∧ u.quantity=chargeableUnits period quant) ∨
      (applyRateToBillingQuantity (chargeableUnits period quant) rate).grossAmountMinor=0

/-- The rate has no minimum that a quant stays below, and no tax unless it has no price either. -/
def PriceOnly (rate : RateCardLine) (period : ℤ × ℤ) (quants : List StockQuant) : Prop :=
  ∀ quant∈quants, 0 < chargeableUnits period quant →
    rate.minChargeMinor.getD 0≤chargeableUnits period quant*rate.unitPriceMinor ∧
      (rate.unitPriceMinor=0 ∨ rate.vatRateBps=none)

section Main
variable {env : Env}

theorem days_add : DaysAdd := by
  constructor
  · intro a b c ownedFrom ownedTo hab hbc
    rw [startOfUtcDay_eq a,startOfUtcDay_eq b] at hab
    rw [startOfUtcDay_eq b,startOfUtcDay_eq c] at hbc
    rw [calculateChargeableDays_eq,calculateChargeableDays_eq,calculateChargeableDays_eq]
    cases ownedTo with
    | none =>
      simp only [Option.elim_none]
      omega
    | some t =>
      simp only [Option.elim_some]
      omega
  · intro a b ownedFrom ownedTo hab
    rw [startOfUtcDay_eq a,startOfUtcDay_eq b] at hab
    rw [calculateChargeableDays_eq,periodDays_eq]
    omega

theorem Charge.of_eq_iff (price amount amount' : ℕ) (vat : Option ℕ) :
    Charge.of price amount none=Charge.of price amount' vat ↔ amount=amount' ∧ vat=none := by
  constructor
  · intro h
    have hamount : (Charge.of price amount none).amountMinor=(Charge.of price amount' vat).amountMinor := by
      rw [h]
    have hvat : (Charge.of price amount none).vatRateBps=(Charge.of price amount' vat).vatRateBps := by
      rw [h]
    exact ⟨hamount,Option.map_eq_none_iff.mp hvat.symm⟩
  · rintro ⟨rfl,rfl⟩
    rfl

theorem Charge.gross_eq_zero (price amount : ℕ) (vat : Option ℕ) :
    (Charge.of price amount vat).grossAmountMinor=0 ↔ amount=0 := by
  unfold Charge.of calculateTaxAmounts
  constructor
  · intro h
    exact Nat.eq_zero_of_add_eq_zero_right h
  · intro h
    cases vat <;> simp [h]

variable {db db' : BillingDb} {now : ℤ} {gen : ℕ → Uuid} {ref client : Str}
  {dto : GenerateStorageBillingDto} {w : Uuid} {c : WmsClient} {period : ℤ × ℤ}
  {quants : List StockQuant} {us : List EventUpsert} {rate : RateCardLine} {currency : Str}

theorem upserts_of_rate
    (hrate : resolveActiveClientRate env db w c.id "STORAGE_DAY".toList period.1=
      some (rate.unitPriceMinor,currency))
    (h : Billing.advance env now gen db
      ⟨ref,.generateStorageDayBilling client dto,.rate w c period quants⟩=.ok (db',.upserts us)) :
    us=buildStorageDayBillingEvents env c w (normalizeCurrency env dto.currency currency)
      period.1 period.2 rate.unitPriceMinor quants := by
  simp only [Billing.advance,hrate,toStorageUpserts] at h
  cases hdry : dto.dryRun with
  | true =>
    rw [hdry] at h
    cases h
  | false =>
    rw [hdry] at h
    cases h
    rfl

theorem mem_storage_events {u : EventUpsert} :
    u∈buildStorageDayBillingEvents env c w currency period.1 period.2 rate.unitPriceMinor quants ↔
      ∃ quant∈quants, 0 < chargeableUnits period quant ∧ 0 < rate.unitPriceMinor ∧
        u=storageEvent env c w currency period.1 period.2 rate.unitPriceMinor quant := by
  unfold buildStorageDayBillingEvents
  rw [List.mem_filter]
  constructor
  · intro ⟨hmem,hcosts⟩
    obtain ⟨quant,hquant,rfl⟩ := List.mem_map.mp hmem
    obtain ⟨hunits,hamount⟩ := (Bool.and_eq_true _ _).mp hcosts
    have hunits' := of_decide_eq_true hunits
    have hamount' : 0 < chargeableUnits period quant*rate.unitPriceMinor := of_decide_eq_true hamount
    exact ⟨quant,hquant,hunits',Nat.pos_of_mul_pos_left hamount',rfl⟩
  · rintro ⟨quant,hquant,hunits,hprice,rfl⟩
    refine ⟨List.mem_map_of_mem hquant,(Bool.and_eq_true _ _).mpr ⟨decide_eq_true hunits,?_⟩⟩
    exact decide_eq_true (Nat.mul_pos hunits hprice)

/-- The storage billing of a rate card, and the days that it counts. -/
theorem storage_honours_rate_iff
    (hrate : resolveActiveClientRate env db w c.id "STORAGE_DAY".toList period.1=
      some (rate.unitPriceMinor,currency))
    (h : Billing.advance env now gen db
      ⟨ref,.generateStorageDayBilling client dto,.rate w c period quants⟩=.ok (db',.upserts us)) :
    (HonoursRate rate period quants us ∧ DaysAdd) ↔ PriceOnly rate period quants := by
  have hus := upserts_of_rate hrate h
  subst hus
  constructor
  · intro ⟨⟨hstored,hcharged⟩,_⟩ quant hquant hunits
    by_cases hprice : rate.unitPriceMinor=0
    · -- nothing is stored at no price, so the minimum is nothing too
      cases hcharged quant hquant hunits with
      | inl hsome =>
        obtain ⟨u,hu,_⟩ := hsome
        obtain ⟨_,_,_,hpos,_⟩ := mem_storage_events.mp hu
        omega
      | inr hzero =>
        have hmax := (Charge.gross_eq_zero _ _ _).mp hzero
        exact ⟨by omega,.inl hprice⟩
    · have hmem : storageEvent env c w (normalizeCurrency env dto.currency currency) period.1 period.2
          rate.unitPriceMinor quant∈buildStorageDayBillingEvents env c w
            (normalizeCurrency env dto.currency currency) period.1 period.2 rate.unitPriceMinor quants :=
        mem_storage_events.mpr ⟨quant,hquant,hunits,Nat.pos_of_ne_zero hprice,rfl⟩
      obtain ⟨hamount,hvat⟩ := (Charge.of_eq_iff _ _ _ _).mp (hstored _ hmem)
      have hmin : chargeableUnits period quant*rate.unitPriceMinor=
          max (chargeableUnits period quant*rate.unitPriceMinor) (rate.minChargeMinor.getD 0) := hamount
      exact ⟨by omega,.inr hvat⟩
  · intro hcond
    refine ⟨⟨?_,?_⟩,days_add⟩
    · intro u hu
      obtain ⟨quant,hquant,hunits,hprice,rfl⟩ := mem_storage_events.mp hu
      obtain ⟨hmin,hvat⟩ := hcond quant hquant hunits
      refine (Charge.of_eq_iff _ _ _ _).mpr ⟨(Nat.max_eq_left hmin).symm,?_⟩
      exact hvat.resolve_left (Nat.pos_iff_ne_zero.mp hprice)
    · intro quant hquant hunits
      obtain ⟨hmin,_⟩ := hcond quant hquant hunits
      by_cases hprice : rate.unitPriceMinor=0
      · refine .inr ((Charge.gross_eq_zero _ _ _).mpr ?_)
        rw [hprice,Nat.mul_zero] at hmin ⊢
        omega
      · exact .inl ⟨_,mem_storage_events.mpr ⟨quant,hquant,hunits,Nat.pos_of_ne_zero hprice,rfl⟩,rfl,rfl⟩

/-- A card with one line. -/
def cardOf (rate : RateCardLine) : ClientRateCard :=
  ⟨OrderUpdates.mainWarehouse.id,OrderUpdates.someUuid '2' OrderUpdates.isHex_two,true,0,none,
    "EUR".toList,0,[rate.toClientRate]⟩

def rateDb (rate : RateCardLine) : BillingDb :=
  {(System.initial demoPlaces).db with cards := [cardOf rate]}

def rateClient : WmsClient := ⟨OrderUpdates.someUuid '2' OrderUpdates.isHex_two,"ACME".toList,"EUR".toList⟩

def januaryDto : GenerateStorageBillingDto where
  periodStart := "2026-01-01".toList
  periodEnd := "2026-02-01".toList

/-- Ten pieces since before the period. -/
def tenPieces : StockQuant :=
  ⟨OrderUpdates.someUuid '7' OrderUpdates.isHex_seven,OrderUpdates.mainWarehouse.id,"SKU".toList,10,0⟩

def january : ℤ × ℤ := (1767225600000,1769904000000)

def demoUpserts (rate : RateCardLine) : List EventUpsert :=
  buildStorageDayBillingEvents demoEnv rateClient OrderUpdates.mainWarehouse.id "EUR".toList january.1
    january.2 rate.unitPriceMinor [tenPieces]

/-- Two cents for a piece and day. -/
def plainRate : RateCardLine := ⟨⟨"STORAGE_DAY".toList,"EA".toList,2⟩,none,none⟩

/-- The same price, but at least 100.00, and a tax of 21 %. -/
def fullRate : RateCardLine := ⟨⟨"STORAGE_DAY".toList,"EA".toList,2⟩,some 10000,some 2100⟩

theorem storage_rate_demo :
    (HonoursRate plainRate january [tenPieces] (demoUpserts plainRate) ∧ DaysAdd) ↔
      PriceOnly plainRate january [tenPieces] := by
  have hrate : resolveActiveClientRate demoEnv (rateDb plainRate) OrderUpdates.mainWarehouse.id
      rateClient.id "STORAGE_DAY".toList january.1=some (plainRate.unitPriceMinor,"EUR".toList) := by
    decide +kernel
  have hadvance : Billing.advance demoEnv 0 (fun _ => OrderUpdates.someUuid '7' OrderUpdates.isHex_seven)
      (rateDb plainRate) ⟨"MAIN".toList,.generateStorageDayBilling "ACME".toList januaryDto,
        .rate OrderUpdates.mainWarehouse.id rateClient january [tenPieces]⟩=
      .ok (rateDb plainRate,.upserts (demoUpserts plainRate)) := rfl
  exact storage_honours_rate_iff hrate hadvance

/-- 310 piece days of January at two cents are 6.20, not the minimum of 100.00 and its tax. -/
theorem rate_terms_ignored : ¬∀ (env : Env) (db db' : BillingDb) (now : ℤ) (gen : ℕ → Uuid)
    (ref client : Str) (dto : GenerateStorageBillingDto) (w : Uuid) (c : WmsClient) (period : ℤ × ℤ)
    (quants : List StockQuant) (us : List EventUpsert) (rate : RateCardLine) (currency : Str),
    resolveActiveClientRate env db w c.id "STORAGE_DAY".toList period.1=
      some (rate.unitPriceMinor,currency) →
    Billing.advance env now gen db
      ⟨ref,.generateStorageDayBilling client dto,.rate w c period quants⟩=.ok (db',.upserts us) →
    HonoursRate rate period quants us ∧ DaysAdd := by
  intro h
  have hhonours := (h demoEnv (rateDb fullRate) (rateDb fullRate) 0
    (fun _ => OrderUpdates.someUuid '7' OrderUpdates.isHex_seven) "MAIN".toList "ACME".toList januaryDto
    OrderUpdates.mainWarehouse.id rateClient january [tenPieces] (demoUpserts fullRate) fullRate
    "EUR".toList (by decide +kernel) rfl).1
  have hall : ∀ u∈demoUpserts fullRate,
      draftCharge u≠applyRateToBillingQuantity u.quantity fullRate := by decide +kernel
  have hsome : storageEvent demoEnv rateClient OrderUpdates.mainWarehouse.id "EUR".toList january.1
      january.2 2 tenPieces∈demoUpserts fullRate :=
    mem_storage_events.mpr ⟨tenPieces,List.mem_singleton_self _,by decide +kernel,by decide,rfl⟩
  exact hall _ hsome (hhonours.stored _ hsome)

end Main

end AardvarkWms.Billing.StorageRates
